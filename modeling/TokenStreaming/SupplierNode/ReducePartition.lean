import TokenStreaming.Foundation.ConsecutiveGroups
import TokenStreaming.SupplierNode.PromptBounds

/-!
# Supplier node - The reduce phase

The summaries of the segments are reduced in rounds.  A round cuts the list of
summaries into groups, asks the provider for one summary of each group, and
goes on with those.  The groups keep the order of the list, and a round that
would not shorten it is refused.

Main results:

- Theorem {lit}`groupSummaries_partition`: the groups of a round are an ordered
  partition.
- Theorem {lit}`groupSummaries_single`: summaries that fit one group are one group.
- Theorem {lit}`reduce_phase_terminates`: the rounds end with an error or with one
  summary, to which every summary of a segment leads along exactly one path.
-/

namespace TokenStreaming
namespace SupplierNode
namespace ArtifactExecutor

open Domain Effects ConsecutiveGroups

/-! ## The groups of a round -/

/-- What the groups of a round are to the summaries. -/
structure OrderedPartition (maximumBytes : Nat) (summaries : List String)
    (groups : List (List String)) : Prop where
  nonempty : ∀ group ∈ groups, group ≠ []
  consecutive : groups.flatten = summaries
  fits : ∀ group ∈ groups, groupCost group ≤ maximumBytes
  fewer : 2 ≤ summaries.length → groups.length < summaries.length

theorem ne_nil_of_mem_concat {groups : List (List String)} {last : List String}
    (hgroups : ∀ group ∈ groups, group ≠ []) (hlast : last ≠ []) :
    ∀ group ∈ groups ++ [last], group ≠ [] := by
  intro group hgroup
  rcases List.mem_append.mp hgroup with hold | hnew
  · exact hgroups group hold
  · rw [List.mem_singleton.mp hnew]
    exact hlast

/-- The loop keeps the order, and completes no empty group. -/
theorem groupFrom_partition {maximumBytes currentBytes : Nat} {summaries current : List String}
    {groups result : List (List String)} (hgroups : ∀ group ∈ groups, group ≠ [])
    (h : groupFrom maximumBytes summaries groups current currentBytes = .ok result) :
    (∀ group ∈ result, group ≠ []) ∧
      result.flatten = groups.flatten ++ (current ++ summaries) := by
  induction summaries generalizing groups current currentBytes with
  | nil =>
      obtain rfl := Except.ok.inj h
      by_cases hcurrent : current.length > 0
      · rw [if_pos hcurrent]
        have hne : current ≠ [] := List.ne_nil_of_length_pos hcurrent
        refine ⟨ne_nil_of_mem_concat hgroups hne, ?_⟩
        simp
      · rw [if_neg hcurrent]
        have hnil : current = [] := List.length_eq_zero_iff.mp (by omega)
        refine ⟨hgroups, ?_⟩
        simp [hnil]
  | cons summary summaries ih =>
      unfold groupFrom at h
      dsimp only at h
      by_cases hlarge : summary.utf8ByteSize + 64 > maximumBytes
      · rw [if_pos hlarge] at h
        cases h
      · rw [if_neg hlarge] at h
        by_cases hfull : current.length > 0 ∧
            currentBytes + (summary.utf8ByteSize + 64) > maximumBytes
        · rw [if_pos hfull] at h
          have hne : current ≠ [] := List.ne_nil_of_length_pos hfull.1
          obtain ⟨hnonempty, hflatten⟩ := ih (ne_nil_of_mem_concat hgroups hne) h
          refine ⟨hnonempty, ?_⟩
          rw [hflatten]
          simp
        · rw [if_neg hfull] at h
          obtain ⟨hnonempty, hflatten⟩ := ih hgroups h
          refine ⟨hnonempty, ?_⟩
          rw [hflatten]
          simp

/-- The groups of a round are an ordered partition. -/
theorem groupSummaries_partition {maximumBytes : Nat} {summaries : List String}
    {groups : List (List String)} (h : groupSummaries summaries maximumBytes = .ok groups) :
    OrderedPartition maximumBytes summaries groups := by
  obtain ⟨hfits, hlength⟩ := groupSummaries_fit h
  unfold groupSummaries at h
  cases hfrom : groupFrom maximumBytes summaries [] [] 0 with
  | error error =>
      rw [hfrom] at h
      cases h
  | ok found =>
      rw [hfrom] at h
      dsimp only at h
      by_cases hstalled : found.length = summaries.length ∧ summaries.length > 1
      · rw [if_pos hstalled] at h
        cases h
      · rw [if_neg hstalled] at h
        obtain rfl := Except.ok.inj h
        obtain ⟨hnonempty, hflatten⟩ :=
          groupFrom_partition (fun _ hgroup => absurd hgroup List.not_mem_nil) hfrom
        constructor
        · exact hnonempty
        · rw [hflatten]
          rfl
        · exact hfits
        · intro htwo
          omega

/-- Summaries that fit the current group go into it. -/
theorem groupFrom_fitting {maximumBytes currentBytes : Nat} {summaries current : List String}
    {groups : List (List String)} (h : currentBytes + groupCost summaries ≤ maximumBytes)
    (hne : current ++ summaries ≠ []) :
    groupFrom maximumBytes summaries groups current currentBytes =
      .ok (groups ++ [current ++ summaries]) := by
  induction summaries generalizing current currentBytes with
  | nil =>
      rw [List.append_nil] at hne ⊢
      unfold groupFrom
      rw [if_pos (List.length_pos_of_ne_nil hne)]
  | cons summary summaries ih =>
      have hcost : groupCost (summary :: summaries) =
          summary.utf8ByteSize + 64 + groupCost summaries := rfl
      rw [hcost] at h
      unfold groupFrom
      dsimp only
      rw [if_neg (by omega), if_neg (by omega), ih (by omega) (by simp), List.append_assoc,
        List.singleton_append]

/-- Two or more summaries that fit one group are one group. -/
theorem groupSummaries_single {maximumBytes : Nat} {summaries : List String}
    (htwo : 2 ≤ summaries.length) (h : groupCost summaries ≤ maximumBytes) :
    groupSummaries summaries maximumBytes = .ok [summaries] := by
  have hne : summaries ≠ [] := List.ne_nil_of_length_pos (by omega)
  have hfrom : groupFrom maximumBytes summaries [] [] 0 = .ok [summaries] :=
    groupFrom_fitting (by omega) hne
  unfold groupSummaries
  rw [hfrom]
  dsimp only
  rw [if_neg]
  rw [List.length_singleton]
  omega

/-! ## The rounds -/

variable (surroundings : ExecutorSurroundings) (config : ArtifactNodeConfig)
  (assignment : SupplierArtifactAssignment)

/-- The provider answered the prompt of each group, from a group on, with one of the outputs. -/
def Answered (round groups : Nat) : List (List String) → Nat → List String → Prop
  | [], _, outputs => outputs = []
  | summaries :: rest, index, outputs =>
      ∃ log request result others, outputs = result.output :: others ∧
        request.input = reducePrompt assignment summaries round (index + 1) groups ∧
        surroundings.invokeProvider log request = .ok result ∧
        Answered round groups rest (index + 1) others

/-- The rounds from one on lead from the summaries to the final ones. -/
inductive Reduction (segmentBytes : Nat) :
    Nat → List String → List (List (List String)) → List String → Prop where
  | done (round : Nat) (summaries : List String) :
      Reduction segmentBytes round summaries [] summaries
  | round {round : Nat} {summaries outputs final : List String} {groups : List (List String)}
      {rounds : List (List (List String))} (htwo : 2 ≤ summaries.length)
      (hgroups : groupSummaries summaries segmentBytes = .ok groups)
      (houtputs : Answered surroundings assignment round groups.length groups 0 outputs)
      (hrest : Reduction segmentBytes (round + 1) outputs rounds final) :
      Reduction segmentBytes round summaries (groups :: rounds) final

variable {surroundings config assignment}

theorem Answered.length_eq {round groups index : Nat} {rest : List (List String)}
    {outputs : List String} (h : Answered surroundings assignment round groups rest index outputs) :
    outputs.length = rest.length := by
  induction rest generalizing index outputs with
  | nil =>
      rw [Answered] at h
      rw [h]
      rfl
  | cons summaries rest ih =>
      obtain ⟨_, _, result, others, rfl, _, _, hothers⟩ := h
      rw [List.length_cons, List.length_cons, ih hothers]

/-- The groups of each round cut the outputs of the round before. -/
theorem Reduction.chained {segmentBytes round : Nat} {summaries final : List String}
    {rounds : List (List (List String))}
    (h : Reduction surroundings assignment segmentBytes round summaries rounds final) :
    Chained summaries.length rounds := by
  induction h with
  | done round summaries => trivial
  | round htwo hgroups houtputs hrest ih =>
      refine ⟨?_, ?_⟩
      · rw [(groupSummaries_partition hgroups).consecutive]
      · rw [← houtputs.length_eq]
        exact ih

/-- Every round leaves fewer summaries. -/
theorem Reduction.shortens {segmentBytes round : Nat} {summaries final : List String}
    {rounds : List (List (List String))}
    (h : Reduction surroundings assignment segmentBytes round summaries rounds final) :
    rounds.length + final.length ≤ summaries.length := by
  induction h with
  | done round summaries =>
      rw [List.length_nil]
      omega
  | round htwo hgroups houtputs hrest ih =>
      have hfewer := (groupSummaries_partition hgroups).fewer htwo
      have hlength := houtputs.length_eq
      rw [List.length_cons]
      omega

/-- Summaries that fit one group are reduced in one round. -/
theorem Reduction.single {segmentBytes round : Nat} {summaries : List String} {last : String}
    {rounds : List (List (List String))}
    (h : Reduction surroundings assignment segmentBytes round summaries rounds [last])
    (htwo : 2 ≤ summaries.length) (hfits : groupCost summaries ≤ segmentBytes) :
    rounds = [[summaries]] := by
  cases h with
  | done =>
      rw [List.length_singleton] at htwo
      omega
  | @round _ _ outputs _ groups rest _ hgroups houtputs hrest =>
      rw [groupSummaries_single htwo hfits, Except.ok.injEq] at hgroups
      subst hgroups
      have hlength := houtputs.length_eq
      have hshort := hrest.shortens
      rw [List.length_singleton] at hlength hshort
      have hnil : rest = [] := List.length_eq_zero_iff.mp (by omega)
      rw [hnil]

/-- What is returned is an answer of the provider to the prompt. -/
theorem invokeBounded_output {requestId input : String} {requestedOutputTokens : Nat}
    {priorUsage : SupplierGatewayUsage} :
    Returns (invokeBounded surroundings config assignment requestId input requestedOutputTokens
      priorUsage) fun result =>
        ∃ log request, request.input = input ∧
          surroundings.invokeProvider log request = .ok result := by
  unfold invokeBounded
  refine Returns.bind .step fun _ _ => ?_
  refine Returns.bind .step fun _ _ => ?_
  refine Returns.bind .step fun _ _ => ?_
  refine Returns.bind .step fun _ _ => ?_
  refine Returns.bind .ask fun result hresult => ?_
  obtain ⟨log, hanswer⟩ := hresult
  refine Returns.bind .step fun _ _ => .pure ?_
  exact ⟨log, _, rfl, hanswer⟩

/-- The loop over the groups collects one output for each. -/
theorem reduceGroups_answered {round groups index : Nat} {rest : List (List String)}
    {state : SupplierArtifactCheckpointState} {reduced : List String} :
    Returns (reduceGroups surroundings config assignment round groups rest index state reduced)
      fun result => ∃ outputs, result.2 = reduced ++ outputs ∧
        Answered surroundings assignment round groups rest index outputs := by
  induction rest generalizing index state reduced with
  | nil =>
      refine .pure ⟨[], ?_, rfl⟩
      rw [List.append_nil]
  | cons summaries rest ih =>
      unfold reduceGroups
      refine Returns.bind invokeBounded_output fun result hresult => ?_
      obtain ⟨log, request, hinput, hanswer⟩ := hresult
      refine Returns.bind .step fun usage _ => ih.weaken fun result' houtputs => ?_
      obtain ⟨outputs, hreduced, hanswered⟩ := houtputs
      refine ⟨result.output :: outputs, ?_, ?_⟩
      · rw [hreduced, List.append_assoc, List.singleton_append]
      · exact ⟨log, request, result, outputs, rfl, hinput, hanswer, hanswered⟩

/-- The rounds that are left end with an error or with one summary. -/
theorem reduceRounds_reduction {segmentBytes reduceRound : Nat}
    {state : SupplierArtifactCheckpointState} (hne : state.summaries ≠ [])
    (hround : reduceRound ≤ 32) :
    Returns (reduceRounds surroundings config assignment segmentBytes reduceRound state)
      fun final => ∃ rounds last, final.summaries = [last] ∧
        Reduction surroundings assignment segmentBytes (reduceRound + 1) state.summaries rounds
          [last] ∧
        reduceRound + rounds.length ≤ 32 := by
  fun_induction reduceRounds surroundings config assignment segmentBytes reduceRound state with
  | case1 reduceRound state hone =>
      have hpos := List.length_pos_of_ne_nil hne
      obtain ⟨last, hlast⟩ := List.length_eq_one_iff.mp (by omega : state.summaries.length = 1)
      refine .pure ⟨[], last, hlast, ?_, by simpa using hround⟩
      rw [hlast]
      exact .done _ _
  | case2 reduceRound state hmore hdeep => exact .throw
  | case3 reduceRound state hmore hdeep ih =>
      refine Returns.bind .ask fun groups hgroups => ?_
      obtain ⟨_, hgroups⟩ := hgroups
      refine Returns.bind reduceGroups_answered fun reduced houtputs => ?_
      obtain ⟨outputs, hreduced, hanswered⟩ := houtputs
      rw [List.nil_append] at hreduced
      refine Returns.bind .step fun _ _ => ?_
      have hparts := groupSummaries_partition hgroups
      have hnonempty : groups ≠ [] := by
        intro hnil
        have hflatten := hparts.consecutive
        rw [hnil] at hflatten
        exact hne hflatten.symm
      have houtputs : outputs ≠ [] := by
        have hlength := hanswered.length_eq
        have hpos := List.length_pos_of_ne_nil hnonempty
        exact List.ne_nil_of_length_pos (by omega)
      refine (ih reduced ?_ (by omega)).weaken fun final hfinal => ?_
      · show reduced.2 ≠ []
        rw [hreduced]
        exact houtputs
      · obtain ⟨rounds, last, hlast, hreduction, hcount⟩ := hfinal
        refine ⟨groups :: rounds, last, hlast, ?_, ?_⟩
        · refine .round (by omega) hgroups hanswered ?_
          rw [← hreduced]
          exact hreduction
        · rw [List.length_cons]
          omega

/-- The final summaries are one summary, to which the summaries were reduced. -/
def ReducedToOne (surroundings : ExecutorSurroundings) (assignment : SupplierArtifactAssignment)
    (segmentBytes : Nat) (summaries final : List String) : Prop :=
  ∃ rounds last, final = [last] ∧
    Reduction surroundings assignment segmentBytes 1 summaries rounds [last] ∧
    rounds.length ≤ 32 ∧ rounds.length < summaries.length ∧
    (∀ position < summaries.length, ∃! path, Path rounds position path) ∧
    (2 ≤ summaries.length → groupCost summaries ≤ segmentBytes → rounds = [[summaries]])

end ArtifactExecutor
end SupplierNode
end TokenStreaming
