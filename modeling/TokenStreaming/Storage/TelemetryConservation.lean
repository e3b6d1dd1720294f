import Mathlib.Data.Finset.Dedup
import Mathlib.Data.List.DropRight
import TokenStreaming.Storage.Telemetry

/-!
# Storage - Conservation of the telemetry

What a summary counts in its groups adds up to its totals.  The recommendations
are grouped under a joined text, so they are one for each tuple exactly when no
two tuples of the logs join to one text.

Main results:

- Theorem {lit}`groupCalls_conserve`: the groups of any grouping have distinct
  keys and add up to the totals.
- Theorem {lit}`sum_groupFailures`: the failure groups count the failed sessions.
- Theorem {lit}`recommendations_perm_iff`: there is one recommendation for each
  tuple if and only if different tuples have different keys.
- Theorem {lit}`key_eq_iff`: the tuples that join to one text.
- Theorem {lit}`telemetry_conserves_iff`: all of it, for every set of logs.
-/

namespace TokenStreaming
namespace Storage

open Core Domain

variable {F : Type} (platform : Platform F)

/-! ## Sessions of a group -/

/-- The sessions of a group: those that failed are among them, and each has a call. -/
def SessionsFit (calls : Nat) (sessionIds failedSessionIds : Finset String) : Prop :=
  failedSessionIds ⊆ sessionIds ∧ sessionIds.card ≤ calls

theorem SessionsFit.start : SessionsFit 0 ∅ ∅ :=
  ⟨Finset.Subset.refl _, Nat.le_refl _⟩

theorem SessionsFit.add {calls : Nat} {sessionIds failedSessionIds : Finset String}
    (h : SessionsFit calls sessionIds failedSessionIds) (entry : ModelCallWithSession) :
    SessionsFit (calls + 1) (insert entry.session.sessionId sessionIds)
      (addFailed entry failedSessionIds) := by
  constructor
  · unfold addFailed
    split
    · exact Finset.insert_subset_insert _ h.1
    · exact h.1.trans (Finset.subset_insert _ _)
  · exact (Finset.card_insert_le _ _).trans (Nat.add_le_add_right h.2 1)

theorem SessionsFit.bounds {calls : Nat} {sessionIds failedSessionIds : Finset String}
    (h : SessionsFit calls sessionIds failedSessionIds) :
    failedSessionIds.card ≤ sessionIds.card ∧ sessionIds.card ≤ calls :=
  ⟨Finset.card_le_card h.1, h.2⟩

/-! ## Groups of calls -/

/-- A grouping of the calls with the totals of the summary. -/
structure GroupingConserves (groups : List (ModelTelemetryGroup F))
    (summary : ModelTelemetrySummary F) : Prop where
  keys_nodup : (groups.map ModelTelemetryGroup.key).Nodup
  calls_sum : (groups.map ModelTelemetryGroup.calls).sum = summary.totalCalls
  inputTokens_sum : (groups.map ModelTelemetryGroup.inputTokens).sum = summary.totalInputTokens
  outputTokens_sum : (groups.map ModelTelemetryGroup.outputTokens).sum = summary.totalOutputTokens
  responseCharacters_sum :
    (groups.map ModelTelemetryGroup.responseCharacters).sum = summary.totalResponseCharacters
  sessions_le : ∀ g ∈ groups, g.failedSessions ≤ g.sessions ∧ g.sessions ≤ g.calls

section Grouping

variable (calls : List ModelCallWithSession) (keyOf : ModelCallWithSession → String)

/-- A group stands under its own key. -/
theorem key_of_mem_group {e : String × OpenGroup F}
    (he : e ∈ (group keyOf (startGroup platform keyOf) addCall calls).entries) :
    e.2.key = e.1 := by
  have hget := InsertionMap.get_eq_some_iff.mpr he
  rw [get_group] at hget
  cases hfilter : calls.filter (fun entry => keyOf entry = e.1) with
  | nil =>
      rw [hfilter] at hget
      cases hget
  | cons first rest =>
      rw [hfilter] at hget
      have hfirst : first ∈ calls.filter (fun entry => keyOf entry = e.1) := by
        rw [hfilter]
        exact List.mem_cons_self
      have hkey : keyOf first = e.1 := of_decide_eq_true (List.mem_filter.mp hfirst).2
      have hvalue : (first :: rest).foldl addCall (startGroup platform keyOf first) = e.2 :=
        Option.some.inj hget
      have hfold : ∀ (members : List ModelCallWithSession) (g : OpenGroup F),
          (members.foldl addCall g).key = g.key := by
        intro members
        induction members with
        | nil => exact fun g => rfl
        | cons entry members ih => exact fun g => ih (addCall g entry)
      rw [← hvalue, hfold, ← hkey]
      rfl

theorem groupCalls_perm :
    (groupCalls platform calls keyOf).Perm
      ((group keyOf (startGroup platform keyOf) addCall calls).entries.map
        fun entry => closeGroup platform entry.2) :=
  List.mergeSort_perm _ _

/-- What a closed group reports is a number that every call adds to. -/
theorem sum_groupCalls (f : ModelTelemetryGroup F → Nat) (g : ModelCallWithSession → Nat)
    (hclose : ∀ open' : OpenGroup F, f (closeGroup platform open') = f open'.toModelTelemetryGroup)
    (hstart : ∀ entry, f (startGroup platform keyOf entry).toModelTelemetryGroup = 0)
    (hadd : ∀ (open' : OpenGroup F) entry,
      f (addCall open' entry).toModelTelemetryGroup = f open'.toModelTelemetryGroup + g entry) :
    ((groupCalls platform calls keyOf).map f).sum = (calls.map g).sum := by
  rw [((groupCalls_perm platform calls keyOf).map f).sum_eq, List.map_map]
  rw [← sum_values_group keyOf (startGroup platform keyOf) addCall calls
    (fun open' => f open'.toModelTelemetryGroup) g hstart hadd]
  refine congrArg List.sum (List.map_congr_left ?_)
  intro entry _
  exact hclose entry.2

/-- The groups have different keys. -/
theorem groupCalls_keys_nodup :
    ((groupCalls platform calls keyOf).map ModelTelemetryGroup.key).Nodup := by
  rw [((groupCalls_perm platform calls keyOf).map ModelTelemetryGroup.key).nodup_iff, List.map_map]
  have hkeys : (group keyOf (startGroup platform keyOf) addCall calls).entries.map
      (ModelTelemetryGroup.key ∘ fun entry => closeGroup platform entry.2) =
      (group keyOf (startGroup platform keyOf) addCall calls).entries.map Prod.fst := by
    refine List.map_congr_left ?_
    intro entry hentry
    exact key_of_mem_group platform calls keyOf hentry
  rw [hkeys]
  exact (group keyOf (startGroup platform keyOf) addCall calls).nodup_keys

/-- In every group some of the sessions failed, and each has a call. -/
theorem groupCalls_sessions_le {g : ModelTelemetryGroup F}
    (hg : g ∈ groupCalls platform calls keyOf) :
    g.failedSessions ≤ g.sessions ∧ g.sessions ≤ g.calls := by
  rw [(groupCalls_perm platform calls keyOf).mem_iff, List.mem_map] at hg
  obtain ⟨entry, hentry, rfl⟩ := hg
  have hfit : SessionsFit entry.2.calls entry.2.sessionIds entry.2.failedSessionIds := by
    refine group_induction keyOf (startGroup platform keyOf) addCall
      (P := fun g => SessionsFit g.calls g.sessionIds g.failedSessionIds) ?_ ?_ hentry
    · exact fun _ _ => SessionsFit.start
    · exact fun _ entry _ h => h.add entry
  exact hfit.bounds

/-- A grouping of the calls conserves the totals of a summary of these calls. -/
theorem grouping_conserves {summary : ModelTelemetrySummary F}
    (hcalls : summary.totalCalls = calls.length)
    (hinput : summary.totalInputTokens = (calls.map fun entry => entry.call.inputTokens.getD 0).sum)
    (houtput :
      summary.totalOutputTokens = (calls.map fun entry => entry.call.outputTokens.getD 0).sum)
    (hcharacters : summary.totalResponseCharacters =
      (calls.map fun entry => entry.call.responseCharacters).sum) :
    GroupingConserves (groupCalls platform calls keyOf) summary where
  keys_nodup := groupCalls_keys_nodup platform calls keyOf
  calls_sum := by
    rw [sum_groupCalls platform calls keyOf _ (fun _ => 1) (fun _ => rfl) (fun _ => rfl)
      (fun _ _ => rfl), hcalls, List.map_const', List.sum_replicate_nat, Nat.mul_one]
  inputTokens_sum := by
    rw [hinput]
    exact sum_groupCalls platform calls keyOf _ _ (fun _ => rfl) (fun _ => rfl) (fun _ _ => rfl)
  outputTokens_sum := by
    rw [houtput]
    exact sum_groupCalls platform calls keyOf _ _ (fun _ => rfl) (fun _ => rfl) (fun _ _ => rfl)
  responseCharacters_sum := by
    rw [hcharacters]
    exact sum_groupCalls platform calls keyOf _ _ (fun _ => rfl) (fun _ => rfl) (fun _ _ => rfl)
  sessions_le := fun _ hg => groupCalls_sessions_le platform calls keyOf hg

end Grouping

/-! ## Failure groups -/

/-- The failure groups count every failed session once. -/
theorem sum_groupFailures (sessions : List SessionHistorySummary) :
    ((groupFailures platform sessions).map FailureTelemetryGroup.sessions).sum =
      countStatus .failed sessions := by
  have hperm := List.mergeSort_perm
    ((group failureKey (fun session => FailureTelemetryGroup.mk (failureKey session) 0)
      (fun group _ => { group with sessions := group.sessions + 1 })
      (sessions.filter fun session => session.status = .failed)).entries.map Prod.snd)
    fun left right => ((compare right.sessions left.sessions).then
      (platform.localeCompare left.key right.key)).isLE
  rw [groupFailures, (hperm.map FailureTelemetryGroup.sessions).sum_eq, List.map_map]
  have hsum := sum_values_group failureKey
    (fun session => FailureTelemetryGroup.mk (failureKey session) 0)
    (fun group _ => { group with sessions := group.sessions + 1 })
    (sessions.filter fun session => session.status = .failed)
    FailureTelemetryGroup.sessions (fun _ => 1) (fun _ => rfl) (fun _ _ => rfl)
  refine hsum.trans ?_
  rw [List.map_const', List.sum_replicate_nat, Nat.mul_one, countStatus]

/-! ## Recommendations -/

/-- The group of a tuple, computed from the calls of the tuple. -/
def tupleGroup (tuple : CallTuple) (calls : List ModelCallWithSession) : RecommendationGroup where
  tuple := tuple
  calls := calls.length
  totalTokens := (calls.map fun entry =>
    entry.call.inputTokens.getD 0 + entry.call.outputTokens.getD 0).sum
  responseCharacters := (calls.map fun entry => entry.call.responseCharacters).sum
  sessionIds := (calls.map fun entry => entry.session.sessionId).toFinset
  failedSessionIds := ((calls.filter fun entry => entry.session.status = .failed).map
    fun entry => entry.session.sessionId).toFinset

/-- The recommendation of a tuple, computed from the calls of the tuple. -/
def recommendationOf (tuple : CallTuple) (calls : List ModelCallWithSession) :
    ModelTelemetryRecommendation F :=
  recommend platform tuple.key (tupleGroup tuple calls)

/-- The order of the calls does not matter. -/
theorem tupleGroup_perm {tuple : CallTuple} {calls calls' : List ModelCallWithSession}
    (h : calls.Perm calls') : tupleGroup tuple calls = tupleGroup tuple calls' := by
  unfold tupleGroup
  rw [h.length_eq, (h.map _).sum_eq, (h.map _).sum_eq, List.toFinset_eq_of_perm _ _ (h.map _),
    List.toFinset_eq_of_perm _ _ ((h.filter _).map _)]

theorem tupleGroup_concat (tuple : CallTuple) (calls : List ModelCallWithSession)
    (entry : ModelCallWithSession) :
    tupleGroup tuple (calls ++ [entry]) = addRecommendationCall (tupleGroup tuple calls) entry := by
  unfold tupleGroup addRecommendationCall addFailed
  have hinsert : ∀ s : Finset String, s ∪ {entry.session.sessionId} =
      insert entry.session.sessionId s := by
    intro s
    rw [Finset.union_comm, Finset.insert_eq]
  by_cases hfailed : entry.session.status = .failed
  · simp [hfailed, hinsert]
  · simp [hfailed, hinsert]

/-- A group of the recommendations is the one its calls make for the tuple of its first call. -/
theorem groupValue_eq_tupleGroup {first : ModelCallWithSession} {rest : List ModelCallWithSession} :
    groupValue (startRecommendation platform) addRecommendationCall (first :: rest) =
      some (tupleGroup (tupleOf platform first) (first :: rest)) := by
  have hfold : ∀ calls : List ModelCallWithSession,
      calls.foldl addRecommendationCall (startRecommendation platform first) =
        tupleGroup (tupleOf platform first) calls := by
    intro calls
    induction calls using List.reverseRecOn with
    | nil => rfl
    | append_singleton calls entry ih =>
        rw [List.foldl_append, List.foldl_cons, List.foldl_nil, ih, tupleGroup_concat]
  exact congrArg some (hfold (first :: rest))

section Tuples

variable (calls : List ModelCallWithSession)

/-- The text under which a call's group stands. -/
def groupKey (entry : ModelCallWithSession) : String :=
  (tupleOf platform entry).key

/-- The groups of the recommendations. -/
def recommendationGroups : InsertionMap String RecommendationGroup :=
  group (groupKey platform) (startRecommendation platform) addRecommendationCall calls

/-- There is one recommendation for each tuple, computed from the calls of the tuple. -/
def RecommendsEach (recommendations : List (ModelTelemetryRecommendation F)) : Prop :=
  recommendations.Perm ((calls.map (tupleOf platform)).dedup.map fun tuple =>
    recommendationOf platform tuple (calls.filter fun entry => tupleOf platform entry = tuple))

theorem recommendations_perm :
    (buildModelRecommendations platform calls).Perm
      ((recommendationGroups platform calls).entries.map fun e => recommend platform e.1 e.2) :=
  List.mergeSort_perm _ _

/-- A group holds the calls of its key under the tuple of the first of them. -/
theorem mem_recommendationGroups {e : String × RecommendationGroup}
    (he : e ∈ (recommendationGroups platform calls).entries) :
    ∃ entry ∈ calls, groupKey platform entry = e.1 ∧
      e.2 = tupleGroup (tupleOf platform entry)
        (calls.filter fun other => groupKey platform other = e.1) := by
  have hget := InsertionMap.get_eq_some_iff.mpr he
  rw [recommendationGroups, get_group] at hget
  cases hfilter : calls.filter (fun entry => groupKey platform entry = e.1) with
  | nil =>
      rw [hfilter] at hget
      cases hget
  | cons first rest =>
      rw [hfilter, groupValue_eq_tupleGroup] at hget
      have hfirst : first ∈ calls.filter (fun entry => groupKey platform entry = e.1) := by
        rw [hfilter]
        exact List.mem_cons_self
      obtain ⟨hmem, hkey⟩ := List.mem_filter.mp hfirst
      exact ⟨first, hmem, of_decide_eq_true hkey, (Option.some.inj hget).symm⟩

variable {calls}

/-- Where the keys tell the tuples apart, the groups are those of the tuples. -/
theorem recommendsEach_of_injective
    (hinj : ∀ a ∈ calls, ∀ b ∈ calls, groupKey platform a = groupKey platform b →
      tupleOf platform a = tupleOf platform b) :
    RecommendsEach platform calls (buildModelRecommendations platform calls) := by
  have hentry : ∀ e ∈ (recommendationGroups platform calls).entries,
      e.2.tuple ∈ calls.map (tupleOf platform) ∧ e.2.tuple.key = e.1 ∧
        e.2 = tupleGroup e.2.tuple
          (calls.filter fun other => tupleOf platform other = e.2.tuple) := by
    intro e he
    obtain ⟨entry, hmem, hkey, hgroup⟩ := mem_recommendationGroups platform calls he
    have htuple : e.2.tuple = tupleOf platform entry := by
      rw [hgroup]
      rfl
    have hfilter : calls.filter (fun other => groupKey platform other = e.1) =
        calls.filter fun other => tupleOf platform other = e.2.tuple := by
      refine List.filter_congr ?_
      intro other hother
      rw [htuple, ← hkey, decide_eq_decide]
      constructor
      · exact hinj other hother entry hmem
      · exact fun heq => congrArg CallTuple.key heq
    refine ⟨?_, ?_, ?_⟩
    · rw [htuple]
      exact List.mem_map_of_mem hmem
    · rw [htuple]
      exact hkey
    · rw [← hfilter, htuple]
      exact hgroup
  have htuples : ((recommendationGroups platform calls).entries.map fun e => e.2.tuple).Perm
      (calls.map (tupleOf platform)).dedup := by
    rw [List.perm_ext_iff_of_nodup _ (List.nodup_dedup _)]
    · intro tuple
      rw [List.mem_dedup]
      constructor
      · intro h
        obtain ⟨e, he, rfl⟩ := List.mem_map.mp h
        exact (hentry e he).1
      · intro h
        obtain ⟨entry, hmem, rfl⟩ := List.mem_map.mp h
        have hkey : groupKey platform entry ∈
            (recommendationGroups platform calls).entries.map Prod.fst :=
          (mem_keys_group _ _ _).mpr (List.mem_map_of_mem hmem)
        obtain ⟨e, he, hkeys⟩ := List.mem_map.mp hkey
        obtain ⟨hother, hjoined, _⟩ := hentry e he
        obtain ⟨other, hothermem, hothertuple⟩ := List.mem_map.mp hother
        refine List.mem_map.mpr ⟨e, he, ?_⟩
        rw [← hothertuple]
        refine hinj other hothermem entry hmem ?_
        rw [← hkeys, ← hjoined, ← hothertuple]
        rfl
    · have hkeys : ((recommendationGroups platform calls).entries.map fun e => e.2.tuple).map
          CallTuple.key = (recommendationGroups platform calls).entries.map Prod.fst := by
        rw [List.map_map]
        exact List.map_congr_left fun e he => (hentry e he).2.1
      have hnodup := (recommendationGroups platform calls).nodup_keys
      rw [← hkeys] at hnodup
      exact hnodup.of_map
  have hmap : (recommendationGroups platform calls).entries.map
      (fun e => recommend platform e.1 e.2) =
      ((recommendationGroups platform calls).entries.map fun e => e.2.tuple).map fun tuple =>
        recommendationOf platform tuple
          (calls.filter fun entry => tupleOf platform entry = tuple) := by
    rw [List.map_map]
    refine List.map_congr_left ?_
    intro e he
    obtain ⟨_, hkey, hgroup⟩ := hentry e he
    rw [Function.comp_apply, recommendationOf, hkey, ← hgroup]
  rw [RecommendsEach, (recommendations_perm platform calls).congr_left, hmap]
  exact htuples.map _

/-- Where there is one recommendation for each tuple, the keys tell the tuples apart. -/
theorem injective_of_recommendsEach
    (h : RecommendsEach platform calls (buildModelRecommendations platform calls)) :
    ∀ a ∈ calls, ∀ b ∈ calls, groupKey platform a = groupKey platform b →
      tupleOf platform a = tupleOf platform b := by
  have hlength := h.length_eq
  rw [(recommendations_perm platform calls).length_eq, List.length_map, List.length_map] at hlength
  have hkeys := (keys_group_perm (groupKey platform) (startRecommendation platform)
    addRecommendationCall calls).length_eq
  rw [List.length_map] at hkeys
  have hsame : (calls.map (groupKey platform)).dedup.Perm
      (((calls.map (tupleOf platform)).dedup.map CallTuple.key).dedup) := by
    rw [List.perm_ext_iff_of_nodup (List.nodup_dedup _) (List.nodup_dedup _)]
    intro key
    simp only [List.mem_dedup, List.mem_map]
    constructor
    · rintro ⟨entry, hmem, rfl⟩
      exact ⟨_, ⟨entry, hmem, rfl⟩, rfl⟩
    · rintro ⟨_, ⟨entry, hmem, rfl⟩, rfl⟩
      exact ⟨entry, hmem, rfl⟩
  have hdedup : ((calls.map (tupleOf platform)).dedup.map CallTuple.key).dedup =
      (calls.map (tupleOf platform)).dedup.map CallTuple.key := by
    refine (List.dedup_sublist _).eq_of_length ?_
    rw [← hsame.length_eq, ← hkeys, List.length_map]
    exact hlength
  have hnodup := List.dedup_eq_self.mp hdedup
  intro a ha b hb hkey
  refine List.inj_on_of_nodup_map hnodup ?_ ?_ hkey
  · exact List.mem_dedup.mpr (List.mem_map_of_mem ha)
  · exact List.mem_dedup.mpr (List.mem_map_of_mem hb)

end Tuples

/-! ## Tuples that join to one text -/

/-- Two tuples that differ in provider and model alone, where the provider of the first is
the provider of the second, a colon and a text with which the model of the second begins. -/
def JoinAlike (t t' : CallTuple) : Prop :=
  t.mode = t'.mode ∧ t.purpose = t'.purpose ∧ t.taskKind = t'.taskKind ∧
    ∃ middle, t.provider = t'.provider ++ ":" ++ middle ∧ t'.model = middle ++ ":" ++ t.model

/-- The provider of the first is longer. -/
theorem JoinAlike.ne {t t' : CallTuple} (h : JoinAlike t t') : t ≠ t' := by
  obtain ⟨_, _, _, middle, hprovider, _⟩ := h
  intro heq
  have hlength := congrArg String.length hprovider
  rw [heq, String.length_append, String.length_append] at hlength
  have hcolon : ":".length = 1 := rfl
  omega

/-- The provider of the first holds a colon. -/
theorem JoinAlike.colon_mem {t t' : CallTuple} (h : JoinAlike t t') :
    ':' ∈ t.provider.toList := by
  obtain ⟨_, _, _, middle, hprovider, _⟩ := h
  have hcolon : ":".toList = [':'] := rfl
  rw [hprovider, String.toList_append, String.toList_append, hcolon]
  simp

/-- The first three parts of a tuple hold no colon. -/
structure CallTuple.Plain (tuple : CallTuple) : Prop where
  mode : ':' ∉ tuple.mode.toList
  purpose : ':' ∉ tuple.purpose.toList
  taskKind : ':' ∉ tuple.taskKind.toList

theorem toList_key (tuple : CallTuple) :
    tuple.key.toList = tuple.mode.toList ++ ':' :: (tuple.purpose.toList ++
      ':' :: (tuple.taskKind.toList ++ ':' :: (tuple.provider.toList ++
        ':' :: tuple.model.toList))) := by
  have hcolon : ":".toList = [':'] := rfl
  rw [CallTuple.key, String.toList_intercalate, hcolon]
  simp [List.intercalate]

/-- Two texts with a colon between them are the same as two others: the same texts, or the
colon of one stands inside a text of the other. -/
theorem append_colon_eq_iff {a b a' b' : String} :
    a.toList ++ ':' :: b.toList = a'.toList ++ ':' :: b'.toList ↔
      (a = a' ∧ b = b') ∨ (∃ middle, a = a' ++ ":" ++ middle ∧ b' = middle ++ ":" ++ b) ∨
        ∃ middle, a' = a ++ ":" ++ middle ∧ b = middle ++ ":" ++ b' := by
  have hcolon : ":".toList = [':'] := rfl
  have hsplit : ∀ {x y x' : String} {front tail : List Char}, x.toList = x'.toList ++ front →
      ':' :: tail = front ++ ':' :: y.toList →
      (x = x' ∧ String.ofList tail = y) ∨
        ∃ middle, x = x' ++ ":" ++ middle ∧ String.ofList tail = middle ++ ":" ++ y := by
    intro x y x' front tail hx htail
    cases front with
    | nil =>
        rw [List.append_nil] at hx
        rw [List.nil_append, List.cons_inj_right] at htail
        exact Or.inl ⟨String.toList_injective hx, by rw [htail, String.ofList_toList]⟩
    | cons c front =>
        rw [List.cons_append, List.cons.injEq] at htail
        refine Or.inr ⟨String.ofList front, String.toList_injective ?_, String.toList_injective ?_⟩
        · simp [hx, ← htail.1]
        · simp [htail.2]
  constructor
  · intro h
    rcases List.append_eq_append_iff.mp h with ⟨front, ha', htail⟩ | ⟨front, ha, htail⟩
    · rcases hsplit ha' htail with ⟨heq, hb⟩ | ⟨middle, heq, hb⟩
      · rw [String.ofList_toList] at hb
        exact Or.inl ⟨heq.symm, hb⟩
      · rw [String.ofList_toList] at hb
        exact Or.inr (Or.inr ⟨middle, heq, hb⟩)
    · rcases hsplit ha htail with ⟨heq, hb⟩ | ⟨middle, heq, hb⟩
      · rw [String.ofList_toList] at hb
        exact Or.inl ⟨heq, hb.symm⟩
      · rw [String.ofList_toList] at hb
        exact Or.inr (Or.inl ⟨middle, heq, hb⟩)
  · intro h
    rcases h with ⟨rfl, rfl⟩ | ⟨middle, rfl, rfl⟩ | ⟨middle, rfl, rfl⟩
    · rfl
    · simp [String.toList_append]
    · simp [String.toList_append]

/-- A separator that stands in neither front tells the fronts apart. -/
theorem append_cons_inj {c : Char} {x x' y y' : List Char} (hx : c ∉ x) (hx' : c ∉ x') :
    x ++ c :: y = x' ++ c :: y' ↔ x = x' ∧ y = y' := by
  constructor
  · intro h
    rcases List.append_eq_append_iff.mp h with ⟨front, hfront, htail⟩ | ⟨front, hfront, htail⟩
    · cases front with
      | nil => simp_all
      | cons d front =>
          rw [List.cons_append, List.cons.injEq] at htail
          rw [hfront, ← htail.1] at hx'
          simp at hx'
    · cases front with
      | nil => simp_all
      | cons d front =>
          rw [List.cons_append, List.cons.injEq] at htail
          rw [hfront, ← htail.1] at hx
          simp at hx
  · rintro ⟨rfl, rfl⟩
    rfl

/-- The tuples that join to one text. -/
theorem key_eq_iff {t t' : CallTuple} (ht : t.Plain) (ht' : t'.Plain) :
    t.key = t'.key ↔ t = t' ∨ JoinAlike t t' ∨ JoinAlike t' t := by
  rw [← String.toList_inj, toList_key, toList_key]
  rw [append_cons_inj ht.mode ht'.mode]
  rw [append_cons_inj ht.purpose ht'.purpose]
  rw [append_cons_inj ht.taskKind ht'.taskKind]
  rw [append_colon_eq_iff, String.toList_inj, String.toList_inj, String.toList_inj]
  obtain ⟨mode, purpose, taskKind, provider, model⟩ := t
  obtain ⟨mode', purpose', taskKind', provider', model'⟩ := t'
  simp only [JoinAlike, CallTuple.mk.injEq]
  constructor
  · rintro ⟨rfl, rfl, rfl, h | h | h⟩
    · exact Or.inl ⟨rfl, rfl, rfl, h⟩
    · exact Or.inr (Or.inl ⟨rfl, rfl, rfl, h⟩)
    · exact Or.inr (Or.inr ⟨rfl, rfl, rfl, h⟩)
  · rintro (⟨rfl, rfl, rfl, h⟩ | ⟨rfl, rfl, rfl, h⟩ | ⟨rfl, rfl, rfl, h⟩)
    · exact ⟨rfl, rfl, rfl, Or.inl h⟩
    · exact ⟨rfl, rfl, rfl, Or.inr (Or.inl h)⟩
    · exact ⟨rfl, rfl, rfl, Or.inr (Or.inr h)⟩

/-- The kinds of tasks are a few fixed texts. -/
theorem inferTaskKind_mem (task : Option String) :
    inferTaskKind platform task ∈ ["unknown", "general"] ++ taskWords.map Prod.fst := by
  unfold inferTaskKind
  dsimp only
  split
  · exact List.mem_append_left _ List.mem_cons_self
  · cases hfind : taskWords.find? fun kind =>
        hasWord kind.2 ((task.map platform.toLowerCase).getD "") with
    | none => exact List.mem_append_left _ (List.mem_cons_of_mem _ List.mem_cons_self)
    | some kind =>
        exact List.mem_append_right _ (List.mem_map_of_mem (List.mem_of_find?_eq_some hfind))

theorem plain_tupleOf (entry : ModelCallWithSession) : (tupleOf platform entry).Plain where
  mode := by
    change ':' ∉ entry.call.mode.text.toList
    cases entry.call.mode <;> decide +kernel
  purpose := by
    change ':' ∉ entry.call.purpose.text.toList
    cases entry.call.purpose <;> decide +kernel
  taskKind := by
    have hnone : ∀ kind ∈ ["unknown", "general"] ++ taskWords.map Prod.fst,
        ':' ∉ kind.toList := by
      decide +kernel
    exact hnone _ (inferTaskKind_mem platform entry.session.task)

/-! ## The telemetry of a set of logs -/

/-- All model calls in the logs of a store. -/
def loggedCalls (store : SessionHistoryStore) : List ModelCallWithSession :=
  store.logs.flatMap fun log => callsOf log.summary log.events

/-- What the groups of a summary owe to its totals and to the logs. -/
structure TelemetryConserves (store : SessionHistoryStore) (summary : ModelTelemetrySummary F) :
    Prop where
  byProvider : GroupingConserves summary.byProvider summary
  byModel : GroupingConserves summary.byModel summary
  byMode : GroupingConserves summary.byMode summary
  byPurpose : GroupingConserves summary.byPurpose summary
  failures : (summary.byFailureCategory.map FailureTelemetryGroup.sessions).sum =
    summary.failedSessions
  recommendations : RecommendsEach platform (loggedCalls store) summary.recommendations

/-- The calls that are read are those of the logs. -/
theorem readModelCalls_perm {store : SessionHistoryStore} {sessions : List SessionHistorySummary}
    {calls : List ModelCallWithSession} (hlist : store.list platform.localeCompare = .ok sessions)
    (hcalls : readModelCalls store sessions = .ok calls) : calls.Perm (loggedCalls store) := by
  let eventsOf := fun session : SessionHistorySummary =>
    ((store.read session.sessionId).toOption).getD []
  rw [readModelCalls, Except.bind_eq_ok] at hcalls
  obtain ⟨eventGroups, hgroups, hflat⟩ := hcalls
  have hevents : eventGroups = sessions.map eventsOf := by
    refine SessionHistoryStore.mapM_eq_map ?_ hgroups
    intro session _ events hread
    simp [eventsOf, hread, Except.toOption]
  have hzip : sessions.zip eventGroups = sessions.map fun session => (session, eventsOf session) := by
    rw [hevents, List.map_prod_left_eq_zip]
  have hflatMap : calls = sessions.flatMap fun session => callsOf session (eventsOf session) := by
    rw [← Except.ok.inj hflat, hzip, List.map_map, ← List.flatMap_def]
    rfl
  have hlogs : (store.logs.map SessionHistoryStore.SessionLog.summary).flatMap
      (fun session => callsOf session (eventsOf session)) = loggedCalls store := by
    rw [List.flatMap_map]
    refine List.flatMap_congr ?_
    intro log hlog
    have hread := SessionHistoryStore.read_of_mem_logs hlist hlog
    simp [eventsOf, hread, Except.toOption]
  rw [hflatMap, ← hlogs]
  exact (SessionHistoryStore.list_perm hlist).flatMap_right _

/-- The order of the calls does not matter for the recommendations. -/
theorem recommendsEach_perm {calls calls' : List ModelCallWithSession}
    {recommendations : List (ModelTelemetryRecommendation F)} (h : calls.Perm calls') :
    RecommendsEach platform calls recommendations ↔
      RecommendsEach platform calls' recommendations := by
  have hrecommend : ∀ tuple : CallTuple,
      recommendationOf platform tuple
          (calls.filter fun entry => tupleOf platform entry = tuple) =
        recommendationOf platform tuple
          (calls'.filter fun entry => tupleOf platform entry = tuple) := by
    intro tuple
    rw [recommendationOf, recommendationOf, tupleGroup_perm (h.filter _)]
  have htuples := (h.map (tupleOf platform)).dedup.map fun tuple =>
    recommendationOf platform tuple (calls'.filter fun entry => tupleOf platform entry = tuple)
  rw [RecommendsEach, RecommendsEach]
  simp only [hrecommend]
  exact htuples.congr_right _

/-- The recommendations of a summary are one for each tuple unless two tuples join alike. -/
theorem recommendsEach_iff {store : SessionHistoryStore} {summary : ModelTelemetrySummary F}
    (h : summarizeModelCalls platform store = .ok summary) :
    RecommendsEach platform (loggedCalls store) summary.recommendations ↔
      ∀ a ∈ loggedCalls store, ∀ b ∈ loggedCalls store,
        ¬JoinAlike (tupleOf platform a) (tupleOf platform b) := by
  rw [summarizeModelCalls, Except.bind_eq_ok] at h
  obtain ⟨sessions, hlist, hrest⟩ := h
  rw [Except.bind_eq_ok] at hrest
  obtain ⟨calls, hcalls, hsummary⟩ := hrest
  have hperm := readModelCalls_perm platform hlist hcalls
  rw [← Except.ok.inj hsummary, ← recommendsEach_perm platform hperm]
  constructor
  · intro hrecommends a ha b hb halike
    have hinj := injective_of_recommendsEach platform hrecommends
    have hkey : groupKey platform a = groupKey platform b :=
      (key_eq_iff (plain_tupleOf platform a) (plain_tupleOf platform b)).mpr (Or.inr (Or.inl halike))
    exact halike.ne (hinj a (hperm.mem_iff.mpr ha) b (hperm.mem_iff.mpr hb) hkey)
  · intro hnone
    refine recommendsEach_of_injective platform ?_
    intro a ha b hb hkey
    rcases (key_eq_iff (plain_tupleOf platform a) (plain_tupleOf platform b)).mp hkey with
      heq | halike | halike
    · exact heq
    · exact absurd halike (hnone a (hperm.mem_iff.mp ha) b (hperm.mem_iff.mp hb))
    · exact absurd halike (hnone b (hperm.mem_iff.mp hb) a (hperm.mem_iff.mp ha))

/-- The groups of any grouping conserve the totals of the calls. -/
theorem groupCalls_conserve {store : SessionHistoryStore} {summary : ModelTelemetrySummary F}
    (h : summarizeModelCalls platform store = .ok summary) :
    GroupingConserves summary.byProvider summary ∧ GroupingConserves summary.byModel summary ∧
      GroupingConserves summary.byMode summary ∧ GroupingConserves summary.byPurpose summary ∧
      (summary.byFailureCategory.map FailureTelemetryGroup.sessions).sum =
        summary.failedSessions := by
  rw [summarizeModelCalls, Except.bind_eq_ok] at h
  obtain ⟨sessions, _, hrest⟩ := h
  rw [Except.bind_eq_ok] at hrest
  obtain ⟨calls, _, hsummary⟩ := hrest
  rw [← Except.ok.inj hsummary]
  refine ⟨?_, ?_, ?_, ?_, sum_groupFailures platform sessions⟩
  · exact grouping_conserves platform calls providerKey rfl rfl rfl rfl
  · exact grouping_conserves platform calls modelKey rfl rfl rfl rfl
  · exact grouping_conserves platform calls modeKey rfl rfl rfl rfl
  · exact grouping_conserves platform calls purposeKey rfl rfl rfl rfl

/-! ## Sample logs -/

/-- A number with up to four decimal places as a text. -/
def decimalText (value : Rat) : String :=
  let digits := (value * 10000).floor.toNat
  let places := (toString (10000 + digits % 10000)).toList.tail.rdropWhile (· == '0')
  toString (digits / 10000) ++ (if places = [] then "" else "." ++ String.ofList places)

/-- Exact numbers, on which the sample logs stay. -/
def rationalPlatform : Platform Rat where
  ofNat := fun n => n
  ofDecimal := fun digits places => (digits : Rat) / ((10 ^ places : Nat) : Rat)
  add := fun a b => a + b
  sub := fun a b => a - b
  mul := fun a b => a * b
  div := fun a b => a / b
  max := fun a b => if a < b then b else a
  lt := fun a b => decide (a < b)
  toFixed := fun value places =>
    ((value * ((10 ^ places : Nat) : Rat) + 1 / 2).floor : Rat) / ((10 ^ places : Nat) : Rat)
  round := fun value => ((value + 1 / 2).floor : Rat)
  text := decimalText
  localeCompare := fun left right => compare left right
  toLowerCase := fun text => String.ofList (text.toList.map Char.toLower)

/-- A log that starts a task, calls a model twice and completes. -/
def sampleLog (provider model provider' model' : String) : List SessionEvent :=
  [⟨"2026-01-01T00:00:00.000Z", .runStarted "Fix the login bug"⟩,
    ⟨"2026-01-01T00:00:01.000Z",
      .modelCalled ⟨.planning, provider, some model, .auto, some 3000, some 1000, 12000⟩⟩,
    ⟨"2026-01-01T00:00:02.000Z",
      .modelCalled ⟨.planning, provider', some model', .auto, some 3000, some 1000, 12000⟩⟩,
    ⟨"2026-01-01T00:00:03.000Z", .runCompleted "Done."⟩]

def sampleStore (provider model provider' model' : String) : SessionHistoryStore where
  sessionsDirectory := "/repo/.token-streaming/sessions"
  files := InsertionMap.empty.set "ses_one.jsonl" (sampleLog provider model provider' model')

/-! ## Conservation -/

/-- Whenever a summary is made, its groups have distinct keys and add up to its totals; and it
has one recommendation for each tuple of the logs, computed from the calls of the tuple, if
and only if no two tuples in the logs join alike. -/
theorem telemetry_conserves_iff {store : SessionHistoryStore} {summary : ModelTelemetrySummary F}
    (h : summarizeModelCalls platform store = .ok summary) :
    TelemetryConserves platform store summary ↔
      ∀ a ∈ loggedCalls store, ∀ b ∈ loggedCalls store,
        ¬JoinAlike (tupleOf platform a) (tupleOf platform b) := by
  rw [← recommendsEach_iff platform h]
  constructor
  · exact TelemetryConserves.recommendations
  · intro hrecommends
    obtain ⟨hprovider, hmodel, hmode, hpurpose, hfailures⟩ := groupCalls_conserve platform h
    exact ⟨hprovider, hmodel, hmode, hpurpose, hfailures, hrecommends⟩

theorem telemetry_conserves_iff_sample :
    ∃ summary, summarizeModelCalls rationalPlatform
        (sampleStore "openai" "gpt-a" "stub" "stub") = .ok summary ∧
      TelemetryConserves rationalPlatform
        (sampleStore "openai" "gpt-a" "stub" "stub") summary := by
  have hok : (summarizeModelCalls rationalPlatform
      (sampleStore "openai" "gpt-a" "stub" "stub")).isOk = true := by
    decide +kernel
  have hplain : ∀ a ∈ loggedCalls (sampleStore "openai" "gpt-a" "stub" "stub"),
      ':' ∉ a.call.provider.toList := by
    decide +kernel
  cases h : summarizeModelCalls rationalPlatform
      (sampleStore "openai" "gpt-a" "stub" "stub") with
  | error message =>
      rw [h] at hok
      cases hok
  | ok summary =>
      refine ⟨summary, rfl, (telemetry_conserves_iff rationalPlatform h).mpr ?_⟩
      intro a ha b _ halike
      exact hplain a ha halike.colon_mem

/-- Two models of two providers under one key: the summary has one recommendation for them. -/
theorem joined_key_merges_models :
    ¬∀ (store : SessionHistoryStore) (summary : ModelTelemetrySummary Rat),
      summarizeModelCalls rationalPlatform store = .ok summary →
        TelemetryConserves rationalPlatform store summary := by
  intro hall
  have hok : (summarizeModelCalls rationalPlatform
      (sampleStore "ollama:qwen" "7b" "ollama" "qwen:7b")).isOk = true := by
    decide +kernel
  have hcalls : (loggedCalls (sampleStore "ollama:qwen" "7b" "ollama" "qwen:7b")).map
        (tupleOf rationalPlatform) =
      [⟨"auto", "planning", "bugfix", "ollama:qwen", "7b"⟩,
        ⟨"auto", "planning", "bugfix", "ollama", "qwen:7b"⟩] := by
    decide +kernel
  have halike : JoinAlike ⟨"auto", "planning", "bugfix", "ollama:qwen", "7b"⟩
      ⟨"auto", "planning", "bugfix", "ollama", "qwen:7b"⟩ :=
    ⟨rfl, rfl, rfl, "qwen", rfl, rfl⟩
  cases h : summarizeModelCalls rationalPlatform
      (sampleStore "ollama:qwen" "7b" "ollama" "qwen:7b") with
  | error message =>
      rw [h] at hok
      cases hok
  | ok summary =>
      have hrecommends := (hall _ _ h).recommendations
      rw [recommendsEach_iff rationalPlatform h] at hrecommends
      have htuple : ∀ tuple ∈ [CallTuple.mk "auto" "planning" "bugfix" "ollama:qwen" "7b",
          ⟨"auto", "planning", "bugfix", "ollama", "qwen:7b"⟩],
          ∃ entry ∈ loggedCalls (sampleStore "ollama:qwen" "7b" "ollama" "qwen:7b"),
            tupleOf rationalPlatform entry = tuple := by
        intro tuple htuple
        rw [← hcalls] at htuple
        exact List.mem_map.mp htuple
      obtain ⟨a, ha, hatuple⟩ := htuple _ List.mem_cons_self
      obtain ⟨b, hb, hbtuple⟩ := htuple _ (List.mem_cons_of_mem _ List.mem_cons_self)
      refine hrecommends a ha b hb ?_
      rw [hatuple, hbtuple]
      exact halike

end Storage
end TokenStreaming
