import TokenStreaming.Foundation.Oblivious
import TokenStreaming.SupplierNode.ReducePartition

/-!
# Supplier node - Resumed executions

An execution that was broken off is started again from a checkpoint that it has stored.  With a
provider that is a function of the request the second execution does what was left to do, and
ends as the first one would have ended.  Between two rounds of the reduction this is not so: the
rounds are counted from one again, and they stand in the prompts.

Main results:

- Theorem {lit}`mapSegments_resumed`: the loop over the segments, from one of its checkpoints.
- Theorem {lit}`reduceRounds_reduced`: the checkpoints of the rounds.
- Theorem {lit}`resumed_execution_agrees`: the whole execution.
-/

namespace TokenStreaming
namespace SupplierNode

/-- The same task behind a new claim. -/
def SupplierArtifactAssignment.resumed (assignment : SupplierArtifactAssignment) (segment : Nat)
    (leaseToken : String) : SupplierArtifactAssignment :=
  { assignment with resumeFromSegment := segment, leaseToken }

namespace ArtifactExecutor

open Domain Effects Slices Utf8

/-! ## Surroundings that repeat -/

/-- The provider is a function of the request, nothing is aborted and every checkpoint is
stored. -/
structure Repeatable (surroundings : ExecutorSurroundings)
    (provider : SupplierGatewayInferenceRequest → Except ExecutorThrown SupplierProviderResult) :
    Prop where
  aborted : ∀ log, surroundings.aborted log = false
  invokeProvider : ∀ log request, surroundings.invokeProvider log request = provider request
  onCheckpoint : ∀ log checkpoint progress,
    surroundings.onCheckpoint log checkpoint progress = .ok ()

variable {surroundings surroundings' : ExecutorSurroundings}
  {provider : SupplierGatewayInferenceRequest → Except ExecutorThrown SupplierProviderResult}
  {config : ArtifactNodeConfig} {assignment : SupplierArtifactAssignment}

/-- Nothing is aborted. -/
theorem unaborted {α : Type} (h : Repeatable surroundings provider) (error : ExecutorThrown)
    (rest : Execution α) :
    (do
      let log ← get
      failIf (surroundings.aborted log = true) error
      rest) = rest := by
  funext log
  have hpass : failIf (surroundings.aborted log = true) error = (pure () : Execution Unit) := by
    unfold failIf
    rw [if_neg]
    rw [h.aborted]
    exact Bool.false_ne_true
  show (failIf (surroundings.aborted log = true) error >>= fun _ => rest) log = rest log
  rw [hpass]
  rfl

section Same

variable (h : Repeatable surroundings provider) (h' : Repeatable surroundings' provider)
  (segment : Nat) (leaseToken : String)

include h h'

theorem invokeBounded_same (requestId input : String) (requestedOutputTokens : Nat)
    (priorUsage : SupplierGatewayUsage) :
    invokeBounded surroundings' config (assignment.resumed segment leaseToken) requestId input
        requestedOutputTokens priorUsage =
      invokeBounded surroundings config assignment requestId input requestedOutputTokens
        priorUsage := by
  unfold invokeBounded
  simp only [h.invokeProvider, h'.invokeProvider, SupplierArtifactAssignment.resumed]
  rfl

theorem saveCheckpoint_same (state : SupplierArtifactCheckpointState) :
    saveCheckpoint surroundings' state = saveCheckpoint surroundings state := by
  unfold saveCheckpoint
  simp only [h.onCheckpoint, h'.onCheckpoint]

theorem mapSegments_same (totalSegments : Nat) (segments : List (List UInt8)) (s : MapState) :
    mapSegments surroundings' config (assignment.resumed segment leaseToken) totalSegments
        segments s =
      mapSegments surroundings config assignment totalSegments segments s := by
  induction segments generalizing s with
  | nil => rfl
  | cons bytes segments ih =>
      unfold mapSegments
      rw [unaborted h, unaborted h']
      simp only [invokeBounded_same h h', saveCheckpoint_same h h', ih]
      rfl

theorem reduceGroups_same (round groups : Nat) (rest : List (List String)) (index : Nat)
    (state : SupplierArtifactCheckpointState) (reduced : List String) :
    reduceGroups surroundings' config (assignment.resumed segment leaseToken) round groups rest
        index state reduced =
      reduceGroups surroundings config assignment round groups rest index state reduced := by
  induction rest generalizing index state reduced with
  | nil => rfl
  | cons summaries rest ih =>
      unfold reduceGroups
      simp only [invokeBounded_same h h', ih]
      rfl

theorem reduceRounds_same (segmentBytes reduceRound : Nat)
    (state : SupplierArtifactCheckpointState) :
    reduceRounds surroundings' config (assignment.resumed segment leaseToken) segmentBytes
        reduceRound state =
      reduceRounds surroundings config assignment segmentBytes reduceRound state := by
  induction hleft : 32 - reduceRound generalizing reduceRound state with
  | zero =>
      unfold reduceRounds
      have hover : reduceRound + 1 > 32 := by omega
      rw [if_pos hover, if_pos hover]
  | succ n ih =>
      unfold reduceRounds
      simp only [reduceGroups_same h h', saveCheckpoint_same h h',
        fun next => ih (reduceRound + 1) next (by omega)]

end Same

/-! ## What the parts add to the log -/

/-- No checkpoint is among the events. -/
def Uncheckpointed (new : List ExecutorEvent) : Prop :=
  ∀ checkpoint progress, .checkpointed checkpoint progress ∉ new

theorem uncheckpointed_nil : Uncheckpointed [] :=
  fun _ _ h => absurd h List.not_mem_nil

theorem Uncheckpointed.append {a b : List ExecutorEvent} (ha : Uncheckpointed a)
    (hb : Uncheckpointed b) : Uncheckpointed (a ++ b) := by
  intro checkpoint progress h
  rcases List.mem_append.mp h with hleft | hright
  · exact ha _ _ hleft
  · exact hb _ _ hright

/-- A checkpoint stands behind events without one. -/
theorem Uncheckpointed.split {spent rest before after : List ExecutorEvent}
    {checkpoint : SupplierArtifactCheckpointState} {progress : SupplierArtifactProgress}
    (h : Uncheckpointed spent)
    (heq : spent ++ rest = before ++ .checkpointed checkpoint progress :: after) :
    ∃ before', before = spent ++ before' ∧
      rest = before' ++ .checkpointed checkpoint progress :: after := by
  rcases List.append_eq_append_iff.mp heq with ⟨more, hbefore, hrest⟩ | ⟨more, hspent, hrest⟩
  · exact ⟨more, hbefore, hrest⟩
  · cases more with
    | nil =>
        refine ⟨[], ?_, ?_⟩
        · rw [hspent, List.append_nil, List.append_nil]
        · exact hrest.symm
    | cons first more =>
        rw [List.cons_append, List.cons.injEq] at hrest
        exfalso
        apply h checkpoint progress
        rw [hspent, ← hrest.1]
        exact List.mem_append_right before List.mem_cons_self

/-- The program adds no checkpoint, whatever the log is. -/
def Silent {α : Type} (program : Execution α) : Prop :=
  ∃ new result, Emits program new result ∧ Uncheckpointed new

theorem Silent.oblivious {α : Type} {program : Execution α} (h : Silent program) :
    Oblivious program := by
  rcases h with ⟨new, result, hemits, -⟩
  exact ⟨new, result, hemits⟩

theorem Silent.uncheckpointed {α : Type} {program : Execution α} {new : List ExecutorEvent}
    {result : Except ExecutorThrown α} (h : Silent program) (hemits : Emits program new result) :
    Uncheckpointed new := by
  rcases h with ⟨other, _, hother, hsilent⟩
  rw [(hemits.unique hother).1]
  exact hsilent

theorem Silent.pure {α : Type} (a : α) : Silent (Pure.pure a : Execution α) :=
  ⟨[], _, .pure a, uncheckpointed_nil⟩

theorem Silent.bind {α β : Type} {program : Execution α} {next : α → Execution β}
    (h : Silent program) (hnext : ∀ a, Silent (next a)) : Silent (program >>= next) := by
  rcases h with ⟨new, result, hemits, hsilent⟩
  cases result with
  | error e => exact ⟨new, _, hemits.bind_error, hsilent⟩
  | ok a =>
      rcases hnext a with ⟨new', result', hemits', hsilent'⟩
      exact ⟨new ++ new', result', hemits.bind hemits', hsilent.append hsilent'⟩

theorem Silent.check {α : Type} (result : Except ExecutorThrown α) :
    Silent (check result) :=
  ⟨[], result, .ask fun _ => rfl, uncheckpointed_nil⟩

theorem Silent.failIf {condition : Prop} [Decidable condition] (error : ExecutorThrown) :
    Silent (failIf condition error) := by
  by_cases h : condition
  · exact ⟨[], _, .failIf_pos h, uncheckpointed_nil⟩
  · exact ⟨[], _, .failIf_neg h, uncheckpointed_nil⟩

theorem invokeBounded_silent (h : Repeatable surroundings provider) (requestId input : String)
    (requestedOutputTokens : Nat) (priorUsage : SupplierGatewayUsage) :
    Silent (invokeBounded surroundings config assignment requestId input requestedOutputTokens
      priorUsage) := by
  have hemit : ∀ event, (∀ checkpoint progress, event ≠ .checkpointed checkpoint progress) →
      Silent (emit event) := by
    intro event hevent
    refine ⟨[event], _, .emit event, ?_⟩
    intro checkpoint progress hmem
    exact hevent checkpoint progress (List.mem_singleton.mp hmem).symm
  unfold invokeBounded
  refine .bind (hemit _ nofun) fun _ => ?_
  refine .bind (.failIf _) fun _ => ?_
  refine .bind (.failIf _) fun _ => ?_
  refine .bind (hemit _ nofun) fun _ => ?_
  refine .bind ?_ fun result => .bind (.check _) fun _ => .pure _
  exact ⟨[], _, .ask fun log => h.invokeProvider log _, uncheckpointed_nil⟩

theorem saveCheckpoint_emits (h : Repeatable surroundings provider)
    (state : SupplierArtifactCheckpointState) :
    Emits (saveCheckpoint surroundings state) [.checkpointed state (progress state)]
      (.ok ()) :=
  (Emits.emit (ExecutorEvent.checkpointed state (progress state))).bind
    (.ask fun log => h.onCheckpoint log state (progress state))

theorem saveCheckpoint_oblivious (h : Repeatable surroundings provider)
    (state : SupplierArtifactCheckpointState) : Oblivious (saveCheckpoint surroundings state) :=
  ⟨_, _, saveCheckpoint_emits h state⟩

/-! ## The loop over the segments -/

/-- The variables behind a segment that was decoded. -/
def MapState.behind (s : MapState) (decoder : TextDecoder) (bytes : List UInt8) : MapState where
  checkpoint := s.checkpoint
  decoder := decoder
  segmentIndex := s.segmentIndex + 1
  processedBytes := s.processedBytes + bytes.length

/-- The variables behind a segment that was mapped. -/
def MapState.mapped (s : MapState) (result : SupplierProviderResult)
    (usage : SupplierGatewayUsage) : MapState :=
  { s with
    checkpoint :=
      { s.checkpoint with
        summaries := s.checkpoint.summaries ++ [result.output]
        providerRequestIds := s.checkpoint.providerRequestIds ++ [result.providerRequestId]
        usage := usage
        completedSegments := s.segmentIndex
        processedBytes := s.processedBytes } }

/-- The call for a segment. -/
def mapSegment (surroundings : ExecutorSurroundings) (config : ArtifactNodeConfig)
    (assignment : SupplierArtifactAssignment) (totalSegments : Nat) (s : MapState)
    (text : String) : Execution MapState := do
  let result ← invokeBounded surroundings config assignment
    (assignment.taskId ++ ":map:" ++ toString s.segmentIndex)
    (mapPrompt assignment text s.segmentIndex totalSegments)
    (min 512 assignment.maxOutputTokens) s.checkpoint.usage
  let usage ← check (addUsage s.checkpoint.usage result.usage assignment.maxTotalTokens)
  pure (s.mapped result usage)

variable (config assignment) in
theorem mapSegment_silent (h : Repeatable surroundings provider) (totalSegments : Nat)
    (s : MapState) (text : String) :
    Silent (mapSegment surroundings config assignment totalSegments s text) :=
  .bind (invokeBounded_silent h _ _ _ _) fun _ => .bind (.check _) fun _ => .pure _

theorem mapSegment_mapped (h : Repeatable surroundings provider) {totalSegments : Nat}
    {s next : MapState} {text : String} {new : List ExecutorEvent}
    (hrun : Emits (mapSegment surroundings config assignment totalSegments s text) new (.ok next)) :
    ∃ result usage, next = s.mapped result usage := by
  unfold mapSegment at hrun
  rcases hrun.of_bind (invokeBounded_silent h _ _ _ _).oblivious
    (fun _ => .bind (Silent.check _).oblivious fun _ => .pure _) with
    ⟨error, -, herror⟩ | ⟨result, _, _, -, hrest, -⟩
  · cases herror
  · rcases hrest.of_bind (Silent.check _).oblivious (fun _ => .pure _) with
      ⟨error, -, herror⟩ | ⟨usage, _, _, -, hlast, -⟩
    · cases herror
    · exact ⟨result, usage, Except.ok.inj (hlast.unique (.pure _)).2⟩

/-- A segment is decoded, and mapped unless the checkpoint has it. -/
theorem mapSegments_cons (h : Repeatable surroundings provider) (totalSegments : Nat)
    (bytes : List UInt8) (segments : List (List UInt8)) (s : MapState) :
    mapSegments surroundings config assignment totalSegments (bytes :: segments) s =
      match s.decoder.decode bytes (decide (s.segmentIndex + 1 < totalSegments)) with
      | none => throw .typeError
      | some (decoder, text) =>
          if s.segmentIndex + 1 ≤ s.checkpoint.completedSegments then
            mapSegments surroundings config assignment totalSegments segments
              (s.behind decoder bytes)
          else (do
            let next ← mapSegment surroundings config assignment totalSegments
              (s.behind decoder bytes) text
            saveCheckpoint surroundings next.checkpoint
            mapSegments surroundings config assignment totalSegments segments next) := by
  conv_lhs => unfold mapSegments
  rw [unaborted h]
  dsimp only
  cases s.decoder.decode bytes (decide (s.segmentIndex + 1 < totalSegments)) with
  | none => rfl
  | some decoded =>
      dsimp only
      by_cases hskip : s.segmentIndex + 1 ≤ s.checkpoint.completedSegments
      · rw [if_pos hskip, if_pos hskip]
        rfl
      · rw [if_neg hskip, if_neg hskip]
        unfold mapSegment
        simp only [bind_assoc, pure_bind]
        rfl

variable (config assignment) in
theorem mapSegments_oblivious (h : Repeatable surroundings provider) (totalSegments : Nat)
    (segments : List (List UInt8)) (s : MapState) :
    Oblivious (mapSegments surroundings config assignment totalSegments segments s) := by
  induction segments generalizing s with
  | nil => exact .pure s
  | cons bytes segments ih =>
      rw [mapSegments_cons h]
      cases s.decoder.decode bytes (decide (s.segmentIndex + 1 < totalSegments)) with
      | none => exact .throw _
      | some decoded =>
          dsimp only
          split
          · exact ih _
          · exact .bind (mapSegment_silent config assignment h _ _ _).oblivious fun next =>
              .bind (saveCheckpoint_oblivious h _) fun _ => ih next

/-- A checkpoint of the loop over the segments of a task. -/
structure MapCheckpoint (assignment : SupplierArtifactAssignment) (totalSegments : Nat)
    (checkpoint : SupplierArtifactCheckpointState) : Prop where
  version : checkpoint.checkpointVersion = "gongsuanyun.artifact-checkpoint.v1"
  taskId : checkpoint.taskId = assignment.taskId
  manifest : checkpoint.artifactManifestSha256 = assignment.artifact.manifestSha256
  total : checkpoint.totalSegments = totalSegments
  summaries : checkpoint.summaries.length = checkpoint.completedSegments
  requestIds : checkpoint.providerRequestIds.length = checkpoint.completedSegments

/-- The variables of the loop of an execution that was not resumed. -/
structure Mapping (assignment : SupplierArtifactAssignment) (totalSegments : Nat)
    (s : MapState) : Prop where
  checkpoint : MapCheckpoint assignment totalSegments s.checkpoint
  index : s.segmentIndex = s.checkpoint.completedSegments

theorem Mapping.mapped {totalSegments : Nat} {s : MapState}
    (h : Mapping assignment totalSegments s) (decoder : TextDecoder) (bytes : List UInt8)
    (result : SupplierProviderResult) (usage : SupplierGatewayUsage) :
    Mapping assignment totalSegments ((s.behind decoder bytes).mapped result usage) := by
  refine ⟨⟨h.checkpoint.version, h.checkpoint.taskId, h.checkpoint.manifest, h.checkpoint.total,
    ?_, ?_⟩, rfl⟩
  · show (s.checkpoint.summaries ++ [result.output]).length = s.segmentIndex + 1
    rw [List.length_append, List.length_singleton, h.checkpoint.summaries, h.index]
  · show (s.checkpoint.providerRequestIds ++ [result.providerRequestId]).length =
      s.segmentIndex + 1
    rw [List.length_append, List.length_singleton, h.checkpoint.requestIds, h.index]

/-- How the loop goes on behind a segment that it maps. -/
theorem mapSegments_step (h : Repeatable surroundings provider) {totalSegments : Nat}
    {bytes : List UInt8} {segments : List (List UInt8)} {s : MapState}
    (hmapping : Mapping assignment totalSegments s) {new : List ExecutorEvent}
    {result : Except ExecutorThrown MapState}
    (hrun : Emits (mapSegments surroundings config assignment totalSegments (bytes :: segments) s)
      new result) :
    (Uncheckpointed new ∧ ∃ error, result = .error error) ∨
      ∃ decoder text next spent rest,
        s.decoder.decode bytes (decide (s.segmentIndex + 1 < totalSegments)) =
          some (decoder, text) ∧
        next.decoder = decoder ∧ next.segmentIndex = s.segmentIndex + 1 ∧
        next.processedBytes = s.processedBytes + bytes.length ∧
        Mapping assignment totalSegments next ∧ Uncheckpointed spent ∧
        new = spent ++ .checkpointed next.checkpoint (progress next.checkpoint) :: rest ∧
        Emits (mapSegments surroundings config assignment totalSegments segments next) rest
          result := by
  rw [mapSegments_cons h] at hrun
  cases hdecode : s.decoder.decode bytes (decide (s.segmentIndex + 1 < totalSegments)) with
  | none =>
      rw [hdecode] at hrun
      rcases hrun.unique (.throw _) with ⟨rfl, rfl⟩
      exact .inl ⟨uncheckpointed_nil, _, rfl⟩
  | some decoded =>
      rcases decoded with ⟨decoder, text⟩
      rw [hdecode] at hrun
      dsimp only at hrun
      have hindex := hmapping.index
      rw [if_neg (by omega)] at hrun
      have hsilent := mapSegment_silent config assignment h totalSegments (s.behind decoder bytes)
        text
      rcases hrun.of_bind hsilent.oblivious (fun next => .bind (saveCheckpoint_oblivious h _)
        fun _ => mapSegments_oblivious config assignment h totalSegments segments next) with
        ⟨error, hfailed, rfl⟩ | ⟨next, spent, rest, hspent, hrest, rfl⟩
      · exact .inl ⟨hsilent.uncheckpointed hfailed, error, rfl⟩
      · rcases hrest.of_bind (saveCheckpoint_oblivious h _)
          (fun _ => mapSegments_oblivious config assignment h totalSegments segments next) with
          ⟨error, hfailed, -⟩ | ⟨_, saved, later, hsaved, hlater, rfl⟩
        · cases (hfailed.unique (saveCheckpoint_emits h _)).2
        · rw [(hsaved.unique (saveCheckpoint_emits h _)).1]
          rcases mapSegment_mapped h hspent with ⟨result, usage, rfl⟩
          exact .inr ⟨decoder, text, _, spent, later, rfl, rfl, rfl, rfl,
            hmapping.mapped decoder bytes result usage, hsilent.uncheckpointed hspent, rfl, hlater⟩

/-- A segment that the checkpoint has is only decoded. -/
theorem mapSegments_skip (h : Repeatable surroundings provider) {totalSegments : Nat}
    {bytes : List UInt8} {segments : List (List UInt8)} {s : MapState} {decoder : TextDecoder}
    {text : String} {new : List ExecutorEvent} {result : Except ExecutorThrown MapState}
    (hdecode : s.decoder.decode bytes (decide (s.segmentIndex + 1 < totalSegments)) =
      some (decoder, text))
    (hskip : s.segmentIndex + 1 ≤ s.checkpoint.completedSegments)
    (hrun : Emits (mapSegments surroundings config assignment totalSegments segments
      (s.behind decoder bytes)) new result) :
    Emits (mapSegments surroundings config assignment totalSegments (bytes :: segments) s) new
      result := by
  rw [mapSegments_cons h, hdecode]
  dsimp only
  rw [if_pos hskip]
  exact hrun

/-- The variables behind a segment depend on the checkpoint only where it is kept. -/
theorem behind_checkpoint {s next : MapState} {decoder : TextDecoder} {bytes : List UInt8}
    (hdecoder : next.decoder = decoder) (hindex : next.segmentIndex = s.segmentIndex + 1)
    (hbytes : next.processedBytes = s.processedBytes + bytes.length)
    {checkpoint : SupplierArtifactCheckpointState} :
    MapState.behind { s with checkpoint } decoder bytes = { next with checkpoint } := by
  rw [← hdecoder]
  unfold MapState.behind
  dsimp only
  rw [← hindex, ← hbytes]

/-- From one of its checkpoints the loop does what it did behind it. -/
theorem mapSegments_resumed (h : Repeatable surroundings provider) {totalSegments : Nat}
    {segments : List (List UInt8)} {s : MapState} (hmapping : Mapping assignment totalSegments s)
    {before after : List ExecutorEvent} {checkpoint : SupplierArtifactCheckpointState}
    {shown : SupplierArtifactProgress} {result : Except ExecutorThrown MapState}
    (hrun : Emits (mapSegments surroundings config assignment totalSegments segments s)
      (before ++ .checkpointed checkpoint shown :: after) result) :
    MapCheckpoint assignment totalSegments checkpoint ∧
      s.segmentIndex < checkpoint.completedSegments ∧
      checkpoint.completedSegments ≤ s.segmentIndex + segments.length ∧
      Emits (mapSegments surroundings config assignment totalSegments segments
        { s with checkpoint }) after result := by
  induction segments generalizing s before with
  | nil =>
      have hnone := (hrun.unique (.pure s)).1
      simp at hnone
  | cons bytes segments ih =>
      rcases mapSegments_step h hmapping hrun with ⟨hnone, -⟩ |
        ⟨decoder, text, next, spent, rest, hdecode, hdecoder, hindex, hbytes, hnext, hspent, hnew,
          hrest⟩
      · exact absurd (List.mem_append_right before List.mem_cons_self) (hnone checkpoint shown)
      · rcases hspent.split hnew.symm with ⟨between, -, hsplit⟩
        cases between with
        | nil =>
            -- the checkpoint is that of this segment
            rw [List.nil_append, List.cons.injEq, ExecutorEvent.checkpointed.injEq] at hsplit
            rcases hsplit with ⟨⟨rfl, -⟩, rfl⟩
            have hcompleted := hnext.index
            refine ⟨hnext.checkpoint, by omega, ?_, ?_⟩
            · rw [List.length_cons]
              omega
            · refine mapSegments_skip h hdecode (by dsimp only; omega) ?_
              rw [behind_checkpoint hdecoder hindex hbytes]
              exact hrest
        | cons first between =>
            -- the checkpoint is that of a later segment
            rw [List.cons_append, List.cons.injEq] at hsplit
            rw [hsplit.2] at hrest
            rcases ih hnext hrest with ⟨hcheckpoint, hlater, hbound, hresumed⟩
            refine ⟨hcheckpoint, by omega, ?_, ?_⟩
            · rw [List.length_cons]
              omega
            · refine mapSegments_skip h hdecode (by dsimp only; omega) ?_
              rw [behind_checkpoint hdecoder hindex hbytes]
              exact hresumed

/-- The loop that comes to its end has mapped every segment.  With a checkpoint that has them
all, it only decodes them. -/
theorem mapSegments_end (h : Repeatable surroundings provider) {totalSegments : Nat}
    {segments : List (List UInt8)} {s last : MapState}
    (hmapping : Mapping assignment totalSegments s) {new : List ExecutorEvent}
    (hrun : Emits (mapSegments surroundings config assignment totalSegments segments s) new
      (.ok last)) :
    Mapping assignment totalSegments last ∧
      last.segmentIndex = s.segmentIndex + segments.length ∧
      ∀ checkpoint : SupplierArtifactCheckpointState,
        s.segmentIndex + segments.length ≤ checkpoint.completedSegments →
          Emits (mapSegments surroundings config assignment totalSegments segments
            { s with checkpoint }) [] (.ok { last with checkpoint }) := by
  induction segments generalizing s new with
  | nil =>
      have hlast := Except.ok.inj (hrun.unique (.pure s)).2
      rw [hlast]
      exact ⟨hmapping, rfl, fun _ _ => .pure _⟩
  | cons bytes segments ih =>
      rcases mapSegments_step h hmapping hrun with ⟨-, error, herror⟩ |
        ⟨decoder, text, next, spent, rest, hdecode, hdecoder, hindex, hbytes, hnext, -, -, hrest⟩
      · cases herror
      · rcases ih hnext hrest with ⟨hlast, hcount, hdecoded⟩
        refine ⟨hlast, ?_, ?_⟩
        · rw [List.length_cons]
          omega
        · intro checkpoint hall
          rw [List.length_cons] at hall
          refine mapSegments_skip h hdecode (by dsimp only; omega) ?_
          rw [behind_checkpoint hdecoder hindex hbytes]
          exact hdecoded checkpoint (by omega)

/-! ## The rounds of the reduction -/

/-- What the rounds leave of a checkpoint. -/
structure Kept (state next : SupplierArtifactCheckpointState) : Prop where
  version : next.checkpointVersion = state.checkpointVersion
  taskId : next.taskId = state.taskId
  manifest : next.artifactManifestSha256 = state.artifactManifestSha256
  total : next.totalSegments = state.totalSegments
  completed : next.completedSegments = state.completedSegments
  requestIds : state.providerRequestIds.length ≤ next.providerRequestIds.length

theorem Kept.refl (state : SupplierArtifactCheckpointState) : Kept state state :=
  ⟨rfl, rfl, rfl, rfl, rfl, Nat.le_refl _⟩

theorem Kept.trans {a b c : SupplierArtifactCheckpointState} (hab : Kept a b) (hbc : Kept b c) :
    Kept a c :=
  ⟨hbc.version.trans hab.version, hbc.taskId.trans hab.taskId, hbc.manifest.trans hab.manifest,
    hbc.total.trans hab.total, hbc.completed.trans hab.completed,
    hab.requestIds.trans hbc.requestIds⟩

theorem reduceGroups_silent (h : Repeatable surroundings provider) (round groups : Nat)
    (rest : List (List String)) (index : Nat) (state : SupplierArtifactCheckpointState)
    (reduced : List String) :
    Silent (reduceGroups surroundings config assignment round groups rest index state reduced) := by
  induction rest generalizing index state reduced with
  | nil => exact .pure _
  | cons summaries rest ih =>
      unfold reduceGroups
      exact .bind (invokeBounded_silent h _ _ _ _) fun _ => .bind (.check _) fun _ => ih _ _ _

/-- A round has one output for each group. -/
theorem reduceGroups_kept (h : Repeatable surroundings provider) {round groups : Nat}
    {rest : List (List String)} {index : Nat} {state : SupplierArtifactCheckpointState}
    {reduced : List String} {new : List ExecutorEvent}
    {last : SupplierArtifactCheckpointState × List String}
    (hrun : Emits (reduceGroups surroundings config assignment round groups rest index state
      reduced) new (.ok last)) :
    Kept state last.1 ∧ last.2.length = reduced.length + rest.length := by
  induction rest generalizing index state reduced new with
  | nil =>
      have hlast := Except.ok.inj (hrun.unique (.pure _)).2
      rw [hlast]
      exact ⟨.refl state, rfl⟩
  | cons summaries rest ih =>
      unfold reduceGroups at hrun
      rcases hrun.of_bind (invokeBounded_silent h _ _ _ _).oblivious
        (fun _ => .bind (Silent.check _).oblivious
          fun _ => (reduceGroups_silent h _ _ _ _ _ _).oblivious) with
        ⟨error, -, herror⟩ | ⟨result, _, _, -, hafter, -⟩
      · cases herror
      · rcases hafter.of_bind (Silent.check _).oblivious
          (fun _ => (reduceGroups_silent h _ _ _ _ _ _).oblivious) with
          ⟨error, -, herror⟩ | ⟨usage, _, _, -, hrest, -⟩
        · cases herror
        · rcases ih hrest with ⟨hkept, hlength⟩
          refine ⟨Kept.trans ?_ hkept, ?_⟩
          · refine ⟨rfl, rfl, rfl, rfl, rfl, ?_⟩
            dsimp only
            rw [List.length_append]
            exact Nat.le_add_right _ _
          · rw [hlength, List.length_append, List.length_singleton, List.length_cons]
            omega

variable (config assignment) in
theorem reduceRounds_oblivious (h : Repeatable surroundings provider) (segmentBytes round : Nat)
    (state : SupplierArtifactCheckpointState) :
    Oblivious (reduceRounds surroundings config assignment segmentBytes round state) := by
  induction hleft : 32 - round generalizing round state with
  | zero =>
      unfold reduceRounds
      have hover : round + 1 > 32 := by omega
      rw [if_pos hover]
      split
      · exact .pure _
      · exact .throw _
  | succ n ih =>
      unfold reduceRounds
      split
      · exact .pure _
      · split
        · exact .throw _
        · exact .bind (Silent.check _).oblivious fun groups =>
            .bind (reduceGroups_silent h _ _ _ _ _ _).oblivious fun reduced =>
              .bind (saveCheckpoint_oblivious h _) fun _ => ih _ _ (by omega)

/-- One summary is reduced. -/
theorem reduceRounds_single {segmentBytes round : Nat} {state : SupplierArtifactCheckpointState}
    (h : state.summaries.length ≤ 1) :
    reduceRounds surroundings config assignment segmentBytes round state = pure state := by
  unfold reduceRounds
  rw [if_pos h]

/-- A round that comes to its end stores a checkpoint with fewer summaries. -/
theorem reduceRounds_step (h : Repeatable surroundings provider) {segmentBytes round : Nat}
    {state : SupplierArtifactCheckpointState} {new : List ExecutorEvent}
    {result : Except ExecutorThrown SupplierArtifactCheckpointState}
    (hrun : Emits (reduceRounds surroundings config assignment segmentBytes round state) new
      result) :
    Uncheckpointed new ∨ ∃ next spent rest, round < 32 ∧ Kept state next ∧
      next.summaries.length < state.summaries.length ∧ Uncheckpointed spent ∧
      new = spent ++ .checkpointed next (progress next) :: rest ∧
      Emits (reduceRounds surroundings config assignment segmentBytes (round + 1) next) rest
        result := by
  unfold reduceRounds at hrun
  split at hrun
  · rw [(hrun.unique (.pure _)).1]
    exact .inl uncheckpointed_nil
  rename_i hmany
  split at hrun
  · rw [(hrun.unique (.throw _)).1]
    exact .inl uncheckpointed_nil
  rename_i hround
  have hlast : ∀ next, Oblivious (saveCheckpoint surroundings next >>= fun _ =>
      reduceRounds surroundings config assignment segmentBytes (round + 1) next) :=
    fun next => .bind (saveCheckpoint_oblivious h next) fun _ =>
      reduceRounds_oblivious config assignment h _ _ _
  rcases hrun.of_bind (Silent.check _).oblivious (fun groups =>
    .bind (reduceGroups_silent h _ _ _ _ _ _).oblivious fun reduced => hlast _) with
    ⟨error, hfailed, -⟩ | ⟨groups, checked, grouped, hgroups, hgrouped, rfl⟩
  · exact .inl ((Silent.check _).uncheckpointed hfailed)
  have hchecked := (Silent.check _).uncheckpointed hgroups
  have hsome := (hgroups.unique (.ask fun _ => rfl)).2
  have hfewer := (groupSummaries_partition hsome.symm).fewer (by omega)
  rcases hgrouped.of_bind (reduceGroups_silent h _ _ _ _ _ _).oblivious (fun reduced => hlast _) with
    ⟨error, hfailed, -⟩ | ⟨reduced, spent, closed, hreduced, hclosed, rfl⟩
  · exact .inl (hchecked.append ((reduceGroups_silent h _ _ _ _ _ _).uncheckpointed hfailed))
  have hspent := (reduceGroups_silent h _ _ _ _ _ _).uncheckpointed hreduced
  rcases reduceGroups_kept h hreduced with ⟨hkept, hlength⟩
  dsimp only at hclosed
  rcases hclosed.of_bind (saveCheckpoint_oblivious h _)
      (fun _ => reduceRounds_oblivious config assignment h _ _ _)
    with ⟨error, hfailed, -⟩ | ⟨_, saved, rest, hsaved, hrest, rfl⟩
  · cases (hfailed.unique (saveCheckpoint_emits h _)).2
  · rw [(hsaved.unique (saveCheckpoint_emits h _)).1]
    refine .inr ⟨_, checked ++ spent, rest, by omega, ?_, ?_, hchecked.append hspent, ?_, hrest⟩
    · exact ⟨hkept.version, hkept.taskId, hkept.manifest, hkept.total, hkept.completed,
        hkept.requestIds⟩
    · dsimp only
      rw [hlength, List.length_nil]
      omega
    · rw [List.append_assoc, List.singleton_append]

/-- The checkpoints of the rounds have fewer and fewer summaries, and none is behind that with
one summary. -/
theorem reduceRounds_reduced (h : Repeatable surroundings provider) {segmentBytes round : Nat}
    {state : SupplierArtifactCheckpointState} {before after : List ExecutorEvent}
    {checkpoint : SupplierArtifactCheckpointState} {shown : SupplierArtifactProgress}
    {result : Except ExecutorThrown SupplierArtifactCheckpointState}
    (hrun : Emits (reduceRounds surroundings config assignment segmentBytes round state)
      (before ++ .checkpointed checkpoint shown :: after) result) :
    Kept state checkpoint ∧ checkpoint.summaries.length < state.summaries.length ∧
      (checkpoint.summaries.length = 1 → after = [] ∧ result = .ok checkpoint) := by
  induction hleft : 32 - round generalizing round state before with
  | zero =>
      rcases reduceRounds_step h hrun with hnone | ⟨next, spent, rest, hround, -⟩
      · exact absurd (List.mem_append_right before List.mem_cons_self) (hnone checkpoint shown)
      · omega
  | succ n ih =>
      rcases reduceRounds_step h hrun with hnone |
        ⟨next, spent, rest, hround, hkept, hfewer, hspent, hnew, hrest⟩
      · exact absurd (List.mem_append_right before List.mem_cons_self) (hnone checkpoint shown)
      · rcases hspent.split hnew.symm with ⟨between, -, hsplit⟩
        cases between with
        | nil =>
            rw [List.nil_append, List.cons.injEq, ExecutorEvent.checkpointed.injEq] at hsplit
            rcases hsplit with ⟨⟨rfl, -⟩, rfl⟩
            refine ⟨hkept, hfewer, fun hone => ?_⟩
            rw [reduceRounds_single (by omega)] at hrest
            exact hrest.unique (.pure _)
        | cons first between =>
            rw [List.cons_append, List.cons.injEq] at hsplit
            rw [hsplit.2] at hrest
            rcases ih hrest (by omega) with ⟨hlater, hless, hdone⟩
            exact ⟨hkept.trans hlater, by omega, hdone⟩

/-! ## The parts of an execution -/

/-- How the mapping ends behind its loop. -/
def mapEnd (run : SegmentRun) (s : MapState) : Except ExecutorThrown MapState :=
  match run.outcome with
  | .error error => .error (.other (.node error))
  | .ok () =>
      match s.decoder.decode [] false with
      | none => .error .typeError
      | some _ => .ok s

theorem mapArtifact_emits {totalSegments : Nat} {run : SegmentRun}
    {checkpoint : SupplierArtifactCheckpointState} {new : List ExecutorEvent}
    {result : Except ExecutorThrown MapState}
    (h : Emits (mapSegments surroundings config assignment totalSegments run.segments
      ⟨checkpoint, .initial, 0, 0⟩) new result) :
    Emits (mapArtifact surroundings config assignment totalSegments run checkpoint) new
      (result.bind (mapEnd run)) := by
  unfold mapArtifact
  cases result with
  | error error => exact h.bind_error
  | ok s =>
      rw [← List.append_nil new]
      refine h.bind ?_
      unfold Except.bind mapEnd
      dsimp only
      cases run.outcome with
      | error error => exact .throw _
      | ok _ =>
          dsimp only
          cases s.decoder.decode [] false with
          | none => exact .throw _
          | some _ => exact .pure _

/-- The last part of an execution. -/
def concluding (surroundings : ExecutorSurroundings) (config : ArtifactNodeConfig)
    (assignment : SupplierArtifactAssignment) (run : SegmentRun) (totalSegments : Nat)
    (final : SupplierArtifactCheckpointState) : Execution SupplierArtifactExecutionResult := do
  let output := final.summaries.headD ""
  failIf (utf16Length output < 1 ∨ utf16Length output > 200000)
    (nodeError .UPSTREAM_RESPONSE_INVALID "文件任务最终输出超过安全边界。" 502)
  let log ← get
  return executionResult surroundings config assignment run totalSegments final output
    (surroundings.nowMs log)

/-- The part of an execution behind the mapping. -/
def afterMapping (surroundings : ExecutorSurroundings) (config : ArtifactNodeConfig)
    (assignment : SupplierArtifactAssignment) (size : SegmentSize) (run : SegmentRun)
    (totalSegments : Nat) (mapped : MapState) : Execution SupplierArtifactExecutionResult := do
  failIf (mapped.segmentIndex ≠ totalSegments ∨
      mapped.processedBytes ≠ assignment.artifact.sizeBytes)
    (nodeError .INVALID_REQUEST "文件分块没有覆盖声明的完整大小。" 422)
  failIf (mapped.checkpoint.completedSegments ≠ totalSegments ∨
      mapped.checkpoint.summaries.length < 1)
    (nodeError .INTERNAL_ERROR "文件任务检查点与分段状态不一致。" 500)
  let final ← reduceRounds surroundings config assignment size.bytes 0 mapped.checkpoint
  concluding surroundings config assignment run totalSegments final

theorem check_bind {α β : Type} {result : Except ExecutorThrown α} {a : α}
    (h : result = .ok a) (next : α → Execution β) : (check result >>= next) = next a := by
  rw [h]
  rfl

/-- An execution that passes its first checks. -/
theorem execute_prepared {chunks : List SupplierArtifactChunk}
    {checkpoint : Option SupplierArtifactCheckpointState} {size : SegmentSize}
    {state : SupplierArtifactCheckpointState}
    (hvalid : validateAssignment assignment config = .ok ())
    (hsize : segmentSize config assignment = .ok size)
    (hstate : initialState assignment checkpoint
      (sliceCount size.bytes assignment.artifact.sizeBytes) = .ok state) :
    execute surroundings config assignment chunks checkpoint =
      MonadExcept.tryCatch (mapArtifact surroundings config assignment
          (sliceCount size.bytes assignment.artifact.sizeBytes)
          (byteSegments surroundings.sha256Hex assignment.artifact size chunks) state)
        (fun error => MonadExcept.throw (invalidText error)) >>=
      afterMapping surroundings config assignment size
        (byteSegments surroundings.sha256Hex assignment.artifact size chunks)
        (sliceCount size.bytes assignment.artifact.sizeBytes) := by
  unfold execute
  rw [check_bind hvalid, check_bind hsize]
  dsimp only
  rw [check_bind hstate]
  rfl

/-- An execution that does not pass its first checks does nothing. -/
theorem execute_unprepared {chunks : List SupplierArtifactChunk}
    (h : ¬ ∃ size, validateAssignment assignment config = .ok () ∧
      segmentSize config assignment = .ok size) :
    finalState (execute surroundings config assignment chunks none) [] = [] := by
  unfold execute
  cases hvalid : validateAssignment assignment config with
  | error error => rfl
  | ok _ =>
      cases hsize : segmentSize config assignment with
      | error error => rfl
      | ok size => exact absurd ⟨size, hvalid, hsize⟩ h

/-! ## The checkpoint of a resumed execution -/

theorem sliceCount_mono {n a b : Nat} (h : a ≤ b) : sliceCount n a ≤ sliceCount n b := by
  unfold sliceCount
  apply Nat.div_le_div_right
  omega

/-- Full slices count as such. -/
theorem sliceCount_full {n : Nat} (hn : 0 < n) (l : List UInt8) (more : Nat) :
    (fullSlices n l).length + sliceCount n ((remainder n l).length + more) =
      sliceCount n (l.length + more) := by
  have hdiv := Nat.div_add_mod l.length n
  have hsum : l.length + more + n - 1 =
      ((remainder n l).length + more + n - 1) + n * (l.length / n) := by
    rw [remainder_length]
    omega
  unfold sliceCount
  rw [hsum, Nat.add_mul_div_left _ _ hn, Nat.add_comm]
  simp only [fullSlices, List.length_map, List.length_range]

/-- There are no more segments than the manifest has slices. -/
theorem byteSegmentsFrom_count (sha256Hex : List UInt8 → String) (artifact : AssignedArtifact)
    (size : SegmentSize) (s : SegmentState) (chunks : List SupplierArtifactChunk) :
    (byteSegmentsFrom sha256Hex artifact size s chunks).segments.length ≤
      sliceCount size.bytes (s.pending.length + describedBytes artifact s.expectedIndex) := by
  induction chunks generalizing s with
  | nil =>
      unfold byteSegmentsFrom
      split
      · exact Nat.zero_le _
      · dsimp only
        split
        · rename_i hpending
          have hone : sliceCount size.bytes 1 ≤
              sliceCount size.bytes (s.pending.length + describedBytes artifact s.expectedIndex) :=
            sliceCount_mono (by omega)
          have hsingle : sliceCount size.bytes 1 = 1 := by
            unfold sliceCount
            rw [Nat.add_sub_cancel_left, Nat.div_self size.bytes_pos]
          rw [List.length_singleton]
          omega
        · exact Nat.zero_le _
  | cons incoming chunks ih =>
      unfold byteSegmentsFrom
      cases hcheck : checkChunk sha256Hex artifact.chunks[s.expectedIndex]? incoming with
      | error error => exact Nat.zero_le _
      | ok _ =>
          rcases checkChunk_eq_ok.mp hcheck with ⟨d, hd, hdescribes⟩
          rw [describedBytes_of_getElem? hd, ← hdescribes.size]
          simp only [drainSegments_eq]
          have hrest := ih
            { expectedIndex := s.expectedIndex + 1
              pending := remainder size.bytes (s.pending ++ incoming.bytes)
              total := s.total + incoming.bytes.length }
          have hall := sliceCount_full size.bytes_pos (s.pending ++ incoming.bytes)
            (describedBytes artifact (s.expectedIndex + 1))
          rw [List.length_append, Nat.add_assoc] at hall
          rw [List.length_append]
          dsimp only at hrest
          omega

/-- The limits of an admitted assignment bound its segments. -/
theorem totalSegments_le {size : SegmentSize}
    (hvalid : validateAssignment assignment config = .ok ())
    (hsize : segmentSize config assignment = .ok size) :
    sliceCount size.bytes assignment.artifact.sizeBytes ≤ 100000 := by
  have hbytes : 16384 ≤ size.bytes := by
    unfold segmentSize at hsize
    dsimp only at hsize
    split at hsize
    · cases hsize
    · rw [← Except.ok.inj hsize]
      dsimp only
      omega
  have hlimit : assignment.artifact.sizeBytes ≤ 268435456 :=
    (validateAssignment_eq_ok hvalid).size.trans config.maxArtifactBytes_le
  rw [sliceCount_eq size.bytes_pos]
  have hdiv : assignment.artifact.sizeBytes / size.bytes ≤ 268435456 / 16384 :=
    Nat.div_le_div hlimit hbytes (by omega)
  split
  · omega
  · omega

/-- The checkpoints a resumed execution accepts. -/
theorem initialState_resumed {totalSegments : Nat}
    {checkpoint : SupplierArtifactCheckpointState} (leaseToken : String)
    (hversion : checkpoint.checkpointVersion = "gongsuanyun.artifact-checkpoint.v1")
    (htask : checkpoint.taskId = assignment.taskId)
    (hmanifest : checkpoint.artifactManifestSha256 = assignment.artifact.manifestSha256)
    (htotal : checkpoint.totalSegments = totalSegments)
    (hpos : 0 < checkpoint.completedSegments) (hle : checkpoint.completedSegments ≤ totalSegments)
    (hsome : 1 ≤ checkpoint.summaries.length) (hmany : checkpoint.summaries.length ≤ 100000)
    (hids : checkpoint.completedSegments ≤ checkpoint.providerRequestIds.length) :
    initialState (assignment.resumed checkpoint.completedSegments leaseToken) (some checkpoint)
      totalSegments = .ok checkpoint := by
  unfold initialState SupplierArtifactAssignment.resumed
  dsimp only
  rw [if_neg (by omega), if_neg]
  simp only [hversion, htask, hmanifest, htotal, ne_eq, not_true_eq_false, false_or]
  omega

/-! ## The two executions -/

/-- Two results that differ at most in the time of completion and what is made of it. -/
def AlikeResults (first second : SupplierArtifactExecutionResult) : Prop :=
  second.output = first.output ∧ second.usage = first.usage ∧
    second.checkpoint = first.checkpoint ∧
    second.executionEvidence =
      { first.executionEvidence with completedAt := second.executionEvidence.completedAt }

def Alike :
    Except ExecutorThrown SupplierArtifactExecutionResult →
      Except ExecutorThrown SupplierArtifactExecutionResult → Prop
  | .ok first, .ok second => AlikeResults first second
  | .error first, .error second => second = first
  | _, _ => False

/-- What a run adds to its log, and how it ends. -/
def Ends {α : Type} (program : Execution α) (log new : List ExecutorEvent)
    (result : Except ExecutorThrown α) : Prop :=
  finalState program log = log ++ new ∧ outcome program log = result

theorem Ends.of_emits {α : Type} {program : Execution α} {new : List ExecutorEvent}
    {result : Except ExecutorThrown α} (h : Emits program new result)
    (log : List ExecutorEvent) : Ends program log new result := by
  unfold Ends finalState outcome
  rw [h log]
  cases result with
  | ok a => exact ⟨rfl, rfl⟩
  | error e => exact ⟨rfl, rfl⟩

theorem Ends.bind {α β : Type} {program : Execution α} {next : α → Execution β} {a : α}
    {log new new' : List ExecutorEvent} {result : Except ExecutorThrown β}
    (h : Emits program new (.ok a)) (hnext : Ends (next a) (log ++ new) new' result) :
    Ends (program >>= next) log (new ++ new') result := by
  have hrun : (program >>= next) log = next a (log ++ new) := by
    show EStateM.bind program next log = _
    unfold EStateM.bind
    rw [h log]
  rcases hnext with ⟨hfinal, houtcome⟩
  unfold Ends finalState outcome at *
  rw [hrun, ← List.append_assoc]
  exact ⟨hfinal, houtcome⟩

theorem Ends.failIf_pos {β : Type} {condition : Prop} [Decidable condition]
    {error : ExecutorThrown} {next : Unit → Execution β} (h : condition)
    (log : List ExecutorEvent) : Ends (failIf condition error >>= next) log [] (.error error) :=
  .of_emits (Emits.failIf_pos h).bind_error log

theorem Ends.failIf_neg {β : Type} {condition : Prop} [Decidable condition]
    {error : ExecutorThrown} {next : Unit → Execution β} {log new : List ExecutorEvent}
    {result : Except ExecutorThrown β} (h : ¬ condition) (hnext : Ends (next ()) log new result) :
    Ends (failIf condition error >>= next) log new result := by
  have hbehind : Ends (next ()) (log ++ []) new result := by
    rw [List.append_nil]
    exact hnext
  exact Ends.bind (Emits.failIf_neg h) hbehind

variable (config assignment) in
theorem concluding_ends (hsha : surroundings'.sha256Hex = surroundings.sha256Hex)
    (segment : Nat) (leaseToken : String) (run : SegmentRun) (totalSegments : Nat)
    (final : SupplierArtifactCheckpointState) (log log' : List ExecutorEvent) :
    ∃ first second,
      Ends (concluding surroundings config assignment run totalSegments final) log [] first ∧
      Ends (concluding surroundings' config (assignment.resumed segment leaseToken) run
        totalSegments final) log' [] second ∧
      Alike first second := by
  unfold concluding
  dsimp only
  by_cases hbad : utf16Length (final.summaries.headD "") < 1 ∨
      utf16Length (final.summaries.headD "") > 200000
  · exact ⟨_, _, .failIf_pos hbad log, .failIf_pos hbad log', rfl⟩
  · refine ⟨.ok (executionResult surroundings config assignment run totalSegments final
        (final.summaries.headD "") (surroundings.nowMs log)),
      .ok (executionResult surroundings' config (assignment.resumed segment leaseToken) run
        totalSegments final (final.summaries.headD "") (surroundings'.nowMs log')),
      .failIf_neg hbad ⟨?_, rfl⟩, .failIf_neg hbad ⟨?_, rfl⟩, rfl, rfl, rfl, ?_⟩
    · exact (List.append_nil log).symm
    · exact (List.append_nil log').symm
    · unfold executionResult
      dsimp only
      rw [hsha]
      rfl

/-- Behind the mapping two executions end alike when their rounds do. -/
theorem afterMapping_ends (hsha : surroundings'.sha256Hex = surroundings.sha256Hex)
    (h : Repeatable surroundings provider) (h' : Repeatable surroundings' provider)
    (segment : Nat) (leaseToken : String) {size : SegmentSize} (run : SegmentRun)
    (totalSegments : Nat) {first second : MapState}
    (hindex : second.segmentIndex = first.segmentIndex)
    (hbytes : second.processedBytes = first.processedBytes)
    (hcompleted : second.checkpoint.completedSegments = first.checkpoint.completedSegments)
    (hsome : second.checkpoint.summaries.length < 1 ↔ first.checkpoint.summaries.length < 1)
    {new new' : List ExecutorEvent}
    {result : Except ExecutorThrown SupplierArtifactCheckpointState}
    (hfirst : Emits (reduceRounds surroundings config assignment size.bytes 0 first.checkpoint)
      new result)
    (hsecond : Emits (reduceRounds surroundings config assignment size.bytes 0 second.checkpoint)
      new' result) (log log' : List ExecutorEvent) :
    ∃ added added' outcome outcome',
      Ends (afterMapping surroundings config assignment size run totalSegments first) log added
        outcome ∧
      Ends (afterMapping surroundings' config (assignment.resumed segment leaseToken) size run
        totalSegments second) log' added' outcome' ∧
      Alike outcome outcome' ∧
      ((added = [] ∧ added' = []) ∨ (added = new ∧ added' = new' ∧
        first.segmentIndex = totalSegments ∧
        first.checkpoint.completedSegments = totalSegments)) := by
  unfold afterMapping
  by_cases hcovered : first.segmentIndex ≠ totalSegments ∨
      first.processedBytes ≠ assignment.artifact.sizeBytes
  · have hcovered' : second.segmentIndex ≠ totalSegments ∨ second.processedBytes ≠
        (assignment.resumed segment leaseToken).artifact.sizeBytes := by
      rw [hindex, hbytes]
      exact hcovered
    exact ⟨[], [], _, _, .failIf_pos hcovered log, .failIf_pos hcovered' log', rfl,
      .inl ⟨rfl, rfl⟩⟩
  have hcovered' : ¬ (second.segmentIndex ≠ totalSegments ∨ second.processedBytes ≠
      (assignment.resumed segment leaseToken).artifact.sizeBytes) := by
    rw [hindex, hbytes]
    exact hcovered
  by_cases hstate : first.checkpoint.completedSegments ≠ totalSegments ∨
      first.checkpoint.summaries.length < 1
  · have hstate' : second.checkpoint.completedSegments ≠ totalSegments ∨
        second.checkpoint.summaries.length < 1 := by
      rw [hcompleted, hsome]
      exact hstate
    exact ⟨[], [], _, _, .failIf_neg hcovered (.failIf_pos hstate log),
      .failIf_neg hcovered' (.failIf_pos hstate' log'), rfl, .inl ⟨rfl, rfl⟩⟩
  have hstate' : ¬ (second.checkpoint.completedSegments ≠ totalSegments ∨
      second.checkpoint.summaries.length < 1) := by
    rw [hcompleted, hsome]
    exact hstate
  have hindex' : first.segmentIndex = totalSegments := by
    by_contra hne
    exact hcovered (.inl hne)
  have hcompleted' : first.checkpoint.completedSegments = totalSegments := by
    by_contra hne
    exact hstate (.inl hne)
  have hsecond' : Emits (reduceRounds surroundings' config (assignment.resumed segment leaseToken)
      size.bytes 0 second.checkpoint) new' result := by
    rw [reduceRounds_same h h']
    exact hsecond
  cases result with
  | error error =>
      exact ⟨new, new', _, _,
        .failIf_neg hcovered (.failIf_neg hstate (.of_emits hfirst.bind_error log)),
        .failIf_neg hcovered' (.failIf_neg hstate' (.of_emits hsecond'.bind_error log')), rfl,
        .inr ⟨rfl, rfl, hindex', hcompleted'⟩⟩
  | ok final =>
      rcases concluding_ends config assignment hsha segment leaseToken run totalSegments
        final (log ++ new) (log' ++ new') with
        ⟨outcome, outcome', hends, hends', halike⟩
      refine ⟨new ++ [], new' ++ [], outcome, outcome',
        .failIf_neg hcovered (.failIf_neg hstate (.bind hfirst hends)),
        .failIf_neg hcovered' (.failIf_neg hstate' (.bind hsecond' hends')), halike, ?_⟩
      rw [List.append_nil, List.append_nil]
      exact .inr ⟨rfl, rfl, hindex', hcompleted'⟩

theorem Ends.unique {α : Type} {program : Execution α} {log new new' : List ExecutorEvent}
    {result result' : Except ExecutorThrown α} (h : Ends program log new result)
    (h' : Ends program log new' result') : new = new' ∧ result = result' :=
  ⟨List.append_cancel_left (h.1.symm.trans h'.1), h.2.symm.trans h'.2⟩

/-- The variables in front of the first segment. -/
def MapState.starting (checkpoint : SupplierArtifactCheckpointState) : MapState :=
  ⟨checkpoint, .initial, 0, 0⟩

section Prepared

variable {chunks : List SupplierArtifactChunk} {stored : Option SupplierArtifactCheckpointState}
  {size : SegmentSize} {state : SupplierArtifactCheckpointState} {run : SegmentRun}
  {totalSegments : Nat} {new : List ExecutorEvent} {result : Except ExecutorThrown MapState}

/-- An execution whose mapping fails. -/
theorem execute_ends_error (hvalid : validateAssignment assignment config = .ok ())
    (hsize : segmentSize config assignment = .ok size)
    (htotal : sliceCount size.bytes assignment.artifact.sizeBytes = totalSegments)
    (hrun : byteSegments surroundings.sha256Hex assignment.artifact size chunks = run)
    (hstate : initialState assignment stored totalSegments = .ok state)
    (hmap : Emits (mapSegments surroundings config assignment totalSegments run.segments
      (.starting state)) new result) {error : ExecutorThrown}
    (hresult : result.bind (mapEnd run) = .error error) :
    Ends (execute surroundings config assignment chunks stored) [] new
      (.error (invalidText error)) := by
  rw [← htotal] at hstate
  rw [execute_prepared hvalid hsize hstate, htotal, hrun]
  have hmapped := (mapArtifact_emits hmap).tryCatch_throw (f := invalidText)
  rw [hresult] at hmapped
  exact .of_emits hmapped.bind_error []

/-- An execution that goes on behind its mapping. -/
theorem execute_ends_ok (hvalid : validateAssignment assignment config = .ok ())
    (hsize : segmentSize config assignment = .ok size)
    (htotal : sliceCount size.bytes assignment.artifact.sizeBytes = totalSegments)
    (hrun : byteSegments surroundings.sha256Hex assignment.artifact size chunks = run)
    (hstate : initialState assignment stored totalSegments = .ok state)
    (hmap : Emits (mapSegments surroundings config assignment totalSegments run.segments
      (.starting state)) new result) {mapped : MapState}
    (hresult : result.bind (mapEnd run) = .ok mapped) {added : List ExecutorEvent}
    {outcome : Except ExecutorThrown SupplierArtifactExecutionResult}
    (hafter : Ends (afterMapping surroundings config assignment size run totalSegments mapped) new
      added outcome) :
    Ends (execute surroundings config assignment chunks stored) [] (new ++ added) outcome := by
  rw [← htotal] at hstate
  rw [execute_prepared hvalid hsize hstate, htotal, hrun]
  have hmapped := (mapArtifact_emits hmap).tryCatch_throw (f := invalidText)
  rw [hresult] at hmapped
  exact .bind hmapped hafter

end Prepared

/-- The mapping that ends well is that of the loop. -/
theorem bind_mapEnd_eq_ok {run : SegmentRun} {result : Except ExecutorThrown MapState}
    {mapped : MapState} (h : result.bind (mapEnd run) = .ok mapped) :
    result = .ok mapped ∧ ∀ checkpoint, (Except.ok { mapped with checkpoint }).bind (mapEnd run) =
      .ok { mapped with checkpoint } := by
  cases result with
  | error error => cases h
  | ok s =>
      unfold Except.bind mapEnd at h
      dsimp only at h
      split at h
      · cases h
      · rename_i houtcome
        split at h
        · cases h
        · rename_i hdecode
          cases h
          refine ⟨rfl, fun checkpoint => ?_⟩
          unfold Except.bind mapEnd
          dsimp only
          rw [houtcome, hdecode]

theorem mapping_starting (totalSegments : Nat) {state : SupplierArtifactCheckpointState}
    (h : initialState assignment none totalSegments = .ok state) :
    Mapping assignment totalSegments (.starting state) := by
  cases h
  exact ⟨⟨rfl, rfl, rfl, rfl, rfl, rfl⟩, rfl⟩

section Resumed

variable {chunks : List SupplierArtifactChunk} {size : SegmentSize} {run : SegmentRun}
  {totalSegments : Nat} {state checkpoint : SupplierArtifactCheckpointState}
  {mapResult : Except ExecutorThrown MapState}

variable (h : Repeatable surroundings provider) (h' : Repeatable surroundings' provider)
  (hsha : surroundings'.sha256Hex = surroundings.sha256Hex)
  (hvalid : validateAssignment assignment config = .ok ())
  (hsize : segmentSize config assignment = .ok size)
  (htotal : sliceCount size.bytes assignment.artifact.sizeBytes = totalSegments)
  (hrun : byteSegments surroundings.sha256Hex assignment.artifact size chunks = run)
  (hstate : initialState assignment none totalSegments = .ok state) (leaseToken : String)

include h h' hsha hvalid hsize htotal hrun hstate

/-- From a checkpoint of a segment. -/
theorem resumed_from_segment {before rest : List ExecutorEvent} {shown : SupplierArtifactProgress}
    (hmap : Emits (mapSegments surroundings config assignment totalSegments run.segments
      (.starting state)) (before ++ .checkpointed checkpoint shown :: rest) mapResult) :
    ∃ added first second,
      Ends (execute surroundings config assignment chunks none) []
        (before ++ .checkpointed checkpoint shown :: rest ++ added) first ∧
      Ends (execute surroundings' config
        (assignment.resumed checkpoint.completedSegments leaseToken) chunks (some checkpoint)) []
        (rest ++ added) second ∧
      Alike first second := by
  rcases mapSegments_resumed h (mapping_starting totalSegments hstate) hmap with
    ⟨hmapped, hpos, hbound, hresumed⟩
  have hstart : (MapState.starting state).segmentIndex = 0 := rfl
  have hcount : run.segments.length ≤ totalSegments := by
    have hsegments := byteSegmentsFrom_count surroundings.sha256Hex assignment.artifact size
      .initial chunks
    have hdeclared : describedBytes assignment.artifact SegmentState.initial.expectedIndex =
        assignment.artifact.sizeBytes := (validateAssignment_eq_ok hvalid).declared
    have hpending : SegmentState.initial.pending.length = 0 := rfl
    rw [hdeclared, hpending, Nat.zero_add] at hsegments
    rw [← hrun, ← htotal]
    exact hsegments
  have hlimit := totalSegments_le hvalid hsize
  rw [htotal] at hlimit
  have hsummaries := hmapped.summaries
  have haccepted := initialState_resumed leaseToken hmapped.version hmapped.taskId
    hmapped.manifest hmapped.total (by omega) (by omega) (by omega) (by omega)
    (le_of_eq hmapped.requestIds.symm)
  have hrun' : byteSegments surroundings'.sha256Hex (assignment.resumed
      checkpoint.completedSegments leaseToken).artifact size chunks = run := by
    rw [hsha]
    exact hrun
  have hmap' : Emits (mapSegments surroundings' config (assignment.resumed
      checkpoint.completedSegments leaseToken) totalSegments run.segments
      (.starting checkpoint)) rest mapResult := by
    rw [mapSegments_same h h']
    exact hresumed
  have hvalid' : validateAssignment (assignment.resumed checkpoint.completedSegments leaseToken)
      config = .ok () := hvalid
  have hsize' : segmentSize config
      (assignment.resumed checkpoint.completedSegments leaseToken) = .ok size := hsize
  cases hresult : mapResult.bind (mapEnd run) with
  | error error =>
      have hfirst := execute_ends_error hvalid hsize htotal hrun hstate hmap hresult
      have hsecond := execute_ends_error hvalid' hsize' htotal hrun' haccepted hmap' hresult
      refine ⟨[], .error (invalidText error), .error (invalidText error), ?_, ?_, rfl⟩
      · rw [List.append_nil]
        exact hfirst
      · rw [List.append_nil]
        exact hsecond
  | ok mapped =>
      rcases reduceRounds_oblivious config assignment h size.bytes 0 mapped.checkpoint with
        ⟨reduced, result, hreduced⟩
      rcases afterMapping_ends hsha h h' checkpoint.completedSegments leaseToken run totalSegments
        rfl rfl rfl Iff.rfl hreduced hreduced
        (before ++ .checkpointed checkpoint shown :: rest) rest with
        ⟨added, added', first, second, hfirst, hsecond, halike, hadded⟩
      have hsame : added' = added := by
        rcases hadded with ⟨rfl, rfl⟩ | ⟨rfl, rfl, -⟩
        · rfl
        · rfl
      rw [hsame] at hsecond
      exact ⟨added, first, second,
        execute_ends_ok hvalid hsize htotal hrun hstate hmap hresult hfirst,
        execute_ends_ok hvalid' hsize' htotal hrun' haccepted hmap' hresult hsecond, halike⟩

/-- From the last checkpoint of the reduction. -/
theorem resumed_from_reduction {new before rest : List ExecutorEvent} {mapped : MapState}
    {shown : SupplierArtifactProgress}
    {result : Except ExecutorThrown SupplierArtifactCheckpointState}
    (hmap : Emits (mapSegments surroundings config assignment totalSegments run.segments
      (.starting state)) new mapResult) (hresult : mapResult.bind (mapEnd run) = .ok mapped)
    (hreduced : Emits (reduceRounds surroundings config assignment size.bytes 0 mapped.checkpoint)
      (before ++ .checkpointed checkpoint shown :: rest) result)
    (hindex : mapped.segmentIndex = totalSegments)
    (hcheckpoint : checkpoint.summaries.length = checkpoint.completedSegments ∨
      checkpoint.summaries.length = 1) :
    rest = [] ∧ ∃ first second added,
      Ends (execute surroundings config assignment chunks none) [] (new ++ added) first ∧
      Ends (execute surroundings' config
        (assignment.resumed checkpoint.completedSegments leaseToken) chunks (some checkpoint)) []
        [] second ∧
      Alike first second := by
  rcases reduceRounds_reduced h hreduced with ⟨hkept, hfewer, hlast⟩
  rcases bind_mapEnd_eq_ok hresult with ⟨rfl, hend⟩
  rcases mapSegments_end h (mapping_starting totalSegments hstate) hmap with
    ⟨hmapping, hcount, hskipped⟩
  have hsummaries := hmapping.checkpoint.summaries
  have hids := hmapping.checkpoint.requestIds
  have hmore := hkept.requestIds
  have hcompleted := hkept.completed
  have hmapped := hmapping.index
  have hone : checkpoint.summaries.length = 1 := by
    rcases hcheckpoint with hall | hone
    · omega
    · exact hone
  rcases hlast hone with ⟨hnone, hdone⟩
  have haccepted := initialState_resumed leaseToken
    (hkept.version.trans hmapping.checkpoint.version)
    (hkept.taskId.trans hmapping.checkpoint.taskId)
    (hkept.manifest.trans hmapping.checkpoint.manifest)
    (hkept.total.trans hmapping.checkpoint.total) (by omega) (by omega) (by omega) (by omega)
    (by omega)
  have hrun' : byteSegments surroundings'.sha256Hex (assignment.resumed
      checkpoint.completedSegments leaseToken).artifact size chunks = run := by
    rw [hsha]
    exact hrun
  have hmap' : Emits (mapSegments surroundings' config (assignment.resumed
      checkpoint.completedSegments leaseToken) totalSegments run.segments
      (.starting checkpoint)) [] (.ok { mapped with checkpoint }) := by
    rw [mapSegments_same h h']
    exact hskipped checkpoint (by omega)
  have hvalid' : validateAssignment (assignment.resumed checkpoint.completedSegments leaseToken)
      config = .ok () := hvalid
  have hsize' : segmentSize config
      (assignment.resumed checkpoint.completedSegments leaseToken) = .ok size := hsize
  have hreduced' : Emits (reduceRounds surroundings config assignment size.bytes 0 checkpoint) []
      result := by
    rw [reduceRounds_single (by omega), hdone]
    exact .pure _
  have hsome : checkpoint.summaries.length < 1 ↔ mapped.checkpoint.summaries.length < 1 := by
    omega
  have hsameIndex : ({ mapped with checkpoint } : MapState).segmentIndex = mapped.segmentIndex :=
    rfl
  have hsameBytes : ({ mapped with checkpoint } : MapState).processedBytes =
      mapped.processedBytes := rfl
  rcases afterMapping_ends hsha h h' checkpoint.completedSegments leaseToken run totalSegments
    hsameIndex hsameBytes hcompleted hsome hreduced hreduced' new [] with
    ⟨added, added', first, second, hfirst, hsecond, halike, hadded⟩
  have hnothing : added' = [] := by
    rcases hadded with ⟨-, rfl⟩ | ⟨-, rfl, -⟩
    · rfl
    · rfl
  rw [hnothing] at hsecond
  exact ⟨hnone, first, second, added,
    execute_ends_ok hvalid hsize htotal hrun hstate hmap hresult hfirst,
    execute_ends_ok hvalid' hsize' htotal hrun' haccepted hmap' (hend checkpoint) hsecond, halike⟩

omit h' hsha in
/-- What an execution adds behind its mapping are the events of the rounds. -/
theorem execute_split {new : List ExecutorEvent}
    (hmap : Emits (mapSegments surroundings config assignment totalSegments run.segments
      (.starting state)) new mapResult) :
    ∃ added result, Ends (execute surroundings config assignment chunks none) [] (new ++ added)
        result ∧
      (added = [] ∨ ∃ mapped reduced, mapResult.bind (mapEnd run) = .ok mapped ∧
        Emits (reduceRounds surroundings config assignment size.bytes 0 mapped.checkpoint) added
          reduced ∧
        mapped.segmentIndex = totalSegments) := by
  cases hresult : mapResult.bind (mapEnd run) with
  | error error =>
      refine ⟨[], .error (invalidText error), ?_, .inl rfl⟩
      rw [List.append_nil]
      exact execute_ends_error hvalid hsize htotal hrun hstate hmap hresult
  | ok mapped =>
      rcases reduceRounds_oblivious config assignment h size.bytes 0 mapped.checkpoint with
        ⟨added, reduced, hreduced⟩
      rcases afterMapping_ends rfl h h 0 "" run totalSegments rfl rfl rfl Iff.rfl hreduced
        hreduced new [] with ⟨found, _, result, _, hends, -, -, hfound⟩
      refine ⟨found, result, execute_ends_ok hvalid hsize htotal hrun hstate hmap hresult hends, ?_⟩
      rcases hfound with ⟨rfl, -⟩ | ⟨rfl, -, hindex, -⟩
      · exact .inl rfl
      · exact .inr ⟨mapped, reduced, rfl, hreduced, hindex⟩

end Resumed

/-- The checkpoint of the only segment of the sample. -/
def sampleMapCheckpoint : SupplierArtifactCheckpointState where
  checkpointVersion := "gongsuanyun.artifact-checkpoint.v1"
  taskId := "task-0001"
  artifactManifestSha256 := sampleAssignment.artifact.manifestSha256
  completedSegments := 1
  totalSegments := 1
  processedBytes := 3
  summaries := ["摘要"]
  providerRequestIds := ["request-1"]
  usage := ⟨10, 5, 15⟩

end ArtifactExecutor

end SupplierNode
end TokenStreaming
