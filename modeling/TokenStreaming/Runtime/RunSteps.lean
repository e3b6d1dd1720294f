import TokenStreaming.Runtime.AgentPhase

/-!
# Runtime - What the parts of a run do

For each part of a run the effects it leaves in the trace, behind a return and behind a throw.
Everything that holds of the traces of runs is read off these descriptions.

Main results:

- Theorem {lit}`requirePermission_spec`: a permission is granted by the policy or by an approval.
- Theorem {lit}`handlePatchProposal_spec`: the effects of a patch, applied or stopped.
- Theorem {lit}`runVerification_spec`: the effects of a pass over the verification commands.
-/

namespace TokenStreaming
namespace Runtime

open Core Effects
open Tools (PatchProposal ProposedFilePatch)

variable {platform : RunPlatform} {s : Surroundings} {config : RuntimeConfig}
  {options : RunTaskOptions} {state : RunState}

/-! ## One event -/

/-- Between two states the run itself has left new effects, with no agent at work. -/
structure Moved (state : RunState) (new : Trace) (state' : RunState) : Prop where
  trace : state'.trace = state.trace ++ new
  agents : state'.agents = state.agents
  agentFailure : state'.agentFailure = state.agentFailure
  applied : state'.appliedFiles = state.appliedFiles
  reviewRecorded : state'.reviewRecorded = state.reviewRecorded
  results : state'.verificationResults = state.verificationResults

theorem Moved.refl (state : RunState) : Moved state [] state := by
  refine ⟨?_, rfl, rfl, rfl, rfl, rfl⟩
  rw [List.append_nil]

theorem Moved.trans {a b c : RunState} {new new' : Trace} (hab : Moved a new b)
    (hbc : Moved b new' c) : Moved a (new ++ new') c := by
  refine ⟨?_, hbc.agents.trans hab.agents, hbc.agentFailure.trans hab.agentFailure,
    hbc.applied.trans hab.applied,
    hbc.reviewRecorded.trans hab.reviewRecorded, hbc.results.trans hab.results⟩
  rw [hbc.trace, hab.trace, List.append_assoc]

theorem Moved.push {a b : RunState} {new : Trace} (hab : Moved a new b) (effect : Effect) :
    Moved a (new ++ [effect]) (b.push effect) :=
  hab.trans ⟨rfl, rfl, rfl, rfl, rfl, rfl⟩

theorem Moved.idle {a b : RunState} {new : Trace} (hab : Moved a new b) (h : a.Idle) : b.Idle := by
  unfold RunState.Idle
  rw [hab.agents]
  exact h

variable {E : String → RunState → Prop}

/-- With no agent at work, an event is all that is new. -/
theorem appendEvent_spec {event : RunEvent} (hidle : state.Idle) {new : Trace} :
    Triple (Moved state new) (appendEvent platform s config event)
      (fun _ => Moved state (new ++ [.appended event])) E := by
  unfold appendEvent interleave
  refine Triple.bind (R := fun _ => Moved state new) ?_ fun _ => ?_
  · apply Triple.modify
    intro st hmoved
    rw [advanceAgents_idle (hmoved.idle hidle)]
    exact hmoved
  · apply Triple.modify
    intro st hmoved
    exact hmoved.push _

theorem appendEvent_here {event : RunEvent} (hidle : state.Idle) :
    Triple (fun st => st = state) (appendEvent platform s config event)
      (fun _ => Moved state [.appended event]) E := by
  have hstart : ∀ st, st = state → Moved state [] st := by
    rintro st rfl
    exact .refl st
  exact (appendEvent_spec hidle).weaken hstart (fun _ _ h => h) fun _ _ h => h

/-- An answer leaves nothing in the trace. -/
theorem ask_spec {α : Type} {answer : RunState → Except String α} {new : Trace} :
    Triple (Moved state new) (ask answer)
      (fun a st => Moved state new st ∧ ∃ before, answer before = .ok a)
      (fun _ st => Moved state new st) :=
  Triple.ask (fun st _ hmoved hanswer => ⟨hmoved, st, hanswer⟩) fun _ _ hmoved _ => hmoved

/-! ## Permissions -/

/-- The effects by which a decision becomes a permission. -/
inductive Granted (decision : PermissionDecision) : Trace → Prop where
  | allowed (h : decision.allowed = true) :
      Granted decision [.appended (.permissionChecked decision)]
  | approved {request : ApprovalRequest} {response : ApprovalResponse}
      (hblocked : decision.allowed = false) (hasked : decision.requiresApproval = true)
      (htarget : request.target = decision.target) (haction : request.action = decision.action)
      (hreasons : request.reasons = decision.reasons) (happroved : response.approved = true) :
      Granted decision [.appended (.permissionChecked decision),
        .appended (.approvalRequested request), .appended (.approvalResolved response)]

/-- The effects of asking for a permission. -/
def Effect.IsPermission : Effect → Prop
  | .appended (.permissionChecked _) => True
  | .appended (.approvalRequested _) => True
  | .appended (.approvalResolved _) => True
  | _ => False

theorem requirePermission_spec {subject : String} {decision : PermissionDecision}
    (hidle : state.Idle) :
    Triple (fun st => st = state) (requirePermission platform s config subject decision)
      (fun _ st => ∃ new, Granted decision new ∧ Moved state new st)
      (fun _ st => ∃ new, (∀ e ∈ new, Effect.IsPermission e) ∧ Moved state new st) := by
  unfold requirePermission
  refine Triple.bind (R := fun _ => Moved state []) ?_ fun _ => ?_
  · apply Triple.modify
    rintro st rfl
    refine ⟨?_, rfl, rfl, rfl, rfl, rfl⟩
    rw [List.append_nil]
  refine Triple.bind (appendEvent_spec hidle) fun _ => ?_
  have hchecked : ∀ e ∈ [] ++ [Effect.appended (.permissionChecked decision)],
      Effect.IsPermission e := by
    intro e he
    rw [List.mem_singleton.mp he]
    trivial
  cases hallowed : decision.allowed with
  | true =>
      rw [if_pos rfl]
      apply Triple.pure
      intro st hmoved
      exact ⟨_, .allowed hallowed, hmoved⟩
  | false =>
      rw [if_neg Bool.false_ne_true]
      cases hasked : decision.requiresApproval with
      | false =>
          apply Triple.throw
          intro st hmoved
          exact ⟨_, hchecked, hmoved⟩
      | true =>
          rw [Bool.not_true, if_neg Bool.false_ne_true]
          refine Triple.get_bind fun here hhere => ?_
          dsimp only
          refine Triple.bind ((appendEvent_spec hidle).weaken (fun st hst => hst ▸ hhere)
            (fun _ _ h => h) fun _ _ h => h) fun _ => ?_
          have hrequested : ∀ request : ApprovalRequest, ∀ e ∈ [] ++
              [Effect.appended (.permissionChecked decision)] ++
              [Effect.appended (.approvalRequested request)], Effect.IsPermission e := by
            intro request e he
            rcases List.mem_append.mp he with hfirst | hlast
            · exact hchecked e hfirst
            · rw [List.mem_singleton.mp hlast]
              trivial
          refine Triple.bind (ask_spec.weaken (fun _ h => h) (fun _ _ h => h.1)
            fun e st hmoved => ⟨_, hrequested _, hmoved⟩) fun response => ?_
          refine Triple.bind (R := fun _ => Moved state _)
            (Triple.modify fun st hmoved => ⟨hmoved.trace, hmoved.agents, hmoved.agentFailure, hmoved.applied,
              hmoved.reviewRecorded, hmoved.results⟩) fun _ => ?_
          refine Triple.bind (appendEvent_spec hidle) fun _ => ?_
          cases happroved : response.approved with
          | true =>
              rw [if_pos rfl]
              apply Triple.pure
              intro st hmoved
              exact ⟨_, .approved hallowed hasked rfl rfl rfl happroved, hmoved⟩
          | false =>
              rw [if_neg Bool.false_ne_true]
              apply Triple.throw
              intro st hmoved
              refine ⟨_, ?_, hmoved⟩
              intro e he
              rcases List.mem_append.mp he with hfirst | hlast
              · exact hrequested _ e hfirst
              · rw [List.mem_singleton.mp hlast]
                trivial

/-- Every effect of a granted permission is one of asking for it. -/
theorem Granted.isPermission {decision : PermissionDecision} {new : Trace}
    (h : Granted decision new) : ∀ e ∈ new, Effect.IsPermission e := by
  intro e he
  cases h with
  | allowed _ =>
      rw [List.mem_singleton.mp he]
      trivial
  | approved _ _ _ _ _ _ =>
      simp only [List.mem_cons, List.not_mem_nil, or_false] at he
      rcases he with rfl | rfl | rfl
      · trivial
      · trivial
      · trivial

/-- A decision that refuses is never granted. -/
theorem Granted.notRefused {decision : PermissionDecision} {new : Trace}
    (h : Granted decision new) :
    ¬ (decision.allowed = false ∧ decision.requiresApproval = false) := by
  rintro ⟨hblocked, hrefused⟩
  cases h with
  | allowed hallowed =>
      rw [hblocked] at hallowed
      cases hallowed
  | approved _ hasked _ _ _ _ =>
      rw [hrefused] at hasked
      cases hasked

/-! ## Checkpoints and patches -/

theorem readFiles_spec {paths : List String} {new : Trace} :
    Triple (Moved state new) (readFiles s paths)
      (fun files st => files.map CheckpointFile.path = paths ∧ Moved state new st)
      (fun _ st => Moved state new st) := by
  induction paths with
  | nil => exact Triple.pure fun st hmoved => ⟨rfl, hmoved⟩
  | cons path paths ih =>
      unfold readFiles
      refine Triple.bind (ask_spec.weaken (fun _ h => h) (fun _ _ h => h.1) fun _ _ h => h)
        fun content => ?_
      refine Triple.bind ih fun files => ?_
      apply Triple.pure
      rintro st ⟨hfiles, hmoved⟩
      refine ⟨?_, hmoved⟩
      rw [List.map_cons, hfiles]

theorem createCheckpoint_spec {paths : List String} {new : Trace} :
    Triple (Moved state new) (createCheckpoint s paths)
      (fun checkpoint st => checkpoint.paths = paths ∧
        Moved state (new ++ [.checkpointSaved checkpoint]) st)
      (fun _ st => Moved state new st) := by
  unfold createCheckpoint
  refine Triple.get_bind fun here hhere => ?_
  refine Triple.bind (readFiles_spec.weaken (fun st hst => hst ▸ hhere) (fun _ _ h => h)
    fun _ _ h => h) fun files => ?_
  refine Triple.of_fact fun hfiles => ?_
  refine Triple.bind (ask_spec.weaken (fun _ h => h) (fun _ _ h => h.1) fun _ _ h => h)
    fun _ => ?_
  refine Triple.bind (R := fun _ => Moved state (new ++
    [.checkpointSaved ⟨s.createId here.trace "chk", files⟩]))
    (Triple.modify fun st hmoved => hmoved.push _) fun _ => ?_
  apply Triple.pure
  intro st' hmoved
  exact ⟨hfiles, hmoved⟩

/-- The files of a patch are written in order; a write that fails ends the patch. -/
theorem applyFilePatches_spec {patches : List ProposedFilePatch} {new : Trace} :
    Triple (Moved state new) (applyFilePatches s patches)
      (fun files st => files = patches.map ProposedFilePatch.path ∧
        Moved state (new ++ patches.map .fileWritten) st)
      (fun _ st => ∃ k, k < patches.length ∧
        Moved state (new ++ (patches.take k).map .fileWritten) st) := by
  induction patches generalizing new with
  | nil =>
      apply Triple.pure
      intro st hmoved
      refine ⟨rfl, ?_⟩
      rw [List.map_nil, List.append_nil]
      exact hmoved
  | cons patch patches ih =>
      unfold applyFilePatches
      refine Triple.bind (ask_spec.weaken (fun _ h => h) (fun _ _ h => h.1) fun e st hmoved =>
        ⟨0, Nat.succ_pos _, ?_⟩) fun _ => ?_
      · rw [List.take_zero, List.map_nil, List.append_nil]
        exact hmoved
      refine Triple.bind (R := fun _ => Moved state (new ++ [.fileWritten patch]))
        (Triple.modify fun st hmoved => hmoved.push _) fun _ => ?_
      refine Triple.bind (ih.weaken (fun _ h => h) (fun _ _ h => h) ?_) fun files => ?_
      · rintro e st ⟨k, hk, hmoved⟩
        refine ⟨k + 1, Nat.succ_lt_succ hk, ?_⟩
        rw [List.take_succ_cons, List.map_cons, List.append_cons]
        exact hmoved
      · apply Triple.pure
        rintro st ⟨hfiles, hmoved⟩
        refine ⟨?_, ?_⟩
        · rw [List.map_cons, hfiles]
        · rw [List.map_cons, List.append_cons]
          exact hmoved

/-- The effects up to the files of a patch: the permission and the checkpoint. -/
inductive PatchStarted (decision : PermissionDecision) (proposal : PatchProposal)
    (checkpoint : Checkpoint) : Trace → Prop where
  | intro {granted : Trace} (hgranted : Granted decision granted)
      (hpaths : checkpoint.paths = proposedPaths proposal) :
      PatchStarted decision proposal checkpoint
        (.appended (.patchProposed (proposedPaths proposal) proposal) :: granted ++
          [.checkpointSaved checkpoint,
            .appended (.checkpointCreated checkpoint.id checkpoint.paths)])

/-- The effects of a proposal without a checkpoint. -/
def Effect.IsProposal : Effect → Prop
  | .appended (.patchProposed _ _) => True
  | e => e.IsPermission

theorem Effect.IsPermission.isProposal {e : Effect} (h : e.IsPermission) : e.IsProposal := by
  cases e with
  | appended event =>
      cases event with
      | patchProposed files proposal => trivial
      | _ => exact h
  | _ => exact h

/-- A proposal and what follows it, up to a permission. -/
theorem isProposal_cons {proposal : PatchProposal} {new : Trace}
    (h : ∀ e ∈ new, Effect.IsPermission e) :
    ∀ e ∈ Effect.appended (.patchProposed (proposedPaths proposal) proposal) :: new,
      Effect.IsProposal e := by
  intro e he
  rcases List.mem_cons.mp he with rfl | htail
  · trivial
  · exact (h e htail).isProposal

/-- The effects of a patch that is applied. -/
def PatchApplied (decision : PermissionDecision) (proposal : PatchProposal)
    (checkpointId : String) (new : Trace) : Prop :=
  ∃ checkpoint started, PatchStarted decision proposal checkpoint started ∧
    checkpoint.id = checkpointId ∧
    new = started ++ proposal.files.map .fileWritten ++
      [.appended (.patchApplied (proposedPaths proposal) checkpointId)]

/-- The effects of a patch that stops before it is applied: no checkpoint is reached, or a
write fails. -/
def PatchStopped (decision : PermissionDecision) (proposal : PatchProposal) (new : Trace) :
    Prop :=
  (∀ e ∈ new, Effect.IsProposal e) ∨
    ∃ checkpoint started k, PatchStarted decision proposal checkpoint started ∧
      k < proposal.files.length ∧ new = started ++ (proposal.files.take k).map .fileWritten

/-- Between two states a patch may have been applied, with its files. -/
structure Patched (state : RunState) (new : Trace) (files : List String) (state' : RunState) :
    Prop where
  trace : state'.trace = state.trace ++ new
  agents : state'.agents = state.agents
  agentFailure : state'.agentFailure = state.agentFailure
  applied : state'.appliedFiles = state.appliedFiles ++ files
  reviewRecorded : state'.reviewRecorded = state.reviewRecorded
  results : state'.verificationResults = state.verificationResults

theorem Moved.patched {state' : RunState} {new : Trace} (h : Moved state new state') :
    Patched state new [] state' := by
  refine ⟨h.trace, h.agents, h.agentFailure, ?_, h.reviewRecorded, h.results⟩
  rw [h.applied, List.append_nil]

theorem handlePatchProposal_spec {manifest : RepoManifest} {proposal : PatchProposal}
    (hidle : state.Idle) :
    Triple (fun st => st = state)
      (handlePatchProposal platform s config options manifest (some proposal) true)
      (fun checkpointId st => ∃ id new, checkpointId = some id ∧
        PatchApplied (evaluatePatchPolicy platform.toPolicyPlatform manifest.safety proposal
          options.allowSensitive) proposal id new ∧
        Patched state new (proposedPaths proposal) st)
      (fun _ st => ∃ new, PatchStopped (evaluatePatchPolicy platform.toPolicyPlatform
        manifest.safety proposal options.allowSensitive) proposal new ∧ Moved state new st) := by
  generalize hdecision : evaluatePatchPolicy platform.toPolicyPlatform manifest.safety proposal
    options.allowSensitive = decision
  unfold handlePatchProposal
  dsimp only
  rw [hdecision, Bool.not_true, if_neg Bool.false_ne_true]
  refine Triple.bind (R := fun _ => Moved state
    [.appended (.patchProposed (proposedPaths proposal) proposal)])
    (appendEvent_here hidle) fun _ => ?_
  refine Triple.bind (R := fun _ st => ∃ granted, Granted decision granted ∧ Moved state
    (.appended (.patchProposed (proposedPaths proposal) proposal) :: granted) st) ?_ fun _ => ?_
  · apply Triple.of_state
    intro here hhere
    refine (requirePermission_spec (hhere.idle hidle)).weaken (fun st hst => hst) ?_ ?_
    · rintro _ st ⟨granted, hgranted, hmoved⟩
      exact ⟨granted, hgranted, hhere.trans hmoved⟩
    · rintro e st ⟨new, hpermission, hmoved⟩
      exact ⟨_, .inl (isProposal_cons hpermission), hhere.trans hmoved⟩
  apply Triple.of_state
  rintro here ⟨granted, hgranted, hhere⟩
  refine Triple.bind (createCheckpoint_spec.weaken (fun st hst => hst ▸ hhere)
    (fun _ _ h => h) ?_) fun checkpoint => ?_
  · intro e st hmoved
    exact ⟨_, .inl (isProposal_cons hgranted.isPermission), hmoved⟩
  refine Triple.of_fact fun hpaths => ?_
  have hstarted : PatchStarted decision proposal checkpoint
      (.appended (.patchProposed (proposedPaths proposal) proposal) :: granted ++
        [.checkpointSaved checkpoint,
          .appended (.checkpointCreated checkpoint.id checkpoint.paths)]) :=
    .intro hgranted hpaths
  revert hstarted
  generalize hnew : (.appended (.patchProposed (proposedPaths proposal) proposal) :: granted ++
    [.checkpointSaved checkpoint,
      .appended (.checkpointCreated checkpoint.id checkpoint.paths)] : Trace) = started
  intro hstarted
  refine Triple.bind (R := fun _ => Moved state started) ((appendEvent_spec hidle).weaken
    (fun _ h => h) ?_ fun _ _ h => h) fun _ => ?_
  · intro _ st hmoved
    rw [← hnew]
    rw [List.append_assoc] at hmoved
    exact hmoved
  refine Triple.bind (applyFilePatches_spec.weaken (fun _ h => h) (fun _ _ h => h) ?_)
    fun files => ?_
  · rintro e st ⟨k, hk, hmoved⟩
    exact ⟨_, .inr ⟨checkpoint, started, k, hstarted, hk, rfl⟩, hmoved⟩
  refine Triple.of_fact fun hfiles => ?_
  rw [hfiles]
  refine Triple.bind (R := fun _ => Patched state (started ++ proposal.files.map .fileWritten)
    (proposedPaths proposal)) ?_ fun _ => ?_
  · apply Triple.modify
    intro st hmoved
    refine ⟨hmoved.trace, hmoved.agents, hmoved.agentFailure, ?_, hmoved.reviewRecorded,
      hmoved.results⟩
    rw [hmoved.applied]
    rfl
  apply Triple.of_state
  intro patched hpatched
  have hidle' : patched.Idle := by
    unfold RunState.Idle
    rw [hpatched.agents]
    exact hidle
  refine Triple.bind (R := fun _ => Moved patched
    [.appended (.patchApplied (proposedPaths proposal) checkpoint.id)])
    (appendEvent_here hidle') fun _ => ?_
  apply Triple.pure
  intro st hmoved
  refine ⟨checkpoint.id, _, rfl, ⟨checkpoint, started, hstarted, rfl, rfl⟩, ?_, ?_, ?_, ?_, ?_, ?_⟩
  · rw [hmoved.trace, hpatched.trace, List.append_assoc]
  · rw [hmoved.agents, hpatched.agents]
  · rw [hmoved.agentFailure, hpatched.agentFailure]
  · rw [hmoved.applied, hpatched.applied]
  · rw [hmoved.reviewRecorded, hpatched.reviewRecorded]
  · rw [hmoved.results, hpatched.results]

/-! ## Verification -/

/-- The effects of a command that ran to its end. -/
def CommandRan (decision : PermissionDecision) (command : String) (result : VerificationResult)
    (new : Trace) : Prop :=
  ∃ granted, Granted decision granted ∧ new = granted ++
    [.appended (.toolStarted "test.run" command), .commandRun command,
      .appended (.toolFinished "test.run" result), .appended (.testsFinished result)]

/-- The effects of a command that is refused, or whose process cannot be started. -/
def CommandStopped (decision : PermissionDecision) (command : String) (new : Trace) : Prop :=
  (∀ e ∈ new, Effect.IsPermission e) ∨ ∃ granted, Granted decision granted ∧
    new = granted ++ [.appended (.toolStarted "test.run" command), .commandRun command]

theorem verify_spec {manifest : RepoManifest} {command : String} (hidle : state.Idle) :
    Triple (fun st => st = state) (verify platform s config manifest command)
      (fun result st => ∃ new, CommandRan (evaluateCommandPolicy platform.toPolicyPlatform
        manifest.safety command) command result new ∧ Moved state new st)
      (fun _ st => ∃ new, CommandStopped (evaluateCommandPolicy platform.toPolicyPlatform
        manifest.safety command) command new ∧ Moved state new st) := by
  unfold verify
  refine Triple.bind ((requirePermission_spec hidle).weaken (fun _ h => h) (fun _ _ h => h) ?_)
    fun _ => ?_
  · rintro e st ⟨new, hpermission, hmoved⟩
    exact ⟨new, .inl hpermission, hmoved⟩
  apply Triple.of_state
  rintro here ⟨granted, hgranted, hhere⟩
  refine Triple.bind ((appendEvent_spec hidle).weaken (fun st hst => hst ▸ hhere)
    (fun _ _ h => h) fun _ _ h => h) fun _ => ?_
  refine Triple.bind (R := fun _ => Moved state (granted ++
    [.appended (.toolStarted "test.run" command), .commandRun command])) ?_ fun _ => ?_
  · apply Triple.modify
    intro st hmoved
    have hpushed := hmoved.push (.commandRun command)
    rw [List.append_assoc] at hpushed
    exact hpushed
  refine Triple.bind (ask_spec.weaken (fun _ h => h) (fun _ _ h => h.1) fun e st hmoved =>
    ⟨_, .inr ⟨granted, hgranted, rfl⟩, hmoved⟩) fun testResult => ?_
  refine Triple.bind (R := fun _ => Moved state (granted ++
    [.appended (.toolStarted "test.run" command), .commandRun command]))
    (Triple.modify fun st hmoved => ⟨hmoved.trace, hmoved.agents, hmoved.agentFailure, hmoved.applied,
      hmoved.reviewRecorded, hmoved.results⟩) fun _ => ?_
  refine Triple.bind (appendEvent_spec hidle) fun _ => ?_
  refine Triple.bind (appendEvent_spec hidle) fun _ => ?_
  apply Triple.pure
  intro st hmoved
  refine ⟨_, ⟨granted, hgranted, rfl⟩, ?_⟩
  rw [List.append_assoc, List.append_assoc] at hmoved
  exact hmoved

/-- A pass over commands that ends: the commands run in order, up to the first that fails. -/
inductive PassEnded (platform : RunPlatform) (safety : Safety) :
    List String → List VerificationResult → Trace → Prop where
  | done : PassEnded platform safety [] [] []
  | failed {command : String} {commands : List String} {result : VerificationResult}
      {new : Trace}
      (hran : CommandRan (evaluateCommandPolicy platform.toPolicyPlatform safety command) command
        result new) (hfailed : result.ok = false) :
      PassEnded platform safety (command :: commands) [result] new
  | passed {command : String} {commands : List String} {result : VerificationResult}
      {results : List VerificationResult} {new rest : Trace}
      (hran : CommandRan (evaluateCommandPolicy platform.toPolicyPlatform safety command) command
        result new) (hpassed : result.ok = true)
      (hrest : PassEnded platform safety commands results rest) :
      PassEnded platform safety (command :: commands) (result :: results) (new ++ rest)

/-- A pass over commands that is broken off by one of them. -/
inductive PassStopped (platform : RunPlatform) (safety : Safety) : List String → Trace → Prop where
  | here {command : String} {commands : List String} {new : Trace}
      (hstopped : CommandStopped (evaluateCommandPolicy platform.toPolicyPlatform safety command)
        command new) :
      PassStopped platform safety (command :: commands) new
  | later {command : String} {commands : List String} {result : VerificationResult}
      {new rest : Trace}
      (hran : CommandRan (evaluateCommandPolicy platform.toPolicyPlatform safety command) command
        result new) (hpassed : result.ok = true)
      (hrest : PassStopped platform safety commands rest) :
      PassStopped platform safety (command :: commands) (new ++ rest)

theorem runVerification_spec {manifest : RepoManifest} {commands : List String}
    (hidle : state.Idle) :
    Triple (fun st => st = state) (runVerification platform s config manifest commands)
      (fun results st => ∃ new, PassEnded platform manifest.safety commands results new ∧
        Moved state new st)
      (fun _ st => ∃ new, PassStopped platform manifest.safety commands new ∧
        Moved state new st) := by
  induction commands generalizing state with
  | nil =>
      apply Triple.pure
      rintro st rfl
      exact ⟨[], .done, .refl st⟩
  | cons command commands ih =>
      unfold runVerification
      refine Triple.bind ((verify_spec hidle).weaken (fun _ h => h) (fun _ _ h => h) ?_)
        fun result => ?_
      · rintro e st ⟨new, hstopped, hmoved⟩
        exact ⟨new, .here hstopped, hmoved⟩
      apply Triple.of_state
      rintro here ⟨new, hran, hhere⟩
      cases hok : result.ok with
      | false =>
          apply Triple.pure
          rintro st rfl
          exact ⟨new, .failed hran hok, hhere⟩
      | true =>
          rw [Bool.not_true, if_neg Bool.false_ne_true]
          refine Triple.bind ((ih (hhere.idle hidle)).weaken (fun _ h => h) (fun _ _ h => h) ?_)
            fun results => ?_
          · rintro e st ⟨rest, hstopped, hmoved⟩
            exact ⟨new ++ rest, .later hran hok hstopped, hhere.trans hmoved⟩
          · apply Triple.pure
            rintro st ⟨rest, hended, hmoved⟩
            exact ⟨new ++ rest, .passed hran hok hended, hhere.trans hmoved⟩

end Runtime
end TokenStreaming
