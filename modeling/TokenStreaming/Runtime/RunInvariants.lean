import TokenStreaming.Runtime.RunGates

/-!
# Runtime - A run at work

What holds of a run before its end, whatever its surroundings answer and in whatever order its
agents take their steps, and what each part of the run leaves of it: the effects on the
repository are behind their gates, and the applied files are those of the patches that were
applied.

Main results:

- Theorem {lit}`initializeTask_ready`: behind its initialization a run knows its manifest.
- Theorem {lit}`runParallelAgents_ready`: the agents leave the run at work or broken off.
- Theorem {lit}`applyAndVerify_ready`: so do the patch, the verification and the repair.
-/

namespace TokenStreaming
namespace Runtime

open Core Effects
open Tools (PatchProposal ProposedFilePatch)

variable {platform : RunPlatform} {s : Surroundings} {config : RuntimeConfig}
  {options : RunTaskOptions} {run : Initialized} {state : RunState}

/-! ## Readings of a trace -/

/-- The effects that end a run. -/
def Effect.IsEnd : Effect → Prop
  | .appended (.reviewCompleted _) => True
  | .appended (.runCompleted _) => True
  | .appended (.runFailed _) => True
  | .reportWritten _ => True
  | _ => False

def Effect.written? : Effect → Option String
  | .fileWritten file => some file.path
  | _ => none

/-- The paths of the files that were written. -/
def writtenPaths (trace : Trace) : List String :=
  trace.filterMap Effect.written?

def Effect.applied : Effect → List String
  | .appended (.patchApplied files _) => files
  | _ => []

/-- The paths of the patches that were applied. -/
def appliedPaths (trace : Trace) : List String :=
  trace.flatMap Effect.applied

/-- The agents that have started are those that have finished. -/
def AgentsAgree (trace : Trace) : Prop :=
  (trace.filterMap Effect.started?).Perm (trace.filterMap Effect.finished?)

/-- An effect in the middle of a run that is not an agent's start or end. -/
structure Effect.Inner (e : Effect) : Prop where
  notEnd : ¬ e.IsEnd
  notStarted : e.started? = none
  notFinished : e.finished? = none

/-- An inner effect that has nothing to do with files. -/
structure Effect.Plain (e : Effect) : Prop extends e.Inner where
  notWritten : e.written? = none
  notApplied : e.applied = []

theorem Effect.IsProposal.plain {e : Effect} (h : e.IsProposal) : e.Plain := by
  cases e with
  | appended event =>
      cases event with
      | patchProposed files proposal => exact ⟨⟨id, rfl, rfl⟩, rfl, rfl⟩
      | permissionChecked decision => exact ⟨⟨id, rfl, rfl⟩, rfl, rfl⟩
      | approvalRequested request => exact ⟨⟨id, rfl, rfl⟩, rfl, rfl⟩
      | approvalResolved response => exact ⟨⟨id, rfl, rfl⟩, rfl, rfl⟩
      | _ => cases h
  | _ => cases h

theorem writtenPaths_append (a b : Trace) :
    writtenPaths (a ++ b) = writtenPaths a ++ writtenPaths b :=
  List.filterMap_append

theorem appliedPaths_append (a b : Trace) :
    appliedPaths (a ++ b) = appliedPaths a ++ appliedPaths b :=
  List.flatMap_append

theorem writtenPaths_plain {new : Trace} (h : ∀ e ∈ new, Effect.Plain e) :
    writtenPaths new = [] :=
  List.filterMap_eq_nil_iff.mpr fun e he => (h e he).notWritten

theorem appliedPaths_plain {new : Trace} (h : ∀ e ∈ new, Effect.Plain e) :
    appliedPaths new = [] :=
  List.flatMap_eq_nil_iff.mpr fun e he => (h e he).notApplied

theorem writtenPaths_writes (files : List ProposedFilePatch) :
    writtenPaths (files.map .fileWritten) = files.map ProposedFilePatch.path := by
  unfold writtenPaths
  rw [List.filterMap_map]
  exact congrFun List.filterMap_eq_map files

theorem appliedPaths_writes (files : List ProposedFilePatch) :
    appliedPaths (files.map .fileWritten) = [] := by
  apply List.flatMap_eq_nil_iff.mpr
  intro e he
  rcases List.mem_map.mp he with ⟨file, -, rfl⟩
  rfl

theorem inner_writes (files : List ProposedFilePatch) :
    ∀ e ∈ files.map Effect.fileWritten, Effect.Inner e := by
  intro e he
  rcases List.mem_map.mp he with ⟨file, -, rfl⟩
  exact ⟨id, rfl, rfl⟩

/-! ## The parts of a run -/

theorem PatchStarted.plain {decision : PermissionDecision} {proposal : PatchProposal}
    {checkpoint : Checkpoint} {started : Trace}
    (h : PatchStarted decision proposal checkpoint started) : ∀ e ∈ started, Effect.Plain e := by
  cases h with
  | intro hgranted hpaths =>
      intro e he
      rcases List.mem_append.mp he with hproposal | hcheckpoint
      · exact (isProposal_cons hgranted.isPermission e hproposal).plain
      · simp only [List.mem_cons, List.not_mem_nil, or_false] at hcheckpoint
        rcases hcheckpoint with rfl | rfl
        · exact ⟨⟨id, rfl, rfl⟩, rfl, rfl⟩
        · exact ⟨⟨id, rfl, rfl⟩, rfl, rfl⟩

/-- An applied patch writes its files and reports them. -/
theorem PatchApplied.files {decision : PermissionDecision} {proposal : PatchProposal} {id : String}
    {new : Trace} (h : PatchApplied decision proposal id new) :
    (∀ e ∈ new, Effect.Inner e) ∧ writtenPaths new = proposedPaths proposal ∧
      appliedPaths new = proposedPaths proposal := by
  rcases h with ⟨checkpoint, started, hstarted, -, rfl⟩
  refine ⟨?_, ?_, ?_⟩
  · intro e he
    rcases List.mem_append.mp he with hfront | hlast
    · rcases List.mem_append.mp hfront with hplain | hwrite
      · exact (hstarted.plain e hplain).toInner
      · exact inner_writes proposal.files e hwrite
    · rw [List.mem_singleton.mp hlast]
      exact ⟨fun h => h, rfl, rfl⟩
  · rw [writtenPaths_append, writtenPaths_append, writtenPaths_plain hstarted.plain,
      writtenPaths_writes]
    exact List.append_nil _
  · rw [appliedPaths_append, appliedPaths_append, appliedPaths_plain hstarted.plain,
      appliedPaths_writes]
    exact List.append_nil _

/-- The files that a patch has written when one of its writes fails. -/
def WritesStopped (trace : Trace) (rest : List String) : Prop :=
  ∃ earlier id proposal k, k < proposal.files.length ∧
    rest = (proposal.files.take k).map ProposedFilePatch.path ∧
    trace = earlier ++ .appended (.checkpointCreated id (proposedPaths proposal)) ::
      (proposal.files.take k).map .fileWritten

theorem PatchStopped.files {decision : PermissionDecision} {proposal : PatchProposal}
    {new : Trace} (h : PatchStopped decision proposal new) (log : Trace) :
    (∀ e ∈ new, Effect.Inner e) ∧ appliedPaths new = [] ∧
      (writtenPaths new = [] ∨ WritesStopped (log ++ new) (writtenPaths new)) := by
  rcases h with hproposal | ⟨checkpoint, started, k, hstarted, hk, rfl⟩
  · have hplain : ∀ e ∈ new, Effect.Plain e := fun e he => (hproposal e he).plain
    exact ⟨fun e he => (hplain e he).toInner, appliedPaths_plain hplain,
      .inl (writtenPaths_plain hplain)⟩
  · refine ⟨?_, ?_, .inr ?_⟩
    · intro e he
      rcases List.mem_append.mp he with hplain | hwrite
      · exact (hstarted.plain e hplain).toInner
      · exact inner_writes _ e hwrite
    · rw [appliedPaths_append, appliedPaths_plain hstarted.plain, appliedPaths_writes]
      rfl
    · rw [writtenPaths_append, writtenPaths_plain hstarted.plain, writtenPaths_writes]
      rcases hstarted.last with ⟨earlier, rfl⟩
      refine ⟨log ++ earlier, checkpoint.id, proposal, k, hk, rfl, ?_⟩
      simp only [List.append_assoc, List.cons_append, List.nil_append]

theorem CommandRan.plain {decision : PermissionDecision} {command : String}
    {result : VerificationResult} {new : Trace} (h : CommandRan decision command result new) :
    ∀ e ∈ new, Effect.Plain e := by
  rcases h with ⟨granted, hgranted, rfl⟩
  intro e he
  rcases List.mem_append.mp he with hfront | hrun
  · exact (hgranted.isPermission e hfront).isProposal.plain
  · simp only [List.mem_cons, List.not_mem_nil, or_false] at hrun
    rcases hrun with rfl | rfl | rfl | rfl
    all_goals exact ⟨⟨id, rfl, rfl⟩, rfl, rfl⟩

theorem CommandStopped.plain {decision : PermissionDecision} {command : String} {new : Trace}
    (h : CommandStopped decision command new) : ∀ e ∈ new, Effect.Plain e := by
  intro e he
  rcases h with hpermission | ⟨granted, hgranted, rfl⟩
  · exact (hpermission e he).isProposal.plain
  · rcases List.mem_append.mp he with hfront | hrun
    · exact (hgranted.isPermission e hfront).isProposal.plain
    · simp only [List.mem_cons, List.not_mem_nil, or_false] at hrun
      rcases hrun with rfl | rfl
      all_goals exact ⟨⟨id, rfl, rfl⟩, rfl, rfl⟩

theorem PassEnded.plain {safety : Safety} {commands : List String}
    {results : List VerificationResult} {new : Trace}
    (h : PassEnded platform safety commands results new) : ∀ e ∈ new, Effect.Plain e := by
  induction h with
  | done =>
      intro e he
      cases he
  | failed hran _ => exact hran.plain
  | passed hran _ _ ih =>
      intro e he
      rcases List.mem_append.mp he with hfirst | hrest
      · exact hran.plain e hfirst
      · exact ih e hrest

theorem PassStopped.plain {safety : Safety} {commands : List String} {new : Trace}
    (h : PassStopped platform safety commands new) : ∀ e ∈ new, Effect.Plain e := by
  induction h with
  | here hstopped => exact hstopped.plain
  | later hran _ _ ih =>
      intro e he
      rcases List.mem_append.mp he with hfirst | hrest
      · exact hran.plain e hfirst
      · exact ih e hrest

/-! ## A run at work -/

/-- What holds of a run before its end. -/
structure Sound (platform : RunPlatform) (s : Surroundings) (options : RunTaskOptions)
    (state : RunState) : Prop where
  gated : Logged (Gate platform s options) state.trace
  notEnded : ∀ e ∈ state.trace, ¬ e.IsEnd
  logged : AgentsLogged state
  reviewRecorded : state.reviewRecorded = false
  written : writtenPaths state.trace = state.appliedFiles
  applied : appliedPaths state.trace = state.appliedFiles
  verified : state.verificationResults ≠ [] → options.dryRun = false

/-- A run before its end, with no agent at work. -/
structure Working (platform : RunPlatform) (s : Surroundings) (options : RunTaskOptions)
    (state : RunState) : Prop extends Sound platform s options state where
  idle : state.Idle

/-- What holds of a run behind a failure. -/
structure Broken (platform : RunPlatform) (s : Surroundings) (options : RunTaskOptions)
    (state : RunState) : Prop where
  gated : Logged (Gate platform s options) state.trace
  agents : state.Idle ∨ SomeAgentFailed state.trace
  notEnded : ∀ e ∈ state.trace, ¬ e.IsEnd
  logged : AgentsLogged state
  reviewRecorded : state.reviewRecorded = false
  written : ∃ rest, writtenPaths state.trace = state.appliedFiles ++ rest ∧
    (rest = [] ∨ WritesStopped state.trace rest)
  applied : appliedPaths state.trace = state.appliedFiles

theorem Sound.broken (h : Sound platform s options state)
    (hagents : state.Idle ∨ SomeAgentFailed state.trace) : Broken platform s options state where
  gated := h.gated
  agents := hagents
  notEnded := h.notEnded
  logged := h.logged
  reviewRecorded := h.reviewRecorded
  written := by
    refine ⟨[], ?_, .inl rfl⟩
    rw [h.written, List.append_nil]
  applied := h.applied

theorem AgentsLogged.inner {state' : RunState} {new : Trace} (h : AgentsLogged state)
    (htrace : state'.trace = state.trace ++ new) (hagents : state'.agents = state.agents)
    (hfailure : state'.agentFailure = state.agentFailure) (hinner : ∀ e ∈ new, Effect.Inner e) :
    AgentsLogged state' := by
  have hstarted : new.filterMap Effect.started? = [] :=
    List.filterMap_eq_nil_iff.mpr fun e he => (hinner e he).notStarted
  have hfinished : new.filterMap Effect.finished? = [] :=
    List.filterMap_eq_nil_iff.mpr fun e he => (hinner e he).notFinished
  refine ⟨?_, ?_, ?_⟩
  · rw [htrace, List.filterMap_append, hstarted, List.append_nil, hagents]
    exact h.started
  · rw [htrace, List.filterMap_append, hfinished, List.append_nil, hagents]
    exact h.finished
  · intro hsome
    rw [hfailure] at hsome
    rw [htrace]
    exact (h.failed hsome).append new

/-- A part of the run that ends well. -/
theorem Working.patched {state' : RunState} {new : Trace} {files : List String}
    (h : Working platform s options state) (hmoved : Patched state new files state')
    (hgated : LoggedFrom (Gate platform s options) state.trace new)
    (hinner : ∀ e ∈ new, Effect.Inner e) (hwritten : writtenPaths new = files)
    (happlied : appliedPaths new = files) : Working platform s options state' where
  gated := by
    rw [hmoved.trace]
    exact h.gated.append hgated
  idle := by
    unfold RunState.Idle
    rw [hmoved.agents]
    exact h.idle
  notEnded := by
    intro e he
    rw [hmoved.trace] at he
    rcases List.mem_append.mp he with hold | hnew
    · exact h.notEnded e hold
    · exact (hinner e hnew).notEnd
  logged := h.logged.inner hmoved.trace hmoved.agents hmoved.agentFailure hinner
  reviewRecorded := hmoved.reviewRecorded.trans h.reviewRecorded
  written := by
    rw [hmoved.trace, writtenPaths_append, h.written, hwritten, hmoved.applied]
  applied := by
    rw [hmoved.trace, appliedPaths_append, h.applied, happlied, hmoved.applied]
  verified := by
    rw [hmoved.results]
    exact h.verified

/-- A part of the run that breaks off. -/
theorem Working.stopped {state' : RunState} {new : Trace}
    (h : Working platform s options state) (hmoved : Moved state new state')
    (hgated : LoggedFrom (Gate platform s options) state.trace new)
    (hinner : ∀ e ∈ new, Effect.Inner e) (happlied : appliedPaths new = [])
    (hwritten : writtenPaths new = [] ∨ WritesStopped (state.trace ++ new) (writtenPaths new)) :
    Broken platform s options state' where
  gated := by
    rw [hmoved.trace]
    exact h.gated.append hgated
  agents := .inl (hmoved.idle h.idle)
  notEnded := by
    intro e he
    rw [hmoved.trace] at he
    rcases List.mem_append.mp he with hold | hnew
    · exact h.notEnded e hold
    · exact (hinner e hnew).notEnd
  logged := h.logged.inner hmoved.trace hmoved.agents hmoved.agentFailure hinner
  reviewRecorded := hmoved.reviewRecorded.trans h.reviewRecorded
  written := by
    refine ⟨writtenPaths new, ?_, ?_⟩
    · rw [hmoved.trace, writtenPaths_append, h.written, hmoved.applied]
    · rw [hmoved.trace]
      exact hwritten
  applied := by
    rw [hmoved.trace, appliedPaths_append, h.applied, happlied, hmoved.applied, List.append_nil]

/-- A part of the run that has nothing to do with files. -/
theorem Working.plain {state' : RunState} {new : Trace} (h : Working platform s options state)
    (hmoved : Moved state new state')
    (hgated : LoggedFrom (Gate platform s options) state.trace new)
    (hplain : ∀ e ∈ new, Effect.Plain e) : Working platform s options state' :=
  h.patched hmoved.patched hgated (fun e he => (hplain e he).toInner)
    (writtenPaths_plain hplain) (appliedPaths_plain hplain)

/-- A working run whose manifest and plan are known. -/
def Ready (platform : RunPlatform) (s : Surroundings) (options : RunTaskOptions)
    (run : Initialized) (state : RunState) : Prop :=
  Working platform s options state ∧ Established s run state.trace

variable {E : String → RunState → Prop}

/-- An event that is neither gated nor about files. -/
theorem Working.event {event : RunEvent} {K L : Trace → Prop}
    (hplain : Effect.Plain (.appended event))
    (hgate : ∀ before, Gate platform s options before (.appended event))
    (hkeep : ∀ trace, K trace → L (trace ++ [.appended event])) :
    Triple (fun st => Working platform s options st ∧ K st.trace)
      (appendEvent platform s config event)
      (fun _ st => Working platform s options st ∧ L st.trace) E := by
  apply Triple.of_state
  rintro here ⟨hworking, hhere⟩
  refine (appendEvent_here hworking.idle).weaken (fun _ h => h) ?_ fun _ _ h => h
  intro _ st hmoved
  refine ⟨hworking.plain hmoved (.cons (hgate _) .nil) ?_, ?_⟩
  · intro e he
    rw [List.mem_singleton.mp he]
    exact hplain
  · rw [hmoved.trace]
    exact hkeep _ hhere

/-- An answer changes nothing. -/
theorem keep_ask {α : Type} {P : RunState → Prop} {answer : RunState → Except String α} :
    Triple P (ask answer) (fun _ => P) (fun _ => P) :=
  Triple.ask (fun _ _ hst _ => hst) fun _ _ hst _ => hst

/-- No patch has been applied, and the trace has a property besides. -/
def Unpatched (K : Trace → Prop) (trace : Trace) : Prop :=
  appliedPaths trace = [] ∧ K trace

theorem Unpatched.event {event : RunEvent} {K L : Trace → Prop}
    (hplain : Effect.Plain (.appended event))
    (hgate : ∀ before, Gate platform s options before (.appended event))
    (hkeep : ∀ trace, K trace → L (trace ++ [.appended event])) :
    Triple (fun st => Working platform s options st ∧ Unpatched K st.trace)
      (appendEvent platform s config event)
      (fun _ st => Working platform s options st ∧ Unpatched L st.trace) E := by
  refine Working.event hplain hgate ?_
  rintro trace ⟨hnone, hK⟩
  refine ⟨?_, hkeep trace hK⟩
  rw [appliedPaths_append, hnone, appliedPaths_plain, List.append_nil]
  intro e he
  rw [List.mem_singleton.mp he]
  exact hplain

/-- The manifest was loaded where the trace says so. -/
def HasManifest (s : Surroundings) (manifest : RepoManifest) (trace : Trace) : Prop :=
  ∃ loaded summary rest, trace = loaded ++ .appended (.manifestLoaded summary) :: rest ∧
    s.loadRepoManifest loaded = .ok manifest

theorem initializeTask_ready :
    Triple (fun st => Working platform s options st ∧ Unpatched (fun _ => True) st.trace)
      (initializeTask platform s config) (Ready platform s options)
      (fun _ st => Working platform s options st ∧ Unpatched (fun _ => True) st.trace) := by
  have hany : ∀ K st, Working platform s options st ∧ Unpatched K st.trace →
      Working platform s options st ∧ Unpatched (fun _ => True) st.trace :=
    fun _ _ h => ⟨h.1, h.2.1, trivial⟩
  unfold initializeTask
  refine Triple.bind keep_ask fun scanned => ?_
  refine Triple.bind (R := fun _ st => Working platform s options st ∧
    Unpatched (fun _ => True) st.trace) (Unpatched.event ⟨⟨id, rfl, rfl⟩, rfl, rfl⟩
    (fun _ => by trivial) fun _ h => h) fun _ => ?_
  refine Triple.bind (R := fun _ st => Working platform s options st ∧
    Unpatched (fun _ => True) st.trace) ?_ fun repo => ?_
  · unfold scanWithManifest
    split
    · exact Triple.pure fun _ h => h
    · exact Triple.bind keep_ask fun _ => keep_ask
  refine Triple.bind (R := fun manifest st => Working platform s options st ∧
    Unpatched (fun trace => s.loadRepoManifest trace = .ok manifest) st.trace)
    (Triple.ask (fun st _ h hanswer => ⟨h.1, h.2.1, hanswer⟩) fun _ _ h _ => h) fun manifest => ?_
  refine Triple.bind (Unpatched.event (L := HasManifest s manifest) ⟨⟨id, rfl, rfl⟩, rfl, rfl⟩
    (fun _ => by trivial) fun trace h => ⟨trace, _, [], rfl, h⟩) fun _ => ?_
  refine Triple.bind (keep_ask.weaken (fun _ h => h) (fun _ _ h => h) fun _ st => hany _ st)
    fun strategyPlan => ?_
  dsimp only
  generalize normalizeExecutionPlan strategyPlan = plan
  refine Triple.bind (Unpatched.event (L := Established s ⟨repo, manifest, plan,
    emptyRuntimeContext⟩) ⟨⟨id, rfl, rfl⟩, rfl, rfl⟩ (fun _ => by trivial) ?_) fun _ => ?_
  · rintro trace ⟨loaded, summary, rest, rfl, hloaded⟩
    refine ⟨⟨loaded, summary, rest ++ [.appended (.planCreated plan)], ?_, hloaded⟩, ?_⟩
    · rw [List.append_assoc, List.cons_append]
    · exact List.mem_append_right _ (List.mem_singleton_self _)
  refine Triple.bind (keep_ask.weaken (fun _ h => h) (fun _ _ h => h) fun _ st => hany _ st)
    fun context => ?_
  refine Triple.bind (Unpatched.event (L := Established s ⟨repo, manifest, plan, context⟩)
    ⟨⟨id, rfl, rfl⟩, rfl, rfl⟩ (fun _ => by trivial) ?_) fun _ => ?_
  · intro trace h
    exact ⟨(h.append _).manifest, (h.append _).plan⟩
  · exact Triple.pure fun _ h => ⟨h.1, h.2.2⟩

/-- A change of the state that leaves the trace and the shared variables alone. -/
theorem Working.unmoved {state' : RunState} (h : Working platform s options state)
    (hmoved : Moved state [] state') : Working platform s options state' := by
  refine h.plain hmoved .nil ?_
  intro e he
  cases he

/-! ## Agents -/

theorem gate_of_isAgents {e : Effect} (h : e.IsAgents) (before : Trace) :
    Gate platform s options before e := by
  cases e with
  | appended event =>
      cases event with
      | agentStarted role phaseId artifact => trivial
      | agentFinished role phaseId artifact ok summary => trivial
      | modelCalled call => trivial
      | _ => cases h
  | modelAsked request => trivial
  | _ => cases h

theorem Effect.IsAgents.notEnd {e : Effect} (h : e.IsAgents) : ¬ e.IsEnd := by
  cases e with
  | appended event =>
      cases event with
      | agentStarted role phaseId artifact => exact id
      | agentFinished role phaseId artifact ok summary => exact id
      | modelCalled call => exact id
      | _ => cases h
  | modelAsked request => exact id
  | _ => cases h

/-- Agents neither write files nor apply patches. -/
theorem Effect.IsAgents.noFiles {e : Effect} (h : e.IsAgents) :
    e.written? = none ∧ e.applied = [] := by
  cases e with
  | appended event =>
      cases event with
      | agentStarted role phaseId artifact => exact ⟨rfl, rfl⟩
      | agentFinished role phaseId artifact ok summary => exact ⟨rfl, rfl⟩
      | modelCalled call => exact ⟨rfl, rfl⟩
      | _ => cases h
  | modelAsked request => exact ⟨rfl, rfl⟩
  | _ => cases h

theorem writtenPaths_agents {new : Trace} (h : ∀ e ∈ new, Effect.IsAgents e) :
    writtenPaths new = [] :=
  List.filterMap_eq_nil_iff.mpr fun e he => (h e he).noFiles.1

theorem appliedPaths_agents {new : Trace} (h : ∀ e ∈ new, Effect.IsAgents e) :
    appliedPaths new = [] :=
  List.flatMap_eq_nil_iff.mpr fun e he => (h e he).noFiles.2

theorem Sound.agentsMoved {state' : RunState} (h : Sound platform s options state)
    (hmoved : AgentsMoved state state') (hlogged : AgentsLogged state') :
    Sound platform s options state' := by
  rcases hmoved.trace with ⟨new, htrace, hagents⟩
  refine ⟨?_, ?_, hlogged, hmoved.reviewRecorded.trans h.reviewRecorded, ?_, ?_, ?_⟩
  · rw [htrace]
    exact h.gated.append (.of_forall fun e he => gate_of_isAgents (hagents e he))
  · intro e he
    rw [htrace] at he
    rcases List.mem_append.mp he with hold | hnew
    · exact h.notEnded e hold
    · exact (hagents e hnew).notEnd
  · rw [htrace, writtenPaths_append, writtenPaths_agents hagents, List.append_nil, h.written,
      hmoved.applied]
  · rw [htrace, appliedPaths_append, appliedPaths_agents hagents, List.append_nil, h.applied,
      hmoved.applied]
  · rw [hmoved.results]
    exact h.verified

/-- Agents that have not started are not in the log. -/
theorem AgentsLogged.start {agents : List Agent} (h : AgentsLogged state)
    (hwaiting : ∀ agent ∈ agents, agent.stage = .waiting) :
    AgentsLogged { state with agents := state.agents ++ agents } := by
  have hnone : ∀ p : Agent → Bool, (∀ agent : Agent, agent.stage = .waiting → p agent = false) →
      keysWhere p (state.agents ++ agents) = keysWhere p state.agents := by
    intro p hp
    have hempty : agents.filter p = [] := by
      rw [List.filter_eq_nil_iff]
      intro agent hagent hpass
      rw [hp agent (hwaiting agent hagent)] at hpass
      cases hpass
    unfold keysWhere
    rw [List.filter_append, hempty, List.append_nil]
  refine ⟨?_, ?_, h.failed⟩
  · show (state.trace.filterMap Effect.started?).Perm (keysWhere _ (state.agents ++ agents))
    rw [hnone Agent.hasStarted fun agent hstage => by rw [Agent.hasStarted, hstage]]
    exact h.started
  · show (state.trace.filterMap Effect.finished?).Perm (keysWhere _ (state.agents ++ agents))
    rw [hnone Agent.isFinished fun agent hstage => by rw [Agent.isFinished, hstage]]
    exact h.finished

/-- The agents run until all are done or one has failed. -/
theorem Working.runAgents (config : RuntimeConfig) {agents : List Agent} (h : Working platform s options state)
    (hwaiting : ∀ agent ∈ agents, agent.stage = .waiting) :
    Sound platform s options (state.runAgents platform s config agents) ∧
      AgentsMoved state (state.runAgents platform s config agents) ∧
      (state.runAgents platform s config agents).settled = true := by
  have hlogged := h.logged.start hwaiting
  have hsound : Sound platform s options { state with agents := state.agents ++ agents } :=
    ⟨h.gated, h.notEnded, hlogged, h.reviewRecorded, h.written, h.applied, h.verified⟩
  have hmoved := settle_moved platform s config
    (agentWork (state.agents ++ agents)) { state with agents := state.agents ++ agents }
  exact ⟨hsound.agentsMoved hmoved (hlogged.settle _), ⟨hmoved.trace, hmoved.applied,
    hmoved.reviewRecorded, hmoved.results⟩, settle_settled (Nat.le_refl _)⟩

theorem runParallelAgents_ready :
    Triple (Ready platform s options run) (runParallelAgents platform s config run)
      (fun _ => Ready platform s options run) (fun _ => Broken platform s options) := by
  unfold runParallelAgents
  refine Triple.bind (R := fun _ st => (Sound platform s options st ∧ st.settled = true) ∧
    Established s run st.trace) ?_ fun _ => ?_
  · apply Triple.modify
    rintro st ⟨hworking, hestablished⟩
    rcases hworking.runAgents config (agentPhases_waiting s config run) with ⟨hsound, hmoved, hsettled⟩
    rcases hmoved.trace with ⟨new, htrace, -⟩
    refine ⟨⟨hsound, hsettled⟩, ?_⟩
    rw [htrace]
    exact hestablished.append new
  · refine Triple.get_bind fun here hhere => ?_
    rcases hhere with ⟨⟨hsound, hsettled⟩, hestablished⟩
    cases hfailure : here.agentFailure with
    | some message =>
        apply Triple.throw
        rintro st rfl
        refine hsound.broken (.inr (hsound.logged.failed ?_))
        rw [hfailure]
        rfl
    | none =>
        apply Triple.modify
        rintro st rfl
        have hidle : st.Idle := by
          unfold RunState.settled at hsettled
          rw [hfailure, Option.isSome_none, Bool.false_or] at hsettled
          exact hsettled
        have hworking : Working platform s options st := ⟨hsound, hidle⟩
        refine ⟨hworking.unmoved ⟨?_, rfl, rfl, rfl, rfl, rfl⟩, hestablished⟩
        rw [List.append_nil]

/-! ## Model calls -/

theorem callModel_ready {purpose : ModelCallPurpose} {request : ModelRequest} :
    Triple (Ready platform s options run) (callModel platform s config purpose request)
      (fun _ => Ready platform s options run) (fun _ => Ready platform s options run) := by
  unfold callModel
  refine Triple.bind (R := fun _ => Ready platform s options run) ?_ fun _ => ?_
  · apply Triple.modify
    rintro st ⟨hworking, hestablished⟩
    refine ⟨hworking.plain ((Moved.refl st).push _) (.cons trivial .nil) ?_,
      hestablished.append _⟩
    intro e he
    rw [List.mem_singleton.mp he]
    exact ⟨⟨id, rfl, rfl⟩, rfl, rfl⟩
  refine Triple.bind keep_ask fun response => ?_
  refine Triple.bind (R := fun _ => Ready platform s options run) ?_ fun _ => ?_
  · apply Triple.modify
    rintro st ⟨hworking, hestablished⟩
    refine ⟨hworking.unmoved ⟨?_, rfl, rfl, rfl, rfl, rfl⟩, hestablished⟩
    rw [List.append_nil]
  refine Triple.bind (Working.event ⟨⟨id, rfl, rfl⟩, rfl, rfl⟩ (fun _ => by trivial)
    fun trace h => h.append _) fun _ => ?_
  exact Triple.pure fun _ h => h

theorem readProposal_ready {text : String} :
    Triple (Ready platform s options run) (readProposal s text)
      (fun _ => Ready platform s options run) (fun _ => Ready platform s options run) := by
  unfold readProposal
  split
  · exact Triple.pure fun _ h => h
  · exact Triple.throw fun _ h => h
  · exact Triple.throw fun _ h => h

/-! ## Patches -/

theorem handlePatchProposal_ready {proposal : Option PatchProposal} {apply : Bool}
    (happly : apply = true → options.apply = true) :
    Triple (Ready platform s options run)
      (handlePatchProposal platform s config options run.manifest proposal apply)
      (fun _ => Ready platform s options run) (fun _ => Broken platform s options) := by
  cases proposal with
  | none => exact Triple.pure fun _ h => h
  | some proposal =>
      cases apply with
      | false =>
          unfold handlePatchProposal
          dsimp only
          refine Triple.bind (Working.event ⟨⟨id, rfl, rfl⟩, rfl, rfl⟩ (fun _ => by trivial)
            fun trace h => h.append _) fun _ => ?_
          exact Triple.pure fun _ h => h
      | true =>
          apply Triple.of_state
          rintro here ⟨hworking, hestablished⟩
          refine (handlePatchProposal_spec hworking.idle).weaken (fun _ h => h) ?_ ?_
          · rintro _ st ⟨id, new, -, happlied, hpatched⟩
            rcases happlied.files with ⟨hinner, hwritten, hreported⟩
            refine ⟨hworking.patched hpatched (happlied.gated (happly rfl) hestablished) hinner
              hwritten hreported, ?_⟩
            rw [hpatched.trace]
            exact hestablished.append new
          · rintro _ st ⟨new, hstopped, hmoved⟩
            rcases hstopped.files here.trace with ⟨hinner, hreported, hwritten⟩
            exact hworking.stopped hmoved (hstopped.gated (happly rfl) hestablished) hinner
              hreported hwritten

/-! ## Verification -/

/-- Results are added where commands may run. -/
theorem Working.addResults {results : List VerificationResult}
    (h : Working platform s options state) (hrun : results ≠ [] → options.dryRun = false) :
    Working platform s options
      { state with verificationResults := state.verificationResults ++ results } := by
  refine ⟨⟨h.gated, h.notEnded, ⟨h.logged.started, h.logged.finished, h.logged.failed⟩,
    h.reviewRecorded, h.written, h.applied, ?_⟩, h.idle⟩
  intro hresults
  by_cases hnew : results = []
  · apply h.verified
    intro hold
    apply hresults
    show state.verificationResults ++ results = []
    rw [hold, hnew]
    rfl
  · exact hrun hnew

theorem addVerification_ready {skip : Bool} (hrun : skip = false → options.dryRun = false) :
    Triple (Ready platform s options run)
      (addVerification platform s config run.manifest run.plan.verificationCommands skip)
      (fun _ => Ready platform s options run) (fun _ => Broken platform s options) := by
  unfold addVerification
  cases skip with
  | true =>
      refine Triple.bind (R := fun results st => results = [] ∧ Ready platform s options run st)
        (Triple.pure fun _ h => ⟨rfl, h⟩) fun results => ?_
      apply Triple.modify
      rintro st ⟨hnone, hworking, hestablished⟩
      exact ⟨hworking.addResults fun hsome => absurd hnone hsome, hestablished⟩
  | false =>
      have hdry := hrun rfl
      refine Triple.bind (R := fun _ => Ready platform s options run) ?_ fun results => ?_
      · apply Triple.of_state
        rintro here ⟨hworking, hestablished⟩
        have hbefore : BeforeCommand platform s run run.plan.verificationCommands here.trace := by
          refine ⟨hestablished, here.trace, [], [], rfl, ⟨[], .done, rfl, ?_⟩, ?_⟩
          · intro result hresult
            cases hresult
          · rw [List.append_nil]
        refine (runVerification_spec hworking.idle).weaken (fun _ h => h) ?_ ?_
        · rintro _ st ⟨new, hended, hmoved⟩
          refine ⟨hworking.plain hmoved (hended.gated hdry hbefore) hended.plain, ?_⟩
          rw [hmoved.trace]
          exact hestablished.append new
        · rintro _ st ⟨new, hstopped, hmoved⟩
          have hplain := hstopped.plain
          exact hworking.stopped hmoved (hstopped.gated hdry hbefore)
            (fun e he => (hplain e he).toInner) (appliedPaths_plain hplain)
            (.inl (writtenPaths_plain hplain))
      · apply Triple.modify
        rintro st ⟨hworking, hestablished⟩
        exact ⟨hworking.addResults fun _ => hdry, hestablished⟩

/-! ## The proposal and its repair -/

/-- A change of the variables that no invariant looks at. -/
theorem Ready.modify {f : RunState → RunState} (hmoved : ∀ st, Moved st [] (f st)) :
    Triple (Ready platform s options run) (modify f) (fun _ => Ready platform s options run) E := by
  apply Triple.modify
  rintro st ⟨hworking, hestablished⟩
  refine ⟨hworking.unmoved (hmoved st), ?_⟩
  rw [(hmoved st).trace, List.append_nil]
  exact hestablished

theorem Ready.broken (h : Ready platform s options run state) : Broken platform s options state :=
  h.1.broken (.inl h.1.idle)

theorem applyAndVerify_ready {modelResponse : ModelResponse} :
    Triple (Ready platform s options run)
      (applyAndVerify platform s config options run modelResponse)
      (fun _ => Ready platform s options run) (fun _ => Broken platform s options) := by
  unfold applyAndVerify
  refine Triple.bind (readProposal_ready.weaken (fun _ h => h) (fun _ _ h => h)
    fun _ _ h => h.broken) fun proposal => ?_
  refine Triple.bind (Ready.modify fun st => ⟨(List.append_nil _).symm, rfl, rfl, rfl, rfl, rfl⟩)
    fun _ => ?_
  refine Triple.bind (handlePatchProposal_ready fun h => h) fun checkpointId => ?_
  refine Triple.bind (Ready.modify fun st => ⟨(List.append_nil _).symm, rfl, rfl, rfl, rfl, rfl⟩)
    fun _ => ?_
  refine Triple.bind (addVerification_ready ?_) fun _ => ?_
  · intro hskip
    rw [Bool.or_eq_false_iff] at hskip
    exact hskip.1
  refine Triple.get_bind fun here hhere => ?_
  cases hfailed : here.verificationResults.find? fun result => !result.ok with
  | none =>
      dsimp only
      refine Triple.pure ?_
      rintro st rfl
      exact hhere
  | some failedVerification =>
      -- a result that failed is one of a run that may run commands
      have hdry : options.dryRun = false := by
        apply hhere.1.verified
        intro hnone
        rw [hnone] at hfailed
        cases hfailed
      dsimp only
      by_cases hrepair : (options.repair && options.apply) = true
      · rw [if_pos hrepair]
        have happly : options.apply = true := (Bool.and_eq_true_iff.mp hrepair).2
        refine Triple.bind (callModel_ready.weaken (fun st hst => hst ▸ hhere) (fun _ _ h => h)
          fun _ _ h => h.broken) fun repairResponse => ?_
        refine Triple.bind (readProposal_ready.weaken (fun _ h => h) (fun _ _ h => h)
          fun _ _ h => h.broken) fun repairProposal => ?_
        refine Triple.bind (Ready.modify fun st =>
          ⟨(List.append_nil _).symm, rfl, rfl, rfl, rfl, rfl⟩) fun _ => ?_
        refine Triple.bind (handlePatchProposal_ready fun _ => happly) fun repairCheckpointId => ?_
        refine Triple.bind (Ready.modify fun st =>
          ⟨(List.append_nil _).symm, rfl, rfl, rfl, rfl, rfl⟩) fun _ => ?_
        exact addVerification_ready fun _ => hdry
      · rw [if_neg hrepair]
        refine Triple.pure ?_
        rintro st rfl
        exact hhere

end Runtime
end TokenStreaming
