import TokenStreaming.Runtime.RunSteps

/-!
# Runtime - The gates of a run

Each effect of a run on the repository comes behind the effects that allow it.  A file is written
behind the checkpoint of its proposal and behind the permission for it, and a command runs behind
its own permission and behind every earlier command of the plan, which passed.

Main results:

- Theorem {lit}`PatchApplied.gated`: an applied patch passes the gates.
- Theorem {lit}`PassEnded.gated`: a pass over the verification commands passes the gates.
-/

namespace TokenStreaming
namespace Runtime

open Core Effects
open Tools (PatchProposal ProposedFilePatch)

variable (platform : RunPlatform) (s : Surroundings) (options : RunTaskOptions)

/-! ## Gates -/

/-- The trace shows the manifest that was loaded and the plan that was made. -/
structure Established (run : Initialized) (trace : Trace) : Prop where
  manifest : ∃ loaded summary rest,
    trace = loaded ++ .appended (.manifestLoaded summary) :: rest ∧
      s.loadRepoManifest loaded = .ok run.manifest
  plan : .appended (.planCreated run.plan) ∈ trace

/-- Commands that ran one behind the other, each behind its permission, and passed. -/
def Passed (safety : Safety) (commands : List String) (new : Trace) : Prop :=
  ∃ results, PassEnded platform safety commands results new ∧ results.length = commands.length ∧
    ∀ result ∈ results, result.ok = true

/-- What the trace looks like where an effect is added to it. -/
def Gate (before : Trace) : Effect → Prop
  | .checkpointSaved checkpoint =>
      options.apply = true ∧ ∃ run proposal earlier granted, Established s run before ∧
        Granted (evaluatePatchPolicy platform.toPolicyPlatform run.manifest.safety proposal
          options.allowSensitive) granted ∧
        checkpoint.paths = proposedPaths proposal ∧
        before = earlier ++ .appended (.patchProposed (proposedPaths proposal) proposal) :: granted
  | .appended (.checkpointCreated id files) =>
      ∃ earlier checkpoint, checkpoint.id = id ∧ checkpoint.paths = files ∧
        before = earlier ++ [.checkpointSaved checkpoint]
  | .fileWritten file =>
      options.apply = true ∧ ∃ run earlier proposal checkpoint started k, Established s run before ∧
        PatchStarted (evaluatePatchPolicy platform.toPolicyPlatform run.manifest.safety proposal
          options.allowSensitive) proposal checkpoint started ∧
        proposal.files[k]? = some file ∧
        before = earlier ++ started ++ (proposal.files.take k).map .fileWritten
  | .appended (.patchApplied files id) =>
      ∃ earlier proposal, files = proposedPaths proposal ∧
        before = earlier ++ .appended (.checkpointCreated id files) ::
          proposal.files.map .fileWritten
  | .appended (.toolStarted _ command) =>
      options.dryRun = false ∧ ∃ run earlier done rest pass granted, Established s run before ∧
        run.plan.verificationCommands = done ++ command :: rest ∧
        Passed platform run.manifest.safety done pass ∧
        Granted (evaluateCommandPolicy platform.toPolicyPlatform run.manifest.safety command)
          granted ∧
        before = earlier ++ pass ++ granted
  | .commandRun command =>
      ∃ earlier, before = earlier ++ [.appended (.toolStarted "test.run" command)]
  | _ => True

variable {platform s options} {run : Initialized}

theorem Established.append {trace : Trace} (h : Established s run trace) (new : Trace) :
    Established s run (trace ++ new) := by
  rcases h.manifest with ⟨loaded, summary, rest, htrace, hloaded⟩
  refine ⟨⟨loaded, summary, rest ++ new, ?_, hloaded⟩, List.mem_append_left new h.plan⟩
  rw [htrace, List.append_assoc, List.cons_append]

/-- A permission is not gated itself. -/
theorem gate_of_isPermission {e : Effect} (h : e.IsPermission) (before : Trace) :
    Gate platform s options before e := by
  cases e with
  | appended event =>
      cases event with
      | permissionChecked decision => trivial
      | approvalRequested request => trivial
      | approvalResolved response => trivial
      | _ => cases h
  | _ => cases h

theorem gate_of_isProposal {e : Effect} (h : e.IsProposal) (before : Trace) :
    Gate platform s options before e := by
  cases e with
  | appended event =>
      cases event with
      | patchProposed files proposal => trivial
      | permissionChecked decision => trivial
      | approvalRequested request => trivial
      | approvalResolved response => trivial
      | _ => cases h
  | _ => cases h

theorem Granted.gated {decision : PermissionDecision} {granted log : Trace}
    (h : Granted decision granted) : LoggedFrom (Gate platform s options) log granted :=
  .of_forall fun e he => gate_of_isPermission (h.isPermission e he)

/-! ## Patches -/

/-- The files of a proposal are written behind its permission and its checkpoint. -/
theorem writes_gated {proposal : PatchProposal} {checkpoint : Checkpoint} {started log : Trace}
    (happly : options.apply = true) (hestablished : Established s run log)
    (h : PatchStarted (evaluatePatchPolicy platform.toPolicyPlatform run.manifest.safety proposal
      options.allowSensitive) proposal checkpoint started) (k : Nat) :
    LoggedFrom (Gate platform s options) (log ++ started)
      ((proposal.files.take k).map .fileWritten) := by
  intro before e after hsplit
  rcases List.map_eq_append_iff.mp hsplit with ⟨done, rest, hfiles, hdone, hrest⟩
  rcases List.map_eq_cons_iff.mp hrest with ⟨file, others, rfl, rfl, -⟩
  refine ⟨happly, run, log, proposal, checkpoint, started, done.length, ?_, h, ?_, ?_⟩
  · rw [List.append_assoc]
    exact hestablished.append _
  · have hprefix : (proposal.files.take k)[done.length]? = some file := by
      rw [hfiles, List.getElem?_append_right (Nat.le_refl _), Nat.sub_self,
        List.getElem?_cons_zero]
    rw [List.getElem?_take] at hprefix
    split at hprefix
    · exact hprefix
    · cases hprefix
  · have htake : proposal.files.take done.length = done := by
      have hlength : done.length ≤ k := by
        have htotal := congrArg List.length hfiles
        rw [List.length_take, List.length_append] at htotal
        omega
      have hboth : (proposal.files.take k).take done.length = proposal.files.take done.length := by
        rw [List.take_take, Nat.min_eq_left hlength]
      rw [← hboth, hfiles, List.take_left]
    rw [htake, hdone]

theorem PatchStarted.gated {proposal : PatchProposal} {checkpoint : Checkpoint}
    {started log : Trace} (happly : options.apply = true) (hestablished : Established s run log)
    (h : PatchStarted (evaluatePatchPolicy platform.toPolicyPlatform run.manifest.safety proposal
      options.allowSensitive) proposal checkpoint started) :
    LoggedFrom (Gate platform s options) log started := by
  cases h with
  | @intro granted hgranted hpaths =>
      refine LoggedFrom.append (.cons trivial hgranted.gated) ?_
      refine .cons ⟨happly, run, proposal, log, granted, hestablished.append _, hgranted,
        hpaths, rfl⟩ ?_
      exact .cons ⟨_, checkpoint, rfl, rfl, rfl⟩ .nil

/-- A patch that has started ends in its checkpoint. -/
theorem PatchStarted.last {decision : PermissionDecision} {proposal : PatchProposal}
    {checkpoint : Checkpoint} {started : Trace}
    (h : PatchStarted decision proposal checkpoint started) :
    ∃ earlier, started = earlier ++
      [.appended (.checkpointCreated checkpoint.id (proposedPaths proposal))] := by
  cases h with
  | @intro granted hgranted hpaths =>
      refine ⟨.appended (.patchProposed (proposedPaths proposal) proposal) :: granted ++
        [.checkpointSaved checkpoint], ?_⟩
      rw [hpaths, List.append_assoc]
      rfl

theorem PatchApplied.gated {proposal : PatchProposal} {id : String} {new log : Trace}
    (happly : options.apply = true) (hestablished : Established s run log)
    (h : PatchApplied (evaluatePatchPolicy platform.toPolicyPlatform run.manifest.safety proposal
      options.allowSensitive) proposal id new) :
    LoggedFrom (Gate platform s options) log new := by
  rcases h with ⟨checkpoint, started, hstarted, rfl, rfl⟩
  refine ((hstarted.gated happly hestablished).append ?_).append (.cons ?_ .nil)
  · have hwrites := writes_gated happly hestablished hstarted proposal.files.length
    rw [List.take_length] at hwrites
    exact hwrites
  · rcases hstarted.last with ⟨earlier, rfl⟩
    refine ⟨log ++ earlier, proposal, rfl, ?_⟩
    simp only [List.append_assoc, List.cons_append, List.nil_append]

theorem PatchStopped.gated {proposal : PatchProposal} {new log : Trace}
    (happly : options.apply = true) (hestablished : Established s run log)
    (h : PatchStopped (evaluatePatchPolicy platform.toPolicyPlatform run.manifest.safety proposal
      options.allowSensitive) proposal new) :
    LoggedFrom (Gate platform s options) log new := by
  rcases h with hproposal | ⟨checkpoint, started, k, hstarted, -, rfl⟩
  · exact .of_forall fun e he => gate_of_isProposal (hproposal e he)
  · exact (hstarted.gated happly hestablished).append (writes_gated happly hestablished hstarted k)

/-! ## Commands -/

/-- The log before a command of a pass. -/
structure BeforeCommand (platform : RunPlatform) (s : Surroundings) (run : Initialized)
    (commands : List String) (log : Trace) : Prop where
  established : Established s run log
  passed : ∃ earlier done pass, run.plan.verificationCommands = done ++ commands ∧
    Passed platform run.manifest.safety done pass ∧ log = earlier ++ pass

theorem toolStarted_gated {command : String} {commands : List String} {granted log : Trace}
    (hrun : options.dryRun = false)
    (hbefore : BeforeCommand platform s run (command :: commands) log)
    (hgranted : Granted (evaluateCommandPolicy platform.toPolicyPlatform run.manifest.safety
      command) granted) :
    LoggedFrom (Gate platform s options) log (granted ++
      [.appended (.toolStarted "test.run" command), .commandRun command]) := by
  rcases hbefore.passed with ⟨earlier, done, pass, hcommands, hpassed, rfl⟩
  refine hgranted.gated.append (.cons ?_ (.cons ⟨_, rfl⟩ .nil))
  exact ⟨hrun, run, earlier, done, commands, pass, granted, hbefore.established.append _,
    hcommands, hpassed, hgranted, rfl⟩

theorem CommandRan.gated {command : String} {commands : List String}
    {result : VerificationResult} {new log : Trace} (hrun : options.dryRun = false)
    (hbefore : BeforeCommand platform s run (command :: commands) log)
    (h : CommandRan (evaluateCommandPolicy platform.toPolicyPlatform run.manifest.safety command)
      command result new) :
    LoggedFrom (Gate platform s options) log new := by
  rcases h with ⟨granted, hgranted, rfl⟩
  have hends : LoggedFrom (Gate platform s options) (log ++ (granted ++
      [.appended (.toolStarted "test.run" command), .commandRun command]))
      [.appended (.toolFinished "test.run" result), .appended (.testsFinished result)] :=
    .cons trivial (.cons trivial .nil)
  have hall := (toolStarted_gated hrun hbefore hgranted).append hends
  rw [List.append_assoc] at hall
  exact hall

theorem CommandStopped.gated {command : String} {commands : List String} {new log : Trace}
    (hrun : options.dryRun = false)
    (hbefore : BeforeCommand platform s run (command :: commands) log)
    (h : CommandStopped (evaluateCommandPolicy platform.toPolicyPlatform run.manifest.safety
      command) command new) :
    LoggedFrom (Gate platform s options) log new := by
  rcases h with hpermission | ⟨granted, hgranted, rfl⟩
  · exact .of_forall fun e he => gate_of_isPermission (hpermission e he)
  · exact toolStarted_gated hrun hbefore hgranted

/-- One more command of a pass that passed. -/
theorem Passed.append {safety : Safety} {done : List String} {command : String}
    {result : VerificationResult} {pass new : Trace} (h : Passed platform safety done pass)
    (hran : CommandRan (evaluateCommandPolicy platform.toPolicyPlatform safety command) command
      result new) (hok : result.ok = true) :
    Passed platform safety (done ++ [command]) (pass ++ new) := by
  rcases h with ⟨results, hended, hlength, hall⟩
  induction hended with
  | done =>
      refine ⟨[result], ?_, rfl, ?_⟩
      · have hone := PassEnded.passed hran hok .done
        rw [List.append_nil] at hone
        exact hone
      · intro r hr
        rw [List.mem_singleton.mp hr]
        exact hok
  | failed hfirst hfailed =>
      rw [hall _ (List.mem_singleton_self _)] at hfailed
      cases hfailed
  | @passed _ _ first _ _ _ hfirst hpassed _ ih =>
      rcases ih (Nat.succ.inj hlength) (fun r hr => hall r (List.mem_cons_of_mem _ hr)) with
        ⟨others, hothers, hsame, hoks⟩
      refine ⟨first :: others, ?_, ?_, ?_⟩
      · rw [List.append_assoc]
        exact .passed hfirst hpassed hothers
      · rw [List.cons_append, List.length_cons, List.length_cons, hsame]
      · intro r hr
        rcases List.mem_cons.mp hr with rfl | htail
        · exact hpassed
        · exact hoks r htail

theorem BeforeCommand.next {command : String} {commands : List String}
    {result : VerificationResult} {new log : Trace}
    (h : BeforeCommand platform s run (command :: commands) log)
    (hran : CommandRan (evaluateCommandPolicy platform.toPolicyPlatform run.manifest.safety
      command) command result new) (hok : result.ok = true) :
    BeforeCommand platform s run commands (log ++ new) := by
  rcases h.passed with ⟨earlier, done, pass, hcommands, hpassed, hlog⟩
  refine ⟨h.established.append new, earlier, done ++ [command], pass ++ new, ?_,
    hpassed.append hran hok, ?_⟩
  · rw [hcommands, List.append_assoc, List.singleton_append]
  · rw [hlog, List.append_assoc]

theorem PassEnded.gated {commands : List String} {results : List VerificationResult}
    {new log : Trace} (hrun : options.dryRun = false)
    (hbefore : BeforeCommand platform s run commands log)
    (h : PassEnded platform run.manifest.safety commands results new) :
    LoggedFrom (Gate platform s options) log new := by
  generalize hsafety : run.manifest.safety = safety at h
  induction h generalizing log with
  | done => exact .nil
  | failed hran hfailed =>
      rw [← hsafety] at hran
      exact hran.gated hrun hbefore
  | passed hran hpassed hrest ih =>
      rw [← hsafety] at hran
      exact (hran.gated hrun hbefore).append (ih (hbefore.next hran hpassed))

theorem PassStopped.gated {commands : List String} {new log : Trace}
    (hrun : options.dryRun = false) (hbefore : BeforeCommand platform s run commands log)
    (h : PassStopped platform run.manifest.safety commands new) :
    LoggedFrom (Gate platform s options) log new := by
  generalize hsafety : run.manifest.safety = safety at h
  induction h generalizing log with
  | here hstopped =>
      rw [← hsafety] at hstopped
      exact hstopped.gated hrun hbefore
  | later hran hpassed hrest ih =>
      rw [← hsafety] at hran
      exact (hran.gated hrun hbefore).append (ih (hbefore.next hran hpassed))

end Runtime
end TokenStreaming
