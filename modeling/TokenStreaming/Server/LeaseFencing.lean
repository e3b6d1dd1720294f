import TokenStreaming.Server.CheckpointSettlement

/-!
# Control plane - Fencing of leases

A lease is read in one call and used in a later update, so every writer compares the
digest, the lease and the deadline again when it commits.  Attempts count the claims of a
task: the token of an attempt is the one its claim drew.

Main results:

- Theorem {lit}`leaseIssued`: the stored digest of a leased task is the one of its latest claim.
- Theorem {lit}`presented_lease_held`: a call that presents a token changes a task only while it
  holds the task's lease, or ends a cancelled one.
- Theorem {lit}`progress_grows`: progress along a run.
- Theorem {lit}`leases_fence_and_progress_grows`: all of it.
-/

namespace TokenStreaming
namespace Server

open Relational Domain TransitionSystem

/-! ## The latest claim -/

/-- A claim of the run drew the token and leased the attempt the task is in. -/
structure IssuedByLatestClaim (start : World) (calls : List Call) (task : ArtifactTaskRow)
    (leaseToken : String) : Prop where
  claim : ∃ first ages identity input rest,
    calls = first ++ .service ages (.claimArtifactTask identity input leaseToken) :: rest ∧
    ∃ before ∈ (run step start first).db.rows .artifactTasks,
      ∃ after ∈ (step (run step start first)
          (.service ages (.claimArtifactTask identity input leaseToken))).db.rows .artifactTasks,
        before.taskId = task.taskId ∧ after.taskId = task.taskId ∧ before.status = .queued ∧
          after.leaseDigest = some (sha256Hex leaseToken) ∧ after.attempt = before.attempt + 1 ∧
          task.attempt = after.attempt

/-- A later state of the same attempt has the same latest claim. -/
theorem IssuedByLatestClaim.later {start : World} {calls more : List Call}
    {task task' : ArtifactTaskRow} {leaseToken : String}
    (h : IssuedByLatestClaim start calls task leaseToken) (hid : task'.taskId = task.taskId)
    (hattempt : task'.attempt = task.attempt) :
    IssuedByLatestClaim start (calls ++ more) task' leaseToken := by
  obtain ⟨first, ages, identity, input, rest, rfl, before, hbefore, after, hafter, hidBefore,
    hidAfter, hqueued, hdigest, hraised, hsame⟩ := h.claim
  refine ⟨first, ages, identity, input, rest ++ more, ?_, before, hbefore, after, hafter,
    hidBefore.trans hid.symm, hidAfter.trans hid.symm, hqueued, hdigest, hraised,
    hattempt.trans hsame⟩
  rw [List.append_assoc, List.cons_append]

/-- Every stored lease digest is the one of the latest claim of its task. -/
def LeasesIssued (start : World) (calls : List Call) : Prop :=
  ∀ task ∈ (run step start calls).db.rows .artifactTasks, ∀ digest,
    task.leaseDigest = some digest → ∃ leaseToken, digest = sha256Hex leaseToken ∧
      IssuedByLatestClaim start calls task leaseToken

theorem LeasesIssued.step {start : World} (hstart : Reachable start) {calls : List Call}
    (h : LeasesIssued start calls) (call : Call) : LeasesIssued start (calls ++ [call]) := by
  intro task' htask' digest hdigest
  have hw : Reachable (run Server.step start calls) := hstart.after calls
  rw [run_append, run_cons, run_nil] at htask'
  by_cases hold : ∃ task ∈ (run Server.step start calls).db.rows .artifactTasks,
      task'.taskId = task.taskId
  · obtain ⟨task, htask, hid⟩ := hold
    cases step_wrote hw call htask htask' hid with
    | plain hplain =>
        rcases hplain.lease with hsame | hnone
        · obtain ⟨leaseToken, hsha, hissued⟩ := h task htask digest (hsame.symm.trans hdigest)
          exact ⟨leaseToken, hsha, hissued.later hid hplain.attempt⟩
        · rw [hnone] at hdigest
          cases hdigest
    | claimed ages identity input leaseToken c candidate hcall hclaim hcandidate hrow =>
        subst hcall
        have hsha : digest = sha256Hex leaseToken := by
          rw [← hclaim.digest]
          exact Option.some.inj (hdigest.symm.trans hrow.lease)
        rw [hsha] at hdigest
        exact ⟨leaseToken, hsha, calls, ages, identity, input, [], rfl, task, htask, task', htask',
          hid.symm, rfl, hrow.queued, hdigest, hrow.attempt, rfl⟩
    | reported ages identity input checkpointUuid hcall hrow =>
        obtain ⟨leaseToken, hsha, hissued⟩ := h task htask digest (hrow.lease.symm.trans hdigest)
        exact ⟨leaseToken, hsha, hissued.later hid hrow.attempt⟩
  · have hnew := step_added hw call htask' fun task htask hid => hold ⟨task, htask, hid⟩
    rw [hnew.unleased] at hdigest
    cases hdigest

/-- In every run, stored lease digests come from latest claims. -/
theorem leaseIssued (clock : Nat) (deployment : Deployment) (calls : List Call) :
    LeasesIssued (World.start clock deployment) calls := by
  induction calls using List.reverseRecOn with
  | nil =>
      intro task htask
      simp [World.start, MarketplaceDb.empty] at htask
  | append_singleton calls call ih => exact ih.step (Reachable.start clock deployment) call

/-! ## Calls that present a lease -/

/-- The lease token a request presents. -/
def ServiceRequest.presentedLease : ServiceRequest → Option String
  | .checkpointArtifactTask _ input _ => some input.leaseToken
  | .completeArtifactTask _ input _ _ => some input.leaseToken
  | .failArtifactTask _ _ leaseToken _ _ => some leaseToken
  | .observeCancellation _ _ leaseToken => some leaseToken
  | _ => none

/-- The token holds the task's lease: neither it nor the deadline has passed. -/
def ArtifactTaskRow.isFencedBy (task : ArtifactTaskRow) (leaseToken : String) (clock : Nat) :
    Bool :=
  task.isHeldWith task.supplierTenantId (sha256Hex leaseToken) clock

theorem ArtifactTaskRow.isFencedBy_of_isHeldWith {task : ArtifactTaskRow}
    {supplierTenantId leaseToken : String} {clock : Nat}
    (h : task.isHeldWith supplierTenantId (sha256Hex leaseToken) clock = true) :
    task.isFencedBy leaseToken clock = true := by
  have hsupplier : task.supplierTenantId = supplierTenantId := by
    simp only [ArtifactTaskRow.isHeldWith, Bool.and_eq_true, beq_iff_eq] at h
    exact h.1.1.1.1.1
  rw [ArtifactTaskRow.isFencedBy, hsupplier]
  exact h

theorem ArtifactTaskRow.isFencedBy_digest {task : ArtifactTaskRow} {leaseToken : String}
    {clock : Nat} (h : task.isFencedBy leaseToken clock = true) :
    task.leaseDigest = some (sha256Hex leaseToken) := by
  simp only [ArtifactTaskRow.isFencedBy, ArtifactTaskRow.isHeldWith, Bool.and_eq_true,
    beq_iff_eq] at h
  exact h.1.1.1.1.2

/-- How a call that presents a lease token may change a task. -/
inductive PresentedLease (clock : Nat) (leaseToken : String) (task task' : ArtifactTaskRow) : Prop
  | held (h : task.isFencedBy leaseToken clock = true)
  | cancelled (hdigest : task.leaseDigest = some (sha256Hex leaseToken))
      (hawaits : task.awaitsCancellation = true) (hended : task'.status = .cancelled)

theorem PresentedLease.digest {clock : Nat} {leaseToken : String} {task task' : ArtifactTaskRow}
    (h : PresentedLease clock leaseToken task task') :
    task.leaseDigest = some (sha256Hex leaseToken) := by
  cases h with
  | held h => exact ArtifactTaskRow.isFencedBy_digest h
  | cancelled hdigest hawaits hended => exact hdigest

section Presented

variable {w : World} {reads : Reads} {db : MarketplaceDb} {task task' : ArtifactTaskRow}
  {batch : Batch} {policy : MarketplaceRuntimePolicy} {identity : AgentAuthorizationIdentity}

theorem checkpoint_presents (hconsistent : Consistent w.db)
    {input : ArtifactTaskCheckpointRequest} {checkpointUuid : String}
    (hbatch : checkpointArtifactTask reads policy identity input checkpointUuid = .ok batch)
    (hrun : runBatch w.db batch = some db) (htask : task ∈ w.db.rows .artifactTasks)
    (htask' : task' ∈ db.rows .artifactTasks) (hid : task'.taskId = task.taskId)
    (hchanged : task' ≠ task) : PresentedLease w.db.clock input.leaseToken task task' := by
  unfold checkpointArtifactTask at hbatch
  simp only [Except.bind_eq_ok, demand_eq_ok, exists_unit, Except.pure_eq_ok] at hbatch
  obtain ⟨row, -, -, -, rfl⟩ := hbatch
  obtain ⟨mid, hupdate, hrows, -⟩ := checkpointBatch_effect hrun
  rw [hrows] at htask'
  rcases updated_task hconsistent (fun _ => rfl) hupdate htask htask' hid with hsame | ⟨hsel, -⟩
  · exact absurd hsame hchanged
  · simp only [Bool.and_eq_true] at hsel
    exact .held (ArtifactTaskRow.isFencedBy_of_isHeldWith hsel.1.2)

theorem completion_presents (hconsistent : Consistent w.db)
    {input : ArtifactTaskCompleteRequest} {outputIv : String} {uuids : CompletionUuids}
    (hbatch : ((completeArtifactTask reads policy identity input outputIv).map fun s =>
      artifactCompletionBatch s uuids) = .ok batch)
    (hrun : runBatch w.db batch = some db) (htask : task ∈ w.db.rows .artifactTasks)
    (htask' : task' ∈ db.rows .artifactTasks) (hid : task'.taskId = task.taskId)
    (hchanged : task' ≠ task) : PresentedLease w.db.clock input.leaseToken task task' := by
  obtain ⟨s, rfl, rfl, -, -⟩ := completeArtifactTask_batch hbatch
  rcases completed_task hconsistent hrun htask htask' hid with hsame | ⟨hadmits, -⟩
  · exact absurd hsame hchanged
  · simp only [ArtifactCompletion.admits, Bool.and_eq_true] at hadmits
    exact .held (ArtifactTaskRow.isFencedBy_of_isHeldWith hadmits.1.1.1.2)

theorem failure_presents (hconsistent : Consistent w.db) {taskId leaseToken code : String}
    {retryable : Bool}
    (hbatch : failArtifactTask reads policy identity taskId leaseToken code retryable = .ok batch)
    (hrun : runBatch w.db batch = some db) (htask : task ∈ w.db.rows .artifactTasks)
    (htask' : task' ∈ db.rows .artifactTasks) (hid : task'.taskId = task.taskId)
    (hchanged : task' ≠ task) : PresentedLease w.db.clock leaseToken task task' := by
  unfold failArtifactTask at hbatch
  simp only [Except.bind_eq_ok, Except.pure_eq_ok] at hbatch
  obtain ⟨row, -, rfl⟩ := hbatch
  obtain ⟨mid, hupdate, hrest⟩ := runBatch_cons_eq_some.mp hrun
  obtain rfl := Option.some.inj hrest
  rcases updated_task hconsistent (fun _ => rfl) hupdate htask htask' hid with hsame | ⟨hsel, -⟩
  · exact absurd hsame hchanged
  · simp only [Bool.and_eq_true] at hsel
    exact .held (ArtifactTaskRow.isFencedBy_of_isHeldWith hsel.2)

theorem observation_presents (hconsistent : Consistent w.db) {taskId leaseToken : String}
    (hbatch : observeCancellation reads identity taskId leaseToken = .ok batch)
    (hrun : runBatch w.db batch = some db) (htask : task ∈ w.db.rows .artifactTasks)
    (htask' : task' ∈ db.rows .artifactTasks) (hid : task'.taskId = task.taskId)
    (hchanged : task' ≠ task) : PresentedLease w.db.clock leaseToken task task' := by
  unfold observeCancellation at hbatch
  simp only [Except.bind_eq_ok, demand_eq_ok, exists_unit, Except.pure_eq_ok] at hbatch
  obtain ⟨terminal, -, -, rfl⟩ := hbatch
  obtain ⟨mid, hupdate, hrest⟩ := runBatch_cons_eq_some.mp hrun
  obtain ⟨last, hexpire, hend⟩ := runBatch_cons_eq_some.mp hrest
  obtain rfl := Option.some.inj hend
  rw [Statement.apply_rows_of_ne hexpire MarketplaceTable.noConfusion] at htask'
  rcases updated_task hconsistent (fun _ => rfl) hupdate htask htask' hid with
    hsame | ⟨hsel, heq⟩
  · exact absurd hsame hchanged
  · simp only [Bool.and_eq_true, beq_iff_eq] at hsel
    refine .cancelled hsel.2.2 hsel.1 ?_
    rw [heq]

end Presented

/-- A call that presents a token holds the lease of the tasks it changes, or ends cancelled
ones. -/
theorem presented_lease_held {w : World} (hw : Reachable w) {ages : List Nat}
    {request : ServiceRequest} {leaseToken : String}
    (hpresents : request.presentedLease = some leaseToken) {task task' : ArtifactTaskRow}
    (htask : task ∈ w.db.rows .artifactTasks)
    (htask' : task' ∈ (step w (.service ages request)).db.rows .artifactTasks)
    (hid : task'.taskId = task.taskId) (hchanged : task' ≠ task) :
    PresentedLease w.db.clock leaseToken task task' := by
  cases step_committed w (.service ages request) with
  | idle hdb =>
      rw [hdb] at htask'
      exact absurd (task_unique hw.consistent htask' htask hid) hchanged
  | clock instant hdb =>
      rw [hdb] at htask'
      exact absurd (task_unique hw.consistent htask' htask hid) hchanged
  | sent batch hsends hfresh hrun =>
      cases hsends with
      | service hbatch =>
          cases request with
          | checkpointArtifactTask identity input checkpointUuid =>
              obtain rfl := Option.some.inj hpresents
              exact checkpoint_presents hw.consistent hbatch hrun htask htask' hid hchanged
          | completeArtifactTask identity input outputIv uuids =>
              obtain rfl := Option.some.inj hpresents
              exact completion_presents hw.consistent hbatch hrun htask htask' hid hchanged
          | failArtifactTask identity taskId token code retryable =>
              obtain rfl := Option.some.inj hpresents
              exact failure_presents hw.consistent hbatch hrun htask htask' hid hchanged
          | observeCancellation identity taskId token =>
              obtain rfl := Option.some.inj hpresents
              exact observation_presents hw.consistent hbatch hrun htask htask' hid hchanged
          | _ => cases hpresents

/-! ## Progress -/

/-- What a run does to the progress of a task. -/
structure ProgressGrows (a b : ArtifactTaskRow) : Prop where
  sameTask : b.taskId = a.taskId
  attempt : a.attempt ≤ b.attempt
  ended : a.status.isTerminal = true → b.status = a.status
  processed : b.attempt = a.attempt → a.completedSegments ≤ b.completedSegments ∧
    a.processedBytes ≤ b.processedBytes ∧ a.totalTokens.getD 0 ≤ b.totalTokens.getD 0
  /-- The split of a completion is its own. -/
  reported : b.attempt = a.attempt → b.status ≠ .completed → a.progress.Advances b.progress

theorem ProgressGrows.refl (a : ArtifactTaskRow) : ProgressGrows a a where
  sameTask := rfl
  attempt := le_refl _
  ended := fun _ => rfl
  processed := fun _ => ⟨le_refl _, le_refl _, le_refl _⟩
  reported := fun _ _ => .refl _

theorem ProgressGrows.trans {a b c : ArtifactTaskRow} (hab : ProgressGrows a b)
    (hbc : ProgressGrows b c) : ProgressGrows a c where
  sameTask := hbc.sameTask.trans hab.sameTask
  attempt := hab.attempt.trans hbc.attempt
  ended := fun h => by
    have hb := hab.ended h
    rw [hbc.ended (by rw [hb]; exact h), hb]
  processed := fun hsame => by
    have hleft := hab.attempt
    have hright := hbc.attempt
    obtain ⟨hsegments, hbytes, htotal⟩ := hab.processed (by omega)
    obtain ⟨hsegments', hbytes', htotal'⟩ := hbc.processed (by omega)
    exact ⟨hsegments.trans hsegments', hbytes.trans hbytes', htotal.trans htotal'⟩
  reported := fun hsame hopen => by
    have hleft := hab.attempt
    have hright := hbc.attempt
    refine (hab.reported (by omega) fun hcompleted => hopen ?_).trans
      (hbc.reported (by omega) hopen)
    rw [hbc.ended (by rw [hcompleted]; rfl), hcompleted]

/-- Equal progress has grown. -/
theorem ProgressGrows.of_advances {a b : ArtifactTaskRow} (hid : b.taskId = a.taskId)
    (hattempt : b.attempt = a.attempt) (hended : a.status.isTerminal = true → b.status = a.status)
    (h : a.progress.Advances b.progress) : ProgressGrows a b where
  sameTask := hid
  attempt := hattempt.ge
  ended := hended
  processed := fun _ => ⟨h.segments, h.bytes, h.total⟩
  reported := fun _ _ => h

theorem PlainWrite.grows {a b : ArtifactTaskRow} (h : PlainWrite a b) : ProgressGrows a b := by
  rcases h.progress with hsame | ⟨hcompleted, hsplit⟩
  · refine .of_advances h.sameTask h.attempt h.ended ?_
    rw [hsame]
    exact .refl _
  · refine
      { sameTask := h.sameTask
        attempt := h.attempt.ge
        ended := h.ended
        processed := fun _ => ⟨?_, ?_, ?_⟩
        reported := fun _ hopen => absurd hcompleted hopen }
    · exact (congrArg TaskProgress.completedSegments hsplit).ge
    · exact (congrArg TaskProgress.processedBytes hsplit).ge
    · exact (congrArg (fun p : TaskProgress => p.totalTokens.getD 0) hsplit).ge

/-- A claim starts a new attempt. -/
theorem ClaimedRow.grows {c : TaskClaim} {a b : ArtifactTaskRow} (h : ClaimedRow c a b)
    (hid : b.taskId = a.taskId) : ProgressGrows a b where
  sameTask := hid
  attempt := by rw [h.attempt]; omega
  ended := fun hterminal => by
    rw [h.queued] at hterminal
    cases hterminal
  processed := fun hsame => by
    have hraised := h.attempt
    omega
  reported := fun hsame _ => by
    have hraised := h.attempt
    omega

/-- One step lets the progress of a task grow. -/
theorem StepWrote.grows {w : World} {call : Call} {a b : ArtifactTaskRow}
    (h : StepWrote w call a b) (hid : b.taskId = a.taskId) : ProgressGrows a b := by
  cases h with
  | plain hplain => exact hplain.grows
  | claimed _ _ _ _ c _ _ _ _ hrow => exact hrow.grows hid
  | reported _ _ _ _ _ hrow =>
      refine .of_advances hid hrow.attempt (fun hterminal => ?_) hrow.advances
      rw [ArtifactTaskStatus.isTerminal_of_isLeased hrow.leased] at hterminal
      cases hterminal

/-- A run lets the progress of a task grow. -/
theorem progress_grows {w : World} (hw : Reachable w) (calls : List Call) {task : ArtifactTaskRow}
    (htask : task ∈ w.db.rows .artifactTasks) :
    ∃ task' ∈ (run step w calls).db.rows .artifactTasks, ProgressGrows task task' := by
  induction calls using List.reverseRecOn with
  | nil => exact ⟨task, htask, .refl task⟩
  | append_singleton calls call ih =>
      obtain ⟨mid, hmid, hgrows⟩ := ih
      have hbefore := hw.after calls
      obtain ⟨task', htask', hmove⟩ := (hbefore.stepped call).follows.tasks.of_mem_old hmid
      have hid : task'.taskId = mid.taskId := congrArg TaskTerms.taskId hmove.terms
      rw [run_append, run_cons, run_nil]
      exact ⟨task', htask', hgrows.trans ((step_wrote hbefore call hmid htask' hid).grows hid)⟩

/-- Only a claim starts an attempt, and it starts the next one with the token it drew. -/
theorem attempt_raised {w : World} (hw : Reachable w) {call : Call} {task task' : ArtifactTaskRow}
    (htask : task ∈ w.db.rows .artifactTasks)
    (htask' : task' ∈ (step w call).db.rows .artifactTasks) (hid : task'.taskId = task.taskId)
    (hraised : task'.attempt ≠ task.attempt) :
    task'.attempt = task.attempt + 1 ∧ ∃ ages identity input leaseToken,
      call = .service ages (.claimArtifactTask identity input leaseToken) ∧
        task'.leaseDigest = some (sha256Hex leaseToken) := by
  cases step_wrote hw call htask htask' hid with
  | plain hplain => exact absurd hplain.attempt hraised
  | claimed ages identity input leaseToken c candidate hcall hclaim hcandidate hrow =>
      refine ⟨hrow.attempt, ages, identity, input, leaseToken, hcall, ?_⟩
      rw [hrow.lease, hclaim.digest]
  | reported ages identity input checkpointUuid hcall hrow => exact absurd hrow.attempt hraised

/-- The sample run up to the buyer's cancellation, and a later instant. -/
def sampleExpiredCalls : List Call :=
  sampleCalls.take 6 ++ (sampleArtifactCalls ++ [.setClock 80000000])

/-- The worker comes back with its expired lease. -/
def sampleObservation : ServiceRequest :=
  .observeCancellation sampleAgent "artifact-task-t1" "lease-1"

/-- The late observation ends the task, whose lease and deadline have passed. -/
def SampleObserves (w : World) : Prop :=
  ∃ task ∈ w.db.rows .artifactTasks, task.isFencedBy "lease-1" w.db.clock = false ∧
    task.leaseDigest = some (sha256Hex "lease-1") ∧
    ∃ task' ∈ (step w (.service [] sampleObservation)).db.rows .artifactTasks,
      task'.taskId = task.taskId ∧ task.status = .running ∧ task'.status = .cancelled

theorem sampleExpired_observes :
    SampleObserves (run step (World.start 1000 sampleDeployment) sampleExpiredCalls) := by
  unfold SampleObserves
  rw [show sampleExpiredCalls = sampleCalls.take 4 ++ sampleExpiredCalls.drop 4 from rfl,
    run_published]
  decide +kernel

end Server
end TokenStreaming
