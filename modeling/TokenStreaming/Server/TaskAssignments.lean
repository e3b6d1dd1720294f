import TokenStreaming.Server.TaskProgress

/-!
# Control plane - Assignments of artifact tasks

A claim chooses a candidate, computes the attempt and the resume point from that
row and then updates the task if it is still queued.  A task that was claimed and
requeued in between is queued again, so the assignment may describe an earlier
attempt.  The assignment is right when the attempt has not changed.

Main results:

- Theorem {lit}`Reachable.waited`: a queued row with an unchanged attempt is unchanged.
- Theorem {lit}`assignment_is_true`: assignments of runs in which every claim meets the
  attempt its candidate had.
-/

namespace TokenStreaming
namespace Server

open Relational Domain TransitionSystem

/-! ## Rows that wait -/

/-- What has become of a row that was read: a queued one is unchanged until its next attempt. -/
structure Waited (row task : ArtifactTaskRow) : Prop where
  sameTask : task.taskId = row.taskId
  attempt : row.attempt ≤ task.attempt
  unchanged : row.status = .queued → task.attempt = row.attempt →
    task.status.isLeased = false ∧
      (task.status = .queued → task.progress = row.progress ∧ task.workerId = row.workerId)

theorem Waited.refl (row : ArtifactTaskRow) : Waited row row where
  sameTask := rfl
  attempt := le_refl _
  unchanged := fun hqueued _ => by
    refine ⟨?_, fun _ => ⟨rfl, rfl⟩⟩
    rw [hqueued]
    rfl

/-- Only a claim touches a waiting row, and it raises the attempt. -/
theorem Waited.wrote {w : World} {call : Call} {row task task' : ArtifactTaskRow}
    (h : Waited row task) (hwrote : StepWrote w call task task')
    (hid : task'.taskId = task.taskId) : Waited row task' := by
  refine ⟨hid.trans h.sameTask, ?_, ?_⟩
  · have hbefore := h.attempt
    cases hwrote with
    | plain hplain => exact hbefore.trans hplain.attempt.ge
    | claimed _ _ _ _ c _ _ _ _ hrow => exact hbefore.trans (by rw [hrow.attempt]; omega)
    | reported _ _ _ _ _ hrow => exact hbefore.trans hrow.attempt.ge
  · intro hqueued hattempt
    cases hwrote with
    | plain hplain =>
        obtain ⟨hnot, hsame⟩ := h.unchanged hqueued (hplain.attempt.symm.trans hattempt)
        refine ⟨?_, fun hqueued' => ?_⟩
        · cases hleased : task'.status.isLeased with
          | false => rfl
          | true => exact absurd (hplain.notLeased hleased) (by simp [hnot])
        · obtain ⟨hactive, hprogress, hworker⟩ := hplain.kept (by rw [hqueued']; rfl)
          have htask : task.status = .queued := by
            cases hstatus : task.status <;>
              simp [hstatus, ArtifactTaskStatus.isLeased, ArtifactTaskStatus.holdsReservation]
                at hnot hactive ⊢
          obtain ⟨hprogress', hworker'⟩ := hsame htask
          refine ⟨hprogress.trans hprogress', ?_⟩
          rcases hworker with hkept | ⟨hleased, -⟩
          · exact hkept.trans hworker'
          · exact absurd hleased (by simp [hnot])
    | claimed _ _ _ _ c _ _ _ _ hrow =>
        have hbefore := h.attempt
        have hraised := hrow.attempt
        omega
    | reported _ _ _ _ _ hrow =>
        obtain ⟨hnot, -⟩ := h.unchanged hqueued (hrow.attempt.symm.trans hattempt)
        exact absurd hrow.leased (by simp [hnot])

/-- A row that was read still waits or has been claimed since. -/
theorem Reachable.waited {w : World} (h : Reachable w) :
    ∀ row, w.observed .artifactTasks row → ∃ task ∈ w.db.rows .artifactTasks, Waited row task := by
  refine h.induction (P := fun w => ∀ row, w.observed .artifactTasks row →
    ∃ task ∈ w.db.rows .artifactTasks, Waited row task) ?_ ?_
  · rintro clock deployment row ⟨snap, hsnap, hrow⟩
    rw [List.mem_singleton.mp hsnap] at hrow
    simp [World.start, MarketplaceDb.empty] at hrow
  · rintro w call hw ih row ⟨snap, hsnap, hrow⟩
    rcases (hw.stepped call).snapshots_eq hsnap with rfl | hold
    · exact ⟨row, hrow, Waited.refl row⟩
    · obtain ⟨task, htask, hwaited⟩ := ih row ⟨snap, hold, hrow⟩
      obtain ⟨task', htask', hmove⟩ := (hw.stepped call).follows.tasks.of_mem_old htask
      have hid : task'.taskId = task.taskId := congrArg TaskTerms.taskId hmove.terms
      exact ⟨task', htask', hwaited.wrote (step_wrote hw call htask htask' hid) hid⟩

/-! ## Candidates -/

/-- A candidate was queued when it was read. -/
theorem claimCandidate_eq_some {reads : Reads} {identity : AgentAuthorizationIdentity}
    {input : ArtifactTaskClaimRequest} {candidate : WorkerTaskRow}
    (h : claimCandidate reads identity input = some candidate) :
    candidate.task ∈ (reads 1).rows .artifactTasks ∧ candidate.task.status = .queued := by
  have hmem := List.mem_of_find?_eq_some h
  have hrow := (List.mem_filter.mp (List.mem_of_mem_take hmem)).1
  obtain ⟨task, htask, hjoined⟩ := List.mem_flatMap.mp (List.mem_filter.mp hrow).1
  obtain ⟨artifact, -, hoffer⟩ := List.mem_flatMap.mp hjoined
  obtain ⟨offer, -, rfl⟩ := List.mem_map.mp hoffer
  have hqueued := (List.mem_insertionSort _).mp htask
  rw [List.mem_filter] at hqueued
  simp only [Bool.and_eq_true, beq_iff_eq] at hqueued
  exact ⟨hqueued.1, hqueued.2.2⟩

/-- A claim meets the attempt its candidate had. -/
def claimIsCurrent (w : World) : Call → Bool
  | .service ages (.claimArtifactTask identity input _) =>
      match claimCandidate (w.reads ages) identity input with
      | none => true
      | some candidate => (w.db.rows .artifactTasks).all fun task =>
          task.taskId != candidate.task.taskId || task.status != .queued ||
            task.attempt == candidate.task.attempt
  | _ => true

/-- A current claim takes a task that is as its candidate was. -/
theorem current_unchanged {w : World} (hw : Reachable w) {ages : List Nat}
    {identity : AgentAuthorizationIdentity} {input : ArtifactTaskClaimRequest}
    {leaseToken : String}
    (hcurrent : claimIsCurrent w (.service ages (.claimArtifactTask identity input leaseToken)) =
      true)
    {candidate : WorkerTaskRow}
    (hfound : claimCandidate (w.reads ages) identity input = some candidate)
    {task : ArtifactTaskRow} (htask : task ∈ w.db.rows .artifactTasks)
    (hid : task.taskId = candidate.task.taskId) (hqueued : task.status = .queued) :
    task.attempt = candidate.task.attempt ∧ task.progress = candidate.task.progress ∧
      task.workerId = candidate.task.workerId := by
  obtain ⟨hread, hwaiting⟩ := claimCandidate_eq_some hfound
  have hattempt : task.attempt = candidate.task.attempt := by
    simp only [claimIsCurrent, hfound, List.all_eq_true] at hcurrent
    simpa [hid, hqueued] using hcurrent task htask
  obtain ⟨stored, hstored, hwaited⟩ := hw.waited candidate.task ⟨_, w.reads_mem ages 1, hread⟩
  have hsame : stored = task :=
    task_unique hw.consistent hstored htask (hwaited.sameTask.trans hid.symm)
  rw [hsame] at hwaited
  exact ⟨hattempt, (hwaited.unchanged hwaiting hattempt).2 hqueued⟩

/-! ## Recorded progress -/

/-- A checkpoint of the worker, on the same authorization, recorded the progress of the task. -/
structure CheckpointedIn (start : World) (calls : List Call) (task : ArtifactTaskRow)
    (workerId : String) : Prop where
  recorded : ∃ first ages identity input checkpointUuid rest,
    calls = first ++
      .service ages (.checkpointArtifactTask identity input checkpointUuid) :: rest ∧
    ∃ before ∈ (run step start first).db.rows .artifactTasks,
      ∃ after ∈ (step (run step start first)
          (.service ages (.checkpointArtifactTask identity input checkpointUuid))).db.rows
          .artifactTasks,
        ReportedRow input before after ∧ before.taskId = task.taskId ∧
          before.authorizationRequestId = task.authorizationRequestId ∧
          before.workerId = some workerId ∧ after.progress = task.progress

/-- What was recorded stays recorded and counts for every later row with the same progress. -/
theorem CheckpointedIn.later {start : World} {calls more : List Call}
    {task task' : ArtifactTaskRow} {workerId : String}
    (h : CheckpointedIn start calls task workerId) (hterms : task'.terms = task.terms)
    (hprogress : task'.progress = task.progress) :
    CheckpointedIn start (calls ++ more) task' workerId := by
  obtain ⟨first, ages, identity, input, checkpointUuid, rest, rfl, before, hbefore, after, hafter,
    hrow, hid, hauthorization, hworker, hrecorded⟩ := h.recorded
  refine ⟨first, ages, identity, input, checkpointUuid, rest ++ more, ?_, before, hbefore, after,
    hafter, hrow, ?_, ?_, hworker, hrecorded.trans hprogress.symm⟩
  · rw [List.append_assoc, List.cons_append]
  · exact hid.trans (congrArg TaskTerms.taskId hterms).symm
  · exact hauthorization.trans (congrArg TaskTerms.authorizationRequestId hterms).symm

/-- The progress of every active task was recorded by the worker it names. -/
def ProgressRecorded (start : World) (calls : List Call) : Prop :=
  ∀ task ∈ (run step start calls).db.rows .artifactTasks, task.status.holdsReservation = true →
    0 < task.completedSegments → ∀ workerId, task.workerId = some workerId →
      CheckpointedIn start calls task workerId

/-- A current claim keeps the progress of the worker that claims, or drops all of it. -/
theorem ClaimedRow.kept {w : World} (hw : Reachable w) {ages : List Nat}
    {identity : AgentAuthorizationIdentity} {input : ArtifactTaskClaimRequest}
    {leaseToken : String} {c : TaskClaim} {candidate : WorkerTaskRow}
    (hcurrent : claimIsCurrent w (.service ages (.claimArtifactTask identity input leaseToken)) =
      true)
    (hcandidate : ClaimsCandidate (w.reads ages) identity input c candidate)
    {task task' : ArtifactTaskRow} (htask : task ∈ w.db.rows .artifactTasks)
    (hrow : ClaimedRow c task task') (hresume : c.resumeFromSegment ≠ 0) :
    task'.progress = task.progress ∧ task.workerId = some c.workerId := by
  obtain ⟨-, hprogress, hworker⟩ := current_unchanged hw hcurrent hcandidate.found htask
    (hrow.sameTask.trans hcandidate.sameTask) hrow.queued
  have hresumed := hcandidate.resume
  by_cases hsame : candidate.task.workerId = some input.workerId
  · rw [if_pos hsame] at hresumed
    have hkept : c.resumeFromSegment = task.progress.completedSegments :=
      hresumed.trans (congrArg TaskProgress.completedSegments hprogress).symm
    refine ⟨?_, ?_⟩
    · rw [hrow.resumed hresume, hkept]
    · rw [hworker, hsame, hcandidate.worker]
  · rw [if_neg hsame] at hresumed
    exact absurd hresumed hresume

/-- Steps whose claims are current keep all progress recorded. -/
theorem ProgressRecorded.step {start : World} (hstart : Reachable start) {calls : List Call}
    (h : ProgressRecorded start calls) {call : Call}
    (hcurrent : claimIsCurrent (run step start calls) call = true) :
    ProgressRecorded start (calls ++ [call]) := by
  intro task' htask' hactive hpositive workerId hworker
  have hw : Reachable (run Server.step start calls) := hstart.after calls
  rw [run_append, run_cons, run_nil] at htask'
  by_cases hold : ∃ task ∈ (run Server.step start calls).db.rows .artifactTasks,
      task'.taskId = task.taskId
  · obtain ⟨task, htask, hid⟩ := hold
    have hterms : task'.terms = task.terms := by
      obtain ⟨later, hlater, hmove⟩ := (hw.stepped call).follows.tasks.of_mem_old htask
      have hsame : later = task' := task_unique (hw.step call).consistent hlater htask'
        ((congrArg TaskTerms.taskId hmove.terms).trans hid.symm)
      rw [← hsame]
      exact hmove.terms
    cases step_wrote hw call htask htask' hid with
    | plain hplain =>
        obtain ⟨hbefore, hprogress, hkept⟩ := hplain.kept hactive
        have hcount := congrArg TaskProgress.completedSegments hprogress
        have hsame : task.workerId = some workerId := by
          rcases hkept with hsame | ⟨-, hnone⟩
          · exact hsame.symm.trans hworker
          · rw [hnone] at hworker
            cases hworker
        refine (h task htask hbefore ?_ workerId hsame).later hterms hprogress
        exact hpositive.trans_eq hcount
    | claimed ages identity input leaseToken c candidate hcall _ hcandidate hrow =>
        subst hcall
        have hresume : c.resumeFromSegment ≠ 0 := by
          intro hzero
          have hnone := congrArg TaskProgress.completedSegments (hrow.restarted hzero)
          exact absurd hnone hpositive.ne'
        obtain ⟨hprogress, hsame⟩ := ClaimedRow.kept hw hcurrent hcandidate htask hrow hresume
        have hclaimer : c.workerId = workerId :=
          Option.some.inj (hrow.worker.symm.trans hworker)
        rw [hclaimer] at hsame
        have hbefore : task.status.holdsReservation = true := by
          rw [hrow.queued]
          rfl
        have hcount := congrArg TaskProgress.completedSegments hprogress
        exact (h task htask hbefore (hpositive.trans_eq hcount) workerId hsame).later hterms
          hprogress
    | reported ages identity input checkpointUuid hcall hrow =>
        subst hcall
        refine ⟨calls, ages, identity, input, checkpointUuid, [], rfl, task, htask, task', htask',
          hrow, hid.symm, ?_, ?_, rfl⟩
        · exact (congrArg TaskTerms.authorizationRequestId hterms).symm
        · exact hrow.worker.symm.trans hworker
  · have hnone := step_added hw call htask' fun task htask hid => hold ⟨task, htask, hid⟩
    have hcount := congrArg TaskProgress.completedSegments (hnone.initial hactive)
    exact absurd hcount hpositive.ne'

/-- Runs whose claims are current record all progress. -/
theorem progressRecorded (clock : Nat) (deployment : Deployment) (calls : List Call)
    (hcurrent : EveryStep step (fun w call => claimIsCurrent w call = true)
      (World.start clock deployment) calls) :
    ProgressRecorded (World.start clock deployment) calls := by
  induction calls using List.reverseRecOn with
  | nil =>
      intro task htask
      simp [World.start, MarketplaceDb.empty] at htask
  | append_singleton calls call ih =>
      obtain ⟨hbefore, hlast⟩ := EveryStep.append.mp hcurrent
      exact (ih hbefore).step (Reachable.start clock deployment) hlast.1

/-! ## Assignments -/

/-- What {lit}`claimArtifactTask` returns after its update, if it returns an assignment. -/
def World.assignment (w : World) (ages : List Nat) (identity : AgentAuthorizationIdentity)
    (input : ArtifactTaskClaimRequest) (leaseToken : String) (later : MarketplaceDb) :
    Option ArtifactAssignment :=
  match claimArtifactTask (w.reads ages) w.deployment.policy identity input leaseToken with
  | .ok batch =>
      if w.isFresh [leaseToken] && (w.result batch).isSome then
        match claimArtifactTaskResponse (w.reads ages) w.deployment.policy identity input
            leaseToken (batchChanges w.db batch).sum later with
        | .ok a => a
        | .error _ => none
      else none
  | .error _ => none

theorem World.assignment_eq_some {w : World} {ages : List Nat}
    {identity : AgentAuthorizationIdentity} {input : ArtifactTaskClaimRequest}
    {leaseToken : String} {later : MarketplaceDb} {a : ArtifactAssignment}
    (h : w.assignment ages identity input leaseToken later = some a) :
    w.isFresh [leaseToken] = true ∧ ∃ batch db,
      claimArtifactTask (w.reads ages) w.deployment.policy identity input leaseToken = .ok batch ∧
      w.result batch = some db ∧
      claimArtifactTaskResponse (w.reads ages) w.deployment.policy identity input leaseToken
        (batchChanges w.db batch).sum later = .ok (some a) := by
  unfold World.assignment at h
  split at h
  · rename_i batch hbatch
    split at h
    · rename_i hsent
      rw [Bool.and_eq_true, Option.isSome_iff_exists] at hsent
      obtain ⟨hfresh, db, hresult⟩ := hsent
      split at h
      · rename_i response hresponse
        rw [h] at hresponse
        exact ⟨hfresh, batch, db, hbatch, hresult, hresponse⟩
      · cases h
    · cases h
  · cases h

/-- The stored task is as the assignment says, and its progress is the worker's own. -/
structure TrueAssignment (start : World) (calls : List Call) (workerId : String)
    (a : ArtifactAssignment) (task : ArtifactTaskRow) : Prop where
  stored : task ∈ (run step start calls).db.rows .artifactTasks
  sameTask : task.taskId = a.taskId
  lease : task.leaseDigest = some (sha256Hex a.leaseToken)
  attempt : task.attempt = a.attempt
  resume : task.completedSegments = a.resumeFromSegment
  recorded : 0 < a.resumeFromSegment → CheckpointedIn start calls task workerId
  restarted : a.resumeFromSegment = 0 →
    task.progress =
      { completedSegments := 0, totalSegments := none, processedBytes := 0, inputTokens := none
        outputTokens := none, totalTokens := none }

/-- An assignment comes from its candidate, one of whose queued rows the update took. -/
theorem assignment_claimed {w : World} {ages : List Nat}
    {identity : AgentAuthorizationIdentity} {input : ArtifactTaskClaimRequest}
    {leaseToken : String} {later : MarketplaceDb} {a : ArtifactAssignment}
    (h : w.assignment ages identity input leaseToken later = some a) :
    ∃ candidate c task task',
      ClaimsCandidate (w.reads ages) identity input c candidate ∧
      a.taskId = candidate.task.taskId ∧ a.leaseToken = leaseToken ∧
      a.attempt = candidate.task.attempt + 1 ∧ a.resumeFromSegment = c.resumeFromSegment ∧
      task ∈ w.db.rows .artifactTasks ∧
      task' ∈ (step w (.service ages
        (.claimArtifactTask identity input leaseToken))).db.rows .artifactTasks ∧
      task'.taskId = task.taskId ∧ task'.leaseDigest = some (sha256Hex leaseToken) ∧
      ClaimedRow c task task' := by
  obtain ⟨hfresh, batch, db, hbatch, hresult, hresponse⟩ := World.assignment_eq_some h
  have hafter : (step w (.service ages
      (.claimArtifactTask identity input leaseToken))).db = db := by
    have hdrawn : w.isFresh (Call.service ages
        (.claimArtifactTask identity input leaseToken)).uuids = true := hfresh
    unfold step
    rw [if_pos hdrawn]
    change (w.perform (claimArtifactTask (w.reads ages) w.deployment.policy identity input
      leaseToken)).db = db
    rw [hbatch]
    simp [World.perform, World.send, hresult, World.commit]
  have hrun : runBatch w.db batch = some db := (Option.filter_eq_some_iff.mp hresult).1
  cases hfound : claimCandidate (w.reads ages) identity input with
  | none => simp [claimArtifactTaskResponse, hfound] at hresponse
  | some candidate =>
      simp only [claimArtifactTask, hfound, Except.bind_eq_ok, demand_eq_ok, found_eq_ok,
        exists_unit, Except.pure_eq_ok] at hbatch
      obtain ⟨-, authorization, -, rfl⟩ := hbatch
      simp only [claimArtifactTaskResponse, hfound] at hresponse
      split at hresponse
      · simp at hresponse
      · rename_i hchanges
        simp only [Except.bind_eq_ok, demand_eq_ok, found_eq_ok, exists_unit,
          Except.pure_eq_ok] at hresponse
        obtain ⟨-, instruction, -, ha⟩ := hresponse
        obtain rfl := Option.some.inj ha
        obtain ⟨db', happly, hrest⟩ := runBatch_cons_eq_some.mp hrun
        obtain rfl := Option.some.inj hrest
        rw [batchChanges_singleton happly, List.sum_singleton, not_not] at hchanges
        obtain ⟨task, htask, task', htask', hid, hrow⟩ :=
          claimedRow_of_changes happly (Nat.one_pos.trans_eq hchanges.symm)
        refine ⟨candidate, _, task, task', ⟨hfound, rfl, rfl, rfl⟩, rfl, rfl, rfl, rfl, htask, ?_,
          hid, hrow.lease, hrow⟩
        rw [hafter]
        exact htask'

/--
While all earlier claims were current, an assignment is true exactly when its claim
is current.
-/
theorem assignment_is_true (clock : Nat) (deployment : Deployment) (calls : List Call)
    (hcurrent : EveryStep step (fun w call => claimIsCurrent w call = true)
      (World.start clock deployment) calls)
    (ages : List Nat) (identity : AgentAuthorizationIdentity) (input : ArtifactTaskClaimRequest)
    (leaseToken : String) (later : MarketplaceDb) (a : ArtifactAssignment)
    (hreturns : (run step (World.start clock deployment) calls).assignment ages identity input
      leaseToken later = some a) :
    (∃ task, TrueAssignment (World.start clock deployment)
        (calls ++ [.service ages (.claimArtifactTask identity input leaseToken)]) input.workerId a
        task) ↔
      claimIsCurrent (run step (World.start clock deployment) calls)
        (.service ages (.claimArtifactTask identity input leaseToken)) = true := by
  have hstart := Reachable.start clock deployment
  have hw := hstart.after calls
  obtain ⟨candidate, c, task, task', hcandidate, hid, htoken, hattempt, hresume, htask, htask',
    hsame, hdigest, hrow⟩ := assignment_claimed hreturns
  have hrun : run step (World.start clock deployment)
      (calls ++ [.service ages (.claimArtifactTask identity input leaseToken)]) =
        step (run step (World.start clock deployment) calls)
          (.service ages (.claimArtifactTask identity input leaseToken)) := by
    rw [run_append, run_cons, run_nil]
  constructor
  · rintro ⟨stored, htrue⟩
    have hstored := htrue.stored
    rw [hrun] at hstored
    have heq : stored = task' := by
      refine task_unique (hw.step _).consistent hstored htask' ?_
      rw [htrue.sameTask, hid, hsame, hrow.sameTask, hcandidate.sameTask]
    have hsameAttempt : task.attempt = candidate.task.attempt := by
      have hraised := hrow.attempt
      have hassigned := htrue.attempt
      rw [heq] at hassigned
      omega
    simp only [claimIsCurrent, hcandidate.found, List.all_eq_true]
    intro other hother
    by_cases hother' : other.taskId = candidate.task.taskId
    · have hothertask : other = task := by
        refine task_unique hw.consistent hother htask ?_
        rw [hother', hrow.sameTask, hcandidate.sameTask]
      rw [hothertask, hsameAttempt]
      simp
    · simp [hother']
  · intro hcurrentNow
    have hkept := (progressRecorded clock deployment calls hcurrent).step hstart hcurrentNow
    obtain ⟨hsameAttempt, -, -⟩ := current_unchanged hw hcurrentNow hcandidate.found htask
      (hrow.sameTask.trans hcandidate.sameTask) hrow.queued
    have hcompleted : task'.completedSegments = a.resumeFromSegment := by
      rw [hresume]
      by_cases hzero : c.resumeFromSegment = 0
      · rw [hzero]
        exact congrArg TaskProgress.completedSegments (hrow.restarted hzero)
      · exact congrArg TaskProgress.completedSegments (hrow.resumed hzero)
    have hmem : task' ∈ (run step (World.start clock deployment)
        (calls ++ [.service ages (.claimArtifactTask identity input leaseToken)])).db.rows
          .artifactTasks := by
      rw [hrun]
      exact htask'
    refine ⟨task', hmem, ?_, ?_, ?_, hcompleted, ?_, ?_⟩
    · rw [hsame, hrow.sameTask, hcandidate.sameTask, hid]
    · rw [htoken]
      exact hdigest
    · rw [hrow.attempt, hsameAttempt, hattempt]
    · intro hpositive
      have hactive : task'.status.holdsReservation = true := by
        rw [hrow.status]
        rfl
      refine hkept task' hmem hactive (hcompleted ▸ hpositive) input.workerId ?_
      rw [hrow.worker, hcandidate.worker]
    · intro hzero
      exact hrow.restarted (hresume.symm.trans hzero)

/-! ## Samples -/

/-- The sample worker reports a segment and then a failure that can be retried. -/
def sampleRetryCalls : List Call :=
  sampleCalls.take 6 ++ (sampleArtifactCalls.take 8 ++
    [.service [] (.failArtifactTask sampleAgent "artifact-task-t1" "lease-1" "PROVIDER_FAILED"
      true)])

def sampleRetryWorld : World :=
  run step (World.start 1000 sampleDeployment) sampleRetryCalls

/-- The next claim of the sample worker. -/
def sampleSecondClaim (ages : List Nat) : Call :=
  .service ages (.claimArtifactTask sampleAgent (sampleWorker "worker-1") "lease-2")

/-- A fresh and a stale claim of the same task. -/
theorem sampleRetryWorld_claims :
    EveryStep step (fun w call => claimIsCurrent w call = true)
      (World.start 1000 sampleDeployment) sampleRetryCalls ∧
    claimIsCurrent sampleRetryWorld (sampleSecondClaim []) = true ∧
    (sampleRetryWorld.assignment [] sampleAgent (sampleWorker "worker-1") "lease-2"
      sampleRetryWorld.db).any (fun a => a.attempt == 2 && a.resumeFromSegment == 1) = true ∧
    (sampleRetryWorld.assignment [3, 3] sampleAgent (sampleWorker "worker-1") "lease-2"
      sampleRetryWorld.db).any (fun a => a.attempt == 1) = true ∧
    ((step sampleRetryWorld (sampleSecondClaim [3, 3])).db.rows .artifactTasks).all
      (fun task => task.attempt == 2) = true := by
  constructor
  · have hsplit : sampleRetryCalls = sampleCalls.take 4 ++ sampleRetryCalls.drop 4 := rfl
    rw [hsplit]
    refine EveryStep.append.mpr ⟨by decide +kernel, ?_⟩
    change EveryStep step _ (sampleWorld 4) (sampleRetryCalls.drop 4)
    rw [sampleWorld_four]
    decide +kernel
  · rw [show sampleRetryWorld = _ from run_published (sampleRetryCalls.drop 4)]
    decide +kernel

/-- The next claim of the sample worker resumes after its segment. -/
theorem assignment_is_true_sample :
    ∃ a, a.attempt = 2 ∧ a.resumeFromSegment = 1 ∧
      ∃ task, TrueAssignment (World.start 1000 sampleDeployment)
        (sampleRetryCalls ++ [sampleSecondClaim []]) "worker-1" a task := by
  obtain ⟨hcurrent, hnow, hassigned, -, -⟩ := sampleRetryWorld_claims
  obtain ⟨a, ha, hsel⟩ := (Option.any_eq_true _ _).mp hassigned
  simp only [Bool.and_eq_true, beq_iff_eq] at hsel
  exact ⟨a, hsel.1, hsel.2, (assignment_is_true 1000 sampleDeployment sampleRetryCalls hcurrent []
    sampleAgent (sampleWorker "worker-1") "lease-2" sampleRetryWorld.db a ha).mpr hnow⟩

/--
A second request of the sample worker read the task before its first claim: it gets
an assignment for attempt 1, while its update starts attempt 2.
-/
theorem assignment_not_always_true :
    ¬ ∀ (calls : List Call) (ages : List Nat) (identity : AgentAuthorizationIdentity)
      (input : ArtifactTaskClaimRequest) (leaseToken : String) (later : MarketplaceDb)
      (a : ArtifactAssignment),
      (run step (World.start 1000 sampleDeployment) calls).assignment ages identity input
        leaseToken later = some a →
      ∃ task, TrueAssignment (World.start 1000 sampleDeployment)
        (calls ++ [.service ages (.claimArtifactTask identity input leaseToken)]) input.workerId
        a task := by
  intro htrue
  obtain ⟨-, -, -, hassigned, hstored⟩ := sampleRetryWorld_claims
  obtain ⟨a, ha, hsel⟩ := (Option.any_eq_true _ _).mp hassigned
  obtain ⟨task, h⟩ : ∃ task, TrueAssignment (World.start 1000 sampleDeployment)
      (sampleRetryCalls ++ [sampleSecondClaim [3, 3]]) "worker-1" a task :=
    htrue sampleRetryCalls [3, 3] sampleAgent (sampleWorker "worker-1") "lease-2"
      sampleRetryWorld.db a ha
  have hmem := h.stored
  rw [run_append, run_cons, run_nil, ← sampleRetryWorld] at hmem
  have hsecond := List.all_eq_true.mp hstored task hmem
  rw [beq_iff_eq] at hsel hsecond
  have hattempt := h.attempt
  omega

end Server
end TokenStreaming
