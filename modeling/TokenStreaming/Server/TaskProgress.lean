import TokenStreaming.Server.TaskRepresentation
import TokenStreaming.Server.Footprints

/-!
# Control plane - Progress of artifact tasks

What one step of the control plane does to a stored task.  Apart from claims and
checkpoints every write is plain: it keeps the attempt, ends the lease or leaves it, and
keeps the progress of a task.  A completion is plain too, except for the split of its
tokens, which it takes from its own report.

Main results:

- Theorem {lit}`step_wrote`: what one step does to a stored task.
- Theorem {lit}`step_added`: what one step adds.
-/

namespace TokenStreaming
namespace Server

open Relational Domain TransitionSystem

/-! ## Progress -/

/-- The progress columns of a task. -/
structure TaskProgress where
  completedSegments : Nat
  totalSegments : Option Nat
  processedBytes : Nat
  inputTokens : Option Nat
  outputTokens : Option Nat
  totalTokens : Option Nat
deriving DecidableEq

def ArtifactTaskRow.progress (task : ArtifactTaskRow) : TaskProgress where
  completedSegments := task.completedSegments
  totalSegments := task.totalSegments
  processedBytes := task.processedBytes
  inputTokens := task.inputTokens
  outputTokens := task.outputTokens
  totalTokens := task.totalTokens

/-- The progress of a task that has reported nothing. -/
def TaskProgress.initial : TaskProgress where
  completedSegments := 0
  totalSegments := none
  processedBytes := 0
  inputTokens := none
  outputTokens := none
  totalTokens := none

/-- Progress only grows; tokens not reported yet count as zero. -/
structure TaskProgress.Advances (p q : TaskProgress) : Prop where
  segments : p.completedSegments ≤ q.completedSegments
  bytes : p.processedBytes ≤ q.processedBytes
  input : p.inputTokens.getD 0 ≤ q.inputTokens.getD 0
  output : p.outputTokens.getD 0 ≤ q.outputTokens.getD 0
  total : p.totalTokens.getD 0 ≤ q.totalTokens.getD 0

theorem TaskProgress.Advances.refl (p : TaskProgress) : p.Advances p :=
  ⟨le_refl _, le_refl _, le_refl _, le_refl _, le_refl _⟩

theorem TaskProgress.Advances.trans {p q r : TaskProgress} (hpq : p.Advances q)
    (hqr : q.Advances r) : p.Advances r where
  segments := hpq.segments.trans hqr.segments
  bytes := hpq.bytes.trans hqr.bytes
  input := hpq.input.trans hqr.input
  output := hpq.output.trans hqr.output
  total := hpq.total.trans hqr.total

/-- The progress with the token split of another one. -/
def TaskProgress.splitAs (p q : TaskProgress) : TaskProgress :=
  { p with inputTokens := q.inputTokens, outputTokens := q.outputTokens }

/-- A write that neither leases a task nor reports progress. -/
structure PlainWrite (a b : ArtifactTaskRow) : Prop where
  sameTask : b.taskId = a.taskId
  attempt : b.attempt = a.attempt
  notLeased : b.status.isLeased = true → a.status.isLeased = true
  lease : b.leaseDigest = a.leaseDigest ∨ b.leaseDigest = none
  /-- Ended tasks stay as they ended. -/
  ended : a.status.isTerminal = true → b.status = a.status
  /-- Only a completion writes progress, and of it only the token split. -/
  progress : b.progress = a.progress ∨
    b.status = .completed ∧ b.progress = a.progress.splitAs b.progress
  /-- A task that has not ended keeps its progress; only the end of a lease drops its worker. -/
  kept : b.status.holdsReservation = true → a.status.holdsReservation = true ∧
    b.progress = a.progress ∧
    (b.workerId = a.workerId ∨ a.status.isLeased = true ∧ b.workerId = none)

theorem PlainWrite.refl (a : ArtifactTaskRow) : PlainWrite a a where
  sameTask := rfl
  attempt := rfl
  notLeased := id
  lease := Or.inl rfl
  ended := fun _ => rfl
  progress := Or.inl rfl
  kept := fun h => ⟨h, rfl, Or.inl rfl⟩

theorem PlainWrite.trans {a b c : ArtifactTaskRow} (hab : PlainWrite a b)
    (hbc : PlainWrite b c) : PlainWrite a c where
  sameTask := hbc.sameTask.trans hab.sameTask
  attempt := hbc.attempt.trans hab.attempt
  notLeased := fun h => hab.notLeased (hbc.notLeased h)
  lease := by
    rcases hbc.lease with hsame | hnone
    · exact hab.lease.imp hsame.trans hsame.trans
    · exact Or.inr hnone
  ended := fun h => by
    have hb := hab.ended h
    rw [hbc.ended (by rw [hb]; exact h), hb]
  progress := by
    rcases hab.progress with hsame | ⟨hcompleted, hsplit⟩
    · rw [← hsame]
      exact hbc.progress
    · rcases hbc.progress with hsame | ⟨hcompleted', hsplit'⟩
      · refine Or.inr ⟨?_, ?_⟩
        · rw [hbc.ended (by rw [hcompleted]; rfl), hcompleted]
        · rw [hsame]
          exact hsplit
      · refine Or.inr ⟨hcompleted', ?_⟩
        rw [hsplit', hsplit]
        rfl
  kept := fun hc => by
    obtain ⟨hb, hprogress, hworker⟩ := hbc.kept hc
    obtain ⟨ha, hprogress', hworker'⟩ := hab.kept hb
    refine ⟨ha, hprogress.trans hprogress', ?_⟩
    rcases hworker with hsame | ⟨hleased, hnone⟩
    · rcases hworker' with hsame' | ⟨hleased', hnone'⟩
      · exact Or.inl (hsame.trans hsame')
      · exact Or.inr ⟨hleased', hsame.trans hnone'⟩
    · exact Or.inr ⟨hab.notLeased hleased, hnone⟩

theorem ArtifactTaskStatus.isTerminal_of_isLeased {status : ArtifactTaskStatus}
    (h : status.isLeased = true) : status.isTerminal = false := by
  cases status <;> simp [ArtifactTaskStatus.isLeased, ArtifactTaskStatus.isTerminal] at h ⊢

/-- Writes that end a task. -/
theorem PlainWrite.of_ended {a b : ArtifactTaskRow} (hid : b.taskId = a.taskId)
    (hattempt : b.attempt = a.attempt) (hactive : a.status.isTerminal = false)
    (hended : b.status.isTerminal = true) (hlease : b.leaseDigest = none)
    (hprogress : b.progress = a.progress ∨
      b.status = .completed ∧ b.progress = a.progress.splitAs b.progress) : PlainWrite a b where
  sameTask := hid
  attempt := hattempt
  notLeased := fun h => by
    rw [ArtifactTaskStatus.isTerminal_of_isLeased h] at hended
    cases hended
  lease := Or.inr hlease
  ended := fun h => by
    rw [hactive] at h
    cases h
  progress := hprogress
  kept := fun h => by
    cases hstatus : b.status <;>
      simp [hstatus, ArtifactTaskStatus.isTerminal, ArtifactTaskStatus.holdsReservation]
        at hended h

/-- Writes of other columns. -/
theorem PlainWrite.of_same {a b : ArtifactTaskRow} (hid : b.taskId = a.taskId)
    (hattempt : b.attempt = a.attempt) (hlease : b.leaseDigest = a.leaseDigest)
    (hstatus : b.status = a.status) (hprogress : b.progress = a.progress)
    (hworker : b.workerId = a.workerId) : PlainWrite a b where
  sameTask := hid
  attempt := hattempt
  notLeased := fun h => by rwa [hstatus] at h
  lease := Or.inl hlease
  ended := fun _ => hstatus
  progress := Or.inl hprogress
  kept := fun h => ⟨by rwa [hstatus] at h, hprogress, Or.inl hworker⟩

/-- Writes that put a leased task back into the queue. -/
theorem PlainWrite.of_requeued {a b : ArtifactTaskRow} (hid : b.taskId = a.taskId)
    (hattempt : b.attempt = a.attempt)
    (hleased : a.status.isLeased = true) (hlease : b.leaseDigest = none)
    (hprogress : b.progress = a.progress)
    (hworker : b.workerId = a.workerId ∨ b.workerId = none) : PlainWrite a b where
  sameTask := hid
  attempt := hattempt
  notLeased := fun _ => hleased
  lease := Or.inr hlease
  ended := fun h => by
    rw [ArtifactTaskStatus.isTerminal_of_isLeased hleased] at h
    cases h
  progress := Or.inl hprogress
  kept := fun _ => by
    refine ⟨?_, hprogress, hworker.imp_right fun h => ⟨hleased, h⟩⟩
    cases hstatus : a.status <;>
      simp [hstatus, ArtifactTaskStatus.isLeased, ArtifactTaskStatus.holdsReservation]
        at hleased ⊢

/-- A task that was never leased; unless it has ended, it has reported nothing. -/
structure NoProgress (task : ArtifactTaskRow) : Prop where
  unleased : task.leaseDigest = none
  initial : task.status.holdsReservation = true → task.progress = .initial

theorem PlainWrite.noProgress {a b : ArtifactTaskRow} (h : PlainWrite a b) (ha : NoProgress a) :
    NoProgress b where
  unleased := by
    rcases h.lease with hsame | hnone
    · exact hsame.trans ha.unleased
    · exact hnone
  initial := fun hb => by
    obtain ⟨hactive, hprogress, -⟩ := h.kept hb
    exact hprogress.trans (ha.initial hactive)

theorem ArtifactTaskStatus.isTerminal_of_queued {status : ArtifactTaskStatus}
    (h : (status == .queued) = true) : status.isTerminal = false := by
  rw [beq_iff_eq.mp h]
  rfl

/-- What a completion reports agrees with the checkpoint it met, except for the token split. -/
theorem ArtifactCompletion.record_plain {c : ArtifactCompletion} {db : MarketplaceDb}
    {task : ArtifactTaskRow} (hreported : c.checkpoint.totalTokens = some c.totalTokens)
    (hsel : c.admits db task = true) : PlainWrite task (c.record task) := by
  simp only [ArtifactCompletion.admits, ArtifactTaskRow.isHeldWith,
    ArtifactCheckpointView.isCurrent, sqlEquals, Bool.and_eq_true, beq_iff_eq] at hsel
  obtain ⟨⟨⟨⟨-, ⟨⟨⟨⟨-, hleased⟩, -⟩, -⟩, -⟩⟩, ⟨-, ⟨-, htotal⟩⟩⟩, -⟩, -⟩ := hsel
  refine .of_ended rfl rfl (ArtifactTaskStatus.isTerminal_of_isLeased hleased) rfl rfl
    (Or.inr ⟨rfl, ?_⟩)
  simp [ArtifactTaskRow.progress, TaskProgress.splitAs, ArtifactCompletion.record, htotal,
    hreported]

/-- Plain writers write plainly and add tasks without progress. -/
theorem PlainTaskWriter.respects {w : World} {s : MarketplaceStatement} (h : PlainTaskWriter w s)
    (db : MarketplaceDb) : s.Respects db .artifactTasks PlainWrite NoProgress := by
  cases h with
  | failQueued c =>
      refine Statement.update_respects PlainWrite.refl fun _ _ hsel => ?_
      simp only [Bool.and_eq_true] at hsel
      exact .of_ended rfl rfl (ArtifactTaskStatus.isTerminal_of_queued hsel.1.1.2) rfl rfl
        (Or.inl rfl)
  | cancelLeased c =>
      exact Statement.update_respects PlainWrite.refl fun _ _ _ =>
        .of_same rfl rfl rfl rfl rfl rfl
  | complete c hreported =>
      exact Statement.update_respects PlainWrite.refl fun _ _ hsel => c.record_plain hreported hsel
  | routine h =>
      cases h with
      | free _ hfree => simp [freeTables] at hfree
      | reserveTask identity input selected artifact taskId idempotencyKey iv charge now maximum
          hid =>
          refine Statement.insertOrIgnore_respects PlainWrite.refl fun r hr => ?_
          split at hr
          · rw [List.mem_singleton.mp hr]
            exact ⟨rfl, fun _ => rfl⟩
          · simp at hr
      | cancelTask c =>
          refine Statement.update_respects PlainWrite.refl fun task _ _ => ?_
          by_cases hqueued : task.status = .queued
          · refine .of_ended rfl rfl ?_ ?_ ?_ (Or.inl rfl)
            · rw [hqueued]
              rfl
            · simp [CancellationCommand.request, hqueued, ArtifactTaskStatus.isTerminal]
            · simp [CancellationCommand.request, hqueued]
          · refine .of_same rfl rfl ?_ ?_ rfl rfl
            · simp [CancellationCommand.request, hqueued]
            · simp [CancellationCommand.request, hqueued]
      | endCancelled selects now keepCompletedAt clearInstruction =>
          refine Statement.update_respects PlainWrite.refl fun _ _ hsel => ?_
          simp only [ArtifactTaskRow.awaitsCancellation, Bool.and_eq_true] at hsel
          exact .of_ended rfl rfl (ArtifactTaskStatus.isTerminal_of_isLeased hsel.1.2) rfl rfl
            (Or.inl rfl)
      | requeue selects now hattempt =>
          refine Statement.update_respects PlainWrite.refl fun task _ hsel => ?_
          simp only [ArtifactTaskRow.isExecuting, Bool.and_eq_true] at hsel
          refine .of_requeued rfl rfl hsel.1.1 rfl rfl ?_
          by_cases hpast : task.isPastDeadline now = true
          · exact Or.inr (by simp [hpast])
          · exact Or.inl (by simp [hpast])
      | exhaust selects code now =>
          refine Statement.update_respects PlainWrite.refl fun task _ hsel => ?_
          simp only [ArtifactTaskRow.isExecuting, Bool.and_eq_true, Bool.or_eq_true] at hsel
          refine .of_ended rfl rfl ?_ rfl rfl (Or.inl rfl)
          rcases hsel.1 with hqueued | hexecuting
          · exact ArtifactTaskStatus.isTerminal_of_queued hqueued
          · exact ArtifactTaskStatus.isTerminal_of_isLeased hexecuting.1
      | purgeTaskOutputs now =>
          exact Statement.update_respects PlainWrite.refl fun _ _ _ =>
            .of_same rfl rfl rfl rfl rfl rfl
      | failTask taskId supplierTenantId leaseDigest code retry now row hread hretry =>
          refine Statement.update_respects PlainWrite.refl fun task _ hsel => ?_
          simp only [ArtifactTaskRow.isHeldWith, Bool.and_eq_true] at hsel
          obtain ⟨-, ⟨⟨⟨⟨-, hleased⟩, -⟩, -⟩, -⟩⟩ := hsel
          cases retry with
          | true => exact .of_requeued rfl rfl hleased rfl rfl (Or.inl rfl)
          | false =>
              exact .of_ended rfl rfl (ArtifactTaskStatus.isTerminal_of_isLeased hleased) rfl rfl
                (Or.inl rfl)
      | purgeQueuedTask taskId buyerTenantId now =>
          refine Statement.update_respects PlainWrite.refl fun _ _ hsel => ?_
          simp only [Bool.and_eq_true] at hsel
          exact .of_ended rfl rfl (ArtifactTaskStatus.isTerminal_of_queued hsel.1.2) rfl rfl
            (Or.inl rfl)
      | purgeFinishedTask taskId buyerTenantId now =>
          exact Statement.update_respects PlainWrite.refl fun _ _ _ =>
            .of_same rfl rfl rfl rfl rfl rfl
      | markPurged taskId buyerTenantId now =>
          exact Statement.update_respects PlainWrite.refl fun _ _ _ =>
            .of_same rfl rfl rfl rfl rfl rfl

/-- A batch of plain writers writes plainly. -/
theorem plainBatch_evolves {w : World} {batch : Batch}
    (h : ∀ s ∈ batch, s.table = .artifactTasks → PlainTaskWriter w s) {a b : MarketplaceDb}
    (hrun : runBatch a batch = some b) :
    Evolves PlainWrite NoProgress (a.rows .artifactTasks) (b.rows .artifactTasks) := by
  refine runBatch_induction (P := fun d : MarketplaceDb =>
    Evolves PlainWrite NoProgress (a.rows .artifactTasks) (d.rows .artifactTasks)) hrun
    (Evolves.refl PlainWrite.refl _) ?_
  intro s hs d d' hd happly
  refine Evolves.trans ?_ (fun _ _ hnew hwrite => hwrite.noProgress hnew) hd ?_
  · exact fun _ _ _ h₁ h₂ => h₁.trans h₂
  · by_cases ht : s.table = .artifactTasks
    · exact (h s hs ht).respects d d' happly
    · rw [Statement.apply_rows_of_ne happly (Ne.symm ht)]
      exact Evolves.refl PlainWrite.refl _

/-! ## One step -/

/-- An update leaves a stored task alone or selects it. -/
theorem updated_task {selects : MarketplaceDb → ArtifactTaskRow → Bool}
    {assign : MarketplaceDb → ArtifactTaskRow → ArtifactTaskRow} {a b : MarketplaceDb}
    (hconsistent : Consistent a) (hkeeps : ∀ row, (assign a row).taskId = row.taskId)
    (hs : (Statement.update .artifactTasks selects assign : MarketplaceStatement).apply a = some b)
    {task task' : ArtifactTaskRow} (htask : task ∈ a.rows .artifactTasks)
    (htask' : task' ∈ b.rows .artifactTasks) (hid : task'.taskId = task.taskId) :
    task' = task ∨ selects a task = true ∧ task' = assign a task := by
  rw [Statement.update_rows hs] at htask'
  obtain ⟨old, hold, rfl⟩ := List.mem_map.mp htask'
  by_cases hsel : selects a old = true
  · simp only [if_pos hsel] at hid ⊢
    obtain rfl : old = task := task_unique hconsistent hold htask ((hkeeps old).symm.trans hid)
    exact Or.inr ⟨hsel, rfl⟩
  · simp only [if_neg hsel] at hid ⊢
    exact Or.inl (task_unique hconsistent hold htask hid)

/-- A completion leaves a stored task alone or admits it. -/
theorem completed_task {s : ArtifactSettlement} {uuids : CompletionUuids} {a b : MarketplaceDb}
    (hconsistent : Consistent a) (hrun : runBatch a (artifactCompletionBatch s uuids) = some b)
    {task task' : ArtifactTaskRow} (htask : task ∈ a.rows .artifactTasks)
    (htask' : task' ∈ b.rows .artifactTasks) (hid : task'.taskId = task.taskId) :
    task' = task ∨ s.completion.admits a task = true ∧ task' = s.completion.record task := by
  obtain ⟨mid, hupdate, hrest⟩ := runBatch_cons_eq_some.mp (show runBatch a
    (completeArtifactTaskSql s.completion :: _) = some b from hrun)
  refine updated_task hconsistent (fun _ => rfl) hupdate htask ?_ hid
  rw [runBatch_rows_of_ne hrest] at htask'
  · exact htask'
  · intro t ht
    simp only [List.append_eq, List.mem_append, List.mem_cons, List.not_mem_nil, or_false] at ht
    rcases ht with (rfl | rfl | rfl | rfl | rfl | rfl) | hfee
    all_goals first | exact MarketplaceTable.noConfusion | skip
    split at hfee
    · simp at hfee
    · rw [List.mem_singleton.mp hfee]
      exact MarketplaceTable.noConfusion

/-- The row a claim leaves. -/
structure ClaimedRow (c : TaskClaim) (task task' : ArtifactTaskRow) : Prop where
  sameTask : task.taskId = c.taskId
  queued : task.status = .queued
  attempt : task'.attempt = task.attempt + 1
  status : task'.status = .claimed
  worker : task'.workerId = some c.workerId
  lease : task'.leaseDigest = some c.leaseDigest
  resumed : c.resumeFromSegment ≠ 0 →
    task'.progress = { task.progress with completedSegments := c.resumeFromSegment }
  restarted : c.resumeFromSegment = 0 → task'.progress = .initial

/-- The row a checkpoint leaves. -/
structure ReportedRow (input : ArtifactTaskCheckpointRequest) (task task' : ArtifactTaskRow) :
    Prop where
  sameTask : task'.taskId = input.taskId
  leased : task.status.isLeased = true
  digest : task.leaseDigest = some (sha256Hex input.leaseToken)
  attempt : task'.attempt = task.attempt
  status : task'.status = .running
  worker : task'.workerId = task.workerId
  lease : task'.leaseDigest = task.leaseDigest
  advances : task.progress.Advances task'.progress
  progress : task'.progress =
    { completedSegments := input.completedSegments, totalSegments := some input.totalSegments
      processedBytes := input.processedBytes, inputTokens := some input.usage.inputTokens
      outputTokens := some input.usage.outputTokens, totalTokens := some input.usage.totalTokens }

/-- How a step wrote a stored task. -/
inductive StepWrote (w : World) (call : Call) (task task' : ArtifactTaskRow) : Prop
  | plain (h : PlainWrite task task')
  | claimed (ages : List Nat) (identity : AgentAuthorizationIdentity)
      (input : ArtifactTaskClaimRequest) (leaseToken : String) (c : TaskClaim)
      (candidate : WorkerTaskRow)
      (hcall : call = .service ages (.claimArtifactTask identity input leaseToken))
      (hclaim : ClaimOf w c leaseToken)
      (hcandidate : ClaimsCandidate (w.reads ages) identity input c candidate)
      (h : ClaimedRow c task task')
  | reported (ages : List Nat) (identity : AgentAuthorizationIdentity)
      (input : ArtifactTaskCheckpointRequest) (checkpointUuid : String)
      (hcall : call = .service ages (.checkpointArtifactTask identity input checkpointUuid))
      (h : ReportedRow input task task')

/-- What a claim does to a row it selects. -/
theorem claimedRow_of_selects {c : TaskClaim} {db : MarketplaceDb} {task : ArtifactTaskRow}
    (hsel : (task.taskId == c.taskId && task.supplierTenantId == c.supplierTenantId &&
      task.authorizationRequestId == c.authorizationRequestId && task.status == .queued &&
      task.cancellationRequestedAt.isNone && c.offerHasRoom db task && c.workerIsLive db task) =
        true) :
    ClaimedRow c task
      { task with
        status := .claimed
        workerId := some c.workerId
        leaseDigest := some c.leaseDigest
        leaseExpiresAt := some c.leaseExpiresAt
        executionDeadlineAt := some c.executionDeadlineAt
        attempt := task.attempt + 1
        completedSegments := c.resumeFromSegment
        totalSegments := if c.resumeFromSegment == 0 then none else task.totalSegments
        processedBytes := if c.resumeFromSegment == 0 then 0 else task.processedBytes
        inputTokens := if c.resumeFromSegment == 0 then none else task.inputTokens
        outputTokens := if c.resumeFromSegment == 0 then none else task.outputTokens
        totalTokens := if c.resumeFromSegment == 0 then none else task.totalTokens
        startedAt := some (task.startedAt.getD c.now)
        updatedAt := c.now
        errorCode := none } := by
  simp only [Bool.and_eq_true, beq_iff_eq] at hsel
  obtain ⟨⟨⟨⟨⟨⟨hid, -⟩, -⟩, hqueued⟩, -⟩, -⟩, -⟩ := hsel
  refine ⟨hid, hqueued, rfl, rfl, rfl, rfl, fun hresume => ?_, fun hrestart => ?_⟩
  · simp [ArtifactTaskRow.progress, hresume]
  · simp [ArtifactTaskRow.progress, TaskProgress.initial, hrestart]

/-- The rows after a claim. -/
theorem claimedRow_of_update {c : TaskClaim} {db db' : MarketplaceDb}
    (hs : (claimArtifactTaskSql c).apply db = some db') {task' : ArtifactTaskRow}
    (htask' : task' ∈ db'.rows .artifactTasks) :
    task' ∈ db.rows .artifactTasks ∨
      ∃ task ∈ db.rows .artifactTasks, task'.taskId = task.taskId ∧ ClaimedRow c task task' := by
  rw [Statement.update_rows hs] at htask'
  obtain ⟨task, htask, rfl⟩ := List.mem_map.mp htask'
  split
  · rename_i hsel
    exact Or.inr ⟨task, htask, rfl, claimedRow_of_selects hsel⟩
  · exact Or.inl htask

/-- A claim that reports a changed row leased a task. -/
theorem claimedRow_of_changes {c : TaskClaim} {db db' : MarketplaceDb}
    (hs : (claimArtifactTaskSql c).apply db = some db')
    (hchanges : 0 < (claimArtifactTaskSql c).changes db) :
    ∃ task ∈ db.rows .artifactTasks, ∃ task' ∈ db'.rows .artifactTasks,
      task'.taskId = task.taskId ∧ ClaimedRow c task task' := by
  obtain ⟨task, htask, hsel⟩ := List.countP_pos_iff.mp hchanges
  refine ⟨task, htask, _, ?_, ?_, claimedRow_of_selects hsel⟩
  · rw [Statement.update_rows hs]
    exact List.mem_map.mpr ⟨task, htask, if_pos hsel⟩
  · rfl

/-- What a checkpoint does to the row it selects. -/
theorem reportedRow_of_update {c : TaskCheckpoint} {input : ArtifactTaskCheckpointRequest}
    (hreports : c.Reports input) {db db' : MarketplaceDb}
    (hs : (checkpointArtifactTaskSql c).apply db = some db') {task' : ArtifactTaskRow}
    (htask' : task' ∈ db'.rows .artifactTasks) :
    task' ∈ db.rows .artifactTasks ∨
      ∃ task ∈ db.rows .artifactTasks, task'.taskId = task.taskId ∧
        ReportedRow input task task' := by
  rw [Statement.update_rows hs] at htask'
  obtain ⟨task, htask, rfl⟩ := List.mem_map.mp htask'
  split
  · rename_i hsel
    refine Or.inr ⟨task, htask, rfl, ?_⟩
    simp only [ArtifactTaskRow.isHeldWith, Bool.and_eq_true, beq_iff_eq] at hsel
    obtain ⟨⟨hid, ⟨⟨⟨⟨⟨-, hdigest⟩, hleased⟩, -⟩, -⟩, -⟩⟩, hadvances⟩ := hsel
    refine ⟨hid.trans hreports.sameTask, hleased, ?_, rfl, rfl, rfl, rfl, ?_, ?_⟩
    · rw [hdigest, hreports.digest]
    · simp only [TaskCheckpoint.advances, Bool.and_eq_true, decide_eq_true_eq] at hadvances
      obtain ⟨⟨⟨⟨⟨hsegments, hbytes⟩, hinput⟩, houtput⟩, htotal⟩, -⟩ := hadvances
      exact ⟨hsegments, hbytes, hinput, houtput, htotal⟩
    · simp [ArtifactTaskRow.progress, hreports.segments, hreports.bytes, hreports.tokens]
  · exact Or.inl htask

/-- How a step wrote a task that was stored before it. -/
theorem step_wrote {w : World} (hw : Reachable w) (call : Call) {task task' : ArtifactTaskRow}
    (htask : task ∈ w.db.rows .artifactTasks)
    (htask' : task' ∈ (step w call).db.rows .artifactTasks)
    (hid : task'.taskId = task.taskId) : StepWrote w call task task' := by
  have hunique : ∀ old ∈ w.db.rows .artifactTasks, task'.taskId = old.taskId → old = task :=
    fun old hold hsame => task_unique hw.consistent hold htask (hsame.symm.trans hid)
  have hunchanged : task' ∈ w.db.rows .artifactTasks → StepWrote w call task task' := by
    intro hmem
    have hsame := hunique task' hmem rfl
    subst hsame
    exact .plain (PlainWrite.refl task')
  cases hw.stepped call with
  | idle hdb _ =>
      rw [hdb] at htask'
      exact hunchanged htask'
  | clock instant _ hdb _ =>
      rw [hdb] at htask'
      exact hunchanged htask'
  | sent batch hsent hrun _ _ =>
      cases hsent.taskBatch with
      | plain hplain =>
          obtain ⟨later, hlater, hwrite⟩ := (plainBatch_evolves hplain hrun).of_mem_old htask
          have hsame : later = task' := task_unique (hw.step call).consistent hlater htask'
            (hwrite.sameTask.trans hid.symm)
          rw [hsame] at hwrite
          exact .plain hwrite
      | claim ages identity input leaseToken c candidate hclaim hcandidate =>
          obtain ⟨db, happly, hrest⟩ := runBatch_cons_eq_some.mp hrun
          obtain rfl := Option.some.inj hrest
          rcases claimedRow_of_update happly htask' with hmem | ⟨old, hold, hsame, hrow⟩
          · exact hunchanged hmem
          · rw [hunique old hold hsame] at hrow
            exact .claimed ages identity input leaseToken c candidate rfl hclaim hcandidate hrow
      | checkpoint ages identity input checkpointUuid c row hread hexpiry hreports =>
          obtain ⟨db, happly, hrest⟩ := runBatch_cons_eq_some.mp hrun
          obtain ⟨db', happly', hrest'⟩ := runBatch_cons_eq_some.mp hrest
          obtain rfl := Option.some.inj hrest'
          rw [Statement.apply_rows_of_ne happly' MarketplaceTable.noConfusion] at htask'
          rcases reportedRow_of_update hreports happly htask' with hmem | ⟨old, hold, hsame, hrow⟩
          · exact hunchanged hmem
          · rw [hunique old hold hsame] at hrow
            exact .reported ages identity input checkpointUuid rfl hrow

/-- A task that a step adds has made no progress. -/
theorem step_added {w : World} (hw : Reachable w) (call : Call) {task' : ArtifactTaskRow}
    (htask' : task' ∈ (step w call).db.rows .artifactTasks)
    (hnew : ∀ task ∈ w.db.rows .artifactTasks, task'.taskId ≠ task.taskId) :
    NoProgress task' := by
  cases hw.stepped call with
  | idle hdb _ =>
      rw [hdb] at htask'
      exact absurd rfl (hnew task' htask')
  | clock instant _ hdb _ =>
      rw [hdb] at htask'
      exact absurd rfl (hnew task' htask')
  | sent batch hsent hrun _ _ =>
      cases hsent.taskBatch with
      | plain hplain =>
          rcases (plainBatch_evolves hplain hrun).of_mem_new htask' with ⟨task, htask, hwrite⟩ | h
          · exact absurd hwrite.sameTask (hnew task htask)
          · exact h
      | claim ages identity input leaseToken c candidate hclaim hcandidate =>
          obtain ⟨db, happly, hrest⟩ := runBatch_cons_eq_some.mp hrun
          obtain rfl := Option.some.inj hrest
          rcases claimedRow_of_update happly htask' with hmem | ⟨task, htask, hsame, -⟩
          · exact absurd rfl (hnew task' hmem)
          · exact absurd hsame (hnew task htask)
      | checkpoint ages identity input checkpointUuid c row hread hexpiry hreports =>
          obtain ⟨db, happly, hrest⟩ := runBatch_cons_eq_some.mp hrun
          obtain ⟨db', happly', hrest'⟩ := runBatch_cons_eq_some.mp hrest
          obtain rfl := Option.some.inj hrest'
          rw [Statement.apply_rows_of_ne happly' MarketplaceTable.noConfusion] at htask'
          rcases reportedRow_of_update hreports happly htask' with hmem | ⟨task, htask, hsame, -⟩
          · exact absurd rfl (hnew task' hmem)
          · exact absurd hsame (hnew task htask)

end Server
end TokenStreaming
