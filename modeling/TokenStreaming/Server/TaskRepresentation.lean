import TokenStreaming.Server.Revocations
import TokenStreaming.Server.Footprints

/-!
# Control plane - Representation of artifact tasks

The columns of a task that its writers keep consistent: the lease, the deadline,
the instruction, the attempts and the cancellation flag.  Two statements rely on
a row their request read earlier.  They compare only the lease digest, so the
invariant needs that a digest identifies the attempt it was drawn for.

Main results:

- Theorem {lit}`Reachable.leasesIdentified`: a lease digest belongs to one attempt of
  one task, with one deadline.
- Theorem {lit}`task_representation`: the invariant, and that ended tasks stay ended.
-/

namespace TokenStreaming
namespace Server

open Relational Domain TransitionSystem

/-! ## Writers of the task table -/

/-- The statements on the task table that neither open a lease nor report progress. -/
inductive PlainTaskWriter (w : World) : MarketplaceStatement → Prop
  | routine {s : MarketplaceStatement} (h : Routine w .artifactTasks s) : PlainTaskWriter w s
  | failQueued (c : LifecycleCommand) :
      PlainTaskWriter w (failQueuedArtifactsForRevokedAuthorizationSql c)
  | cancelLeased (c : LifecycleCommand) :
      PlainTaskWriter w (cancelLeasedArtifactsForRevokedAuthorizationSql c)
  | complete (c : ArtifactCompletion) (hreported : c.checkpoint.totalTokens = some c.totalTokens) :
      PlainTaskWriter w (completeArtifactTaskSql c)

/-- The batches that write the task table. -/
inductive TaskBatch (w : World) : Call → Batch → Prop
  | plain {call : Call} {batch : Batch}
      (h : ∀ s ∈ batch, s.table = .artifactTasks → PlainTaskWriter w s) : TaskBatch w call batch
  | claim (ages : List Nat) (identity : AgentAuthorizationIdentity)
      (input : ArtifactTaskClaimRequest) (leaseToken : String) (c : TaskClaim)
      (candidate : WorkerTaskRow) (h : ClaimOf w c leaseToken)
      (hcandidate : ClaimsCandidate (w.reads ages) identity input c candidate) :
      TaskBatch w (.service ages (.claimArtifactTask identity input leaseToken))
        [claimArtifactTaskSql c]
  | checkpoint (ages : List Nat) (identity : AgentAuthorizationIdentity)
      (input : ArtifactTaskCheckpointRequest) (checkpointUuid : String) (c : TaskCheckpoint)
      (row : ArtifactTaskRow) (h : LeaseRead w c.taskId c.leaseDigest row)
      (hexpiry : c.leaseExpiresAt ≤ row.executionDeadlineAt.getD 0) (hreports : c.Reports input) :
      TaskBatch w (.service ages (.checkpointArtifactTask identity input checkpointUuid))
        (checkpointBatch c checkpointUuid)

theorem Command.taskBatch {w : World} {call : Call} {batch : Batch} (h : Command w call batch) :
    TaskBatch w call batch := by
  cases h with
  | claim ages identity input leaseToken c candidate h hcandidate =>
      exact .claim ages identity input leaseToken c candidate h hcandidate
  | checkpoint ages identity input checkpointUuid c row h hexpiry hreports =>
      exact .checkpoint ages identity input checkpointUuid c row h hexpiry hreports
  | routine h => exact .plain fun s hs ht => .routine (ht ▸ h s hs)
  | registration identity input supplierUuid eventUuid auditUuid now event _ _ =>
      refine .plain fun s hs ht => ?_
      simp only [registerSupplierBatch, List.mem_cons, List.not_mem_nil, or_false] at hs
      rcases hs with rfl | rfl | rfl | rfl <;> exact MarketplaceTable.noConfusion ht
  | rejection identity requestId commandId note operationUuid auditUuid now _ =>
      refine .plain fun s hs ht => ?_
      simp only [rejectionBatch, List.mem_cons, List.not_mem_nil, or_false] at hs
      rcases hs with rfl | rfl | rfl | rfl <;> exact MarketplaceTable.noConfusion ht
  | approval ages identity commandId reviewNote operationUuid auditUuid eventUuids request token
      events state _ _ =>
      refine .plain fun s hs ht => ?_
      simp only [approvalBatch, List.mem_append, List.mem_cons, List.not_mem_nil, or_false,
        List.mem_map] at hs
      rcases hs with ((rfl | rfl | rfl | rfl) | ⟨event, -, rfl⟩) | rfl <;>
        exact MarketplaceTable.noConfusion ht
  | withdrawal identity supplier request commandId reasonCode operationUuid now _ _ =>
      refine .plain fun s hs ht => ?_
      simp only [withdrawPendingAuthorization, withdrawalBatch, List.mem_cons, List.not_mem_nil,
        or_false] at hs
      rcases hs with rfl | rfl | rfl | rfl <;> exact MarketplaceTable.noConfusion ht
  | revocation identity supplier request commandId reasonCode operationUuid eventUuid now
      snap state event _ _ _ _ _ _ _ =>
      refine .plain fun s hs ht => ?_
      simp only [revocationBatch, List.mem_cons, List.not_mem_nil, or_false] at hs
      rcases hs with rfl | rfl | rfl | rfl | rfl | rfl | rfl | rfl | rfl | rfl
      case inr.inr.inr.inr.inr.inr.inl => exact .failQueued _
      case inr.inr.inr.inr.inr.inr.inr.inl => exact .cancelLeased _
      all_goals exact MarketplaceTable.noConfusion ht
  | rotation identity supplier request commandId reasonCode operationUuid token iv now _ _ _ _ =>
      refine .plain fun s hs ht => ?_
      simp only [rotationBatch, List.mem_cons, List.not_mem_nil, or_false] at hs
      rcases hs with rfl | rfl | rfl | rfl | rfl | rfl <;> exact MarketplaceTable.noConfusion ht

theorem Sent.taskBatch {w : World} {call : Call} {batch : Batch} (h : Sent w call batch) :
    TaskBatch w call batch := by
  cases h with
  | command h => exact h.taskBatch
  | inferenceCompletion ages index run result outputIv s uuids _ _ _ =>
      refine .plain fun t ht htable => ?_
      simp only [completionBatch, List.mem_append, List.mem_cons, List.not_mem_nil,
        or_false] at ht
      rcases ht with (rfl | rfl | rfl | rfl | rfl | rfl) | hfee
      all_goals first | exact MarketplaceTable.noConfusion htable | skip
      split at hfee
      · simp at hfee
      · rw [List.mem_singleton.mp hfee] at htable
        exact MarketplaceTable.noConfusion htable
  | artifactCompletion s uuids totalTokens price platformFeeBps _ _ _ hreported _ _ =>
      refine .plain fun t ht htable => ?_
      simp only [artifactCompletionBatch, List.mem_append, List.mem_cons, List.not_mem_nil,
        or_false] at ht
      rcases ht with (rfl | rfl | rfl | rfl | rfl | rfl | rfl) | hfee
      · exact .complete _ hreported
      all_goals first | exact MarketplaceTable.noConfusion htable | skip
      split at hfee
      · simp at hfee
      · rw [List.mem_singleton.mp hfee] at htable
        exact MarketplaceTable.noConfusion htable

/-- The statements on the task table, with the tokens their call drew. -/
inductive TaskWriter (w : World) (tokens : List String) : MarketplaceStatement → Prop
  | plain {s : MarketplaceStatement} (h : PlainTaskWriter w s) : TaskWriter w tokens s
  | claim (c : TaskClaim) (leaseToken : String) (h : ClaimOf w c leaseToken)
      (htoken : leaseToken ∈ tokens) : TaskWriter w tokens (claimArtifactTaskSql c)
  | checkpoint (c : TaskCheckpoint) (row : ArtifactTaskRow)
      (h : LeaseRead w c.taskId c.leaseDigest row)
      (hexpiry : c.leaseExpiresAt ≤ row.executionDeadlineAt.getD 0) :
      TaskWriter w tokens (checkpointArtifactTaskSql c)

theorem Sent.taskWriter {w : World} {call : Call} {batch : Batch} (h : Sent w call batch) :
    ∀ s ∈ batch, s.table = .artifactTasks → TaskWriter w call.uuids s := by
  intro s hs ht
  cases h.taskBatch with
  | plain hplain => exact .plain (hplain s hs ht)
  | claim ages identity input leaseToken c candidate hclaim _ =>
      rw [List.mem_singleton.mp hs]
      exact .claim c leaseToken hclaim (by simp [Call.uuids, ServiceRequest.uuids])
  | checkpoint ages identity input checkpointUuid c row hread hexpiry _ =>
      simp only [checkpointBatch, List.mem_cons, List.not_mem_nil, or_false] at hs
      rcases hs with rfl | rfl
      · exact .checkpoint c row hread hexpiry
      · exact MarketplaceTable.noConfusion ht

/-! ## The invariant of a row -/

/-- The representation invariant of a stored task. -/
structure TaskRepresented (maximumAttempts : Nat) (task : ArtifactTaskRow) : Prop where
  /-- A digest is stored exactly while the task is leased. -/
  leased : task.leaseDigest.isSome = task.status.isLeased
  /-- A lease ends no later than its deadline. -/
  lease : ∀ leaseExpiresAt, task.leaseExpiresAt = some leaseExpiresAt →
    ∃ deadline, task.executionDeadlineAt = some deadline ∧ leaseExpiresAt ≤ deadline
  /-- The instruction of an ended or cancelled task is erased. -/
  erased : task.status.isTerminal = true ∨ task.cancellationRequestedAt.isSome = true →
    task.instructionCiphertext = .cleared ∧ task.instructionIv = ""
  queued : task.status = .queued →
    task.attempt < maximumAttempts ∧ task.cancellationRequestedAt = none
  attempts : task.attempt ≤ maximumAttempts

/-- The row agrees with every row its lease digest was ever read in. -/
def LeaseIdentified (w : World) (task : ArtifactTaskRow) : Prop :=
  ∀ row digest, w.observed .artifactTasks row → row.taskId = task.taskId →
    row.leaseDigest = some digest → task.leaseDigest = some digest →
    task.attempt = row.attempt ∧ task.executionDeadlineAt = row.executionDeadlineAt

/-- What an update does to a lease: it ends it, keeps it or opens it with a token drawn now. -/
inductive LeaseStep (w : World) (tokens : List String) (a b : ArtifactTaskRow) : Prop
  | ended (h : b.leaseDigest = none)
  | kept (hdigest : b.leaseDigest = a.leaseDigest) (hattempt : b.attempt = a.attempt)
      (hdeadline : b.executionDeadlineAt = a.executionDeadlineAt)
  | opened (leaseToken : String) (hnew : leaseToken ∉ w.drawn) (htoken : leaseToken ∈ tokens)
      (h : b.leaseDigest = some (sha256Hex leaseToken))

/-- The lease digests some request may have read come from drawn tokens. -/
def World.leasesDrawn (w : World) : Prop :=
  ∀ row digest, w.observed .artifactTasks row → row.leaseDigest = some digest →
    ∃ leaseToken ∈ w.drawn, digest = sha256Hex leaseToken

theorem sha256Hex_injective {a b : String} (h : sha256Hex a = sha256Hex b) : a = b := by
  injection h

theorem LeaseStep.identified {w : World} {tokens : List String} {a b : ArtifactTaskRow}
    (h : LeaseStep w tokens a b) (hdrawn : w.leasesDrawn) (hid : b.taskId = a.taskId)
    (ha : LeaseIdentified w a) : LeaseIdentified w b := by
  intro row digest hrow hsame hdigest hb
  cases h with
  | ended h => simp [h] at hb
  | kept hkept hattempt hdeadline =>
      have hbefore := ha row digest hrow (hsame.trans hid) hdigest (hkept.symm.trans hb)
      exact ⟨hattempt.trans hbefore.1, hdeadline.trans hbefore.2⟩
  | opened leaseToken hnew _ h =>
      -- the digest was read before its token was drawn
      obtain ⟨old, hold, heq⟩ := hdrawn row digest hrow hdigest
      have hdigests : sha256Hex leaseToken = sha256Hex old := by
        rw [← heq]
        exact Option.some.inj (h.symm.trans hb)
      rw [sha256Hex_injective hdigests] at hnew
      exact absurd hold hnew

/-! ## Updates of a row -/

/-- What every writer does to a row it selects. -/
structure TaskWritten (w : World) (tokens : List String) (a b : ArtifactTaskRow) : Prop where
  sameTask : b.taskId = a.taskId
  lease : LeaseStep w tokens a b
  represented : TaskRepresented w.deployment.policy.artifactMaximumAttempts a →
    TaskRepresented w.deployment.policy.artifactMaximumAttempts b

/-- Updates of other columns. -/
theorem TaskWritten.of_same {w : World} {tokens : List String} {a b : ArtifactTaskRow}
    (hid : b.taskId = a.taskId) (hdigest : b.leaseDigest = a.leaseDigest)
    (hattempt : b.attempt = a.attempt) (hdeadline : b.executionDeadlineAt = a.executionDeadlineAt)
    (hstatus : b.status = a.status) (hlease : b.leaseExpiresAt = a.leaseExpiresAt)
    (hflag : b.cancellationRequestedAt = a.cancellationRequestedAt)
    (hinstruction : b.instructionCiphertext = a.instructionCiphertext ∧
        b.instructionIv = a.instructionIv ∨
      b.instructionCiphertext = .cleared ∧ b.instructionIv = "") : TaskWritten w tokens a b where
  sameTask := hid
  lease := .kept hdigest hattempt hdeadline
  represented := fun ha => by
    refine ⟨?_, ?_, ?_, ?_, ?_⟩
    · rw [hdigest, hstatus]
      exact ha.leased
    · rw [hlease, hdeadline]
      exact ha.lease
    · rw [hstatus, hflag]
      intro hended
      rcases hinstruction with ⟨hcipher, hiv⟩ | herased
      · rw [hcipher, hiv]
        exact ha.erased hended
      · exact herased
    · rw [hstatus, hattempt, hflag]
      exact ha.queued
    · rw [hattempt]
      exact ha.attempts

/-- Updates that end a task. -/
theorem TaskWritten.of_ended {w : World} {tokens : List String} {a b : ArtifactTaskRow}
    (hid : b.taskId = a.taskId) (hdigest : b.leaseDigest = none) (hattempt : b.attempt = a.attempt)
    (hlease : b.leaseExpiresAt = none) (hended : b.status.isTerminal = true)
    (herased : TaskRepresented w.deployment.policy.artifactMaximumAttempts a →
      b.instructionCiphertext = .cleared ∧ b.instructionIv = "") : TaskWritten w tokens a b where
  sameTask := hid
  lease := .ended hdigest
  represented := fun ha => by
    refine ⟨?_, ?_, fun _ => herased ha, ?_, ?_⟩
    · rw [hdigest]
      cases hstatus : b.status <;>
        simp [hstatus, ArtifactTaskStatus.isTerminal, ArtifactTaskStatus.isLeased] at hended ⊢
    · simp [hlease]
    · intro hqueued
      simp [hqueued, ArtifactTaskStatus.isTerminal] at hended
    · rw [hattempt]
      exact ha.attempts

/-- Updates that put a task back into the queue. -/
theorem TaskWritten.of_requeued {w : World} {tokens : List String} {a b : ArtifactTaskRow}
    (hid : b.taskId = a.taskId) (hdigest : b.leaseDigest = none) (hattempt : b.attempt = a.attempt)
    (hlease : b.leaseExpiresAt = none) (hqueued : b.status = .queued)
    (hflag : b.cancellationRequestedAt = none)
    (hleft : a.attempt < w.deployment.policy.artifactMaximumAttempts) :
    TaskWritten w tokens a b where
  sameTask := hid
  lease := .ended hdigest
  represented := fun ha => by
    refine ⟨?_, ?_, ?_, fun _ => ⟨by rw [hattempt]; exact hleft, hflag⟩, ?_⟩
    · simp [hdigest, hqueued, ArtifactTaskStatus.isLeased]
    · simp [hlease]
    · simp [hqueued, hflag, ArtifactTaskStatus.isTerminal]
    · rw [hattempt]
      exact ha.attempts

/-- Updates that request a cancellation of a leased task. -/
theorem TaskWritten.of_flagged {w : World} {tokens : List String} {a b : ArtifactTaskRow}
    (hid : b.taskId = a.taskId) (hdigest : b.leaseDigest = a.leaseDigest)
    (hattempt : b.attempt = a.attempt) (hdeadline : b.executionDeadlineAt = a.executionDeadlineAt)
    (hstatus : b.status = a.status) (hlease : b.leaseExpiresAt = a.leaseExpiresAt)
    (hleased : a.status.isLeased = true)
    (herased : b.instructionCiphertext = .cleared ∧ b.instructionIv = "") :
    TaskWritten w tokens a b where
  sameTask := hid
  lease := .kept hdigest hattempt hdeadline
  represented := fun ha => by
    refine ⟨?_, ?_, fun _ => herased, ?_, ?_⟩
    · rw [hdigest, hstatus]
      exact ha.leased
    · rw [hlease, hdeadline]
      exact ha.lease
    · intro hqueued
      rw [← hstatus, hqueued] at hleased
      simp [ArtifactTaskStatus.isLeased] at hleased
    · rw [hattempt]
      exact ha.attempts

theorem TaskWritten.refl (w : World) (tokens : List String) (a : ArtifactTaskRow) :
    TaskWritten w tokens a a :=
  .of_same rfl rfl rfl rfl rfl rfl rfl (Or.inl ⟨rfl, rfl⟩)

/-! ## Statements -/

section Statements

variable {w : World} {tokens : List String} {db db' : MarketplaceDb}

/-- Every row after an update was written by it or is an old one. -/
theorem written_of_update {selects : MarketplaceDb → ArtifactTaskRow → Bool}
    {assign : MarketplaceDb → ArtifactTaskRow → ArtifactTaskRow}
    (h : ∀ task ∈ db.rows .artifactTasks, selects db task = true →
      TaskWritten w tokens task (assign db task))
    (hs : (Statement.update .artifactTasks selects assign : MarketplaceStatement).apply db =
      some db') :
    ∀ task' ∈ db'.rows .artifactTasks,
      ∃ task ∈ db.rows .artifactTasks, TaskWritten w tokens task task' := by
  intro task' htask'
  rw [Statement.update_rows hs] at htask'
  obtain ⟨task, htask, rfl⟩ := List.mem_map.mp htask'
  refine ⟨task, htask, ?_⟩
  by_cases hsel : selects db task = true
  · rw [if_pos hsel]
    exact h task htask hsel
  · rw [if_neg hsel]
    exact .refl w tokens task

/-- A row whose lease was never opened. -/
structure TaskUnleased (w : World) (task : ArtifactTaskRow) : Prop where
  digest : task.leaseDigest = none
  represented : TaskRepresented w.deployment.policy.artifactMaximumAttempts task

/-- A new task has all its attempts before it. -/
theorem newTask_unleased (w : World) (identity : RequestIdentity)
    (input : CreateArtifactTaskRequest) (selected : ArtifactOffer) (artifact : ArtifactRow)
    (taskId idempotencyKey iv : String) (charge now : Nat) :
    TaskUnleased w (input.row identity selected artifact taskId idempotencyKey iv charge now) where
  digest := rfl
  represented :=
    { leased := rfl
      lease := fun leaseExpiresAt h => by simp [CreateArtifactTaskRequest.row] at h
      erased := fun h => by
        simp [CreateArtifactTaskRequest.row, ArtifactTaskStatus.isTerminal] at h
      queued := fun _ => ⟨(by decide : 0 < 3), rfl⟩
      attempts := Nat.zero_le _ }

theorem cancelArtifactTaskSql_written (c : CancellationCommand) {task : ArtifactTaskRow}
    (h : c.targets task = true) : TaskWritten w tokens task (c.request task) := by
  simp only [CancellationCommand.targets, Bool.and_eq_true] at h
  by_cases hqueued : task.status = .queued
  · refine .of_ended rfl ?_ rfl ?_ ?_ fun _ => ⟨rfl, rfl⟩
    · simp [CancellationCommand.request, hqueued]
    · simp [CancellationCommand.request, hqueued]
    · simp [CancellationCommand.request, hqueued, ArtifactTaskStatus.isTerminal]
  · have hleased : task.status.isLeased = true := by
      have hholds := h.1.2
      revert hholds hqueued
      cases task.status <;> simp [ArtifactTaskStatus.holdsReservation, ArtifactTaskStatus.isLeased]
    refine .of_flagged rfl ?_ rfl ?_ ?_ ?_ hleased ⟨rfl, rfl⟩
    · simp [CancellationCommand.request, hqueued]
    · simp [CancellationCommand.request, hqueued]
    · simp [CancellationCommand.request, hqueued]
    · simp [CancellationCommand.request, hqueued]

/-- A checkpoint extends the lease within the deadline of the attempt it reports on. -/
theorem checkpointArtifactTaskSql_written (c : TaskCheckpoint) {row task : ArtifactTaskRow}
    (hread : LeaseRead w c.taskId c.leaseDigest row)
    (hexpiry : c.leaseExpiresAt ≤ row.executionDeadlineAt.getD 0)
    (hidentified : LeaseIdentified w task) (htask : task.taskId = c.taskId) {clock : Nat}
    (hheld : task.isHeldWith c.supplierTenantId c.leaseDigest clock = true) :
    TaskWritten w tokens task
      { task with
        status := .running
        completedSegments := c.completedSegments
        totalSegments := some c.totalSegments
        processedBytes := c.processedBytes
        inputTokens := some c.inputTokens
        outputTokens := some c.outputTokens
        totalTokens := some c.totalTokens
        leaseExpiresAt := some c.leaseExpiresAt
        updatedAt := c.now } := by
  simp only [ArtifactTaskRow.isHeldWith, Bool.and_eq_true, beq_iff_eq,
    Option.isNone_iff_eq_none] at hheld
  obtain ⟨⟨⟨⟨⟨-, hdigest⟩, -⟩, hflag⟩, -⟩, hdeadline⟩ := hheld
  have hsame := hidentified row c.leaseDigest hread.observed
    (hread.sameTask.trans htask.symm) hread.digest hdigest
  refine ⟨rfl, .kept rfl rfl rfl, fun ha => ?_⟩
  refine ⟨?_, ?_, ?_, ?_, ha.attempts⟩
  · simp [hdigest, ArtifactTaskStatus.isLeased]
  · intro leaseExpiresAt hlease
    obtain rfl := Option.some.inj hlease
    cases hstored : task.executionDeadlineAt with
    | none => simp [hstored, isAfter] at hdeadline
    | some deadline =>
        rw [← hsame.2, hstored, Option.getD_some] at hexpiry
        exact ⟨deadline, rfl, hexpiry⟩
  · simp [hflag, ArtifactTaskStatus.isTerminal]
  · simp

/-- A failure requeues a task only while attempts are left. -/
theorem failArtifactTaskSql_written {taskId supplierTenantId code : String} {leaseDigest : Digest}
    {retry : Bool} {now : Nat} {row task : ArtifactTaskRow}
    (hread : LeaseRead w taskId leaseDigest row)
    (hretry : retry = true → row.attempt < w.deployment.policy.artifactMaximumAttempts)
    (hidentified : LeaseIdentified w task) (htask : task.taskId = taskId) {clock : Nat}
    (hheld : task.isHeldWith supplierTenantId leaseDigest clock = true) :
    TaskWritten w tokens task
      { task.unleased with
        status := if retry then .queued else .failed
        errorCode := some code
        instructionCiphertext := if retry then task.instructionCiphertext else .cleared
        instructionIv := if retry then task.instructionIv else ""
        updatedAt := now
        completedAt := if retry then none else some now } := by
  simp only [ArtifactTaskRow.isHeldWith, Bool.and_eq_true, beq_iff_eq,
    Option.isNone_iff_eq_none] at hheld
  obtain ⟨⟨⟨⟨⟨-, hdigest⟩, -⟩, hflag⟩, -⟩, -⟩ := hheld
  have hsame := hidentified row leaseDigest hread.observed
    (hread.sameTask.trans htask.symm) hread.digest hdigest
  cases retry with
  | true =>
      refine .of_requeued rfl rfl rfl rfl rfl hflag ?_
      rw [hsame.1]
      exact hretry rfl
  | false => exact .of_ended rfl rfl rfl rfl rfl fun _ => ⟨rfl, rfl⟩

/-- A claim opens a lease with the token its call drew. -/
theorem claimArtifactTaskSql_written {c : TaskClaim} {leaseToken : String}
    (h : ClaimOf w c leaseToken) (htoken : leaseToken ∈ tokens)
    (hs : (claimArtifactTaskSql c).apply db = some db') :
    ∀ task' ∈ db'.rows .artifactTasks,
      ∃ task ∈ db.rows .artifactTasks, TaskWritten w tokens task task' := by
  refine written_of_update (fun task _ hsel => ?_) hs
  simp only [Bool.and_eq_true, beq_iff_eq, Option.isNone_iff_eq_none] at hsel
  obtain ⟨⟨⟨⟨-, hqueued⟩, hflag⟩, -⟩, -⟩ := hsel
  refine ⟨rfl, .opened leaseToken h.isNew htoken (congrArg some h.digest), fun ha => ?_⟩
  refine ⟨rfl, ?_, ?_, ?_, ?_⟩
  · intro leaseExpiresAt hlease
    obtain rfl := Option.some.inj hlease
    exact ⟨c.executionDeadlineAt, rfl, h.lease⟩
  · simp [hflag, ArtifactTaskStatus.isTerminal]
  · simp
  · exact (ha.queued hqueued).1

/-- What holds of every task in the middle of a batch. -/
def TasksKept (w : World) (db : MarketplaceDb) : Prop :=
  ∀ task ∈ db.rows .artifactTasks, LeaseIdentified w task ∧
    TaskRepresented w.deployment.policy.artifactMaximumAttempts task

/-- A plain writer writes its rows in one of the ways above or adds an unleased row. -/
theorem PlainTaskWriter.written {s : MarketplaceStatement} (h : PlainTaskWriter w s)
    (hkept : TasksKept w db) (hs : s.apply db = some db') :
    ∀ task' ∈ db'.rows .artifactTasks,
      (∃ task ∈ db.rows .artifactTasks, TaskWritten w tokens task task') ∨
        TaskUnleased w task' := by
  intro task' htask'
  cases h with
  | failQueued c =>
      refine Or.inl (written_of_update (fun task _ hsel => ?_) hs task' htask')
      exact .of_ended rfl rfl rfl rfl rfl fun _ => ⟨rfl, rfl⟩
  | cancelLeased c =>
      refine Or.inl (written_of_update (fun task _ hsel => ?_) hs task' htask')
      simp only [Bool.and_eq_true] at hsel
      exact .of_flagged rfl rfl rfl rfl rfl rfl hsel.1.1.2 ⟨rfl, rfl⟩
  | complete c _ =>
      refine Or.inl (written_of_update (fun task _ hsel => ?_) hs task' htask')
      exact .of_ended rfl rfl rfl rfl rfl fun _ => ⟨rfl, rfl⟩
  | routine h =>
      cases h with
      | free _ hfree => simp [freeTables] at hfree
      | reserveTask identity input selected artifact taskId idempotencyKey iv charge now maximum
          hid =>
          rcases Statement.insertOrIgnore_cases hs rfl with rfl | ⟨-, -, heq⟩
          · exact Or.inl ⟨task', htask', .refl w tokens task'⟩
          · rw [heq, Database.withRows_rows] at htask'
            rcases List.mem_append.mp htask' with hold | hrow
            · exact Or.inl ⟨task', hold, .refl w tokens task'⟩
            · rw [List.mem_singleton.mp hrow]
              exact Or.inr (newTask_unleased w identity input selected artifact taskId
                idempotencyKey iv charge now)
      | cancelTask c =>
          refine Or.inl (written_of_update (fun task _ hsel => ?_) hs task' htask')
          simp only [Bool.and_eq_true] at hsel
          exact cancelArtifactTaskSql_written c hsel.1
      | endCancelled selects now keepCompletedAt clearInstruction =>
          refine Or.inl (written_of_update (fun task _ hsel => ?_) hs task' htask')
          simp only [ArtifactTaskRow.awaitsCancellation, Bool.and_eq_true] at hsel
          refine .of_ended rfl rfl rfl rfl rfl fun ha => ?_
          have herased := ha.erased (Or.inr hsel.1.1)
          cases clearInstruction with
          | true => exact ⟨rfl, rfl⟩
          | false => exact herased
      | requeue selects now hattempt =>
          refine Or.inl (written_of_update (fun task _ hsel => ?_) hs task' htask')
          simp only [ArtifactTaskRow.isExecuting, Bool.and_eq_true,
            Option.isNone_iff_eq_none] at hsel
          exact .of_requeued rfl rfl rfl rfl rfl hsel.1.2 (hattempt task hsel.2)
      | exhaust selects code now =>
          refine Or.inl (written_of_update (fun task _ hsel => ?_) hs task' htask')
          exact .of_ended rfl rfl rfl rfl rfl fun _ => ⟨rfl, rfl⟩
      | purgeTaskOutputs now =>
          refine Or.inl (written_of_update (fun task _ hsel => ?_) hs task' htask')
          exact .of_same rfl rfl rfl rfl rfl rfl rfl (Or.inl ⟨rfl, rfl⟩)
      | failTask taskId supplierTenantId leaseDigest code retry now row hread hretry =>
          refine Or.inl (written_of_update (fun task htask hsel => ?_) hs task' htask')
          simp only [Bool.and_eq_true, beq_iff_eq] at hsel
          exact failArtifactTaskSql_written hread hretry (hkept task htask).1 hsel.1 hsel.2
      | purgeQueuedTask taskId buyerTenantId now =>
          refine Or.inl (written_of_update (fun task _ hsel => ?_) hs task' htask')
          exact .of_ended rfl rfl rfl rfl rfl fun _ => ⟨rfl, rfl⟩
      | purgeFinishedTask taskId buyerTenantId now =>
          refine Or.inl (written_of_update (fun task _ hsel => ?_) hs task' htask')
          exact .of_same rfl rfl rfl rfl rfl rfl rfl (Or.inr ⟨rfl, rfl⟩)
      | markPurged taskId buyerTenantId now =>
          refine Or.inl (written_of_update (fun task _ hsel => ?_) hs task' htask')
          exact .of_same rfl rfl rfl rfl rfl rfl rfl (Or.inl ⟨rfl, rfl⟩)

/-- The same for every writer. -/
theorem TaskWriter.written {s : MarketplaceStatement} (h : TaskWriter w tokens s)
    (hkept : TasksKept w db) (hs : s.apply db = some db') :
    ∀ task' ∈ db'.rows .artifactTasks,
      (∃ task ∈ db.rows .artifactTasks, TaskWritten w tokens task task') ∨
        TaskUnleased w task' := by
  intro task' htask'
  cases h with
  | plain h => exact h.written hkept hs task' htask'
  | claim c leaseToken hclaim htoken =>
      exact Or.inl (claimArtifactTaskSql_written hclaim htoken hs task' htask')
  | checkpoint c row hread hexpiry =>
      refine Or.inl (written_of_update (fun task htask hsel => ?_) hs task' htask')
      simp only [Bool.and_eq_true, beq_iff_eq] at hsel
      exact checkpointArtifactTaskSql_written c hread hexpiry (hkept task htask).1 hsel.1.1
        hsel.1.2

end Statements

/-! ## Batches and steps -/

/-- The digests stored after a batch come from tokens drawn by now. -/
def DigestsFrom (w : World) (tokens : List String) (db : MarketplaceDb) : Prop :=
  ∀ task ∈ db.rows .artifactTasks, ∀ digest, task.leaseDigest = some digest →
    ∃ leaseToken, leaseToken ∈ tokens ++ w.drawn ∧ digest = sha256Hex leaseToken

theorem TaskWritten.digestFrom {w : World} {tokens : List String} {a b : ArtifactTaskRow}
    (h : TaskWritten w tokens a b)
    (ha : ∀ digest, a.leaseDigest = some digest →
      ∃ leaseToken, leaseToken ∈ tokens ++ w.drawn ∧ digest = sha256Hex leaseToken) :
    ∀ digest, b.leaseDigest = some digest →
      ∃ leaseToken, leaseToken ∈ tokens ++ w.drawn ∧ digest = sha256Hex leaseToken := by
  intro digest hb
  cases h.lease with
  | ended h => simp [h] at hb
  | kept hdigest _ _ => exact ha digest (hdigest.symm.trans hb)
  | opened leaseToken _ htoken h =>
      exact ⟨leaseToken, List.mem_append_left _ htoken, Option.some.inj (hb.symm.trans h)⟩

/-- A sent batch keeps what holds of all tasks. -/
theorem Sent.tasksKept {w : World} {call : Call} {batch : Batch} (h : Sent w call batch)
    {db : MarketplaceDb} (hdrawn : w.leasesDrawn) (hkept : TasksKept w w.db)
    (hfrom : DigestsFrom w call.uuids w.db) (hrun : runBatch w.db batch = some db) :
    TasksKept w db ∧ DigestsFrom w call.uuids db := by
  refine runBatch_induction (P := fun d => TasksKept w d ∧ DigestsFrom w call.uuids d) hrun
    ⟨hkept, hfrom⟩ ?_
  intro s hs a b ha happly
  by_cases ht : s.table = .artifactTasks
  · have hwritten := (h.taskWriter s hs ht).written ha.1 happly
    refine ⟨fun task' htask' => ?_, fun task' htask' => ?_⟩
    · rcases hwritten task' htask' with ⟨task, htask, hw⟩ | hnew
      · exact ⟨hw.lease.identified hdrawn hw.sameTask (ha.1 task htask).1,
          hw.represented (ha.1 task htask).2⟩
      · refine ⟨fun row digest _ _ _ hdigest => ?_, hnew.represented⟩
        simp [hnew.digest] at hdigest
    · rcases hwritten task' htask' with ⟨task, htask, hw⟩ | hnew
      · exact hw.digestFrom (ha.2 task htask)
      · intro digest hdigest
        simp [hnew.digest] at hdigest
  · have hrows : b.rows .artifactTasks = a.rows .artifactTasks :=
      Statement.apply_rows_of_ne happly (Ne.symm ht)
    simp only [TasksKept, DigestsFrom, hrows]
    exact ha

/-- What holds of all leases and tasks of a state. -/
structure World.LeasesKept (w : World) : Prop where
  drawn : w.leasesDrawn
  tasks : TasksKept w w.db

/-- Every deployment allows the same number of attempts. -/
theorem artifactMaximumAttempts_eq (d d' : Deployment) :
    d.policy.artifactMaximumAttempts = d'.policy.artifactMaximumAttempts :=
  rfl

theorem step_leasesKept {w : World} (hw : Reachable w) (call : Call) (h : w.LeasesKept) :
    (step w call).LeasesKept := by
  by_cases hfresh : w.isFresh call.uuids = true
  · have hdrawnAfter := step_drawn_of_fresh hfresh
    have hfrom : DigestsFrom w call.uuids w.db := fun task htask digest hdigest => by
      obtain ⟨leaseToken, htoken, heq⟩ := h.drawn task digest ⟨w.db, w.db_mem, htask⟩ hdigest
      exact ⟨leaseToken, List.mem_append_right _ htoken, heq⟩
    have hafter : TasksKept w (step w call).db ∧ DigestsFrom w call.uuids (step w call).db := by
      cases hw.stepped call with
      | idle hdb _ =>
          rw [hdb]
          exact ⟨h.tasks, hfrom⟩
      | clock instant _ hdb _ =>
          rw [hdb]
          exact ⟨h.tasks, hfrom⟩
      | sent batch hsent hrun _ _ => exact hsent.tasksKept h.drawn h.tasks hfrom hrun
    have hobserved : ∀ row : ArtifactTaskRow, (step w call).observed .artifactTasks row →
        row ∈ (step w call).db.rows .artifactTasks ∨ w.observed .artifactTasks row := by
      rintro row ⟨snap, hsnap, hrow⟩
      rcases (hw.stepped call).snapshots_eq hsnap with rfl | hold
      · exact Or.inl hrow
      · exact Or.inr ⟨snap, hold, hrow⟩
    refine ⟨fun row digest hrow hdigest => ?_, fun task htask => ⟨?_, (hafter.1 task htask).2⟩⟩
    · rw [hdrawnAfter]
      rcases hobserved row hrow with hnew | hold
      · exact hafter.2 row hnew digest hdigest
      · obtain ⟨leaseToken, htoken, heq⟩ := h.drawn row digest hold hdigest
        exact ⟨leaseToken, List.mem_append_right _ htoken, heq⟩
    · intro row digest hrow hid hdigest htaskDigest
      rcases hobserved row hrow with hnew | hold
      · rw [task_unique (hw.step call).consistent hnew htask hid]
        exact ⟨rfl, rfl⟩
      · exact (hafter.1 task htask).1 row digest hold hid hdigest htaskDigest
  · have hsame : step w call = w := by
      unfold step
      rw [if_neg hfresh]
    rw [hsame]
    exact h

theorem Reachable.leasesKept {w : World} (h : Reachable w) : w.LeasesKept := by
  refine h.induction (P := World.LeasesKept) ?_ fun _ call hw hkept =>
    step_leasesKept hw call hkept
  intro clock deployment
  refine ⟨?_, ?_⟩
  · rintro row digest ⟨snap, hsnap, hrow⟩ -
    rw [List.mem_singleton.mp hsnap] at hrow
    simp [World.start, MarketplaceDb.empty] at hrow
  · intro task htask
    simp [World.start, MarketplaceDb.empty] at htask

/-- A lease digest belongs to one attempt of a task, with one deadline. -/
theorem Reachable.leasesIdentified {w : World} (h : Reachable w) {task : ArtifactTaskRow}
    (htask : task ∈ w.db.rows .artifactTasks) : LeaseIdentified w task :=
  (h.leasesKept.tasks task htask).1

/-! ## The claim -/

theorem ArtifactTaskRow.isTerminal_iff (task : ArtifactTaskRow) :
    task.status.isTerminal = task.phase.isOver := by
  rw [task.phase_isOver]
  cases task.status <;> rfl

/-- A task that has ended keeps its status. -/
theorem TaskMove.status_of_isTerminal {a b : ArtifactTaskRow} (h : TaskMove a b)
    (ha : a.status.isTerminal = true) : b.status = a.status := by
  rw [a.isTerminal_iff] at ha
  have hphase := LeasedWork.reach_of_isOver h.phase ha
  cases hbefore : a.phase with
  | queued => simp [hbefore, LeasedWork.Phase.isOver] at ha
  | leased => simp [hbefore, LeasedWork.Phase.isOver] at ha
  | cancelling => simp [hbefore, LeasedWork.Phase.isOver] at ha
  | completed =>
      rw [a.phase_eq_completed.mp hbefore, b.phase_eq_completed.mp (hphase.trans hbefore)]
  | failed => rw [a.phase_eq_failed.mp hbefore, b.phase_eq_failed.mp (hphase.trans hbefore)]
  | cancelled =>
      rw [a.phase_eq_cancelled.mp hbefore, b.phase_eq_cancelled.mp (hphase.trans hbefore)]

/--
In every reachable state every task is represented correctly for the maximum
number of attempts of the runtime policy, and over every run it stays a task and
never leaves an ended status.
-/
theorem task_representation (w : World) (hw : Reachable w) :
    (∀ task ∈ w.db.rows .artifactTasks,
      TaskRepresented w.deployment.policy.artifactMaximumAttempts task) ∧
    ∀ calls, ∀ task ∈ w.db.rows .artifactTasks,
      ∃ task' ∈ (run step w calls).db.rows .artifactTasks, task'.taskId = task.taskId ∧
        (task.status.isTerminal = true → task'.status = task.status) := by
  refine ⟨fun task htask => (hw.leasesKept.tasks task htask).2, fun calls task htask => ?_⟩
  obtain ⟨task', htask', hmove⟩ := (run_follows hw calls).tasks.of_mem_old htask
  exact ⟨task', htask', congrArg TaskTerms.taskId hmove.terms, hmove.status_of_isTerminal⟩

/-- The sample task is represented correctly while it runs. -/
theorem task_representation_sample :
    ((sampleArtifactWorld 8).db.rows .artifactTasks).any (fun task =>
      task.status == .running) = true ∧
    ∀ task ∈ (sampleArtifactWorld 8).db.rows .artifactTasks, TaskRepresented 3 task := by
  refine ⟨?_, (task_representation _ (sampleArtifactWorld_reachable 8)).1⟩
  rw [sampleArtifactWorld_eq]
  decide +kernel

end Server
end TokenStreaming
