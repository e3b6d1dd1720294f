import TokenStreaming.Server.FinancialInvariants
import TokenStreaming.Server.Requests

/-!
# Control plane - Artifact and task statements

The statements of {lit}`artifact-service.ts`, {lit}`artifact-storage-invariants.ts`,
{lit}`artifact-worker-service.ts` and {lit}`privacy-invariants.ts`: uploads, the
life of an artifact task from claim to its end, and the sweeps that bound how
long content is kept.

Main definitions:

- {lit}`claimArtifactTaskSql`: a queued task is leased to a worker.
- {lit}`cancelArtifactTaskSql`, {lit}`endCancelledTaskSql`: the two phases of a
  cancellation.
- {lit}`requeueExpiredTasksSql`, {lit}`failExhaustedTasksSql`: expired leases.
-/

namespace TokenStreaming
namespace Server

open Relational Domain

/-! ## Uploads -/

/-- The quota-guarded insert of {lit}`createArtifactUpload`. -/
def insertArtifactSql (artifact : ArtifactRow) (maximumTenantArtifactBytes : Nat) :
    MarketplaceStatement :=
  .insert .artifacts fun db =>
    if ((db.rows .artifacts).map fun a =>
          if a.tenantId = artifact.tenantId ∧ a.status ≠ .deleted ∧ artifact.createdAt < a.expiresAt
          then a.sizeBytes else 0).sum + artifact.sizeBytes ≤ maximumTenantArtifactBytes then
      [artifact]
    else []

/-- {lit}`guardedArtifactAuditInsert`. -/
def guardedArtifactAuditInsert (audit : AuditEventRow) (requiredStatus : Option ArtifactStatus) :
    MarketplaceStatement :=
  .insert .auditEvents fun db =>
    if (db.rows .artifacts).any fun a =>
        a.artifactId == audit.resourceId && a.tenantId == audit.tenantId &&
          requiredStatus.all fun status => a.status == status then
      [audit]
    else []

/-- The artifact takes uploads at the instant. -/
def ArtifactRow.isOpen (a : ArtifactRow) (artifactId tenantId : String) (now : Nat) : Bool :=
  a.artifactId == artifactId && a.tenantId == tenantId && a.status == .uploading &&
    a.contentPurgedAt.isNone && decide (now < a.expiresAt)

/-- The pending row an upload writes before its object. -/
def claimArtifactChunkSql (chunk : ArtifactChunkRow) : MarketplaceStatement :=
  .insertOrIgnore .artifactChunks fun db =>
    if (db.rows .artifacts).any fun a =>
        a.isOpen chunk.artifactId chunk.tenantId chunk.uploadedAt then
      [{ chunk with uploadStatus := .pending }]
    else []

/-- The chunk row of one immutable object. -/
def ArtifactChunkRow.isObject (c chunk : ArtifactChunkRow) : Bool :=
  c.artifactId == chunk.artifactId && c.tenantId == chunk.tenantId &&
    c.partNumber == chunk.partNumber && c.storageKey == chunk.storageKey

/-- A pending chunk becomes ready while its artifact is open. -/
def finalizeArtifactChunkSql (chunk : ArtifactChunkRow) : MarketplaceStatement :=
  .update .artifactChunks
    (fun db c =>
      c.isObject chunk && c.uploadStatus == .pending &&
        (db.rows .artifacts).any fun a =>
          a.isOpen chunk.artifactId chunk.tenantId chunk.uploadedAt)
    fun _ c => { c with uploadStatus := .ready }

/-- The ready chunks of an artifact. -/
def readyChunks (db : MarketplaceDb) (artifactId tenantId : String) : Nat :=
  (db.rows .artifactChunks).countP fun c =>
    c.artifactId == artifactId && c.tenantId == tenantId && c.uploadStatus == .ready

def countUploadedChunksSql (artifactId tenantId : String) (now : Nat) : MarketplaceStatement :=
  .update .artifacts
    (fun _ a =>
      a.artifactId == artifactId && a.tenantId == tenantId && a.status == .uploading &&
        a.contentPurgedAt.isNone)
    fun db a => { a with uploadedChunks := readyChunks db artifactId tenantId, updatedAt := now }

/-- The deletion record of an object whose chunk became ready is dropped. -/
def dequeueReadyObjectSql (chunk : ArtifactChunkRow) : MarketplaceStatement :=
  .delete .artifactObjectDeletions fun db q =>
    q.storageKey == chunk.storageKey &&
      (db.rows .artifactChunks).any fun c => c.isObject chunk && c.uploadStatus == .ready

/-- {lit}`ENQUEUE_ARTIFACT_OBJECT_DELETION_SQL`. -/
def enqueueArtifactObjectDeletionSql (artifactId tenantId storageKey : String)
    (now nextAttemptAt retainUntil : Nat) : MarketplaceStatement :=
  .upsert .artifactObjectDeletions
    (fun old excluded =>
      { old with
        nextAttemptAt := min old.nextAttemptAt excluded.nextAttemptAt
        retainUntil := min old.retainUntil excluded.retainUntil
        updatedAt := excluded.updatedAt })
    fun _ =>
      [{ storageKey, artifactId, tenantId, nextAttemptAt, retainUntil, attempts := 0
         createdAt := now, updatedAt := now }]

/-- The deletes of chunk rows differ in the upload statuses they accept. -/
def deleteArtifactChunkSql (chunk : ArtifactChunkRow) (statuses : List ChunkUploadStatus) :
    MarketplaceStatement :=
  .delete .artifactChunks fun _ c => c.isObject chunk && statuses.contains c.uploadStatus

/-- A chunk row is marked for deletion at a new instant. -/
def markChunkDeletingSql (chunk : ArtifactChunkRow) (statuses : List ChunkUploadStatus)
    (now : Nat) : MarketplaceStatement :=
  .update .artifactChunks
    (fun _ c => c.isObject chunk && statuses.contains c.uploadStatus)
    fun _ c => { c with uploadStatus := .deleting, uploadedAt := now }

/-- A chunk whose object may linger is put back as deleting. -/
def restoreDeletingChunkSql (chunk : ArtifactChunkRow) (now : Nat) : MarketplaceStatement :=
  .insertOrIgnore .artifactChunks fun _ =>
    [{ chunk with uploadStatus := .deleting, uploadedAt := now }]

/-- {lit}`TOMBSTONE_ARTIFACT_CHUNK_GENERATION_SQL`. -/
def tombstoneArtifactChunkGenerationSql (chunk : ArtifactChunkRow) : MarketplaceStatement :=
  .update .artifactChunks
    (fun _ c => c.isObject chunk && c.uploadedAt == chunk.uploadedAt)
    fun _ c => { c with uploadStatus := .deleting }

/-- {lit}`DELETE_ARTIFACT_CHUNK_GENERATION_SQL`. -/
def deleteArtifactChunkGenerationSql (chunk : ArtifactChunkRow) : MarketplaceStatement :=
  .delete .artifactChunks fun _ c => c.isObject chunk && c.uploadedAt == chunk.uploadedAt

/-- A deletion record past its retention is dropped after the object's deletion. -/
def dropObjectDeletionSql (storageKey : String) (now : Nat) : MarketplaceStatement :=
  .delete .artifactObjectDeletions fun _ q =>
    q.storageKey == storageKey && decide (q.retainUntil ≤ now)

/-- A deletion record is scheduled again. -/
def retryObjectDeletionSql (storageKey : String) (retainedOnly : Bool) (now retryAt : Nat) :
    MarketplaceStatement :=
  .update .artifactObjectDeletions
    (fun _ q => q.storageKey == storageKey && (!retainedOnly || decide (now < q.retainUntil)))
    fun _ q => { q with attempts := q.attempts + 1, nextAttemptAt := retryAt, updatedAt := now }

/-- The manifest commit of {lit}`completeArtifactUpload`. -/
def completeArtifactUploadSql (artifactId tenantId : String) (manifestSha256 : Digest)
    (now : Nat) : MarketplaceStatement :=
  .update .artifacts
    (fun db a =>
      a.isOpen artifactId tenantId now && a.chunkCount == readyChunks db artifactId tenantId &&
        !(db.rows .artifactChunks).any fun c =>
          c.artifactId == artifactId && c.tenantId == tenantId && c.uploadStatus == .pending)
    fun _ a =>
      { a with
        status := .ready
        uploadedChunks := a.chunkCount
        manifestSha256 := some manifestSha256
        updatedAt := now }

/-! ## Retention of artifacts -/

/-- Some unfinished task reads the artifact. -/
def isPinned (db : MarketplaceDb) (artifactId : String) : Bool :=
  (db.rows .artifactTasks).any fun t => t.artifactId == artifactId && t.status.holdsReservation

/-- {lit}`CLAIM_ARTIFACT_PURGE_SQL`. -/
def claimArtifactPurgeSql (artifactId tenantId : String) (now : Nat) : MarketplaceStatement :=
  .update .artifacts
    (fun db a =>
      a.artifactId == artifactId && a.tenantId == tenantId && !isPinned db a.artifactId)
    fun _ a =>
      { a with
        contentPurgedAt := some (a.contentPurgedAt.getD now)
        expiresAt := now
        updatedAt := now }

/-- {lit}`FINALIZE_ARTIFACT_PURGE_SQL`. -/
def finalizeArtifactPurgeSql (artifactId tenantId : String) (now : Nat) : MarketplaceStatement :=
  .update .artifacts
    (fun db a =>
      a.artifactId == artifactId && a.tenantId == tenantId && a.status != .deleted &&
        !(db.rows .artifactChunks).any fun c =>
          c.artifactId == a.artifactId && c.tenantId == a.tenantId)
    fun _ a =>
      { a with
        status := .deleted
        fileName := "deleted-artifact"
        manifestSha256 := none
        contentPurgedAt := some (a.contentPurgedAt.getD now)
        updatedAt := now }

/-- The updates that move an artifact's expiry to now differ in their guards. -/
def expireArtifactSql (selects : MarketplaceDb → ArtifactRow → Bool) (now : Nat) :
    MarketplaceStatement :=
  .update .artifacts selects fun _ a => { a with expiresAt := now, updatedAt := now }

/-! ## Task creation and cancellation -/

/-- {lit}`guardedArtifactTaskAuditInsert`. -/
def guardedArtifactTaskAuditInsert (audit : AuditEventRow) : MarketplaceStatement :=
  .insert .auditEvents fun db =>
    if (db.rows .artifactTasks).any fun t =>
        t.taskId == audit.resourceId && t.buyerTenantId == audit.tenantId then
      [audit]
    else []

/-- The parameters every statement of a cancellation batch shares. -/
structure CancellationCommand where
  buyerTenantId : String
  actorId : String
  taskId : String
  commandId : String
  operationToken : String
  now : Nat

/-- The command binding written before the cancellation batch. -/
def bindCancellationCommandSql (buyerTenantId commandId taskId : String) (now : Nat) :
    MarketplaceStatement :=
  .insertOrIgnore .idempotencyKeys fun _ =>
    [{ tenantId := buyerTenantId
       operation := "artifact-task.cancel"
       idempotencyKey := commandId
       resourceId := taskId
       createdAt := now }]

/-- The task is the buyer's, unfinished and not yet being cancelled. -/
def CancellationCommand.targets (c : CancellationCommand) (t : ArtifactTaskRow) : Bool :=
  t.taskId == c.taskId && t.buyerTenantId == c.buyerTenantId && t.status.holdsReservation &&
    t.cancellationRequestedAt.isNone

/-- The claim row of this very cancellation is stored. -/
def CancellationCommand.holdsClaim (c : CancellationCommand) (db : MarketplaceDb) : Bool :=
  (db.rows .idempotencyKeys).any fun k =>
    k.tenantId == c.buyerTenantId && k.operation == "artifact-task.cancel-target" &&
      k.idempotencyKey == c.taskId && k.resourceId == c.operationToken

def claimCancellationTargetSql (c : CancellationCommand) : MarketplaceStatement :=
  .insertOrIgnore .idempotencyKeys fun db =>
    if (db.rows .artifactTasks).any c.targets &&
        (db.rows .idempotencyKeys).any (fun k =>
          k.tenantId == c.buyerTenantId && k.operation == "artifact-task.cancel" &&
            k.idempotencyKey == c.commandId && k.resourceId == c.taskId) then
      [{ tenantId := c.buyerTenantId
         operation := "artifact-task.cancel-target"
         idempotencyKey := c.taskId
         resourceId := c.operationToken
         createdAt := c.now }]
    else []

/-- The {lit}`CASE` columns of the cancellation update. -/
def CancellationCommand.request (c : CancellationCommand) (t : ArtifactTaskRow) :
    ArtifactTaskRow :=
  let queued := t.status == .queued
  { t with
    status := if queued then .cancelled else t.status
    cancellationRequestedAt := some c.now
    instructionCiphertext := .cleared
    instructionIv := ""
    leaseDigest := if queued then none else t.leaseDigest
    leaseExpiresAt := if queued then none else t.leaseExpiresAt
    executionDeadlineAt := if queued then none else t.executionDeadlineAt
    errorCode := some (if queued then "USER_CANCELLED" else "USER_CANCELLATION_PENDING")
    completedAt := if queued then some c.now else t.completedAt
    updatedAt := c.now }

/-- The first phase of a cancellation. -/
def cancelArtifactTaskSql (c : CancellationCommand) : MarketplaceStatement :=
  .update .artifactTasks (fun db t => c.targets t && c.holdsClaim db) fun _ t => c.request t

/-- {lit}`guardedCancellationAuditInsert`. -/
def guardedCancellationAuditInsert (c : CancellationCommand) (auditId : String) :
    MarketplaceStatement :=
  .insert .auditEvents fun db =>
    if c.holdsClaim db then
      [{ auditId
         tenantId := c.buyerTenantId
         actorId := c.actorId
         action := "artifact-task.cancellation-requested"
         resourceType := "artifact-task"
         resourceId := c.taskId
         occurredAt := c.now }]
    else []

/-- The columns of a task whose lease is over. -/
def ArtifactTaskRow.unleased (t : ArtifactTaskRow) : ArtifactTaskRow :=
  { t with leaseDigest := none, leaseExpiresAt := none, executionDeadlineAt := none }

/-- The error code a cancellation ends with. -/
def ArtifactTaskRow.cancellationCode (t : ArtifactTaskRow) : String :=
  if t.errorCode = some "AUTHORIZATION_REVOKED_PENDING" then "AUTHORIZATION_REVOKED"
  else "USER_CANCELLED"

/-- The task is leased with a cancellation pending. -/
def ArtifactTaskRow.awaitsCancellation (t : ArtifactTaskRow) : Bool :=
  t.cancellationRequestedAt.isSome && t.status.isLeased

/-- The execution deadline is missing or over. -/
def ArtifactTaskRow.isPastDeadline (t : ArtifactTaskRow) (now : Nat) : Bool :=
  t.executionDeadlineAt.isNone || isAtOrBefore t.executionDeadlineAt now

/-- Lease or deadline are over in the sense of a worker's claim. -/
def ArtifactTaskRow.leaseIsOver (t : ArtifactTaskRow) (now : Nat) : Bool :=
  isBefore t.leaseExpiresAt now || t.isPastDeadline now

/-- Lease or deadline are over in the sense of the retention sweep. -/
def ArtifactTaskRow.leaseIsOverForSweep (t : ArtifactTaskRow) (now : Nat) : Bool :=
  isAtOrBefore t.leaseExpiresAt now || t.isPastDeadline now

/-- The second phase of a cancellation; its callers differ in the tasks they select. -/
def endCancelledTaskSql (selects : ArtifactTaskRow → Bool) (now : Nat) (keepCompletedAt
    clearInstruction : Bool) : MarketplaceStatement :=
  .update .artifactTasks
    (fun _ t => t.awaitsCancellation && selects t)
    fun _ t =>
      { t.unleased with
        status := .cancelled
        instructionCiphertext := if clearInstruction then .cleared else t.instructionCiphertext
        instructionIv := if clearInstruction then "" else t.instructionIv
        errorCode := some t.cancellationCode
        completedAt := if keepCompletedAt then some (t.completedAt.getD now) else some now
        updatedAt := now }

/-! ## Expired leases -/

/-- A leased task without a cancellation. -/
def ArtifactTaskRow.isExecuting (t : ArtifactTaskRow) : Bool :=
  t.status.isLeased && t.cancellationRequestedAt.isNone

/-- A task put back into the queue; its callers differ in the tasks they select. -/
def requeueExpiredTasksSql (selects : ArtifactTaskRow → Bool) (now : Nat) : MarketplaceStatement :=
  .update .artifactTasks
    (fun _ t => t.isExecuting && selects t)
    fun _ t =>
      { t.unleased with
        status := .queued
        workerId := if t.isPastDeadline now then none else t.workerId
        errorCode :=
          some (if t.isPastDeadline now then "EXECUTION_DEADLINE_EXCEEDED" else "LEASE_EXPIRED")
        updatedAt := now }

/-- A task given up; its callers differ in the tasks they select and the code they write. -/
def failExhaustedTasksSql (selects : ArtifactTaskRow → Bool) (code : ArtifactTaskRow → String)
    (now : Nat) : MarketplaceStatement :=
  .update .artifactTasks
    (fun _ t => (t.status == .queued || t.isExecuting) && selects t)
    fun _ t =>
      { t.unleased with
        status := .failed
        instructionCiphertext := .cleared
        instructionIv := ""
        errorCode := some (code t)
        completedAt := some now
        updatedAt := now }

/-- The output columns of a task cleared by the retention sweep. -/
def purgeExpiredTaskOutputsSql (now : Nat) : MarketplaceStatement :=
  .update .artifactTasks (fun _ t => isAtOrBefore t.outputExpiresAt now) fun _ t =>
    { t with
      outputCiphertext := none
      outputIv := none
      outputExpiresAt := none
      contentPurgedAt := some (t.contentPurgedAt.getD now)
      updatedAt := now }

/-! ## Workers -/

/-- {lit}`agentHeartbeatUpsertSql`. -/
def agentHeartbeatUpsertSql (worker : ArtifactWorkerRow) (supplierId : String)
    (revisions : List (String × Nat)) : MarketplaceStatement :=
  .upsert .supplierArtifactWorkers
    (fun old excluded =>
      { excluded with supplierTenantId := old.supplierTenantId, workerId := old.workerId })
    fun db =>
      if (db.rows .authorizationRequests).countP (fun r =>
          r.tenantId == worker.supplierTenantId && r.supplierId == supplierId &&
            r.status == .approved && r.isValidAfter worker.lastSeenAt &&
            revisions.any fun revision =>
              r.requestId == revision.1 && r.authorizationRevision == revision.2) =
          revisions.length then
        [worker]
      else []

/-- The parameters of a worker's claim. -/
structure TaskClaim where
  taskId : String
  supplierTenantId : String
  authorizationRequestId : String
  authorizationRevision : Nat
  workerId : String
  providerId : String
  leaseDigest : Digest
  leaseExpiresAt : Nat
  executionDeadlineAt : Nat
  resumeFromSegment : Nat
  now : Nat

/-- The offer of the task is live and has room for one more execution. -/
def TaskClaim.offerHasRoom (c : TaskClaim) (db : MarketplaceDb) (t : ArtifactTaskRow) : Bool :=
  (db.rows .capacityOffers).any fun o => (db.rows .suppliers).any fun s =>
    (db.rows .authorizationRequests).any fun ar =>
      s.supplierId == o.supplierId && s.tenantId == o.tenantId &&
        ar.requestId == o.authorizationRequestId &&
        ar.authorizationRevision == c.authorizationRevision && o.offerId == t.offerId &&
        o.authorizationRequestId == t.authorizationRequestId &&
        o.tenantId == t.supplierTenantId && o.status == .active &&
        decide (o.validFrom ≤ c.now) && decide (c.now < o.validUntil) &&
        ar.status == .approved && ar.isValidAfter c.now && ar.tenantId == o.tenantId &&
        ar.supplierId == o.supplierId && ar.providerId == o.providerId &&
        s.status == .active && s.supplyEnabled &&
        decide (activeInference db t.offerId + activeArtifacts db t.offerId < o.concurrency)

/-- {lit}`authorization_request_ids_json LIKE '%"' || id || '"%'`. -/
def ArtifactWorkerRow.serves (w : ArtifactWorkerRow) (authorizationRequestId : String) : Bool :=
  sqlLike (jsonArray (w.authorizationRequestIds.map jsonString))
    ("%\"" ++ authorizationRequestId ++ "\"%")

/-- The worker's heartbeat covers the task's authorization. -/
def TaskClaim.workerIsLive (c : TaskClaim) (db : MarketplaceDb) (t : ArtifactTaskRow) : Bool :=
  (db.rows .supplierArtifactWorkers).any fun w =>
    w.supplierTenantId == c.supplierTenantId && w.workerId == c.workerId &&
      w.providerId == c.providerId && decide (c.now < w.expiresAt) &&
      w.serves t.authorizationRequestId

/-- The claim update of {lit}`claimArtifactTask`. -/
def claimArtifactTaskSql (c : TaskClaim) : MarketplaceStatement :=
  .update .artifactTasks
    (fun db t =>
      t.taskId == c.taskId && t.supplierTenantId == c.supplierTenantId &&
        t.authorizationRequestId == c.authorizationRequestId && t.status == .queued &&
        t.cancellationRequestedAt.isNone && c.offerHasRoom db t && c.workerIsLive db t)
    fun _ t =>
      let restart := c.resumeFromSegment == 0
      { t with
        status := .claimed
        workerId := some c.workerId
        leaseDigest := some c.leaseDigest
        leaseExpiresAt := some c.leaseExpiresAt
        executionDeadlineAt := some c.executionDeadlineAt
        attempt := t.attempt + 1
        completedSegments := c.resumeFromSegment
        totalSegments := if restart then none else t.totalSegments
        processedBytes := if restart then 0 else t.processedBytes
        inputTokens := if restart then none else t.inputTokens
        outputTokens := if restart then none else t.outputTokens
        totalTokens := if restart then none else t.totalTokens
        startedAt := some (t.startedAt.getD c.now)
        updatedAt := c.now
        errorCode := none }

/-- The parameters of a checkpoint. -/
structure TaskCheckpoint where
  taskId : String
  supplierTenantId : String
  leaseDigest : Digest
  attempt : Nat
  completedSegments : Nat
  totalSegments : Nat
  processedBytes : Nat
  inputTokens : Nat
  outputTokens : Nat
  totalTokens : Nat
  leaseExpiresAt : Nat
  now : Nat

/-- The progress of the task does not exceed the checkpoint's. -/
def TaskCheckpoint.advances (c : TaskCheckpoint) (t : ArtifactTaskRow) : Bool :=
  decide (t.completedSegments ≤ c.completedSegments) &&
    decide (t.processedBytes ≤ c.processedBytes) &&
    decide (t.inputTokens.getD 0 ≤ c.inputTokens) &&
    decide (t.outputTokens.getD 0 ≤ c.outputTokens) &&
    decide (t.totalTokens.getD 0 ≤ c.totalTokens) &&
    t.totalSegments.all fun totalSegments => totalSegments == c.totalSegments

/-- The checkpoint update of {lit}`checkpointArtifactTask`. -/
def checkpointArtifactTaskSql (c : TaskCheckpoint) : MarketplaceStatement :=
  .update .artifactTasks
    (fun db t =>
      t.taskId == c.taskId && t.isHeldWith c.supplierTenantId c.leaseDigest db.clock &&
        c.advances t)
    fun _ t =>
      { t with
        status := .running
        completedSegments := c.completedSegments
        totalSegments := some c.totalSegments
        processedBytes := c.processedBytes
        inputTokens := some c.inputTokens
        outputTokens := some c.outputTokens
        totalTokens := some c.totalTokens
        leaseExpiresAt := some c.leaseExpiresAt
        updatedAt := c.now }

/-- The task shows exactly this checkpoint. -/
def TaskCheckpoint.isRecorded (c : TaskCheckpoint) (t : ArtifactTaskRow) : Bool :=
  t.taskId == c.taskId && t.supplierTenantId == c.supplierTenantId &&
    t.leaseDigest == some c.leaseDigest && t.status == .running && t.updatedAt == c.now &&
    t.completedSegments == c.completedSegments && t.totalSegments == some c.totalSegments &&
    t.processedBytes == c.processedBytes && t.inputTokens == some c.inputTokens &&
    t.outputTokens == some c.outputTokens && t.totalTokens == some c.totalTokens

def guardedCheckpointInsert (c : TaskCheckpoint) (checkpointId : String) : MarketplaceStatement :=
  .insert .artifactTaskCheckpoints fun db =>
    if (db.rows .artifactTasks).any c.isRecorded then
      [{ checkpointId
         taskId := c.taskId
         attempt := c.attempt
         completedSegments := c.completedSegments
         totalSegments := c.totalSegments
         processedBytes := c.processedBytes
         inputTokens := c.inputTokens
         outputTokens := c.outputTokens
         totalTokens := c.totalTokens
         occurredAt := c.now }]
    else []

/-- The failure update of {lit}`failArtifactTask`. -/
def failArtifactTaskSql (taskId supplierTenantId : String) (leaseDigest : Digest) (code : String)
    (retry : Bool) (now : Nat) : MarketplaceStatement :=
  .update .artifactTasks
    (fun db t => t.taskId == taskId && t.isHeldWith supplierTenantId leaseDigest db.clock)
    fun _ t =>
      { t.unleased with
        status := if retry then .queued else .failed
        errorCode := some code
        instructionCiphertext := if retry then t.instructionCiphertext else .cleared
        instructionIv := if retry then t.instructionIv else ""
        updatedAt := now
        completedAt := if retry then none else some now }

/-! ## Inserts guarded by a completion -/

/-- The execution evidence of a completed task. -/
def guardedArtifactEvidenceInsert (evidence : ArtifactEvidenceRow) (supplierTenantId : String) :
    MarketplaceStatement :=
  .insert .artifactTaskEvidence fun db =>
    if (db.rows .artifactTasks).any fun t =>
        t.taskId == evidence.taskId && t.supplierTenantId == supplierTenantId &&
          t.status == .completed && t.completedAt == some evidence.recordedAt &&
          t.chargeMicros == some evidence.buyerChargeMicros then
      [evidence]
    else []

/-- The evidence of the task with this digest is stored. -/
def hasArtifactEvidence (db : MarketplaceDb) (taskId : String) (evidenceDigest : Digest) : Bool :=
  (db.rows .artifactTaskEvidence).any fun e =>
    e.taskId == taskId && e.evidenceDigest == evidenceDigest

/-- {lit}`guardedLedgerInsert`. -/
def guardedArtifactLedgerInsert (entry : LedgerEntryRow) (taskId : String)
    (evidenceDigest : Digest) : MarketplaceStatement :=
  .insertOrIgnore .ledgerEntries fun db =>
    if hasArtifactEvidence db taskId evidenceDigest then [entry] else []

def guardedArtifactUsageInsert (usage : UsageRow) (evidenceDigest : Digest) :
    MarketplaceStatement :=
  .insert .usageRecords fun db =>
    if hasArtifactEvidence db usage.jobId evidenceDigest then [usage] else []

def guardedArtifactCompletionAuditInsert (audit : AuditEventRow) (evidenceDigest : Digest) :
    MarketplaceStatement :=
  .insert .auditEvents fun db =>
    if hasArtifactEvidence db audit.resourceId evidenceDigest then [audit] else []

/-- The expiry of the input after a completion. -/
def extendArtifactSql (artifactId taskId : String) (evidenceDigest : Digest)
    (privacyMode : MarketplacePrivacyMode) (now standardArtifactExpiresAt : Nat) :
    MarketplaceStatement :=
  .update .artifacts
    (fun db a => a.artifactId == artifactId && hasArtifactEvidence db taskId evidenceDigest)
    fun _ a =>
      { a with
        expiresAt :=
          if privacyMode = .strict then now
          else if a.expiresAt < standardArtifactExpiresAt then standardArtifactExpiresAt
          else a.expiresAt
        updatedAt := now }

/-! ## Content purges -/

/-- {lit}`CANCEL_QUEUED_ARTIFACT_TASK_FOR_PURGE_SQL`. -/
def cancelQueuedArtifactTaskForPurgeSql (taskId buyerTenantId : String) (now : Nat) :
    MarketplaceStatement :=
  .update .artifactTasks
    (fun _ t =>
      t.taskId == taskId && t.buyerTenantId == buyerTenantId && t.status == .queued &&
        t.cancellationRequestedAt.isNone)
    fun _ t =>
      { t.unleased with
        status := .cancelled
        cancellationRequestedAt := some now
        instructionCiphertext := .cleared
        instructionIv := ""
        outputCiphertext := none
        outputIv := none
        outputExpiresAt := none
        errorCode := some "USER_CONTENT_PURGED"
        completedAt := some now
        updatedAt := now }

/-- The content columns of a finished task cleared on request. -/
def purgeFinishedTaskContentSql (taskId buyerTenantId : String) (now : Nat) :
    MarketplaceStatement :=
  .update .artifactTasks
    (fun _ t => t.taskId == taskId && t.buyerTenantId == buyerTenantId && t.status.isTerminal)
    fun _ t =>
      { t with
        instructionCiphertext := .cleared
        instructionIv := ""
        outputCiphertext := none
        outputIv := none
        outputExpiresAt := none
        updatedAt := now }

/-- The purge mark of a task whose artifact is gone. -/
def markTaskPurgedSql (taskId buyerTenantId : String) (now : Nat) : MarketplaceStatement :=
  .update .artifactTasks
    (fun _ t => t.taskId == taskId && t.buyerTenantId == buyerTenantId)
    fun _ t => { t with contentPurgedAt := some (t.contentPurgedAt.getD now), updatedAt := now }

/-- {lit}`IDEMPOTENT_CONTENT_PURGE_AUDIT_SQL`. -/
def idempotentContentPurgeAuditSql (audit : AuditEventRow) : MarketplaceStatement :=
  .insertOrIgnore .auditEvents fun db =>
    if (db.rows .auditEvents).any fun a =>
        a.tenantId == audit.tenantId && a.action == audit.action &&
          a.resourceType == audit.resourceType && a.resourceId == audit.resourceId then
      []
    else [audit]

end Server
end TokenStreaming
