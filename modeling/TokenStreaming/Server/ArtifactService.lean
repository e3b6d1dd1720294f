import TokenStreaming.Server.ArtifactStatements
import TokenStreaming.Server.SupplierService
import TokenStreaming.Domain.Settlement

/-!
# Control plane - Artifact requests

The buyer side of {lit}`artifact-service.ts` and {lit}`privacy-service.ts`: uploads,
the creation and cancellation of artifact tasks, the retention sweep and the
purges on request.  As in the other service modules a function reads, decides
and returns the batch it sends.

Main definitions:

- {lit}`createArtifactTask`: offer selection and the reservation of a task.
- {lit}`bindCancellation`, {lit}`cancelArtifactTask`: the two writes of a cancellation.
- {lit}`sweepArtifactTasks`: the task part of {lit}`cleanupExpiredArtifactData`.

Current gaps:

- The object store: a chunk write here is one of the database batches around an
  object-store call, whatever that call answered.
-/

namespace TokenStreaming
namespace Server

open Relational Domain

/-! ## Uploads -/

/-- {lit}`ARTIFACT_CHUNK_SIZE_BYTES`. -/
def artifactChunkSizeBytes : Nat := 4 * 1024 * 1024

/-- {lit}`ARTIFACT_MAX_SIZE_BYTES`. -/
def artifactMaxSizeBytes : Nat := 256 * 1024 * 1024

/-- The media types of artifacts with the extension of a private file name. -/
def artifactExtensions : List (String × String) :=
  [("text/plain", "txt"), ("text/markdown", "md"), ("text/csv", "csv"),
    ("text/tab-separated-values", "tsv"), ("application/json", "json"),
    ("application/x-ndjson", "ndjson"), ("application/xml", "xml"), ("text/xml", "xml")]

/-- {lit}`privateArtifactFileName`. -/
def privateArtifactFileName (mediaType : String) : String :=
  "private-artifact." ++ (artifactExtensions.lookup mediaType).getD "undefined"

/-- {lit}`CreateArtifactUploadRequest`, with a validated file name. -/
structure CreateArtifactUploadRequest where
  fileName : String
  mediaType : String
  sizeBytes : Nat
  privacyMode : MarketplacePrivacyMode

/-- The row an upload inserts. -/
def CreateArtifactUploadRequest.row (input : CreateArtifactUploadRequest)
    (identity : RequestIdentity) (artifactId : String) (now expiresAt : Nat) : ArtifactRow where
  artifactId := artifactId
  tenantId := identity.tenantId
  fileName :=
    if input.privacyMode = .strict then privateArtifactFileName input.mediaType else input.fileName
  privacyMode := input.privacyMode
  mediaType := input.mediaType
  sizeBytes := input.sizeBytes
  chunkSizeBytes := artifactChunkSizeBytes
  chunkCount := (input.sizeBytes + artifactChunkSizeBytes - 1) / artifactChunkSizeBytes
  uploadedChunks := 0
  manifestSha256 := none
  status := .uploading
  contentPurgedAt := none
  expiresAt := expiresAt
  createdAt := now
  updatedAt := now

def createArtifactUpload (reads : Reads) (policy : MarketplaceRuntimePolicy)
    (identity : RequestIdentity) (input : CreateArtifactUploadRequest)
    (artifactUuid auditUuid : String) : Request Batch := do
  demand (decide (1 ≤ input.sizeBytes) && decide (input.sizeBytes ≤ artifactMaxSizeBytes))
    { code := "INVALID_REQUEST", message := "sizeBytes 超出边界。", status := 400 }
  let now := (reads 0).clock
  let expiresAt := (reads 1).clock + policy.artifactRetention input.privacyMode
  let artifactId := "artifact-" ++ artifactUuid
  pure
    [insertArtifactSql (input.row identity artifactId now expiresAt)
        policy.maximumTenantArtifactBytes,
      guardedArtifactAuditInsert
        (auditRow identity auditUuid "artifact.upload-created" "artifact" artifactId now) none]

/-- {lit}`requireOwnedArtifact`. -/
def requireOwnedArtifact (db : MarketplaceDb) (tenantId artifactId : String) :
    Request ArtifactRow :=
  found ((db.rows .artifacts).find? fun a => a.artifactId == artifactId && a.tenantId == tenantId)
    { code := "NOT_FOUND", message := "文件不存在。", status := 404 }

/-- The database batches around the object-store calls of an upload or a deletion. -/
inductive ChunkWrite where
  /-- The pending row and the deletion record that precede the object. -/
  | claim (chunk : ArtifactChunkRow)
  | enqueue (artifactId tenantId storageKey : String) (now nextAttemptAt retainUntil : Nat)
  /-- The batch that follows a stored object. -/
  | finalize (chunk : ArtifactChunkRow)
  /-- The deletes of {lit}`deletePendingChunk` and of a failed put. -/
  | discard (chunk : ArtifactChunkRow) (statuses : List ChunkUploadStatus)
  | markDeleting (chunk : ArtifactChunkRow) (now : Nat)
  /-- A deletion that could not be confirmed. -/
  | restore (chunk : ArtifactChunkRow) (now : Nat)
  /-- The batches of a purge before and after the object-store deletion. -/
  | tombstone (chunks : List ArtifactChunkRow) (now retainUntil : Nat)
  | finalizePurge (artifactId tenantId : String) (chunks : List ArtifactChunkRow) (now : Nat)
  /-- The batches of {lit}`processArtifactObjectDeletionQueue`. -/
  | drained (storageKeys : List String) (now retryAt : Nat)
  | retried (storageKeys : List String) (now retryAt : Nat)

def ChunkWrite.batch : ChunkWrite → Batch
  | .claim chunk => [claimArtifactChunkSql chunk]
  | .enqueue artifactId tenantId storageKey now nextAttemptAt retainUntil =>
      [enqueueArtifactObjectDeletionSql artifactId tenantId storageKey now nextAttemptAt
        retainUntil]
  | .finalize chunk =>
      [finalizeArtifactChunkSql chunk,
        countUploadedChunksSql chunk.artifactId chunk.tenantId chunk.uploadedAt,
        dequeueReadyObjectSql chunk]
  | .discard chunk statuses => [deleteArtifactChunkSql chunk statuses]
  | .markDeleting chunk now => [markChunkDeletingSql chunk [.pending] now]
  | .restore chunk now =>
      [restoreDeletingChunkSql chunk now, markChunkDeletingSql chunk [.pending, .deleting] now]
  | .tombstone chunks now retainUntil =>
      chunks.flatMap fun chunk =>
        [enqueueArtifactObjectDeletionSql chunk.artifactId chunk.tenantId chunk.storageKey now now
            retainUntil,
          tombstoneArtifactChunkGenerationSql chunk]
  | .finalizePurge artifactId tenantId chunks now =>
      chunks.map deleteArtifactChunkGenerationSql ++
        [finalizeArtifactPurgeSql artifactId tenantId now]
  | .drained storageKeys now retryAt =>
      storageKeys.flatMap fun storageKey =>
        [dropObjectDeletionSql storageKey now, retryObjectDeletionSql storageKey true now retryAt]
  | .retried storageKeys now retryAt =>
      storageKeys.map fun storageKey => retryObjectDeletionSql storageKey false now retryAt

def completeArtifactUpload (reads : Reads) (identity : RequestIdentity) (artifactId : String)
    (manifestSha256 : Digest) (auditUuid : String) : Request Batch := do
  let artifact ← requireOwnedArtifact (reads 0) identity.tenantId artifactId
  if artifact.status = .ready then pure []
  else do
    demand (artifact.status == .uploading && decide ((reads 1).clock < artifact.expiresAt))
      { code := "CONFLICT", message := "文件上传已经关闭。", status := 409 }
    demand (readyChunks (reads 2) artifactId identity.tenantId == artifact.chunkCount)
      { code := "ARTIFACT_NOT_READY"
        message := "仍有文件分块尚未上传。"
        status := 409
        retryable := true }
    let now := (reads 3).clock
    pure
      [completeArtifactUploadSql artifactId identity.tenantId manifestSha256 now,
        guardedArtifactAuditInsert
          (auditRow identity auditUuid "artifact.upload-completed" "artifact" artifactId now)
          (some .ready)]

/-! ## Task creation -/

/-- {lit}`CreateArtifactTaskRequest`. -/
structure CreateArtifactTaskRequest where
  artifactId : String
  model : String
  instruction : String
  dataClass : MarketplaceDataClass
  maxOutputTokens : Nat
  maxTotalTokens : Nat

/-- {lit}`column LIKE '%"value"%'` over a JSON array column. -/
def listsMember (members : List String) (value : String) : Bool :=
  sqlLike (jsonArray (members.map jsonString)) ("%\"" ++ value ++ "\"%")

/-- A worker of the offer's supplier can process the artifact. -/
def ArtifactWorkerRow.fits (w : ArtifactWorkerRow) (offer : OfferRow) (supplier : SupplierRow)
    (artifact : ArtifactRow) (model : String) (now : Nat) : Bool :=
  w.supplierTenantId == supplier.tenantId && w.providerId == offer.providerId &&
    decide (now < w.expiresAt) && decide (artifact.sizeBytes ≤ w.maxArtifactBytes) &&
    listsMember w.authorizationRequestIds offer.authorizationRequestId &&
    listsMember w.allowedModels model && listsMember w.supportedMediaTypes artifact.mediaType

/-- The joined row of the offer query. -/
structure ArtifactOffer where
  offer : OfferRow
  supplier : SupplierRow
  authorization : AuthorizationRow

/-- The {lit}`WHERE` of the offer query. -/
def ArtifactOffer.fits (db : MarketplaceDb) (buyerTenantId : String)
    (input : CreateArtifactTaskRequest) (artifact : ArtifactRow) (now : Nat)
    (c : ArtifactOffer) : Bool :=
  offerJoins c.offer c.supplier c.authorization &&
    (db.rows .supplierArtifactWorkers).any (fun w =>
      w.fits c.offer c.supplier artifact input.model now) &&
    c.offer.status == .active && c.offer.model == input.model &&
    decide (c.offer.validFrom ≤ now) && decide (now < c.offer.validUntil) &&
    listsMember (c.offer.dataClasses.map MarketplaceDataClass.text) input.dataClass.text &&
    decide (input.maxOutputTokens ≤ c.offer.maxOutputTokens) &&
    c.supplier.status == .active && c.supplier.supplyEnabled &&
    c.supplier.tenantId != buyerTenantId && c.authorization.isValidAfter now &&
    c.authorization.tenantId == c.offer.tenantId &&
    c.authorization.supplierId == c.offer.supplierId &&
    c.authorization.providerId == c.offer.providerId &&
    c.authorization.gatewayTokenDigest.isSome

/-- The offer query of {lit}`createArtifactTask`. -/
def selectArtifactOffer (db : MarketplaceDb) (buyerTenantId : String)
    (input : CreateArtifactTaskRequest) (artifact : ArtifactRow) (now : Nat) :
    Request ArtifactOffer :=
  found (firstBy (fun a b => !cheaperOrOlder b.offer a.offer)
      (((db.rows .capacityOffers).flatMap fun offer =>
        (db.rows .suppliers).flatMap fun supplier =>
          (db.rows .authorizationRequests).map fun authorization =>
            ({ offer, supplier, authorization } : ArtifactOffer)).filter
        (ArtifactOffer.fits db buyerTenantId input artifact now)))
    { code := "ARTIFACT_TASK_UNAVAILABLE"
      message := "当前没有已启用文件任务能力的匹配供应节点。"
      status := 409
      retryable := true }

/-- The context a task's instruction is sealed and committed under. -/
def instructionContext (tenantId taskId : String) : ContentContext where
  purpose := "artifact-instruction"
  tenantId := tenantId
  resourceId := taskId

/-- The row a reservation inserts; unlisted columns take their defaults. -/
def CreateArtifactTaskRequest.row (input : CreateArtifactTaskRequest) (identity : RequestIdentity)
    (selected : ArtifactOffer) (artifact : ArtifactRow) (taskId idempotencyKey iv : String)
    (reservedChargeMicros now : Nat) : ArtifactTaskRow where
  taskId := taskId
  buyerTenantId := identity.tenantId
  supplierTenantId := selected.supplier.tenantId
  offerId := selected.offer.offerId
  authorizationRequestId := selected.offer.authorizationRequestId
  authorizationRevision := selected.authorization.authorizationRevision
  artifactId := artifact.artifactId
  idempotencyKey := idempotencyKey
  model := input.model
  dataClass := input.dataClass
  privacyMode := artifact.privacyMode
  instructionDigest :=
    (createDigestCommitment (sha256Hex input.instruction)
      (instructionContext identity.tenantId taskId)).digest
  digestVersion := 2
  instructionCiphertext :=
    encryptContent iv input.instruction (instructionContext identity.tenantId taskId)
  instructionIv := iv
  contentKeyVersion := contentKeyVersion
  maxOutputTokens := input.maxOutputTokens
  maxTotalTokens := input.maxTotalTokens
  reservedChargeMicros := reservedChargeMicros
  status := .queued
  completedSegments := 0
  totalSegments := none
  processedBytes := 0
  attempt := 0
  workerId := none
  leaseDigest := none
  leaseExpiresAt := none
  executionDeadlineAt := none
  inputTokens := none
  outputTokens := none
  totalTokens := none
  chargeMicros := none
  outputCiphertext := none
  outputIv := none
  outputExpiresAt := none
  contentPurgedAt := none
  cancellationRequestedAt := none
  errorCode := none
  createdAt := now
  startedAt := none
  updatedAt := now
  completedAt := none

/-- What the reservation of a task asks of its offer. -/
def ArtifactOffer.demand (selected : ArtifactOffer) (buyerTenantId : String) (now : Nat) :
    OfferDemand where
  offerId := selected.offer.offerId
  authorizationRequestId := selected.offer.authorizationRequestId
  authorizationRevision := selected.authorization.authorizationRevision
  supplierTenantId := selected.supplier.tenantId
  buyerTenantId := buyerTenantId
  now := now

/-- The buyer already used the idempotency key for a task. -/
def hasArtifactTask (db : MarketplaceDb) (tenantId idempotencyKey : String) : Bool :=
  (db.rows .artifactTasks).any fun t =>
    t.buyerTenantId == tenantId && t.idempotencyKey == idempotencyKey

/-- The statements of a task's reservation. -/
def artifactReservationBatch (task : ArtifactTaskRow) (d : OfferDemand)
    (maximumActiveTasks : Nat) (audit : AuditEventRow) : Batch :=
  [reserveArtifactTaskSql task d maximumActiveTasks, guardedArtifactTaskAuditInsert audit]

def createArtifactTask (reads : Reads) (policy : MarketplaceRuntimePolicy)
    (identity : RequestIdentity) (input : CreateArtifactTaskRequest)
    (idempotencyKey taskUuid iv auditUuid : String) : Request Batch := do
  let artifact ← requireOwnedArtifact (reads 0) identity.tenantId input.artifactId
  demand (artifact.status == .ready && artifact.manifestSha256.isSome &&
      decide ((reads 1).clock < artifact.expiresAt))
    { code := "ARTIFACT_NOT_READY", message := "文件尚未完成上传或已经过期。", status := 409 }
  if hasArtifactTask (reads 2) identity.tenantId idempotencyKey then pure []
  else do
    let now := (reads 3).clock
    let selected ← selectArtifactOffer (reads 4) identity.tenantId input artifact now
    let reservedChargeMicros ← uncaught (estimateArtifactMaximumChargeMicros input.maxTotalTokens
      selected.offer.priceMicrosPerMillionTokens)
    let taskId := "artifact-task-" ++ taskUuid
    pure (artifactReservationBatch
      (input.row identity selected artifact taskId idempotencyKey iv reservedChargeMicros now)
      (selected.demand identity.tenantId now) policy.maximumActiveArtifactTasksPerTenant
      (auditRow identity auditUuid "artifact-task.queued" "artifact-task" taskId now))

/-! ## Cancellation -/

/-- {lit}`requireTaskForTenant`. -/
def requireTaskForTenant (db : MarketplaceDb) (tenantId taskId : String) :
    Request ArtifactTaskRow :=
  found ((db.rows .artifactTasks).find? fun t => t.taskId == taskId && t.buyerTenantId == tenantId)
    { code := "NOT_FOUND", message := "文件任务不存在。", status := 404 }

/-- {lit}`mapArtifactCancellationDecision`. -/
def mapArtifactCancellationDecision (task : ArtifactTaskRow) :
    Request ArtifactTaskCancellationDecision :=
  (decideArtifactTaskCancellation task.status task.privacyMode).mapError fun _ =>
    { code := "CONFLICT", message := "已结束的文件任务不能取消；仍可单独清除其内容。", status := 409 }

/-- The error of a cancellation command bound to another task. -/
def cancellationBoundElsewhere : ApiError where
  code := "CONFLICT"
  message := "该取消幂等键已绑定到其他文件任务。"
  status := 409

/-- The first write of {lit}`cancelArtifactTask`. -/
def bindCancellation (reads : Reads) (identity : RequestIdentity) (taskId commandId : String) :
    Request Batch := do
  demand ((readIdempotency (reads 0) identity.tenantId "artifact-task.cancel" commandId).all
      fun prior => prior == taskId) cancellationBoundElsewhere
  let task ← requireTaskForTenant (reads 1) identity.tenantId taskId
  let _decision ← mapArtifactCancellationDecision task
  pure [bindCancellationCommandSql identity.tenantId commandId taskId (reads 2).clock]

/-- The statements of a cancellation. -/
def cancellationBatch (c : CancellationCommand) (artifactId auditUuid : String) : Batch :=
  [claimCancellationTargetSql c,
    cancelArtifactTaskSql c,
    expireArtifactSql (fun db a =>
      a.artifactId == artifactId && a.tenantId == c.buyerTenantId && a.privacyMode == .strict &&
        c.holdsClaim db) c.now,
    guardedCancellationAuditInsert c ("audit-" ++ auditUuid)]

/-- The second write of {lit}`cancelArtifactTask`. -/
def cancelArtifactTask (reads : Reads) (identity : RequestIdentity)
    (taskId commandId operationUuid auditUuid : String) : Request Batch := do
  let task ← requireTaskForTenant (reads 0) identity.tenantId taskId
  let _decision ← mapArtifactCancellationDecision task
  demand (readIdempotency (reads 1) identity.tenantId "artifact-task.cancel" commandId ==
    some taskId) cancellationBoundElsewhere
  if task.status != .cancelled && task.cancellationRequestedAt.isNone then
    pure (cancellationBatch
      { buyerTenantId := identity.tenantId
        actorId := identity.actorId
        taskId
        commandId
        operationToken := "cancel-op-" ++ operationUuid
        now := (reads 2).clock }
      task.artifactId auditUuid)
  else pure []

/-! ## Retention sweep -/

/-- The sweep fails a task that waited or tried too long. -/
def ArtifactTaskRow.isExhaustedForSweep (t : ArtifactTaskRow) (maximumAttempts queueCutoff now :
    Nat) : Bool :=
  (t.status == .queued && decide (t.createdAt ≤ queueCutoff)) ||
    (t.isExecuting && t.leaseIsOverForSweep now &&
      (decide (maximumAttempts ≤ t.attempt) || decide (t.createdAt ≤ queueCutoff)))

/-- The task batch of {lit}`cleanupExpiredArtifactData`. -/
def sweepArtifactTasks (policy : MarketplaceRuntimePolicy) (now : Nat) : Batch :=
  let queueCutoff := now - policy.artifactQueueTimeoutMinutes * 60000
  [endCancelledTaskSql (fun t => t.leaseIsOverForSweep now) now false false,
    requeueExpiredTasksSql
      (fun t =>
        t.leaseIsOverForSweep now && decide (t.attempt < policy.artifactMaximumAttempts) &&
          decide (queueCutoff < t.createdAt)) now,
    failExhaustedTasksSql
      (fun t => t.isExhaustedForSweep policy.artifactMaximumAttempts queueCutoff now)
      (fun t =>
        if policy.artifactMaximumAttempts ≤ t.attempt then "MAX_ATTEMPTS_EXCEEDED"
        else "QUEUE_TIMEOUT") now]

/-- The artifact the sweep purges next. -/
def nextExpiredArtifact (db : MarketplaceDb) (now : Nat) : Option ArtifactRow :=
  firstBy (fun a b => decide (a.expiresAt ≤ b.expiresAt))
    ((db.rows .artifacts).filter fun a =>
      a.status != .deleted && decide (a.expiresAt ≤ now) && !isPinned db a.artifactId)

/-- The purge claim of {lit}`cleanupExpiredArtifactData`. -/
def claimExpiredArtifact (reads : Reads) (now : Nat) : Request Batch :=
  match nextExpiredArtifact (reads 0) now with
  | none => .ok []
  | some artifact => .ok [claimArtifactPurgeSql artifact.artifactId artifact.tenantId now]

/-- The last statement of {lit}`cleanupExpiredArtifactData`. -/
def purgeExpiredTaskOutputs (now : Nat) : Batch :=
  [purgeExpiredTaskOutputsSql now]

/-! ## Purges on request -/

/-- {lit}`idempotentAuditInsert` of {lit}`privacy-service.ts`. -/
def purgeAudit (identity : RequestIdentity) (action resourceType resourceId : String)
    (occurredAt : Nat) : MarketplaceStatement :=
  idempotentContentPurgeAuditSql
    { auditId := "audit-" ++ action ++ "-" ++ resourceId
      tenantId := identity.tenantId
      actorId := identity.actorId
      action, resourceType, resourceId, occurredAt }

/-- The audit of a purged artifact. -/
def artifactPurgeAudit (identity : RequestIdentity) (artifactId : String) (occurredAt : Nat) :
    MarketplaceStatement :=
  purgeAudit identity "privacy.artifact-content-purged" "artifact" artifactId occurredAt

/-- The audit of a purged task. -/
def taskPurgeAudit (identity : RequestIdentity) (taskId : String) (occurredAt : Nat) :
    MarketplaceStatement :=
  purgeAudit identity "privacy.artifact-task-content-purged" "artifact-task" taskId occurredAt

/-- {lit}`purgeInferenceOutput`. -/
def purgeInferenceOutput (reads : Reads) (identity : RequestIdentity) (jobId auditUuid : String) :
    Request Batch := do
  let job ← found (((reads 0).rows .inferenceJobs).find? fun job =>
      job.jobId == jobId && job.buyerTenantId == identity.tenantId)
    { code := "NOT_FOUND", message := "内容资源不存在。", status := 404 }
  if job.contentPurgedAt.isSome then pure []
  else do
    demand (!job.status.isActive)
      { code := "CONFLICT"
        message := "同步推理仍在执行，完成后才能清除结果。"
        status := 409
        retryable := true }
    let now := (reads 1).clock
    pure
      [purgeInferenceOutputSql jobId identity.tenantId now,
        auditInsert (auditRow identity auditUuid "privacy.inference-content-purged"
          "inference-job" jobId now)]

/-- The first batch of {lit}`purgeArtifactTask`. -/
def prepareTaskPurge (reads : Reads) (identity : RequestIdentity) (taskId : String) :
    Request Batch := do
  let task ← requireTaskForTenant (reads 0) identity.tenantId taskId
  demand (!task.status.isLeased)
    { code := "CONFLICT"
      message := "任务已由供应节点领取；请先取消并等待节点确认或租约到期后再清除内容。"
      status := 409
      retryable := true }
  demand (!((reads 1).rows .artifactTasks).any fun other =>
      other.artifactId == task.artifactId && other.buyerTenantId == identity.tenantId &&
        other.taskId != taskId && other.status.holdsReservation)
    { code := "CONFLICT"
      message := "同一文件仍被其他任务使用，暂时不能物理清除。"
      status := 409
      retryable := true }
  let now := (reads 2).clock
  if task.status = .queued then
    pure
      [cancelQueuedArtifactTaskForPurgeSql taskId identity.tenantId now,
        expireArtifactSql (fun db a =>
          a.artifactId == task.artifactId && a.tenantId == identity.tenantId &&
            (db.rows .artifactTasks).any fun t =>
              t.taskId == taskId && t.buyerTenantId == identity.tenantId &&
                t.status == .cancelled && t.errorCode == some "USER_CONTENT_PURGED") now]
  else
    pure
      [purgeFinishedTaskContentSql taskId identity.tenantId now,
        expireArtifactSql (fun _ a =>
          a.artifactId == task.artifactId && a.tenantId == identity.tenantId) now]

/-- The purge claim of {lit}`deleteArtifactBytes`. -/
def claimArtifactPurge (reads : Reads) (identity : RequestIdentity) (artifactId : String) :
    Request Batch :=
  .ok [claimArtifactPurgeSql artifactId identity.tenantId (reads 0).clock]

/-- The last batch of {lit}`deleteArtifactBytes`, after the artifact was read as deleted. -/
def recordArtifactPurge (reads : Reads) (identity : RequestIdentity) (artifactId : String)
    (taskId : Option String) : Request Batch := do
  let now := (reads 0).clock
  let artifact ← requireOwnedArtifact (reads 1) identity.tenantId artifactId
  demand (artifact.status == .deleted)
    { code := "ARTIFACT_STORAGE_UNAVAILABLE"
      message := "加密文件正在有界分批物理清除，请稍后重试。"
      status := 503
      retryable := true }
  let purgedAt := artifact.contentPurgedAt.getD now
  pure (artifactPurgeAudit identity artifactId purgedAt ::
    match taskId with
    | none => []
    | some taskId =>
        [markTaskPurgedSql taskId identity.tenantId now, taskPurgeAudit identity taskId purgedAt])

end Server
end TokenStreaming
