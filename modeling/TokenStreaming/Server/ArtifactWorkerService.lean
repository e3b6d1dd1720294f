import TokenStreaming.Server.ArtifactStatements
import TokenStreaming.Server.AgentAuth
import TokenStreaming.Server.InferenceService

/-!
# Control plane - Artifact worker requests

The supplier side of an artifact task, {lit}`artifact-worker-service.ts`: a worker
announces itself, claims a queued task, reports checkpoints and finishes the
task.  {lit}`claimArtifactTask` sends three batches in a row; each is a function
here.

Main definitions:

- {lit}`registerHeartbeat`, {lit}`expireLeases`, {lit}`claimArtifactTask`: the three
  batches of a claim, with {lit}`claimArtifactTaskResponse` for what it returns.
- {lit}`checkpointArtifactTask`, {lit}`completeArtifactTask`, {lit}`failArtifactTask`.
- {lit}`observeCancellation`: the batch {lit}`requireLeasedTask` sends when the lease
  holder meets a cancellation.

Current gaps:

- {lit}`verifySupplierArtifactEvidence`: a completion takes its verified evidence as input.
-/

namespace TokenStreaming
namespace Server

open Relational Domain

/-! ## Claims -/

/-- {lit}`SupplierArtifactTaskClaimRequest`. -/
structure ArtifactTaskClaimRequest where
  workerId : String
  providerId : String
  allowedModels : List String
  supportedMediaTypes : List String
  maxArtifactBytes : Nat

/-- The authorizations a claim may use. -/
def ArtifactTaskClaimRequest.authorized (input : ArtifactTaskClaimRequest)
    (identity : AgentAuthorizationIdentity) : List AgentAuthorization :=
  identity.authorizations.filter fun item =>
    item.providerId == input.providerId && input.allowedModels.contains item.modelPattern

/-- {lit}`sort` without a comparison function. -/
def sortedTexts (texts : List String) : List String :=
  texts.insertionSort fun a b => a ≤ b

/-- The heartbeat row of a claim. -/
def ArtifactTaskClaimRequest.worker (input : ArtifactTaskClaimRequest)
    (identity : AgentAuthorizationIdentity) (now expiresAt : Nat) : ArtifactWorkerRow where
  supplierTenantId := identity.supplierTenantId
  workerId := input.workerId
  providerId := input.providerId
  authorizationRequestIds :=
    sortedTexts ((input.authorized identity).map AgentAuthorization.requestId)
  allowedModels := sortedTexts input.allowedModels
  supportedMediaTypes := sortedTexts input.supportedMediaTypes
  maxArtifactBytes := input.maxArtifactBytes
  lastSeenAt := now
  expiresAt := expiresAt

/-- The error of a worker without a matching authorization. -/
def workerUnauthorized : ApiError where
  code := "AUTHORIZATION_REQUIRED"
  message := "Agent 声明的 Provider 或模型未获授权。"
  status := 403

/-- The first batch of {lit}`claimArtifactTask`. -/
def registerHeartbeat (reads : Reads) (identity : AgentAuthorizationIdentity)
    (input : ArtifactTaskClaimRequest) : Request Batch := do
  demand (!(input.authorized identity).isEmpty) workerUnauthorized
  let now := (reads 0).clock
  pure [agentHeartbeatUpsertSql
    (input.worker identity now ((reads 1).clock + 2 * 60000)) identity.supplierId
    ((input.authorized identity).map fun item => (item.requestId, item.authorizationRevision))]

/-- The second batch of {lit}`claimArtifactTask`. -/
def expireLeases (policy : MarketplaceRuntimePolicy) (supplierTenantId : String) (now : Nat) :
    Batch :=
  [endCancelledTaskSql
      (fun t => t.supplierTenantId == supplierTenantId && t.leaseIsOver now) now false true,
    requeueExpiredTasksSql
      (fun t =>
        t.supplierTenantId == supplierTenantId && t.leaseIsOver now &&
          decide (t.attempt < policy.artifactMaximumAttempts)) now,
    failExhaustedTasksSql
      (fun t =>
        t.supplierTenantId == supplierTenantId && t.isExecuting && t.leaseIsOver now &&
          decide (policy.artifactMaximumAttempts ≤ t.attempt))
      (fun _ => "LEASE_EXPIRED") now]

/-- The joined row of the worker's queries. -/
structure WorkerTaskRow where
  task : ArtifactTaskRow
  artifact : ArtifactRow
  offer : OfferRow

/-- The join condition of the worker's queries. -/
def WorkerTaskRow.joins (row : WorkerTaskRow) : Bool :=
  row.artifact.artifactId == row.task.artifactId &&
    row.artifact.tenantId == row.task.buyerTenantId && row.offer.offerId == row.task.offerId &&
    row.offer.tenantId == row.task.supplierTenantId &&
    row.offer.authorizationRequestId == row.task.authorizationRequestId

/-- The join of tasks, artifacts and offers, in the order of the tasks. -/
def workerTaskRows (db : MarketplaceDb) (tasks : List ArtifactTaskRow) : List WorkerTaskRow :=
  (tasks.flatMap fun task => (db.rows .artifacts).flatMap fun artifact =>
    (db.rows .capacityOffers).map fun offer =>
      ({ task, artifact, offer } : WorkerTaskRow)).filter WorkerTaskRow.joins

/-- The candidate query: the twenty oldest queued tasks of the supplier. -/
def claimCandidates (db : MarketplaceDb) (supplierTenantId : String) (now : Nat) :
    List WorkerTaskRow :=
  ((workerTaskRows db (((db.rows .artifactTasks).filter fun t =>
      t.supplierTenantId == supplierTenantId && t.status == .queued).insertionSort
        fun a b => a.createdAt ≤ b.createdAt)).filter fun row =>
    row.artifact.status == .ready && row.offer.status == .active &&
      decide (now < row.offer.validUntil)).take 20

/-- The worker can process the candidate. -/
def ArtifactTaskClaimRequest.accepts (input : ArtifactTaskClaimRequest)
    (identity : AgentAuthorizationIdentity) (row : WorkerTaskRow) : Bool :=
  row.offer.providerId == input.providerId && input.allowedModels.contains row.task.model &&
    input.supportedMediaTypes.contains row.artifact.mediaType &&
    decide (row.artifact.sizeBytes ≤ input.maxArtifactBytes) &&
    (input.authorized identity).any fun item =>
      item.requestId == row.task.authorizationRequestId

/-- The candidate a worker claims: the first it can process. -/
def claimCandidate (reads : Reads) (identity : AgentAuthorizationIdentity)
    (input : ArtifactTaskClaimRequest) : Option WorkerTaskRow :=
  (claimCandidates (reads 1) identity.supplierTenantId (reads 0).clock).find? fun row =>
    input.accepts identity row

/-- The claim a worker sends for a candidate. -/
def ArtifactTaskClaimRequest.claim (input : ArtifactTaskClaimRequest)
    (identity : AgentAuthorizationIdentity) (candidate : WorkerTaskRow)
    (authorization : AgentAuthorization) (leaseToken : String)
    (leaseExpiresAt executionDeadlineAt now : Nat) : TaskClaim where
  taskId := candidate.task.taskId
  supplierTenantId := identity.supplierTenantId
  authorizationRequestId := candidate.task.authorizationRequestId
  authorizationRevision := authorization.authorizationRevision
  workerId := input.workerId
  providerId := input.providerId
  leaseDigest := sha256Hex leaseToken
  leaseExpiresAt := leaseExpiresAt
  executionDeadlineAt := executionDeadlineAt
  resumeFromSegment :=
    if candidate.task.workerId = some input.workerId then candidate.task.completedSegments else 0
  now := now

/-- The third batch of {lit}`claimArtifactTask`; without a candidate it sends nothing. -/
def claimArtifactTask (reads : Reads) (policy : MarketplaceRuntimePolicy)
    (identity : AgentAuthorizationIdentity) (input : ArtifactTaskClaimRequest)
    (leaseToken : String) : Request Batch := do
  demand (!(input.authorized identity).isEmpty) workerUnauthorized
  let now := (reads 0).clock
  match claimCandidate reads identity input with
  | none => pure []
  | some candidate =>
      let authorization ← found ((input.authorized identity).find? fun item =>
        item.requestId == candidate.task.authorizationRequestId) internalError
      let executionDeadlineAt :=
        (reads 2).clock + policy.artifactMaximumExecutionMinutes * 60000
      let leaseExpiresAt :=
        min ((reads 3).clock + policy.artifactLeaseMinutes * 60000) executionDeadlineAt
      pure [claimArtifactTaskSql (input.claim identity candidate authorization leaseToken
        leaseExpiresAt executionDeadlineAt now)]

/-- One entry of {lit}`artifact.chunks` of an assignment. -/
structure AssignedChunk where
  partNumber : Nat
  sizeBytes : Nat
  sha256 : Digest
deriving DecidableEq

/-- {lit}`SupplierArtifactAssignment`. -/
structure ArtifactAssignment where
  taskId : String
  leaseToken : String
  leaseExpiresAt : Nat
  attempt : Nat
  resumeFromSegment : Nat
  privacyMode : MarketplacePrivacyMode
  model : String
  instruction : String
  dataClass : MarketplaceDataClass
  maxOutputTokens : Nat
  maxTotalTokens : Nat
  artifactId : String
  fileName : String
  mediaType : String
  sizeBytes : Nat
  manifestSha256 : Option Digest
  chunks : List AssignedChunk

/-- The chunks of an assignment: the ready ones in the order of their parts. -/
def assignedChunks (db : MarketplaceDb) (artifactId tenantId : String) : List AssignedChunk :=
  (((db.rows .artifactChunks).filter fun chunk =>
      chunk.artifactId == artifactId && chunk.tenantId == tenantId &&
        chunk.uploadStatus == .ready).insertionSort fun a b => a.partNumber ≤ b.partNumber).map
    fun chunk =>
      { partNumber := chunk.partNumber
        sizeBytes := chunk.sizeBytes
        sha256 := chunk.plaintextSha256 }

/-- {lit}`claimArtifactTask` after its update, which reported the number of changed rows; the
chunks are read from a later state. -/
def claimArtifactTaskResponse (reads : Reads) (policy : MarketplaceRuntimePolicy)
    (identity : AgentAuthorizationIdentity) (input : ArtifactTaskClaimRequest)
    (leaseToken : String) (changes : Nat) (later : MarketplaceDb) :
    Request (Option ArtifactAssignment) := do
  match claimCandidate reads identity input with
  | none => pure none
  | some candidate =>
      if changes ≠ 1 then pure none
      else do
        let chunks := assignedChunks later candidate.task.artifactId candidate.task.buyerTenantId
        demand (!chunks.isEmpty)
          { code := "ARTIFACT_INTEGRITY_FAILED", message := "文件任务缺少已验证分块。", status := 500 }
        let instruction ← found
          (decryptContent candidate.task.instructionCiphertext candidate.task.instructionIv
            candidate.task.contentKeyVersion
            { purpose := "artifact-instruction"
              tenantId := candidate.task.buyerTenantId
              resourceId := candidate.task.taskId }) internalError
        pure (some
          { taskId := candidate.task.taskId
            leaseToken
            leaseExpiresAt :=
              min ((reads 3).clock + policy.artifactLeaseMinutes * 60000)
                ((reads 2).clock + policy.artifactMaximumExecutionMinutes * 60000)
            attempt := candidate.task.attempt + 1
            resumeFromSegment :=
              if candidate.task.workerId = some input.workerId then
                candidate.task.completedSegments
              else 0
            privacyMode := candidate.task.privacyMode
            model := candidate.task.model
            instruction
            dataClass := candidate.task.dataClass
            maxOutputTokens := candidate.task.maxOutputTokens
            maxTotalTokens := candidate.task.maxTotalTokens
            artifactId := candidate.task.artifactId
            fileName := candidate.artifact.fileName
            mediaType := candidate.artifact.mediaType
            sizeBytes := candidate.artifact.sizeBytes
            manifestSha256 := candidate.artifact.manifestSha256
            chunks })

/-! ## Leased tasks -/

/-- {lit}`invalidLease`. -/
def invalidLease : ApiError where
  code := "ARTIFACT_LEASE_INVALID"
  message := "文件任务租约无效或已经过期。"
  status := 409
  retryable := true

/-- {lit}`requireLeasedTask`: the leased task with its artifact and offer. -/
def requireLeasedTask (reads : Reads) (identity : AgentAuthorizationIdentity)
    (taskId leaseToken : String) : Request WorkerTaskRow := do
  let clock := (reads 0).clock
  let row ← found ((workerTaskRows (reads 1) ((reads 1).rows .artifactTasks)).find? fun row =>
    row.task.taskId == taskId &&
      row.task.isHeldWith identity.supplierTenantId (sha256Hex leaseToken) clock) invalidLease
  demand (identity.authorizations.any fun item =>
    item.requestId == row.task.authorizationRequestId) invalidLease
  pure row

/-- The batch of {lit}`requireLeasedTask` when the lease holder meets a cancellation. -/
def observeCancellation (reads : Reads) (identity : AgentAuthorizationIdentity)
    (taskId leaseToken : String) : Request Batch := do
  let leaseDigest := sha256Hex leaseToken
  let terminal ← found (((reads 0).rows .artifactTasks).find? fun t =>
    t.taskId == taskId && t.supplierTenantId == identity.supplierTenantId) invalidLease
  demand (terminal.cancellationRequestedAt.isSome && terminal.leaseDigest == some leaseDigest)
    invalidLease
  let now := (reads 1).clock
  pure
    [endCancelledTaskSql
        (fun t =>
          t.taskId == taskId && t.supplierTenantId == identity.supplierTenantId &&
            t.leaseDigest == some leaseDigest) now true false,
      expireArtifactSql
        (fun db a =>
          a.artifactId == terminal.artifactId && a.privacyMode == .strict &&
            (db.rows .artifactTasks).any fun t => t.taskId == taskId && t.status == .cancelled)
        now]

/-! ## Checkpoints and failures -/

/-- {lit}`SupplierArtifactTaskCheckpointRequest`. -/
structure ArtifactTaskCheckpointRequest where
  taskId : String
  leaseToken : String
  completedSegments : Nat
  totalSegments : Nat
  processedBytes : Nat
  usage : GatewayUsage

/-- {lit}`validateUsage`. -/
def validateUsage (usage : GatewayUsage) (maximumTotalTokens : Nat) : Request Unit :=
  demand (decide (usage.totalTokens ≤ maximumTotalTokens) &&
      usage.totalTokens == usage.inputTokens + usage.outputTokens)
    { code := "INVALID_REQUEST", message := "Agent 文件任务用量字段不一致。", status := 400 }

/-- The statements of a checkpoint. -/
def checkpointBatch (c : TaskCheckpoint) (checkpointUuid : String) : Batch :=
  [checkpointArtifactTaskSql c, guardedCheckpointInsert c ("artifact-checkpoint-" ++ checkpointUuid)]

def checkpointArtifactTask (reads : Reads) (policy : MarketplaceRuntimePolicy)
    (identity : AgentAuthorizationIdentity) (input : ArtifactTaskCheckpointRequest)
    (checkpointUuid : String) : Request Batch := do
  let row ← requireLeasedTask reads identity input.taskId input.leaseToken
  validateUsage input.usage row.task.maxTotalTokens
  let c : TaskCheckpoint :=
    { taskId := row.task.taskId
      supplierTenantId := identity.supplierTenantId
      leaseDigest := sha256Hex input.leaseToken
      attempt := row.task.attempt
      completedSegments := input.completedSegments
      totalSegments := input.totalSegments
      processedBytes := input.processedBytes
      inputTokens := input.usage.inputTokens
      outputTokens := input.usage.outputTokens
      totalTokens := input.usage.totalTokens
      leaseExpiresAt :=
        min ((reads 3).clock + policy.artifactLeaseMinutes * 60000)
          (row.task.executionDeadlineAt.getD 0)
      now := (reads 2).clock }
  demand (decide (1 ≤ input.totalSegments) &&
      decide (input.processedBytes ≤ row.artifact.sizeBytes) &&
      decide (input.completedSegments ≤ input.totalSegments) &&
      decide (row.task.completedSegments ≤ input.completedSegments) &&
      decide (row.task.processedBytes ≤ input.processedBytes) &&
      decide (row.task.inputTokens.getD 0 ≤ input.usage.inputTokens) &&
      decide (row.task.outputTokens.getD 0 ≤ input.usage.outputTokens) &&
      decide (row.task.totalTokens.getD 0 ≤ input.usage.totalTokens))
    { code := "CONFLICT", message := "任务检查点不能倒退或超出任务边界。", status := 409 }
  pure (checkpointBatch c checkpointUuid)

/-- {lit}`failArtifactTask`, up to its update. -/
def failArtifactTask (reads : Reads) (policy : MarketplaceRuntimePolicy)
    (identity : AgentAuthorizationIdentity) (taskId leaseToken code : String)
    (retryable : Bool) : Request Batch := do
  let row ← requireLeasedTask reads identity taskId leaseToken
  let retry := retryable && decide (row.task.attempt < policy.artifactMaximumAttempts)
  pure [failArtifactTaskSql row.task.taskId identity.supplierTenantId (sha256Hex leaseToken) code
    retry (reads 2).clock]

/-- The input of a strict task that failed for good expires at once. -/
def expireFailedArtifact (artifactId : String) (now : Nat) : Batch :=
  [expireArtifactSql (fun _ a => a.artifactId == artifactId) now]

/-! ## Completion -/

/-- {lit}`VerifiedSupplierArtifactEvidence`, as far as it is recorded. -/
structure VerifiedArtifactEvidence where
  providerId : String
  requestedModel : String
  servedModel : String
  artifactId : String
  artifactManifestSha256 : Digest
  artifactContentSha256 : Digest
  outputSha256 : Digest
  providerRequestIdsSha256 : String
  segmentsCompleted : Nat
  completedAt : String

/-- {lit}`SupplierArtifactTaskCompleteRequest`, with its verified evidence and its digest. -/
structure ArtifactTaskCompleteRequest where
  taskId : String
  leaseToken : String
  output : String
  usage : GatewayUsage
  verified : VerifiedArtifactEvidence
  evidenceDigest : Digest

/-- Everything the completion batch of a task writes. -/
structure ArtifactSettlement where
  identity : AgentAuthorizationIdentity
  input : ArtifactTaskCompleteRequest
  task : ArtifactTaskRow
  amounts : SettlementAmounts
  outputIv : String
  now : Nat
  outputExpiresAt : Nat
  standardArtifactExpiresAt : Nat

/-- The context of the content a task's execution produced. -/
def ArtifactSettlement.context (s : ArtifactSettlement) (purpose : String) : ContentContext where
  purpose := purpose
  tenantId := s.task.buyerTenantId
  resourceId := s.task.taskId

/-- The values the completion update writes and compares. -/
def ArtifactSettlement.completion (s : ArtifactSettlement) : ArtifactCompletion where
  taskId := s.task.taskId
  buyerTenantId := s.task.buyerTenantId
  supplierTenantId := s.identity.supplierTenantId
  leaseDigest := sha256Hex s.input.leaseToken
  checkpoint :=
    { attempt := s.task.attempt
      completedSegments := s.task.completedSegments
      totalSegments := s.task.totalSegments
      processedBytes := s.task.processedBytes
      inputTokens := s.task.inputTokens
      outputTokens := s.task.outputTokens
      totalTokens := s.task.totalTokens }
  inputTokens := s.input.usage.inputTokens
  outputTokens := s.input.usage.outputTokens
  totalTokens := s.input.usage.totalTokens
  chargeMicros := s.amounts.buyerChargeMicros
  outputCiphertext := encryptContent s.outputIv s.input.output (s.context "artifact-output")
  outputIv := s.outputIv
  contentKeyVersion := contentKeyVersion
  outputExpiresAt := s.outputExpiresAt
  now := s.now

/-- The evidence row of a settlement. -/
def ArtifactSettlement.evidenceRow (s : ArtifactSettlement) (uuid : String) :
    ArtifactEvidenceRow where
  evidenceId := "artifact-evidence-" ++ uuid
  taskId := s.task.taskId
  providerId := s.input.verified.providerId
  requestedModel := s.input.verified.requestedModel
  servedModel := s.input.verified.servedModel
  artifactId := s.input.verified.artifactId
  artifactManifestSha256 :=
    (createDigestCommitment s.input.verified.artifactManifestSha256
      (s.context "artifact-manifest")).digest
  artifactContentSha256 :=
    (createDigestCommitment s.input.verified.artifactContentSha256
      (s.context "artifact-content")).digest
  outputSha256 :=
    (createDigestCommitment s.input.verified.outputSha256 (s.context "artifact-output")).digest
  digestVersion := 2
  providerRequestIdsSha256 := s.input.verified.providerRequestIdsSha256
  segmentsCompleted := s.input.verified.segmentsCompleted
  inputTokens := s.input.usage.inputTokens
  outputTokens := s.input.usage.outputTokens
  totalTokens := s.input.usage.totalTokens
  evidenceDigest := s.input.evidenceDigest
  buyerChargeMicros := s.amounts.buyerChargeMicros
  supplierCreditMicros := s.amounts.supplierCreditMicros
  platformFeeMicros := s.amounts.platformFeeMicros
  completedAt := s.input.verified.completedAt
  recordedAt := s.now

/-- The parties of an artifact settlement. -/
def ArtifactSettlement.parties (s : ArtifactSettlement) : SettlementParties where
  jobId := s.task.taskId
  buyerTenantId := s.task.buyerTenantId
  supplierTenantId := s.task.supplierTenantId
  createdAt := s.now

/-- The usage record of a settlement. -/
def ArtifactSettlement.usageRow (s : ArtifactSettlement) (uuid : String) : UsageRow where
  usageId := "usage-" ++ uuid
  jobId := s.task.taskId
  buyerTenantId := s.task.buyerTenantId
  supplierTenantId := s.task.supplierTenantId
  offerId := s.task.offerId
  providerRequestId := s.input.verified.providerRequestIdsSha256
  inputTokens := s.input.usage.inputTokens
  outputTokens := s.input.usage.outputTokens
  totalTokens := s.input.usage.totalTokens
  receiptRef := some s.input.evidenceDigest.hex
  occurredAt := s.now

/-- The audit row of a settlement; the actor is the agent's credential. -/
def ArtifactSettlement.auditRow (s : ArtifactSettlement) (uuid : String) : AuditEventRow where
  auditId := "audit-" ++ uuid
  tenantId := s.task.buyerTenantId
  actorId := "agent-" ++ (s.identity.credentialDigest.hex.take 24).toString
  action := "artifact-task.completed"
  resourceType := "artifact-task"
  resourceId := s.task.taskId
  occurredAt := s.now

/-- A ledger insert guarded by this settlement's evidence. -/
def ArtifactSettlement.ledgerInsert (s : ArtifactSettlement) (entry : LedgerEntryRow) :
    MarketplaceStatement :=
  guardedArtifactLedgerInsert entry s.task.taskId s.input.evidenceDigest

/-- The statements of a completion; a fee of zero writes no entry. -/
def artifactCompletionBatch (s : ArtifactSettlement) (uuids : CompletionUuids) : Batch :=
  [completeArtifactTaskSql s.completion,
    guardedArtifactEvidenceInsert (s.evidenceRow uuids.evidence) s.identity.supplierTenantId,
    s.ledgerInsert (s.parties.debit uuids.debit s.amounts.buyerChargeMicros),
    s.ledgerInsert (s.parties.credit uuids.credit s.amounts.supplierCreditMicros),
    guardedArtifactUsageInsert (s.usageRow uuids.usage) s.input.evidenceDigest,
    guardedArtifactCompletionAuditInsert (s.auditRow uuids.audit) s.input.evidenceDigest,
    extendArtifactSql s.task.artifactId s.task.taskId s.input.evidenceDigest s.task.privacyMode
      s.now s.standardArtifactExpiresAt] ++
  if s.amounts.platformFeeMicros = 0 then []
  else [s.ledgerInsert (s.parties.fee uuids.fee s.amounts.platformFeeMicros)]

/-- The error of a completion that disagrees with the recorded progress. -/
def integrityFailed (message : String) : ApiError where
  code := "ARTIFACT_INTEGRITY_FAILED"
  message := message
  status := 409

/-- {lit}`completeArtifactTask` up to its batch. -/
def completeArtifactTask (reads : Reads) (policy : MarketplaceRuntimePolicy)
    (identity : AgentAuthorizationIdentity) (input : ArtifactTaskCompleteRequest)
    (outputIv : String) : Request ArtifactSettlement := do
  let row ← requireLeasedTask reads identity input.taskId input.leaseToken
  validateUsage input.usage row.task.maxTotalTokens
  demand (row.task.processedBytes == row.artifact.sizeBytes &&
      decide (1 ≤ row.task.completedSegments))
    (integrityFailed "任务尚未通过覆盖完整文件的最终检查点。")
  demand (row.task.totalSegments == some row.task.completedSegments)
    (integrityFailed "任务分段尚未全部完成。")
  demand (row.task.totalTokens == some input.usage.totalTokens)
    (integrityFailed "最终用量与最近检查点不一致。")
  let amounts ← uncaught (calculateSettlement
    { totalTokens := input.usage.totalTokens
      priceMicrosPerMillionTokens := row.offer.priceMicrosPerMillionTokens
      platformFeeBps := policy.platformFeeBps })
  demand (decide (amounts.buyerChargeMicros ≤ row.task.reservedChargeMicros))
    (integrityFailed "最终费用超过任务预留上限。")
  pure
    { identity, input, task := row.task, amounts, outputIv
      now := (reads 2).clock
      outputExpiresAt := (reads 3).clock + policy.outputRetention row.task.privacyMode
      standardArtifactExpiresAt :=
        (reads 4).clock + policy.standardArtifactRetentionHours * 60 * 60000 }

end Server
end TokenStreaming
