import TokenStreaming.Foundation.RelationalStore
import TokenStreaming.Domain.CapacityOffer
import TokenStreaming.Domain.ArtifactCancellation
import TokenStreaming.Server.Security

/-!
# Control plane - The database schema

The tables of the marketplace database with their columns, primary keys and
unique indexes, as an instance of the relational library.

Columns that hold texts rendered by {lit}`toISOString` are instants in
milliseconds; the one expiry a client writes,
{lit}`authorization_requests.valid_until`, stays a text and is compared as one.
Decimal amounts are natural numbers, nullable columns are options and JSON
columns are the values they serialize.

Current gaps:

- The rate-limit and key-lifecycle tables, and SQLite's 64-bit bound on sums.
-/

namespace TokenStreaming
namespace Server

open Relational Domain

/-! ## Rows -/

/-- {lit}`users`. -/
structure UserRow where
  userId : String
  email : String
  displayName : String
  createdAt : Nat
  updatedAt : Nat

/-- {lit}`suppliers`. -/
structure SupplierRow where
  supplierId : String
  tenantId : String
  userId : String
  kind : SupplierKind
  legalName : String
  displayName : String
  countryCode : String
  taxResidenceCountryCode : String
  status : SupplierStatus
  supplyEnabled : Bool
  version : Nat
  createdAt : Nat
  updatedAt : Nat

/-- The {lit}`status` column of {lit}`authorization_requests`. -/
inductive AuthorizationStatus where
  | pending
  | approved
  | rejected
  | withdrawn
  | revoked
deriving DecidableEq

/-- {lit}`authorization_requests`. -/
structure AuthorizationRow where
  requestId : String
  tenantId : String
  supplierId : String
  providerId : String
  sourceType : CapacitySourceType
  meteringMode : CapacityMeteringMode
  evidenceRef : String
  modelPattern : String
  regionCode : String
  dataClasses : List MarketplaceDataClass
  limits : CapacityLimits
  validUntil : TimestampText
  gatewayEndpoint : String
  encryptedGatewayToken : Ciphertext
  gatewayTokenIv : String
  credentialKeyId : String
  gatewayTokenDigest : Option Digest
  gatewayTokenDigestVersion : Nat
  gatewayTokenLookupKeyId : String
  encryptionKeyVersion : Nat
  authorizationRevision : Nat
  status : AuthorizationStatus
  reviewNote : Option String
  reviewedBy : Option String
  reviewCommandId : Option String
  reviewedAt : Option Nat
  credentialRotatedAt : Option Nat
  revokedAt : Option Nat
  revocationReasonCode : Option String
  createdAt : Nat
  updatedAt : Nat

/-- The {lit}`status` column of {lit}`capacity_offers`. -/
inductive OfferStatus where
  | active
  | paused
  | expired
deriving DecidableEq

/-- {lit}`capacity_offers`; the currency is always CNY. -/
structure OfferRow where
  offerId : String
  tenantId : String
  supplierId : String
  authorizationRequestId : String
  providerId : String
  sourceType : CapacitySourceType
  model : String
  regionCode : String
  dataClasses : List MarketplaceDataClass
  requestsPerMinute : Nat
  tokensPerMinute : Nat
  concurrency : Nat
  maxOutputTokens : Nat
  priceMicrosPerMillionTokens : Nat
  status : OfferStatus
  validFrom : Nat
  validUntil : Nat
  version : Nat
  createdAt : Nat
  updatedAt : Nat

/-- {lit}`event_type` and {lit}`payload_json` of a stored event. -/
inductive MarketplaceEventPayload where
  | supplier (payload : SupplierEventPayload)
  | capacityOfferPublished (offer : CapacityOfferInput) (supplierId : String)
      (sourceType : CapacitySourceType)
deriving DecidableEq

/-- {lit}`marketplace_events`. -/
structure EventRow where
  eventId : String
  tenantId : String
  actorId : String
  causationId : String
  aggregateType : String
  aggregateId : String
  aggregateVersion : Nat
  schemaVersion : Nat
  payload : MarketplaceEventPayload
  occurredAt : TimestampText

/-- The {lit}`status` column of {lit}`inference_jobs`. -/
inductive InferenceJobStatus where
  | reserved
  | running
  | completed
  | failed
deriving DecidableEq

/-- {lit}`inference_jobs`. -/
structure InferenceJobRow where
  jobId : String
  buyerTenantId : String
  supplierTenantId : String
  offerId : String
  authorizationRequestId : Option String
  authorizationRevision : Option Nat
  idempotencyKey : String
  model : String
  dataClass : MarketplaceDataClass
  privacyMode : MarketplacePrivacyMode
  promptDigest : Digest
  digestVersion : Nat
  maxOutputTokens : Nat
  reservedChargeMicros : Nat
  reservationExpiresAt : Option Nat
  status : InferenceJobStatus
  providerRequestId : Option String
  inputTokens : Option Nat
  outputTokens : Option Nat
  totalTokens : Option Nat
  chargeMicros : Option Nat
  outputCiphertext : Option Ciphertext
  outputIv : Option String
  contentKeyVersion : Nat
  outputExpiresAt : Option Nat
  contentPurgedAt : Option Nat
  errorCode : Option String
  createdAt : Nat
  completedAt : Option Nat

/-- {lit}`usage_records`. -/
structure UsageRow where
  usageId : String
  jobId : String
  buyerTenantId : String
  supplierTenantId : String
  offerId : String
  providerRequestId : String
  inputTokens : Nat
  outputTokens : Nat
  totalTokens : Nat
  receiptRef : Option String
  occurredAt : Nat

/-- {lit}`service_evidence`; the assurance is always the node-signed one. -/
structure ServiceEvidenceRow where
  evidenceId : String
  jobId : String
  offerId : String
  providerId : String
  requestedModel : String
  servedModel : String
  providerRequestId : String
  evidenceDigest : String
  inputDigest : Digest
  outputDigest : Digest
  digestVersion : Nat
  inputTokens : Nat
  outputTokens : Nat
  totalTokens : Nat
  unitPriceMicrosPerMillionTokens : Nat
  buyerChargeMicros : Nat
  supplierCreditMicros : Nat
  platformFeeMicros : Nat
  receiptRef : Option String
  providerCompletedAt : String
  recordedAt : Nat

/-- The {lit}`entry_type` column of {lit}`ledger_entries`. -/
inductive LedgerEntryType where
  | promotionalCredit
  | inferenceDebit
  | supplierCredit
  | platformFee
deriving DecidableEq

/-- The {lit}`direction` column of {lit}`ledger_entries`. -/
inductive LedgerDirection where
  | debit
  | credit
deriving DecidableEq

/-- {lit}`ledger_entries`; the currency is always CNY. -/
structure LedgerEntryRow where
  entryId : String
  tenantId : String
  accountId : String
  jobId : Option String
  entryType : LedgerEntryType
  direction : LedgerDirection
  amountMicros : Nat
  createdAt : Nat

/-- {lit}`audit_events`, without its details text. -/
structure AuditEventRow where
  auditId : String
  tenantId : String
  actorId : String
  action : String
  resourceType : String
  resourceId : String
  occurredAt : Nat

/-- {lit}`idempotency_keys`. -/
structure IdempotencyRow where
  tenantId : String
  operation : String
  idempotencyKey : String
  resourceId : String
  createdAt : Nat

/-- The {lit}`status` column of {lit}`artifacts`. -/
inductive ArtifactStatus where
  | uploading
  | ready
  | expired
  | deleted
deriving DecidableEq

/-- {lit}`artifacts`. -/
structure ArtifactRow where
  artifactId : String
  tenantId : String
  fileName : String
  privacyMode : MarketplacePrivacyMode
  mediaType : String
  sizeBytes : Nat
  chunkSizeBytes : Nat
  chunkCount : Nat
  uploadedChunks : Nat
  manifestSha256 : Option Digest
  status : ArtifactStatus
  contentPurgedAt : Option Nat
  expiresAt : Nat
  createdAt : Nat
  updatedAt : Nat

/-- The {lit}`upload_status` column of {lit}`artifact_chunks`. -/
inductive ChunkUploadStatus where
  | pending
  | deleting
  | ready
deriving DecidableEq

/-- {lit}`artifact_chunks`. -/
structure ArtifactChunkRow where
  artifactId : String
  tenantId : String
  partNumber : Nat
  sizeBytes : Nat
  plaintextSha256 : Digest
  ciphertextSha256 : Digest
  storageKey : String
  iv : String
  uploadStatus : ChunkUploadStatus
  uploadedAt : Nat

/-- {lit}`artifact_object_deletions`. -/
structure ObjectDeletionRow where
  storageKey : String
  artifactId : String
  tenantId : String
  nextAttemptAt : Nat
  retainUntil : Nat
  attempts : Nat
  createdAt : Nat
  updatedAt : Nat

/-- {lit}`supplier_artifact_workers`. -/
structure ArtifactWorkerRow where
  supplierTenantId : String
  workerId : String
  providerId : String
  authorizationRequestIds : List String
  allowedModels : List String
  supportedMediaTypes : List String
  maxArtifactBytes : Nat
  lastSeenAt : Nat
  expiresAt : Nat

/-- {lit}`artifact_tasks`. -/
structure ArtifactTaskRow where
  taskId : String
  buyerTenantId : String
  supplierTenantId : String
  offerId : String
  authorizationRequestId : String
  authorizationRevision : Nat
  artifactId : String
  idempotencyKey : String
  model : String
  dataClass : MarketplaceDataClass
  privacyMode : MarketplacePrivacyMode
  instructionDigest : Digest
  digestVersion : Nat
  instructionCiphertext : Ciphertext
  instructionIv : String
  contentKeyVersion : Nat
  maxOutputTokens : Nat
  maxTotalTokens : Nat
  reservedChargeMicros : Nat
  status : ArtifactTaskStatus
  completedSegments : Nat
  totalSegments : Option Nat
  processedBytes : Nat
  attempt : Nat
  workerId : Option String
  leaseDigest : Option Digest
  leaseExpiresAt : Option Nat
  executionDeadlineAt : Option Nat
  inputTokens : Option Nat
  outputTokens : Option Nat
  totalTokens : Option Nat
  chargeMicros : Option Nat
  outputCiphertext : Option Ciphertext
  outputIv : Option String
  outputExpiresAt : Option Nat
  contentPurgedAt : Option Nat
  cancellationRequestedAt : Option Nat
  errorCode : Option String
  createdAt : Nat
  startedAt : Option Nat
  updatedAt : Nat
  completedAt : Option Nat

/-- {lit}`artifact_task_checkpoints`. -/
structure CheckpointRow where
  checkpointId : String
  taskId : String
  attempt : Nat
  completedSegments : Nat
  totalSegments : Nat
  processedBytes : Nat
  inputTokens : Nat
  outputTokens : Nat
  totalTokens : Nat
  occurredAt : Nat

/-- {lit}`artifact_task_evidence`. -/
structure ArtifactEvidenceRow where
  evidenceId : String
  taskId : String
  providerId : String
  requestedModel : String
  servedModel : String
  artifactId : String
  artifactManifestSha256 : Digest
  artifactContentSha256 : Digest
  outputSha256 : Digest
  digestVersion : Nat
  providerRequestIdsSha256 : String
  segmentsCompleted : Nat
  inputTokens : Nat
  outputTokens : Nat
  totalTokens : Nat
  evidenceDigest : Digest
  buyerChargeMicros : Nat
  supplierCreditMicros : Nat
  platformFeeMicros : Nat
  completedAt : String
  recordedAt : Nat

/-- {lit}`agent_request_nonces`. -/
structure NonceRow where
  credentialDigest : Digest
  nonce : String
  expiresAt : Nat

/-! ## Tables and unique indexes -/

/-- The tables. -/
inductive MarketplaceTable where
  | users
  | suppliers
  | authorizationRequests
  | capacityOffers
  | marketplaceEvents
  | inferenceJobs
  | usageRecords
  | serviceEvidence
  | ledgerEntries
  | auditEvents
  | idempotencyKeys
  | artifacts
  | artifactChunks
  | artifactObjectDeletions
  | supplierArtifactWorkers
  | artifactTasks
  | artifactTaskCheckpoints
  | artifactTaskEvidence
  | agentRequestNonces
deriving DecidableEq

/-- The row type of each table. -/
@[reducible]
def MarketplaceRow : MarketplaceTable → Type
  | .users => UserRow
  | .suppliers => SupplierRow
  | .authorizationRequests => AuthorizationRow
  | .capacityOffers => OfferRow
  | .marketplaceEvents => EventRow
  | .inferenceJobs => InferenceJobRow
  | .usageRecords => UsageRow
  | .serviceEvidence => ServiceEvidenceRow
  | .ledgerEntries => LedgerEntryRow
  | .auditEvents => AuditEventRow
  | .idempotencyKeys => IdempotencyRow
  | .artifacts => ArtifactRow
  | .artifactChunks => ArtifactChunkRow
  | .artifactObjectDeletions => ObjectDeletionRow
  | .supplierArtifactWorkers => ArtifactWorkerRow
  | .artifactTasks => ArtifactTaskRow
  | .artifactTaskCheckpoints => CheckpointRow
  | .artifactTaskEvidence => ArtifactEvidenceRow
  | .agentRequestNonces => NonceRow

/-- An entry of a primary key or unique index. -/
inductive IndexEntry where
  | primaryKey (id : String)
  | byTenant (tenantId : String)
  | byUser (userId : String)
  | byAggregateVersion (tenantId aggregateType aggregateId : String) (version : Nat)
  | byCausation (tenantId causationId : String)
  | byIdempotencyKey (buyerTenantId idempotencyKey : String)
  | byJob (jobId : String)
  | byJobEffect (jobId : String) (entryType : LedgerEntryType)
  | byScope (tenantId operation idempotencyKey : String)
  | byPart (artifactId : String) (partNumber : Nat)
  | byWorker (supplierTenantId workerId : String)
  | byNonce (credentialDigest : Digest) (nonce : String)
deriving DecidableEq

/-- {lit}`idx_ledger_entries_job_effect` covers three entry types of rows with a job. -/
def LedgerEntryRow.jobEffect (entry : LedgerEntryRow) : List IndexEntry :=
  match entry.jobId with
  | none => []
  | some jobId =>
      if entry.entryType = .promotionalCredit then [] else [.byJobEffect jobId entry.entryType]

/-- The unique-index entries of a row. -/
def marketplaceKeys : (t : MarketplaceTable) → MarketplaceRow t → List IndexEntry
  | .users, r => [.primaryKey r.userId]
  | .suppliers, r => [.primaryKey r.supplierId, .byTenant r.tenantId, .byUser r.userId]
  | .authorizationRequests, r => [.primaryKey r.requestId]
  | .capacityOffers, r => [.primaryKey r.offerId]
  | .marketplaceEvents, r =>
      [.primaryKey r.eventId,
        .byAggregateVersion r.tenantId r.aggregateType r.aggregateId r.aggregateVersion,
        .byCausation r.tenantId r.causationId]
  | .inferenceJobs, r =>
      [.primaryKey r.jobId, .byIdempotencyKey r.buyerTenantId r.idempotencyKey]
  | .usageRecords, r => [.primaryKey r.usageId, .byJob r.jobId]
  | .serviceEvidence, r => [.primaryKey r.evidenceId, .byJob r.jobId]
  | .ledgerEntries, r => .primaryKey r.entryId :: r.jobEffect
  | .auditEvents, r => [.primaryKey r.auditId]
  | .idempotencyKeys, r => [.byScope r.tenantId r.operation r.idempotencyKey]
  | .artifacts, r => [.primaryKey r.artifactId]
  | .artifactChunks, r => [.byPart r.artifactId r.partNumber]
  | .artifactObjectDeletions, r => [.primaryKey r.storageKey]
  | .supplierArtifactWorkers, r => [.byWorker r.supplierTenantId r.workerId]
  | .artifactTasks, r =>
      [.primaryKey r.taskId, .byIdempotencyKey r.buyerTenantId r.idempotencyKey]
  | .artifactTaskCheckpoints, r => [.primaryKey r.checkpointId]
  | .artifactTaskEvidence, r => [.primaryKey r.evidenceId, .byJob r.taskId]
  | .agentRequestNonces, r => [.byNonce r.credentialDigest r.nonce]

/-- The marketplace database as a schema of the relational library. -/
@[reducible]
def marketplaceSchema : Schema where
  Table := MarketplaceTable
  Row := MarketplaceRow
  Key := fun _ => IndexEntry
  keys := marketplaceKeys
  tableDecEq := inferInstance
  keyDecEq := fun _ => inferInstance

/-- A state of the marketplace database. -/
abbrev MarketplaceDb := Database marketplaceSchema

/-- A prepared statement of the marketplace. -/
abbrev MarketplaceStatement := Statement marketplaceSchema

/-- The freshly migrated database. -/
def MarketplaceDb.empty (clock : Nat) : MarketplaceDb where
  rows := fun _ => []
  clock := clock

theorem MarketplaceDb.empty_consistent (clock : Nat) : Consistent (MarketplaceDb.empty clock) :=
  fun _ => List.Pairwise.nil

/-! ## Comparisons of nullable columns -/

/-- {lit}`column > ?` for a nullable instant; NULL is not greater than anything. -/
def isAfter (column : Option Nat) (instant : Nat) : Bool :=
  column.any fun value => decide (instant < value)

/-- {lit}`column <= ?` for a nullable instant. -/
def isAtOrBefore (column : Option Nat) (instant : Nat) : Bool :=
  column.any fun value => decide (value ≤ instant)

/-- {lit}`column < ?` for a nullable instant. -/
def isBefore (column : Option Nat) (instant : Nat) : Bool :=
  column.any fun value => decide (value < instant)

/-- {lit}`valid_until > ?`: SQLite compares the stored text with the rendered instant. -/
def AuthorizationRow.isValidAfter (r : AuthorizationRow) (now : Nat) : Bool :=
  decide (IsoInstant.toISOString now < r.validUntil.text)

end Server
end TokenStreaming
