import TokenStreaming.Server.AuthorizationIntake
import TokenStreaming.Server.AuthorizationLifecycle
import TokenStreaming.Server.InferenceStatements
import TokenStreaming.Server.Requests
import Mathlib.Data.List.Sort

/-!
# Control plane - Supplier and authorization requests

The supplier side of {lit}`marketplace-service.ts`: each function reads, runs the
domain commands and returns the batch it sends.  A replayed command sends
nothing and returns the empty batch.

Main definitions:

- {lit}`registerSupplierProfile`, {lit}`submitAuthorizationRequest`.
- {lit}`rejectAuthorization`, {lit}`approveAuthorization`: the two decisions of
  {lit}`reviewAuthorization`.
- {lit}`withdrawAuthorization`, {lit}`revokeApprovedAuthorization`: the two branches of
  {lit}`revokeAuthorization`.
- {lit}`rotateAuthorizationCredential`, {lit}`createCapacityOffer`, {lit}`setSupplyState`.
-/

namespace TokenStreaming
namespace Server

open Relational Domain

/-! ## Events and contexts -/

/-- The supplier event a stored row holds. -/
def EventRow.toSupplierEvent (row : EventRow) : Option SupplierEvent :=
  match row.payload with
  | .supplier payload => some
      { schemaVersion := row.schemaVersion
        eventId := row.eventId
        tenantId := row.tenantId
        actorId := row.actorId
        causationId := row.causationId
        aggregateType := row.aggregateType
        aggregateId := row.aggregateId
        aggregateVersion := row.aggregateVersion
        occurredAt := row.occurredAt
        payload }
  | .capacityOfferPublished _ _ _ => none

/-- The row belongs to the supplier's log. -/
def EventRow.isOfSupplier (row : EventRow) (tenantId supplierId : String) : Bool :=
  row.tenantId == tenantId && row.aggregateType == "supplier" && row.aggregateId == supplierId

/-- The rows of a supplier's log by version. -/
def supplierEventRows (db : MarketplaceDb) (tenantId supplierId : String) : List EventRow :=
  ((db.rows .marketplaceEvents).filter fun row =>
    row.isOfSupplier tenantId supplierId).insertionSort
      fun a b => a.aggregateVersion ≤ b.aggregateVersion

/-- {lit}`readSupplierEvents`. -/
def readSupplierEvents (db : MarketplaceDb) (tenantId supplierId : String) : List SupplierEvent :=
  (supplierEventRows db tenantId supplierId).filterMap EventRow.toSupplierEvent

/-- {lit}`commandContextForTenant`. -/
def commandContextForTenant (tenantId actorId commandId eventUuid : String) (now : Nat) :
    MarketplaceCommandContext where
  tenantId := tenantId
  actorId := actorId
  commandId := commandId
  eventId := "event-" ++ eventUuid
  occurredAt := TimestampText.ofInstant now

/-- {lit}`commandContext`. -/
def commandContext (identity : RequestIdentity) (commandId eventUuid : String) (now : Nat) :
    MarketplaceCommandContext :=
  commandContextForTenant identity.tenantId identity.actorId commandId eventUuid now

/-- An audit row written by a request of the identity. -/
def auditRow (identity : RequestIdentity) (auditUuid action resourceType resourceId : String)
    (now : Nat) : AuditEventRow where
  auditId := "audit-" ++ auditUuid
  tenantId := identity.tenantId
  actorId := identity.actorId
  action := action
  resourceType := resourceType
  resourceId := resourceId
  occurredAt := now

/-! ## Accounts and registration -/

/-- {lit}`ensureUser`. -/
def ensureUser (identity : RequestIdentity) (policy : MarketplaceRuntimePolicy) (now : Nat) :
    Batch :=
  [insertUserSql identity.userId now,
    scrubUserSql identity.userId now,
    insertWelcomeCreditSql identity.tenantId policy.welcomeCreditMicros now]

/-- {lit}`RegisterSupplierRequest`, with texts trimmed and codes in upper case. -/
structure RegisterSupplierRequest where
  commandId : String
  kind : SupplierKind
  legalName : String
  displayName : String
  countryCode : String
  taxResidenceCountryCode : String

/-- The row a registration inserts. -/
def RegisterSupplierRequest.row (input : RegisterSupplierRequest) (identity : RequestIdentity)
    (supplierId : String) (now : Nat) : SupplierRow where
  supplierId := supplierId
  tenantId := identity.tenantId
  userId := identity.userId
  kind := input.kind
  legalName := input.legalName
  displayName := input.displayName
  countryCode := input.countryCode
  taxResidenceCountryCode := input.taxResidenceCountryCode
  status := .pendingVerification
  supplyEnabled := false
  version := 1
  createdAt := now
  updatedAt := now

/-- The statements of a registration. -/
def registerSupplierBatch (identity : RequestIdentity) (input : RegisterSupplierRequest)
    (event : SupplierEvent) (supplierId auditUuid : String) (now : Nat) : Batch :=
  [eventInsert event,
    insertSupplierSql (input.row identity supplierId now),
    auditInsert (auditRow identity auditUuid "supplier.registered" "supplier" supplierId now),
    idempotencyInsert identity.tenantId "supplier.register" input.commandId supplierId now]

def registerSupplierProfile (reads : Reads) (identity : RequestIdentity)
    (input : RegisterSupplierRequest) (supplierUuid eventUuid auditUuid : String) :
    Request Batch :=
  if (readIdempotency (reads 0) identity.tenantId "supplier.register" input.commandId).isSome then
    .ok []
  else do
    demand (!((reads 1).rows .suppliers).any fun s =>
        s.tenantId == identity.tenantId || s.userId == identity.userId)
      { code := "CONFLICT", message := "当前账号已经注册供应商。", status := 409 }
    let now := (reads 2).clock
    let supplierId := "supplier-" ++ supplierUuid
    let event ← mapDomainError (registerSupplier
      { supplierId
        kind := input.kind
        legalName := input.legalName
        displayName := input.displayName
        countryCode := input.countryCode
        taxResidenceCountryCode := input.taxResidenceCountryCode }
      (commandContext identity input.commandId eventUuid now))
    pure (registerSupplierBatch identity input event supplierId auditUuid now)

/-! ## Submission of authorization requests -/

/-- The row a submission inserts; unlisted columns take their defaults. -/
def CreateAuthorizationRequest.row (input : CreateAuthorizationRequest)
    (identity : RequestIdentity) (requestId supplierId : String)
    (encrypted : EncryptedCredential) (lookup : CredentialLookupDigest) (now : Nat) :
    AuthorizationRow where
  requestId := requestId
  tenantId := identity.tenantId
  supplierId := supplierId
  providerId := input.providerId
  sourceType := input.sourceType
  meteringMode := input.meteringMode
  evidenceRef := input.evidenceRef
  modelPattern := input.modelPattern
  regionCode := input.regionCode
  dataClasses := input.dataClasses
  limits := input.limits
  validUntil := input.validUntil
  gatewayEndpoint := input.gatewayEndpoint
  encryptedGatewayToken := encrypted.ciphertext
  gatewayTokenIv := encrypted.iv
  credentialKeyId := encrypted.keyId
  gatewayTokenDigest := some lookup.digest
  gatewayTokenDigestVersion := lookup.version
  gatewayTokenLookupKeyId := lookup.keyId
  encryptionKeyVersion := encrypted.keyVersion
  authorizationRevision := 1
  status := .pending
  reviewNote := none
  reviewedBy := none
  reviewCommandId := none
  reviewedAt := none
  credentialRotatedAt := none
  revokedAt := none
  revocationReasonCode := none
  createdAt := now
  updatedAt := now

/-- The columns of a row that its submission fixed. -/
structure CreateAuthorizationRequest.Describes (input : CreateAuthorizationRequest)
    (row : AuthorizationRow) : Prop where
  providerId : row.providerId = input.providerId
  sourceType : row.sourceType = input.sourceType
  meteringMode : row.meteringMode = input.meteringMode
  evidenceRef : row.evidenceRef = input.evidenceRef
  modelPattern : row.modelPattern = input.modelPattern
  regionCode : row.regionCode = input.regionCode
  dataClasses : row.dataClasses = input.dataClasses
  limits : row.limits = input.limits
  validUntil : row.validUntil = input.validUntil

/-- The statements of a submission. -/
def submitAuthorizationBatch (identity : RequestIdentity) (commandId auditUuid : String)
    (row : AuthorizationRow) (now : Nat) : Batch :=
  [insertAuthorizationRequestSql row,
    auditInsert (auditRow identity auditUuid "authorization.submitted" "authorization-request"
      row.requestId now),
    idempotencyInsert identity.tenantId "authorization.submit" commandId row.requestId now]

/-- The key rings of a deployment. -/
structure Keyrings where
  credential : ResolvedKeyring
  credentialLookup : ResolvedKeyring

def submitAuthorizationRequest (reads : Reads) (keyrings : Keyrings) (identity : RequestIdentity)
    (input : CreateAuthorizationRequest) (requestUuid iv auditUuid : String) : Request Batch :=
  if (readIdempotency (reads 0) identity.tenantId "authorization.submit"
      input.commandId).isSome then
    .ok []
  else do
    validateAuthorizationInput input (reads 1).clock
    let requestId := "authorization-request-" ++ requestUuid
    let encrypted := encryptCredential keyrings.credential iv input.gatewayBearerToken
      { tenantId := identity.tenantId, authorizationRequestId := requestId }
    let lookup := createCredentialLookupDigest keyrings.credentialLookup input.gatewayBearerToken
    let supplier ← requireSupplierRow (reads 2) identity
    demand (supplier.status != .suspended && supplier.status != .rejected)
      { code := "SUPPLIER_NOT_ACTIVE", message := "当前供应商状态不允许提交授权。", status := 409 }
    let now := (reads 3).clock
    pure (submitAuthorizationBatch identity input.commandId auditUuid
      (input.row identity requestId supplier.supplierId encrypted lookup now) now)

/-! ## Review -/

/-- {lit}`ReviewAuthorizationRequest`; the note is already normalized. -/
structure ReviewAuthorizationRequest where
  commandId : String
  decision : ReviewDecision
  reviewNote : Option String

/-- {lit}`${requestId}:${decision}`. -/
def reviewBinding (requestId : String) (decision : ReviewDecision) : String :=
  requestId ++ ":" ++ decision.text

/-- The command a review sends. -/
def reviewCommand (identity : RequestIdentity) (requestId commandId operationUuid : String)
    (decision : ReviewDecision) (now : Nat) : ReviewCommand where
  reviewerTenantId := identity.tenantId
  actorId := identity.actorId
  requestId := requestId
  commandId := commandId
  resourceBinding := reviewBinding requestId decision
  operationToken := "review-op-" ++ operationUuid
  now := now

/-- The request under review, from a tenant other than the reviewer's. -/
def reviewedRequest (db : MarketplaceDb) (identity : RequestIdentity) (requestId : String) :
    Request AuthorizationRow := do
  let request ← found ((db.rows .authorizationRequests).find? fun r => r.requestId == requestId)
    { code := "NOT_FOUND", message := "授权申请不存在。", status := 404 }
  demand (request.tenantId != identity.tenantId)
    { code := "REVIEWER_CONFLICT", message := "审核员不能审核自己租户提交的供应授权。", status := 403 }
  pure request

/-- The statements of a rejection. -/
def rejectionBatch (c : ReviewCommand) (note auditUuid : String) : Batch :=
  [claimAuthorizationReviewTargetSql c,
    bindAuthorizationReviewCommandSql c,
    rejectAuthorizationRequestSql c note,
    guardedReviewAuditInsert c .reject ("audit-" ++ auditUuid)]

/-- Only administrators review. -/
def requireAdmin (identity : RequestIdentity) : Request Unit :=
  demand identity.isAdmin
    { code := "ADMIN_REQUIRED", message := "此操作需要平台审核员权限。", status := 403 }

/-- The error of a request that is no longer pending. -/
def alreadyReviewed : ApiError where
  code := "CONFLICT"
  message := "授权申请已经完成审核。"
  status := 409

/-- {lit}`reviewAuthorization` with the decision {lit}`reject`. -/
def rejectAuthorization (reads : Reads) (identity : RequestIdentity)
    (requestId commandId : String) (reviewNote : Option String)
    (operationUuid auditUuid : String) : Request Batch := do
  requireAdmin identity
  let request ← reviewedRequest (reads 0) identity requestId
  if (readIdempotency (reads 1) identity.tenantId "authorization.review" commandId).isSome then
    pure []
  else do
    demand (request.status == .pending) alreadyReviewed
    pure (rejectionBatch
      (reviewCommand identity requestId commandId operationUuid .reject (reads 2).clock)
      (reviewNote.getD "未通过生产授权审核") auditUuid)

/-- The context of the n-th event of an approval. -/
def approvalContext (identity : RequestIdentity) (request : AuthorizationRow)
    (commandId part : String) (eventUuids : List String) (index now : Nat) :
    MarketplaceCommandContext :=
  commandContextForTenant request.tenantId identity.actorId
    (commandId ++ "-" ++ part ++ "-" ++ toString index) (eventUuids.getD (index - 1) "") now

/-- {lit}`rehydrateSupplier(...)!` after an event was appended. -/
def rehydrated (history : List SupplierEvent) : Request SupplierState := do
  let state ← uncaught (rehydrateSupplier history)
  found state internalError

/-- The loop variables of {lit}`buildApprovalEvents`. -/
structure ApprovalProgress where
  history : List SupplierEvent
  events : List SupplierEvent
  state : SupplierState

/-- Append an event and rehydrate. -/
def ApprovalProgress.record (progress : ApprovalProgress) (event : SupplierEvent) :
    Request ApprovalProgress := do
  let state ← rehydrated (progress.history ++ [event])
  pure
    { history := progress.history ++ [event]
      events := progress.events ++ [event]
      state }

/-- One iteration of the verification loop of {lit}`buildApprovalEvents`. -/
def recordMissingVerification (identity : RequestIdentity) (request : AuthorizationRow)
    (commandId : String) (eventUuids : List String) (now : Nat) (progress : ApprovalProgress)
    (kind : SupplierVerificationKind) : Request ApprovalProgress :=
  if progress.state.verifications.any fun verification =>
      verification.kind == kind && verification.status == .verified then
    .ok progress
  else do
    let event ← mapDomainError (recordSupplierVerification progress.state
      { verificationId := "verification-" ++ request.requestId ++ "-" ++ kind.text
        kind
        status := .verified
        evidenceRef := request.evidenceRef ++ "-" ++ kind.text
        completedAt := TimestampText.ofInstant now
        expiresAt := some request.validUntil }
      (approvalContext identity request commandId "verification" eventUuids
        (progress.events.length + 1) now))
    progress.record event

/-- The verification loop. -/
def recordMissingVerifications (identity : RequestIdentity) (request : AuthorizationRow)
    (commandId : String) (eventUuids : List String) (now : Nat) :
    ApprovalProgress → List SupplierVerificationKind → Request ApprovalProgress
  | progress, [] => .ok progress
  | progress, kind :: kinds => do
      let next ← recordMissingVerification identity request commandId eventUuids now progress kind
      recordMissingVerifications identity request commandId eventUuids now next kinds

/-- The provider authorization an approval records. -/
def AuthorizationRow.toProviderAuthorization (request : AuthorizationRow) (now : Nat) :
    ProviderAuthorization where
  authorizationId := "authorization-" ++ request.requestId
  providerId := request.providerId
  sourceType := request.sourceType
  authorizedUse := .inferenceResale
  meteringMode := request.meteringMode
  evidenceRef := request.evidenceRef
  modelPatterns := [request.modelPattern]
  regionCodes := [request.regionCode]
  allowedDataClasses := request.dataClasses
  capacityCeiling := request.limits
  validFrom := TimestampText.ofInstant now
  validUntil := request.validUntil
  status := .active

/-- The activation event, for a supplier that is still pending. -/
def activatePending (identity : RequestIdentity) (request : AuthorizationRow)
    (commandId : String) (eventUuids : List String) (now : Nat) (progress : ApprovalProgress) :
    Request (List SupplierEvent) :=
  if progress.state.status = .pendingVerification then do
    let event ← mapDomainError (activateSupplier progress.state
      (approvalContext identity request commandId "activation" eventUuids
        (progress.events.length + 1) now))
    pure (progress.events ++ [event])
  else .ok progress.events

/-- {lit}`buildApprovalEvents`. -/
def buildApprovalEvents (db : MarketplaceDb) (identity : RequestIdentity)
    (request : AuthorizationRow) (commandId : String) (eventUuids : List String) (now : Nat) :
    Request (List SupplierEvent) := do
  let history := readSupplierEvents db request.tenantId request.supplierId
  let state? ← uncaught (rehydrateSupplier history)
  let state ← found state?
    { code := "SUPPLIER_REQUIRED", message := "授权申请对应的供应商不存在。", status := 409 }
  let verified ← recordMissingVerifications identity request commandId eventUuids now
    { history, events := [], state } (requiredVerificationKinds state.kind)
  let event ← mapDomainError (recordProviderAuthorization verified.state
    (request.toProviderAuthorization now)
    (approvalContext identity request commandId "authorization" eventUuids
      (verified.events.length + 1) now))
  let authorized ← verified.record event
  activatePending identity request commandId eventUuids now authorized

/-- The statements of an approval. -/
def approvalBatch (c : ReviewCommand) (note supplierId supplierTenantId : String)
    (lookup : TokenLookup) (events : List SupplierEvent) (expectedSupplierVersion version : Nat)
    (auditUuid : String) : Batch :=
  [claimAuthorizationReviewTargetWithLookupLimitSql c lookup.legacyCredentialDigest
      lookup.credentialLookups,
    bindAuthorizationReviewCommandSql c,
    approveAuthorizationRequestSql c note supplierId supplierTenantId expectedSupplierVersion,
    activateReviewedSupplierSql c supplierId supplierTenantId expectedSupplierVersion version] ++
  events.map (fun event => guardedReviewEventInsert c event version) ++
  [guardedReviewAuditInsert c .approve ("audit-" ++ auditUuid)]

/-- The state an approval leads to, which must be active. -/
def approvedState (history events : List SupplierEvent) : Request SupplierState := do
  let state? ← uncaught (rehydrateSupplier (history ++ events))
  let error : ApiError :=
    { code := "INTERNAL_ERROR", message := "供应商激活状态生成失败。", status := 500 }
  let state ← found state? error
  demand (state.status == .active) error
  pure state

/-- {lit}`reviewAuthorization` with the decision {lit}`approve`. -/
def approveAuthorization (reads : Reads) (keyrings : Keyrings) (identity : RequestIdentity)
    (requestId commandId : String) (reviewNote : Option String)
    (operationUuid auditUuid : String) (eventUuids : List String) : Request Batch := do
  requireAdmin identity
  let request ← reviewedRequest (reads 0) identity requestId
  if (readIdempotency (reads 1) identity.tenantId "authorization.review" commandId).isSome then
    pure []
  else do
    demand (request.status == .pending) alreadyReviewed
    let now := (reads 2).clock
    let gatewayToken ← found (decryptCredential keyrings.credential request.credential
        { tenantId := request.tenantId, authorizationRequestId := request.requestId })
      internalError
    let lookup := TokenLookup.ofToken keyrings.credentialLookup gatewayToken
    demand (decide (countApprovedAgentAuthorizations (reads 3) now lookup.legacyCredentialDigest
        lookup.credentialLookups < maxAgentAuthorizationsPerToken))
      { code := "CONFLICT"
        message := "该 Agent 凭据绑定的有效授权数量已达到安全上限。"
        status := 409 }
    let events ← buildApprovalEvents (reads 4) identity request commandId eventUuids now
    let resultingState ← approvedState
      (readSupplierEvents (reads 5) request.tenantId request.supplierId) events
    pure (approvalBatch
      (reviewCommand identity requestId commandId operationUuid .approve now)
      (reviewNote.getD "生产授权与节点健康证明审核通过") request.supplierId request.tenantId
      lookup events (resultingState.version - events.length) resultingState.version auditUuid)

end Server
end TokenStreaming
