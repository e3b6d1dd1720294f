import TokenStreaming.Server.SupplierService

/-!
# Control plane - Authorization lifecycle requests

The lifecycle side of {lit}`marketplace-service.ts`: withdrawal and revocation,
credential rotation, offer publication and the supply switch.

Main definitions:

- {lit}`withdrawAuthorization`, {lit}`revokeAuthorization`: the two branches of the
  source's {lit}`revokeAuthorization`.
- {lit}`rotateAuthorizationCredential`: the replacement of a gateway token.
- {lit}`createCapacityOffer`, {lit}`setSupplyState`.
-/

namespace TokenStreaming
namespace Server

open Relational Domain

/-! ## Withdrawal and revocation -/

/-- The row a lifecycle request names, owned by the supplier. -/
def ownedRequest (db : MarketplaceDb) (identity : RequestIdentity) (supplierId requestId : String) :
    Request AuthorizationRow :=
  found ((db.rows .authorizationRequests).find? fun r =>
      r.requestId == requestId && r.tenantId == identity.tenantId && r.supplierId == supplierId)
    { code := "NOT_FOUND", message := "授权不存在。", status := 404 }

/-- The command a lifecycle request sends. -/
def lifecycleCommand (identity : RequestIdentity) (supplier : SupplierRow)
    (request : AuthorizationRow) (operation commandId binding operationToken : String)
    (now : Nat) : LifecycleCommand where
  tenantId := identity.tenantId
  actorId := identity.actorId
  supplierId := supplier.supplierId
  requestId := request.requestId
  authorizationRevision := request.authorizationRevision
  operation := operation
  commandId := commandId
  binding := binding
  operationToken := operationToken
  now := now

/-- The command was already bound by a withdrawal or a revocation. -/
def terminationReplay (reads : Reads) (identity : RequestIdentity) (commandId : String) :
    Option String :=
  (readIdempotency (reads 2) identity.tenantId "authorization.withdraw" commandId).or
    (readIdempotency (reads 3) identity.tenantId "authorization.revoke" commandId)

/-- The error of a lifecycle command bound to another payload. -/
def lifecycleBoundElsewhere : ApiError where
  code := "AUTHORIZATION_STATE_CONFLICT"
  message := "该命令已绑定到其他授权生命周期操作。"
  status := 409

/-- The statements of {lit}`withdrawPendingAuthorization`. -/
def withdrawalBatch (c : LifecycleCommand) (request : AuthorizationRow) (supplierVersion : Nat)
    (reasonCode : String) : Batch :=
  [claimAuthorizationLifecycleTargetSql c request.status supplierVersion,
    bindAuthorizationLifecycleCommandSql c,
    withdrawPendingAuthorizationSql c reasonCode,
    guardedAuthorizationLifecycleAuditInsert c "authorization.withdrawn" .withdrawn none]

/-- The statements of {lit}`revokeApprovedAuthorization`. -/
def revocationBatch (c : LifecycleCommand) (request : AuthorizationRow) (supplierVersion : Nat)
    (reasonCode : String) (event : SupplierEvent) : Batch :=
  [claimAuthorizationLifecycleTargetSql c request.status supplierVersion,
    bindAuthorizationLifecycleCommandSql c,
    revokeActiveAuthorizationSql c reasonCode supplierVersion,
    updateSupplierAfterAuthorizationRevocationSql c supplierVersion event.aggregateVersion,
    guardedAuthorizationLifecycleEventInsert c event event.aggregateVersion,
    failReservedInferenceForRevokedAuthorizationSql c,
    failQueuedArtifactsForRevokedAuthorizationSql c,
    cancelLeasedArtifactsForRevokedAuthorizationSql c,
    deleteAgentHeartbeatAfterAuthorizationRevocationSql c,
    guardedAuthorizationLifecycleAuditInsert c "authorization.revoked" .revoked
      (some event.eventId)]

/-- {lit}`withdrawPendingAuthorization`. -/
def withdrawPendingAuthorization (identity : RequestIdentity) (supplier : SupplierRow)
    (request : AuthorizationRow) (commandId reasonCode binding operationUuid : String)
    (now : Nat) : Batch :=
  withdrawalBatch
    (lifecycleCommand identity supplier request "authorization.withdraw" commandId binding
      ("authorization-withdraw-op-" ++ operationUuid) now)
    request supplier.version reasonCode

/-- The error of a supplier whose log and row were read at different versions. -/
def supplierMoved : ApiError where
  code := "AUTHORIZATION_STATE_CONFLICT"
  message := "供应商聚合状态已变化，请重试。"
  status := 409
  retryable := true

/-- {lit}`revokeApprovedAuthorization`. -/
def revokeApprovedAuthorization (db : MarketplaceDb) (identity : RequestIdentity)
    (supplier : SupplierRow) (request : AuthorizationRow)
    (commandId reasonCode binding operationUuid eventUuid : String) (now : Nat) :
    Request Batch := do
  let state? ← uncaught
    (rehydrateSupplier (readSupplierEvents db identity.tenantId supplier.supplierId))
  let state ← found state? supplierMoved
  demand (state.version == supplier.version) supplierMoved
  let event ← mapDomainError (revokeProviderAuthorization state
    ("authorization-" ++ request.requestId) reasonCode
    (commandContext identity commandId eventUuid now))
  pure (revocationBatch
    (lifecycleCommand identity supplier request "authorization.revoke" commandId binding
      ("authorization-revoke-op-" ++ operationUuid) now)
    request supplier.version reasonCode event)

/-- {lit}`revokeAuthorization`: pending requests are withdrawn, approved ones revoked. -/
def revokeAuthorization (reads : Reads) (identity : RequestIdentity)
    (requestId commandId reasonCode operationUuid eventUuid : String) : Request Batch := do
  let supplier ← requireSupplierRow (reads 0) identity
  let request ← ownedRequest (reads 1) identity supplier.supplierId requestId
  let binding := requestId ++ ":" ++ reasonCode
  match terminationReplay reads identity commandId with
  | some replay => do
      demand (replay == binding) lifecycleBoundElsewhere
      pure []
  | none =>
      let now := (reads 4).clock
      if request.status = .pending then
        pure (withdrawPendingAuthorization identity supplier request commandId reasonCode binding
          operationUuid now)
      else do
        demand (request.status == .approved && request.isValidAfter now)
          { code := "AUTHORIZATION_STATE_CONFLICT"
            message := "只有当前有效的已批准授权可以撤销。"
            status := 409 }
        revokeApprovedAuthorization (reads 5) identity supplier request commandId reasonCode
          binding operationUuid eventUuid now

/-! ## Credential rotation -/

/-- {lit}`authorizationCredentialRotationCommandBinding`. -/
def authorizationCredentialRotationCommandBinding (requestId reasonCode : String)
    (legacyCredentialDigest : Digest) : String :=
  requestId ++ ":" ++ reasonCode ++ ":" ++ legacyCredentialDigest.hex

/-- The statements of a rotation. -/
def rotationBatch (c : LifecycleCommand) (generation encrypted : EncryptedCredential)
    (supplierVersion : Nat) (activeLookup : CredentialLookupDigest) (lookup : TokenLookup) :
    Batch :=
  [claimAuthorizationCredentialRotationTargetSql c generation supplierVersion lookup,
    bindAuthorizationLifecycleCommandSql c,
    rotateAuthorizationCredentialSql c generation encrypted activeLookup lookup,
    failReservedInferenceAfterCredentialRotationSql c activeLookup.digest,
    deleteAgentHeartbeatAfterCredentialRotationSql c activeLookup.digest,
    guardedAuthorizationLifecycleAuditInsert c "authorization.credential-rotated" .approved none]

def rotateAuthorizationCredential (reads : Reads) (keyrings : Keyrings)
    (identity : RequestIdentity) (requestId commandId reasonCode gatewayBearerToken
      operationUuid iv : String) : Request Batch := do
  let supplier ← requireSupplierRow (reads 0) identity
  let request ← ownedRequest (reads 1) identity supplier.supplierId requestId
  let lookup := TokenLookup.ofToken keyrings.credentialLookup gatewayBearerToken
  let activeLookup := createCredentialLookupDigest keyrings.credentialLookup gatewayBearerToken
  let binding := authorizationCredentialRotationCommandBinding requestId reasonCode
    lookup.legacyCredentialDigest
  match readIdempotency (reads 2) identity.tenantId "authorization.rotate-credential"
      commandId with
  | some replay => do
      demand (replay == binding)
        { code := "GATEWAY_CREDENTIAL_CONFLICT"
          message := "该换发命令已绑定到其他授权或凭据。"
          status := 409 }
      pure []
  | none => do
      let now := (reads 3).clock
      demand (request.status == .approved && request.isValidAfter now &&
          request.encryptedGatewayToken != .cleared)
        { code := "AUTHORIZATION_STATE_CONFLICT"
          message := "只有当前有效的已批准授权可以换发凭据。"
          status := 409 }
      let context : CredentialEncryptionContext :=
        { tenantId := request.tenantId, authorizationRequestId := request.requestId }
      let currentToken ← found
        (decryptCredential keyrings.credential request.credential context) internalError
      demand (currentToken != gatewayBearerToken)
        { code := "GATEWAY_CREDENTIAL_CONFLICT"
          message := "新 Gateway token 必须不同于当前 token。"
          status := 409 }
      let encrypted := encryptCredential keyrings.credential iv gatewayBearerToken context
      pure (rotationBatch
        (lifecycleCommand identity supplier request "authorization.rotate-credential" commandId
          binding ("authorization-rotate-op-" ++ operationUuid) now)
        request.credential encrypted supplier.version activeLookup lookup)

/-! ## Offer publication -/

/-- {lit}`CreateCapacityOfferRequest`, with the model trimmed and the price a number. -/
structure CreateCapacityOfferRequest where
  commandId : String
  authorizationRequestId : String
  model : String
  dataClasses : List MarketplaceDataClass
  limits : CapacityLimits
  priceMicrosPerMillionTokens : Nat
  validUntil : TimestampText

/-- The classes in the order of their names. -/
def sortedDataClasses (dataClasses : List MarketplaceDataClass) : List MarketplaceDataClass :=
  dataClasses.insertionSort fun a b => a.text ≤ b.text

/-- {lit}`capacityOfferCommandBinding`. -/
def capacityOfferCommandBinding (input : CreateCapacityOfferRequest) (validUntil : Nat) : String :=
  "offer.create:v1:" ++ jsonArray
    [jsonString input.authorizationRequestId, jsonString input.model,
      jsonArray ((sortedDataClasses input.dataClasses).map fun c => jsonString c.text),
      toString input.limits.requestsPerMinute, toString input.limits.tokensPerMinute,
      toString input.limits.concurrency, toString input.limits.maxOutputTokens,
      jsonString (toString input.priceMicrosPerMillionTokens),
      jsonString (IsoInstant.toISOString validUntil)]

/-- {lit}`normalizeUtcTimestamp` for instants since the epoch. -/
def normalizeUtcTimestamp (value : TimestampText) : Request Nat :=
  match value.text.toList.getLast? == some 'Z', value.instant with
  | true, some (.ofNat timestamp) => .ok timestamp
  | _, _ => .error
      { code := "INVALID_REQUEST", message := "validUntil 必须是有效的 UTC 时间。", status := 400 }

/-- The row a publication inserts. -/
def CreateCapacityOfferRequest.row (input : CreateCapacityOfferRequest)
    (authorization : AuthorizationRow) (offerId tenantId supplierId : String)
    (validUntil now : Nat) : OfferRow where
  offerId := offerId
  tenantId := tenantId
  supplierId := supplierId
  authorizationRequestId := authorization.requestId
  providerId := authorization.providerId
  sourceType := authorization.sourceType
  model := input.model
  regionCode := authorization.regionCode
  dataClasses := sortedDataClasses input.dataClasses
  requestsPerMinute := input.limits.requestsPerMinute
  tokensPerMinute := input.limits.tokensPerMinute
  concurrency := input.limits.concurrency
  maxOutputTokens := input.limits.maxOutputTokens
  priceMicrosPerMillionTokens := input.priceMicrosPerMillionTokens
  status := .active
  validFrom := now
  validUntil := validUntil
  version := 1
  createdAt := now
  updatedAt := now

/-- The offer the domain command publishes. -/
def CreateCapacityOfferRequest.offer (input : CreateCapacityOfferRequest)
    (authorization : AuthorizationRow) (offerId : String) (validUntil now : Nat) :
    CapacityOfferInput where
  offerId := offerId
  authorizationId := "authorization-" ++ authorization.requestId
  providerId := authorization.providerId
  model := input.model
  serviceTier := none
  regionCode := authorization.regionCode
  dataClasses := sortedDataClasses input.dataClasses
  limits := input.limits
  currency := "CNY"
  rates :=
    [{ unit := "million_tokens", amountMicros := toString input.priceMicrosPerMillionTokens }]
  validFrom := TimestampText.ofInstant now
  validUntil := TimestampText.ofInstant validUntil

/-- The stored form of a publication event. -/
def EventRow.ofPublication (event : CapacityOfferPublishedEvent) : EventRow where
  eventId := event.eventId
  tenantId := event.tenantId
  actorId := event.actorId
  causationId := event.causationId
  aggregateType := "capacity-offer"
  aggregateId := event.aggregateId
  aggregateVersion := event.aggregateVersion
  schemaVersion := event.schemaVersion
  payload := .capacityOfferPublished event.offer event.supplierId event.sourceType
  occurredAt := event.occurredAt

/-- The statements of a publication. -/
def publicationBatch (offer : OfferRow) (event : CapacityOfferPublishedEvent)
    (audit : AuditEventRow) (commandId binding : String)
    (authorizationRevision supplierVersion now : Nat) : Batch :=
  [createCapacityOfferWithAuthorizationCasSql offer commandId authorizationRevision
      supplierVersion,
    guardedCapacityOfferEventInsert (EventRow.ofPublication event) offer.offerId offer.tenantId,
    guardedCapacityOfferAuditInsert audit offer.offerId offer.tenantId,
    bindCapacityOfferCommandSql offer commandId binding now]

def createCapacityOffer (reads : Reads) (identity : RequestIdentity)
    (input : CreateCapacityOfferRequest) (offerUuid eventUuid auditUuid : String) :
    Request Batch := do
  let validUntil ← normalizeUtcTimestamp input.validUntil
  let binding := capacityOfferCommandBinding input validUntil
  match readIdempotency (reads 0) identity.tenantId "offer.create" input.commandId with
  | some prior => do
      demand (prior == binding)
        { code := "CONFLICT", message := "该报价命令已绑定到其他规范化请求。", status := 409 }
      pure []
  | none => do
      demand (isAuthorizationValidityAllowed (TimestampText.ofInstant validUntil)
          (reads 1).clock)
        { code := "INVALID_REQUEST"
          message := "validUntil 必须晚于当前时间一分钟且不超过 90 天。"
          status := 400 }
      let supplier ← requireSupplierRow (reads 2) identity
      let authorization ← found (((reads 3).rows .authorizationRequests).find? fun r =>
          r.requestId == input.authorizationRequestId && r.tenantId == identity.tenantId &&
            r.supplierId == supplier.supplierId && r.status == .approved)
        { code := "AUTHORIZATION_REQUIRED", message := "需要已审核通过的授权。", status := 409 }
      let state? ← uncaught (rehydrateSupplier
        (readSupplierEvents (reads 4) identity.tenantId supplier.supplierId))
      let state ← found state?
        { code := "SUPPLIER_REQUIRED", message := "供应商状态不存在。", status := 409 }
      let now := (reads 5).clock
      let offerId := "offer-" ++ offerUuid
      let event ← mapDomainError (publishCapacityOffer state
        (input.offer authorization offerId validUntil now)
        (commandContext identity input.commandId eventUuid now))
      pure (publicationBatch
        (input.row authorization offerId identity.tenantId supplier.supplierId validUntil now)
        event (auditRow identity auditUuid "offer.published" "capacity-offer" offerId now)
        input.commandId binding authorization.authorizationRevision supplier.version now)

/-! ## The supply switch -/

/-- The statements of a switch. -/
def supplyBatch (identity : RequestIdentity) (supplierId commandId auditUuid : String)
    (enabled : Bool) (now : Nat) : Batch :=
  [setSupplySql supplierId identity.tenantId enabled now,
    guardedSupplyAuditInsert
      (auditRow identity auditUuid (if enabled then "supply.enabled" else "supply.disabled")
        "supplier" supplierId now) supplierId enabled,
    guardedSupplyIdempotencyInsert identity.tenantId commandId supplierId enabled now]

def setSupplyState (reads : Reads) (identity : RequestIdentity) (commandId : String)
    (enabled : Bool) (auditUuid : String) : Request Batch :=
  if (readIdempotency (reads 0) identity.tenantId "supply.set" commandId).isSome then .ok []
  else do
    let supplier ← requireSupplierRow (reads 1) identity
    demand (!(enabled && supplier.status != .active))
      { code := "SUPPLIER_NOT_ACTIVE", message := "审核通过后才能开启供应。", status := 409 }
    pure (supplyBatch identity supplier.supplierId commandId auditUuid enabled (reads 2).clock)

end Server
end TokenStreaming
