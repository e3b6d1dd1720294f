import TokenStreaming.Server.ReviewInvariants

/-!
# Control plane - Authorization lifecycle gates

The write gates of {lit}`authorization-lifecycle-invariants.ts` and
{lit}`credential-rotation-invariants.ts`: withdrawal, revocation and credential
rotation, what they do to work that depends on the authorization, and the
compare-and-set publication of capacity offers.

Main definitions:

- {lit}`claimAuthorizationLifecycleTargetSql`: one claim per request and revision.
- {lit}`withdrawPendingAuthorizationSql`, {lit}`revokeActiveAuthorizationSql`,
  {lit}`rotateAuthorizationCredentialSql`: the transitions.
- {lit}`failReservedInferenceAfterCredentialRotationSql` and its siblings: the
  work that falls with the authorization.
-/

namespace TokenStreaming
namespace Server

open Relational Domain

/-! ## Claiming and binding a lifecycle command -/

/-- The parameters every statement of a lifecycle batch shares. -/
structure LifecycleCommand where
  tenantId : String
  actorId : String
  supplierId : String
  requestId : String
  authorizationRevision : Nat
  operation : String
  commandId : String
  binding : String
  operationToken : String
  now : Nat

/-- {lit}`${requestId}:${authorizationRevision}`. -/
def LifecycleCommand.targetKey (c : LifecycleCommand) : String :=
  c.requestId ++ ":" ++ toString c.authorizationRevision

/-- {lit}`nextRevision`. -/
def LifecycleCommand.nextRevision (c : LifecycleCommand) : Nat :=
  c.authorizationRevision + 1

/-- The row a lifecycle command claims its target with. -/
def LifecycleCommand.claimRow (c : LifecycleCommand) : IdempotencyRow where
  tenantId := "platform"
  operation := "authorization.lifecycle-target"
  idempotencyKey := c.targetKey
  resourceId := c.operationToken
  createdAt := c.now

/-- The claim row of this very operation is stored. -/
def LifecycleCommand.holdsClaim (c : LifecycleCommand) (db : MarketplaceDb) : Bool :=
  hasBinding db "platform" "authorization.lifecycle-target" c.targetKey c.operationToken

/-- The command is bound to this operation. -/
def LifecycleCommand.holdsCommand (c : LifecycleCommand) (db : MarketplaceDb) : Bool :=
  hasBinding db c.tenantId c.operation c.commandId c.binding

/-- The command is bound to another operation's payload. -/
def LifecycleCommand.boundElsewhere (c : LifecycleCommand) (db : MarketplaceDb) : Bool :=
  Server.boundElsewhere db c.tenantId c.operation c.commandId c.binding

/-- The request is the command's own, by id, tenant and supplier. -/
def LifecycleCommand.owns (c : LifecycleCommand) (r : AuthorizationRow) : Bool :=
  r.requestId == c.requestId && r.tenantId == c.tenantId && r.supplierId == c.supplierId

/-- The supplier of the request stands at the version. -/
def supplierStandsAt (db : MarketplaceDb) (r : AuthorizationRow) (version : Nat) : Bool :=
  (db.rows .suppliers).any fun s =>
    s.supplierId == r.supplierId && s.tenantId == r.tenantId && s.version == version

/-- {lit}`CLAIM_AUTHORIZATION_LIFECYCLE_TARGET_SQL`. -/
def claimAuthorizationLifecycleTargetSql (c : LifecycleCommand) (status : AuthorizationStatus)
    (supplierVersion : Nat) : MarketplaceStatement :=
  .insertOrIgnore .idempotencyKeys fun db =>
    if (db.rows .authorizationRequests).any (fun r =>
          c.owns r && r.status == status && r.authorizationRevision == c.authorizationRevision &&
            supplierStandsAt db r supplierVersion) &&
        !c.boundElsewhere db then
      [c.claimRow]
    else []

/-- {lit}`BIND_AUTHORIZATION_LIFECYCLE_COMMAND_SQL`. -/
def bindAuthorizationLifecycleCommandSql (c : LifecycleCommand) : MarketplaceStatement :=
  .insertOrIgnore .idempotencyKeys fun db =>
    if c.holdsClaim db then
      [{ tenantId := c.tenantId
         operation := c.operation
         idempotencyKey := c.commandId
         resourceId := c.binding
         createdAt := c.now }]
    else []

/-! ## Credential rotation -/

/-- The credential generation of a request. -/
def AuthorizationRow.credential (r : AuthorizationRow) : EncryptedCredential where
  ciphertext := r.encryptedGatewayToken
  iv := r.gatewayTokenIv
  keyVersion := r.encryptionKeyVersion
  keyId := r.credentialKeyId

/-- The lookup digests of a token: the legacy one and one per readable key. -/
structure TokenLookup where
  legacyCredentialDigest : Digest
  credentialLookups : List CredentialLookupDigest

/-- What a request computes from a presented token. -/
def TokenLookup.ofToken (keyring : ResolvedKeyring) (token : String) : TokenLookup where
  legacyCredentialDigest := sha256Hex token
  credentialLookups := createCredentialLookupDigests keyring token

/-- Another approved and unexpired request carries the token. -/
def LifecycleCommand.sharesToken (c : LifecycleCommand) (lookup : TokenLookup)
    (other : AuthorizationRow) : Bool :=
  other.requestId != c.requestId && other.status == .approved && other.isValidAfter c.now &&
    other.matchesLookup lookup.legacyCredentialDigest lookup.credentialLookups

/-- The uniqueness and capacity predicates of a rotation. -/
def LifecycleCommand.tokenIsAvailable (c : LifecycleCommand) (lookup : TokenLookup)
    (db : MarketplaceDb) : Bool :=
  !(db.rows .authorizationRequests).any (fun other =>
      c.sharesToken lookup other &&
        (other.tenantId != c.tenantId || other.supplierId != c.supplierId)) &&
    decide ((db.rows .authorizationRequests).countP (c.sharesToken lookup) <
      maxAgentAuthorizationsPerToken)

/-- The exact credential generation that is rotated. -/
def LifecycleCommand.rotates (c : LifecycleCommand) (generation : EncryptedCredential)
    (r : AuthorizationRow) : Bool :=
  c.owns r && r.status == .approved && r.isValidAfter c.now &&
    r.authorizationRevision == c.authorizationRevision && r.credential == generation

/-- {lit}`claimAuthorizationCredentialRotationTargetSql`. -/
def claimAuthorizationCredentialRotationTargetSql (c : LifecycleCommand)
    (generation : EncryptedCredential) (supplierVersion : Nat) (lookup : TokenLookup) :
    MarketplaceStatement :=
  .insertOrIgnore .idempotencyKeys fun db =>
    if (db.rows .authorizationRequests).any (fun r =>
          c.rotates generation r && supplierStandsAt db r supplierVersion &&
            c.tokenIsAvailable lookup db) &&
        !c.boundElsewhere db then
      [c.claimRow]
    else []

/-- {lit}`rotateAuthorizationCredentialSql`. -/
def rotateAuthorizationCredentialSql (c : LifecycleCommand) (generation encrypted :
    EncryptedCredential) (activeLookup : CredentialLookupDigest) (lookup : TokenLookup) :
    MarketplaceStatement :=
  .update .authorizationRequests
    (fun db r =>
      c.rotates generation r && c.tokenIsAvailable lookup db && c.holdsClaim db &&
        c.holdsCommand db)
    fun _ r =>
      { r with
        encryptedGatewayToken := encrypted.ciphertext
        gatewayTokenIv := encrypted.iv
        credentialKeyId := encrypted.keyId
        gatewayTokenDigest := some activeLookup.digest
        gatewayTokenDigestVersion := activeLookup.version
        gatewayTokenLookupKeyId := activeLookup.keyId
        encryptionKeyVersion := encrypted.keyVersion
        authorizationRevision := r.authorizationRevision + 1
        credentialRotatedAt := some c.now
        updatedAt := c.now }

/-- {lit}`REWRAP_AUTHORIZATION_CREDENTIAL_SQL`. -/
def rewrapAuthorizationCredentialSql (requestId : String)
    (generation encrypted : EncryptedCredential) (now : Nat) : MarketplaceStatement :=
  .update .authorizationRequests
    (fun _ r => r.requestId == requestId && r.credential == generation)
    fun _ r =>
      { r with
        encryptedGatewayToken := encrypted.ciphertext
        gatewayTokenIv := encrypted.iv
        encryptionKeyVersion := encrypted.keyVersion
        credentialKeyId := encrypted.keyId
        updatedAt := now }

/-! ## Withdrawal and revocation -/

/-- The columns both terminations write. -/
def LifecycleCommand.terminate (c : LifecycleCommand) (status : AuthorizationStatus)
    (reasonCode : String) (r : AuthorizationRow) : AuthorizationRow :=
  { r.scrubbed with
    status := status
    authorizationRevision := r.authorizationRevision + 1
    revokedAt := some c.now
    revocationReasonCode := some reasonCode
    updatedAt := c.now }

/-- {lit}`WITHDRAW_PENDING_AUTHORIZATION_SQL`. -/
def withdrawPendingAuthorizationSql (c : LifecycleCommand) (reasonCode : String) :
    MarketplaceStatement :=
  .update .authorizationRequests
    (fun db r =>
      c.owns r && r.status == .pending && r.authorizationRevision == c.authorizationRevision &&
        c.holdsClaim db && c.holdsCommand db)
    fun _ r => c.terminate .withdrawn reasonCode r

/-- {lit}`REVOKE_ACTIVE_AUTHORIZATION_SQL`. -/
def revokeActiveAuthorizationSql (c : LifecycleCommand) (reasonCode : String)
    (supplierVersion : Nat) : MarketplaceStatement :=
  .update .authorizationRequests
    (fun db r =>
      c.owns r && r.status == .approved && r.isValidAfter c.now &&
        r.authorizationRevision == c.authorizationRevision &&
        (db.rows .suppliers).any (fun s => s.standsAt c.supplierId c.tenantId supplierVersion) &&
        c.holdsClaim db && c.holdsCommand db)
    fun _ r => c.terminate .revoked reasonCode r

/-- The request is revoked at the revision the command leads to. -/
def LifecycleCommand.revokedIn (c : LifecycleCommand) (db : MarketplaceDb) : Bool :=
  (db.rows .authorizationRequests).any fun r =>
    r.requestId == c.requestId && r.status == .revoked &&
      r.authorizationRevision == c.nextRevision

/-- {lit}`revokedIn` for the command's own tenant and supplier. -/
def LifecycleCommand.ownRevokedIn (c : LifecycleCommand) (db : MarketplaceDb) : Bool :=
  (db.rows .authorizationRequests).any fun r =>
    c.owns r && r.status == .revoked && r.authorizationRevision == c.nextRevision

/-- The request is approved at the next revision with the new lookup digest. -/
def LifecycleCommand.rotatedIn (c : LifecycleCommand) (digest : Digest) (db : MarketplaceDb) :
    Bool :=
  (db.rows .authorizationRequests).any fun r =>
    c.owns r && r.status == .approved && r.authorizationRevision == c.nextRevision &&
      r.gatewayTokenDigest == some digest

/-! ## Work that depends on the authorization -/

/-- The job was reserved on the request, by id or, for legacy rows, by its offer. -/
def InferenceJobRow.isBoundTo (job : InferenceJobRow) (db : MarketplaceDb) (requestId : String) :
    Bool :=
  job.authorizationRequestId == some requestId ||
    (job.authorizationRequestId.isNone &&
      (db.rows .capacityOffers).any fun o =>
        o.offerId == job.offerId && o.authorizationRequestId == requestId)

/-- {lit}`FAIL_RESERVED_INFERENCE_AFTER_CREDENTIAL_ROTATION_SQL`. -/
def failReservedInferenceAfterCredentialRotationSql (c : LifecycleCommand) (digest : Digest) :
    MarketplaceStatement :=
  .update .inferenceJobs
    (fun db job =>
      job.status == .reserved && job.isBoundTo db c.requestId &&
        (job.authorizationRevision == some c.authorizationRevision ||
          job.authorizationRevision.isNone) &&
        c.rotatedIn digest db)
    fun _ job =>
      { job with
        status := .failed
        reservationExpiresAt := none
        errorCode := some "GATEWAY_CREDENTIAL_ROTATED"
        completedAt := some c.now
        authorizationRequestId := some (job.authorizationRequestId.getD c.requestId)
        authorizationRevision := some (job.authorizationRevision.getD c.authorizationRevision) }

/-- {lit}`FAIL_RESERVED_INFERENCE_FOR_REVOKED_AUTHORIZATION_SQL`. -/
def failReservedInferenceForRevokedAuthorizationSql (c : LifecycleCommand) :
    MarketplaceStatement :=
  .update .inferenceJobs
    (fun db job =>
      job.status == .reserved && job.isBoundTo db c.requestId && c.revokedIn db)
    fun _ job =>
      { job with
        status := .failed
        reservationExpiresAt := none
        errorCode := some "AUTHORIZATION_REVOKED"
        completedAt := some c.now
        authorizationRequestId := some (job.authorizationRequestId.getD c.requestId) }

/-- {lit}`FAIL_QUEUED_ARTIFACTS_FOR_REVOKED_AUTHORIZATION_SQL`. -/
def failQueuedArtifactsForRevokedAuthorizationSql (c : LifecycleCommand) : MarketplaceStatement :=
  .update .artifactTasks
    (fun db task =>
      task.authorizationRequestId == c.requestId && task.status == .queued &&
        task.cancellationRequestedAt.isNone && c.revokedIn db)
    fun _ task =>
      { task with
        status := .failed
        instructionCiphertext := .cleared
        instructionIv := ""
        leaseDigest := none
        leaseExpiresAt := none
        executionDeadlineAt := none
        errorCode := some "AUTHORIZATION_REVOKED"
        completedAt := some c.now
        updatedAt := c.now }

/-- {lit}`CANCEL_LEASED_ARTIFACTS_FOR_REVOKED_AUTHORIZATION_SQL`. -/
def cancelLeasedArtifactsForRevokedAuthorizationSql (c : LifecycleCommand) :
    MarketplaceStatement :=
  .update .artifactTasks
    (fun db task =>
      task.authorizationRequestId == c.requestId && task.status.isLeased &&
        task.cancellationRequestedAt.isNone && c.revokedIn db)
    fun _ task =>
      { task with
        cancellationRequestedAt := some c.now
        instructionCiphertext := .cleared
        instructionIv := ""
        errorCode := some "AUTHORIZATION_REVOKED_PENDING"
        updatedAt := c.now }

/-- {lit}`UPDATE_SUPPLIER_AFTER_AUTHORIZATION_REVOCATION_SQL`. -/
def updateSupplierAfterAuthorizationRevocationSql (c : LifecycleCommand)
    (supplierVersion version : Nat) : MarketplaceStatement :=
  .update .suppliers
    (fun db s => s.standsAt c.supplierId c.tenantId supplierVersion && c.ownRevokedIn db)
    fun db s =>
      { s with
        version := version
        updatedAt := c.now
        supplyEnabled :=
          s.supplyEnabled && (db.rows .authorizationRequests).any fun other =>
            other.tenantId == s.tenantId && other.supplierId == s.supplierId &&
              other.status == .approved && other.isValidAfter c.now && other.hasCredential }

/-- {lit}`DELETE_AGENT_HEARTBEAT_AFTER_AUTHORIZATION_REVOCATION_SQL`. -/
def deleteAgentHeartbeatAfterAuthorizationRevocationSql (c : LifecycleCommand) :
    MarketplaceStatement :=
  .delete .supplierArtifactWorkers fun db w =>
    w.supplierTenantId == c.tenantId && c.ownRevokedIn db

/-- {lit}`DELETE_AGENT_HEARTBEAT_AFTER_CREDENTIAL_ROTATION_SQL`. -/
def deleteAgentHeartbeatAfterCredentialRotationSql (c : LifecycleCommand) (digest : Digest) :
    MarketplaceStatement :=
  .delete .supplierArtifactWorkers fun db w =>
    w.supplierTenantId == c.tenantId && c.rotatedIn digest db

/-- {lit}`guardedAuthorizationLifecycleEventInsert`. -/
def guardedAuthorizationLifecycleEventInsert (c : LifecycleCommand) (event : SupplierEvent)
    (supplierVersion : Nat) : MarketplaceStatement :=
  .insert .marketplaceEvents fun db =>
    if c.revokedIn db &&
        (db.rows .suppliers).any (fun s =>
          s.standsAt event.aggregateId event.tenantId supplierVersion) &&
        c.holdsClaim db then
      [EventRow.ofSupplierEvent event]
    else []

/-- {lit}`guardedAuthorizationLifecycleAuditInsert`. -/
def guardedAuthorizationLifecycleAuditInsert (c : LifecycleCommand) (action : String)
    (status : AuthorizationStatus) (requiredEventId : Option String) : MarketplaceStatement :=
  .insertOrIgnore .auditEvents fun db =>
    if (db.rows .authorizationRequests).any (fun r =>
          r.requestId == c.requestId && r.tenantId == c.tenantId && r.status == status &&
            r.authorizationRevision == c.nextRevision) &&
        c.holdsCommand db &&
        requiredEventId.all (fun eventId =>
          (db.rows .marketplaceEvents).any fun e =>
            e.eventId == eventId && e.tenantId == c.tenantId) then
      [{ auditId := "audit-authorization-lifecycle-" ++ c.tenantId ++ "-" ++ c.operation ++ "-" ++
           c.commandId
         tenantId := c.tenantId
         actorId := c.actorId
         action := action
         resourceType := "authorization-request"
         resourceId := c.requestId
         occurredAt := c.now }]
    else []

/-! ## Offer publication -/

/-- {lit}`CREATE_CAPACITY_OFFER_WITH_AUTHORIZATION_CAS_SQL`. -/
def createCapacityOfferWithAuthorizationCasSql (offer : OfferRow) (commandId : String)
    (authorizationRevision supplierVersion : Nat) : MarketplaceStatement :=
  .insert .capacityOffers fun db =>
    if (db.rows .authorizationRequests).any (fun ar =>
          (db.rows .suppliers).any fun s =>
            s.supplierId == ar.supplierId && s.tenantId == ar.tenantId &&
              ar.requestId == offer.authorizationRequestId && ar.tenantId == offer.tenantId &&
              ar.supplierId == offer.supplierId &&
              ar.authorizationRevision == authorizationRevision && ar.status == .approved &&
              ar.isValidAfter offer.createdAt &&
              decide (IsoInstant.toISOString offer.validUntil ≤ ar.validUntil.text) &&
              ar.hasCredential && s.version == supplierVersion && s.status == .active) &&
        !(db.rows .idempotencyKeys).any (fun k =>
          k.tenantId == offer.tenantId && k.operation == "offer.create" &&
            k.idempotencyKey == commandId) then
      [offer]
    else []

/-- The offer is stored under its tenant. -/
def hasOffer (db : MarketplaceDb) (offerId tenantId : String) : Bool :=
  (db.rows .capacityOffers).any fun o => o.offerId == offerId && o.tenantId == tenantId

/-- {lit}`guardedCapacityOfferEventInsert`. -/
def guardedCapacityOfferEventInsert (event : EventRow) (offerId tenantId : String) :
    MarketplaceStatement :=
  .insert .marketplaceEvents fun db => if hasOffer db offerId tenantId then [event] else []

/-- {lit}`BIND_CAPACITY_OFFER_COMMAND_SQL`. -/
def bindCapacityOfferCommandSql (offer : OfferRow) (commandId binding : String) (now : Nat) :
    MarketplaceStatement :=
  .insertOrIgnore .idempotencyKeys fun db =>
    if (db.rows .capacityOffers).any (fun o =>
          o.offerId == offer.offerId && o.tenantId == offer.tenantId &&
            o.supplierId == offer.supplierId) then
      [{ tenantId := offer.tenantId
         operation := "offer.create"
         idempotencyKey := commandId
         resourceId := binding
         createdAt := now }]
    else []

end Server
end TokenStreaming
