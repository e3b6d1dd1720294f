import TokenStreaming.Server.FinancialInvariants

/-!
# Control plane - Review gates

The write gates of {lit}`review-invariants.ts` and {lit}`authorization-invariants.ts`
with the guarded inserts of a review batch.  A review first claims its target
globally, then binds the reviewer's command, and every later statement of the
batch repeats the claim as a guard.

Main definitions:

- {lit}`claimAuthorizationReviewTargetSql`: the claim of a rejection.
- {lit}`claimAuthorizationReviewTargetWithLookupLimitSql`: the claim of an approval.
- {lit}`rejectAuthorizationRequestSql`, {lit}`approveAuthorizationRequestSql`,
  {lit}`activateReviewedSupplierSql`: the decision itself.
-/

namespace TokenStreaming
namespace Server

open Relational Domain

/-! ## Idempotency keys -/

/-- The row binds a resource to a scoped key. -/
def IdempotencyRow.binds (k : IdempotencyRow) (tenantId operation key resourceId : String) : Bool :=
  k.tenantId == tenantId && k.operation == operation && k.idempotencyKey == key &&
    k.resourceId == resourceId

/-- Some row binds the resource to the scoped key. -/
def hasBinding (db : MarketplaceDb) (tenantId operation key resourceId : String) : Bool :=
  (db.rows .idempotencyKeys).any fun k => k.binds tenantId operation key resourceId

/-- The scoped key is bound to another resource. -/
def boundElsewhere (db : MarketplaceDb) (tenantId operation key resourceId : String) : Bool :=
  (db.rows .idempotencyKeys).any fun k =>
    k.tenantId == tenantId && k.operation == operation && k.idempotencyKey == key &&
      k.resourceId != resourceId

/-- {lit}`idempotencyInsert`. -/
def idempotencyInsert (tenantId operation key resourceId : String) (createdAt : Nat) :
    MarketplaceStatement :=
  .insert .idempotencyKeys fun _ =>
    [{ tenantId, operation, idempotencyKey := key, resourceId, createdAt }]

/-! ## Credential lookup -/

/-- {lit}`authorizationLookupPredicate`. -/
def AuthorizationRow.matchesLookup (legacyCredentialDigest : Digest)
    (credentialLookups : List CredentialLookupDigest) (r : AuthorizationRow) : Bool :=
  (r.gatewayTokenDigestVersion == 1 && r.gatewayTokenDigest == some legacyCredentialDigest) ||
    credentialLookups.any fun lookup =>
      r.gatewayTokenDigestVersion == lookup.version &&
        r.gatewayTokenLookupKeyId == lookup.keyId &&
        r.gatewayTokenDigest == some lookup.digest

/-- {lit}`MAX_AGENT_AUTHORIZATIONS_PER_TOKEN`. -/
def maxAgentAuthorizationsPerToken : Nat := 100

/-- {lit}`countApprovedAgentAuthorizationsSql`. -/
def countApprovedAgentAuthorizations (db : MarketplaceDb) (now : Nat)
    (legacyCredentialDigest : Digest) (credentialLookups : List CredentialLookupDigest) : Nat :=
  (db.rows .authorizationRequests).countP fun existing =>
    existing.status == .approved && existing.isValidAfter now &&
      existing.matchesLookup legacyCredentialDigest credentialLookups

/-! ## Claiming and binding a review -/

/-- The parameters every statement of a review batch shares. -/
structure ReviewCommand where
  reviewerTenantId : String
  actorId : String
  requestId : String
  commandId : String
  resourceBinding : String
  operationToken : String
  now : Nat

/-- The row a review claims its target with. -/
def ReviewCommand.claimRow (c : ReviewCommand) : IdempotencyRow where
  tenantId := "platform"
  operation := "authorization.review-target"
  idempotencyKey := c.requestId
  resourceId := c.operationToken
  createdAt := c.now

/-- The request is pending, unreviewed and of another tenant than the reviewer's. -/
def ReviewCommand.targets (c : ReviewCommand) (target : AuthorizationRow) : Bool :=
  target.requestId == c.requestId && target.tenantId != c.reviewerTenantId &&
    target.status == .pending && target.reviewCommandId.isNone

/-- The reviewer's command is bound to another decision. -/
def ReviewCommand.boundElsewhere (c : ReviewCommand) (db : MarketplaceDb) : Bool :=
  Server.boundElsewhere db c.reviewerTenantId "authorization.review" c.commandId c.resourceBinding

/-- The claim row of this very operation is stored. -/
def ReviewCommand.holdsClaim (c : ReviewCommand) (db : MarketplaceDb) : Bool :=
  hasBinding db "platform" "authorization.review-target" c.requestId c.operationToken

/-- The reviewer's command is bound to this decision. -/
def ReviewCommand.holdsCommand (c : ReviewCommand) (db : MarketplaceDb) : Bool :=
  hasBinding db c.reviewerTenantId "authorization.review" c.commandId c.resourceBinding

/-- {lit}`CLAIM_AUTHORIZATION_REVIEW_TARGET_SQL`. -/
def claimAuthorizationReviewTargetSql (c : ReviewCommand) : MarketplaceStatement :=
  .insertOrIgnore .idempotencyKeys fun db =>
    if (db.rows .authorizationRequests).any c.targets && !c.boundElsewhere db then
      [c.claimRow]
    else []

/-- {lit}`claimAuthorizationReviewTargetWithLookupLimitSql`. -/
def claimAuthorizationReviewTargetWithLookupLimitSql (c : ReviewCommand)
    (legacyCredentialDigest : Digest) (credentialLookups : List CredentialLookupDigest) :
    MarketplaceStatement :=
  .insertOrIgnore .idempotencyKeys fun db =>
    if ((db.rows .authorizationRequests).any c.targets &&
          decide (countApprovedAgentAuthorizations db c.now legacyCredentialDigest
            credentialLookups < maxAgentAuthorizationsPerToken)) &&
        !c.boundElsewhere db then
      [c.claimRow]
    else []

/-- {lit}`BIND_AUTHORIZATION_REVIEW_COMMAND_SQL`. -/
def bindAuthorizationReviewCommandSql (c : ReviewCommand) : MarketplaceStatement :=
  .insertOrIgnore .idempotencyKeys fun db =>
    if c.holdsClaim db then
      [{ tenantId := c.reviewerTenantId
         operation := "authorization.review"
         idempotencyKey := c.commandId
         resourceId := c.resourceBinding
         createdAt := c.now }]
    else []

/-! ## The decision -/

/-- The review columns of a decided request. -/
def ReviewCommand.record (c : ReviewCommand) (status : AuthorizationStatus) (note : String)
    (r : AuthorizationRow) : AuthorizationRow :=
  { r with
    status := status
    reviewNote := some note
    reviewedBy := some c.actorId
    reviewCommandId := some c.commandId
    reviewedAt := some c.now
    updatedAt := c.now }

/-- Credential columns set to the empty text and NULL. -/
def AuthorizationRow.scrubbed (r : AuthorizationRow) : AuthorizationRow :=
  { r with
    encryptedGatewayToken := .cleared
    gatewayTokenIv := ""
    gatewayTokenDigest := none }

/-- The guards both decisions share. -/
def ReviewCommand.decides (c : ReviewCommand) (db : MarketplaceDb) (r : AuthorizationRow) : Bool :=
  r.requestId == c.requestId && r.status == .pending && r.reviewCommandId.isNone &&
    c.holdsClaim db && c.holdsCommand db

/-- {lit}`REJECT_AUTHORIZATION_REQUEST_SQL`. -/
def rejectAuthorizationRequestSql (c : ReviewCommand) (note : String) : MarketplaceStatement :=
  .update .authorizationRequests c.decides fun _ r => (c.record .rejected note r).scrubbed

/-- The supplier row stands at the version. -/
def SupplierRow.standsAt (s : SupplierRow) (supplierId tenantId : String) (version : Nat) : Bool :=
  s.supplierId == supplierId && s.tenantId == tenantId && s.version == version

/-- {lit}`APPROVE_AUTHORIZATION_REQUEST_SQL`. -/
def approveAuthorizationRequestSql (c : ReviewCommand) (note supplierId supplierTenantId : String)
    (expectedSupplierVersion : Nat) : MarketplaceStatement :=
  .update .authorizationRequests
    (fun db r =>
      c.decides db r &&
        (db.rows .suppliers).any fun s =>
          s.standsAt supplierId supplierTenantId expectedSupplierVersion)
    fun _ r => c.record .approved note r

/-- The request carries the outcome of this command. -/
def ReviewCommand.decided (c : ReviewCommand) (status : AuthorizationStatus)
    (r : AuthorizationRow) : Bool :=
  r.requestId == c.requestId && r.status == status && r.reviewCommandId == some c.commandId

/-- {lit}`ACTIVATE_REVIEWED_SUPPLIER_SQL`. -/
def activateReviewedSupplierSql (c : ReviewCommand) (supplierId supplierTenantId : String)
    (expectedSupplierVersion version : Nat) : MarketplaceStatement :=
  .update .suppliers
    (fun db s =>
      s.standsAt supplierId supplierTenantId expectedSupplierVersion &&
        (db.rows .authorizationRequests).any (c.decided .approved) && c.holdsClaim db)
    fun _ s => { s with status := .active, version := version, updatedAt := c.now }

/-- The stored form of a supplier event. -/
def EventRow.ofSupplierEvent (event : SupplierEvent) : EventRow where
  eventId := event.eventId
  tenantId := event.tenantId
  actorId := event.actorId
  causationId := event.causationId
  aggregateType := event.aggregateType
  aggregateId := event.aggregateId
  aggregateVersion := event.aggregateVersion
  schemaVersion := event.schemaVersion
  payload := .supplier event.payload
  occurredAt := event.occurredAt

/-- {lit}`guardedReviewEventInsert`. -/
def guardedReviewEventInsert (c : ReviewCommand) (event : SupplierEvent) (supplierVersion : Nat) :
    MarketplaceStatement :=
  .insert .marketplaceEvents fun db =>
    if (db.rows .authorizationRequests).any (c.decided .approved) &&
        (db.rows .suppliers).any (fun s =>
          s.standsAt event.aggregateId event.tenantId supplierVersion && s.status == .active) &&
        c.holdsClaim db then
      [EventRow.ofSupplierEvent event]
    else []

/-- The two outcomes of a review. -/
inductive ReviewDecision where
  | approve
  | reject
deriving DecidableEq

def ReviewDecision.text : ReviewDecision → String
  | .approve => "approve"
  | .reject => "reject"

/-- The status a decision leads to. -/
def ReviewDecision.status : ReviewDecision → AuthorizationStatus
  | .approve => .approved
  | .reject => .rejected

/-- The audit action of a decision. -/
def ReviewDecision.action : ReviewDecision → String
  | .approve => "authorization.approved"
  | .reject => "authorization.rejected"

/-- The audit row of a review. -/
def ReviewCommand.auditRow (c : ReviewCommand) (decision : ReviewDecision) (auditId : String) :
    AuditEventRow where
  auditId := auditId
  tenantId := c.reviewerTenantId
  actorId := c.actorId
  action := decision.action
  resourceType := "authorization-request"
  resourceId := c.requestId
  occurredAt := c.now

/-- {lit}`guardedReviewAuditInsert`. -/
def guardedReviewAuditInsert (c : ReviewCommand) (decision : ReviewDecision) (auditId : String) :
    MarketplaceStatement :=
  .insert .auditEvents fun db =>
    if (db.rows .authorizationRequests).any (c.decided decision.status) && c.holdsClaim db then
      [c.auditRow decision auditId]
    else []

/-! ## Expiry of unreviewed requests -/

/-- {lit}`EXPIRE_PENDING_AUTHORIZATIONS_SQL`. -/
def expirePendingAuthorizationsSql (now pendingAuthorizationCutoff : Nat) : MarketplaceStatement :=
  .update .authorizationRequests
    (fun _ r =>
      r.status == .pending &&
        (decide (r.createdAt ≤ pendingAuthorizationCutoff) || !r.isValidAfter now))
    fun _ r =>
      { r.scrubbed with
        status := .rejected
        reviewNote := some (r.reviewNote.getD "PENDING_REVIEW_EXPIRED")
        updatedAt := now }

/-- The maintenance sweep over expired credentials. -/
def scrubExpiredCredentialsSql (now : Nat) : MarketplaceStatement :=
  .update .authorizationRequests
    (fun _ r =>
      !r.isValidAfter now &&
        (r.encryptedGatewayToken != .cleared || r.gatewayTokenIv != "" ||
          r.gatewayTokenDigest.isSome))
    fun _ r => { r.scrubbed with updatedAt := now }

/-- The maintenance sweep over withdrawn and revoked credentials. -/
def scrubTerminatedCredentialsSql (now : Nat) : MarketplaceStatement :=
  .update .authorizationRequests
    (fun _ r =>
      (r.status == .withdrawn || r.status == .revoked) &&
        (r.encryptedGatewayToken != .cleared || r.gatewayTokenIv != "" ||
          r.gatewayTokenDigest.isSome))
    fun _ r => { r.scrubbed with updatedAt := now }

end Server
end TokenStreaming
