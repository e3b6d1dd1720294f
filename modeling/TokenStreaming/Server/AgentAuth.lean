import TokenStreaming.Server.AgentAuthStatements
import TokenStreaming.Server.AuthorizationLifecycle
import TokenStreaming.Server.Requests

/-!
# Control plane - Agent authentication

{lit}`authenticateAgentRequest` split at its database calls.  The function first
reads and verifies, which leaves an {lit}`AgentCall` with its local variables;
every further write is one step of the call, and other requests may run between
any two of them.

Main definitions:

- {lit}`verifyAgentRequest`: lookup, timestamp window and signature.
- {lit}`AgentCall.batch`, {lit}`AgentCall.next`: the write of each phase and the
  phase its result leads to.
- {lit}`AgentCall.identity`: the principal an accepted call returns.
-/

namespace TokenStreaming
namespace Server

open Relational Domain

/-! ## Requests and principals -/

/-- The headers and the body of a signed request. -/
structure AgentRequest where
  gatewayToken : String
  timestampMs : Nat
  nonce : String
  jobId : String
  rawBody : String
  signature : Digest
deriving DecidableEq

/-- {lit}`createSupplierGatewaySignaturePayload`. -/
def createSupplierGatewaySignaturePayload (timestamp nonce jobId bodySha256 : String) : String :=
  String.intercalate "\n" [timestamp, nonce, jobId, bodySha256]

/-- The text the signature of a request covers. -/
def AgentRequest.payload (request : AgentRequest) : String :=
  createSupplierGatewaySignaturePayload (toString request.timestampMs) request.nonce request.jobId
    (sha256Hex request.rawBody).hex

/-- One authorization of a principal. -/
structure AgentAuthorization where
  requestId : String
  authorizationRevision : Nat
  providerId : String
  modelPattern : String
deriving DecidableEq

/-- {lit}`AgentAuthorizationIdentity`. -/
structure AgentAuthorizationIdentity where
  credentialDigest : Digest
  gatewayToken : String
  supplierTenantId : String
  supplierId : String
  signedJobId : String
  authorizations : List AgentAuthorization

/-! ## Verification -/

/-- The supplier of the request is active and serving. -/
def supplierIsServing (db : MarketplaceDb) (r : AuthorizationRow) : Bool :=
  (db.rows .suppliers).any fun s =>
    s.supplierId == r.supplierId && s.tenantId == r.tenantId && s.status == .active &&
      s.supplyEnabled

/-- The authorizations a token authenticates, oldest first and one beyond the cap. -/
def authenticatedRows (db : MarketplaceDb) (lookup : TokenLookup) (now : Nat) :
    List AuthorizationRow :=
  (((db.rows .authorizationRequests).filter fun r =>
    r.matchesLookup lookup.legacyCredentialDigest lookup.credentialLookups &&
      r.status == .approved && r.isValidAfter now && supplierIsServing db r).insertionSort
        fun a b => a.createdAt ≤ b.createdAt).take (maxAgentAuthorizationsPerToken + 1)

/-- Where an authentication stands. -/
inductive AgentPhase where
  | verified
  | purged
  | claimed
  | migrated
  | swept
  | accepted
  | refused
deriving DecidableEq

/-- The local variables of an authentication after its verification. -/
structure AgentCall where
  request : AgentRequest
  keyring : ResolvedKeyring
  now : Nat
  rows : List AuthorizationRow
  phase : AgentPhase

/-- {lit}`agentAuthenticationFailed`. -/
def agentAuthenticationFailed : ApiError where
  code := "AUTHENTICATION_REQUIRED"
  message := "Agent 身份验证失败。"
  status := 401

/-- The timestamp is within five minutes of the clock. -/
def timestampIsFresh (clock timestampMs : Nat) : Bool :=
  decide (clock ≤ timestampMs + 300000) && decide (timestampMs ≤ clock + 300000)

/-- {lit}`authenticateAgentRequest` up to its first write. -/
def verifyAgentRequest (reads : Reads) (keyring : ResolvedKeyring) (request : AgentRequest) :
    Request AgentCall := do
  let now := (reads 0).clock
  let rows := authenticatedRows (reads 1) (.ofToken keyring request.gatewayToken) now
  demand (timestampIsFresh (reads 2).clock request.timestampMs) agentAuthenticationFailed
  demand (request.signature == .hmac request.gatewayToken request.payload && !rows.isEmpty)
    agentAuthenticationFailed
  demand (rows.all fun row => rows.head?.all fun first =>
      row.tenantId == first.tenantId && row.supplierId == first.supplierId)
    { code := "INTERNAL_ERROR"
      message := "Agent 凭据错误地绑定了多个供应主体。"
      status := 500 }
  pure { request, keyring, now, rows, phase := .verified }

/-! ## Writes -/

/-- The lookup digests of the presented token. -/
def AgentCall.lookup (call : AgentCall) : TokenLookup :=
  .ofToken call.keyring call.request.gatewayToken

/-- The digest under the active key. -/
def AgentCall.activeLookup (call : AgentCall) : CredentialLookupDigest :=
  createCredentialLookupDigest call.keyring call.request.gatewayToken

/-- {lit}`nonceNamespaces`: the legacy digest and every keyed one, without repetitions. -/
def AgentCall.nonceNamespaces (call : AgentCall) : List Digest :=
  (call.lookup.legacyCredentialDigest ::
    call.lookup.credentialLookups.map CredentialLookupDigest.digest).eraseDups

/-- {lit}`nonceExpiresAt`. -/
def AgentCall.nonceExpiresAt (call : AgentCall) : Nat :=
  call.request.timestampMs + 300000

/-- The lookup columns of a row as they were read. -/
def AuthorizationRow.storedLookup (r : AuthorizationRow) : Option CredentialLookupDigest :=
  r.gatewayTokenDigest.map fun digest =>
    { digest, version := r.gatewayTokenDigestVersion, keyId := r.gatewayTokenLookupKeyId }

/-- {lit}`staleLookupRows` with the columns their migration compares. -/
def AgentCall.staleLookups (call : AgentCall) : List (String × CredentialLookupDigest) :=
  call.rows.filterMap fun r =>
    r.storedLookup.bind fun read =>
      if read = call.activeLookup then none else some (r.requestId, read)

/-- More authorizations carry the token than a response may list. -/
def AgentCall.isOverCap (call : AgentCall) : Bool :=
  decide (maxAgentAuthorizationsPerToken < call.rows.length)

/-- {lit}`migrateEveryReadableLookupNamespace`. -/
def AgentCall.sweepBatch (call : AgentCall) : Batch :=
  [migrateAgentLookupNamespacesSql call.activeLookup call.lookup.legacyCredentialDigest
    call.lookup.credentialLookups call.now]

/-- The batch a call sends from its phase. -/
def AgentCall.batch (call : AgentCall) : Batch :=
  match call.phase with
  | .verified => [purgeExpiredNoncesSql call.now]
  | .purged =>
      [claimAgentNonceNamespacesSql call.nonceNamespaces call.request.nonce call.nonceExpiresAt]
  | .claimed =>
      if call.isOverCap then call.sweepBatch
      else call.staleLookups.map fun stale =>
        migrateLookupRowSql stale.1 stale.2 call.activeLookup call.now
  | .migrated => call.sweepBatch
  | .swept | .accepted | .refused => []

/-- The rows of a call that are still current, by id and revision. -/
def AgentCall.currentRows (call : AgentCall) (db : MarketplaceDb) : Nat :=
  (db.rows .authorizationRequests).countP fun r =>
    call.rows.any (fun read =>
        r.requestId == read.requestId && r.authorizationRevision == read.authorizationRevision) &&
      r.status == .approved && r.isValidAfter call.now && r.hasLookup call.activeLookup &&
      supplierIsServing db r

/-- The phase a call reaches when its batch commits in {lit}`db`. -/
def AgentCall.next (call : AgentCall) (db : MarketplaceDb) : AgentPhase :=
  let changes := batchChanges db call.batch
  match call.phase with
  | .verified => .purged
  | .purged => if changes = [call.nonceNamespaces.length] then .claimed else .refused
  | .claimed =>
      if call.isOverCap || changes.any fun count => count != 1 then .refused else .migrated
  | .migrated => .swept
  | .swept => if call.currentRows db = call.rows.length then .accepted else .refused
  | .accepted => .accepted
  | .refused => .refused

/-- The principal an accepted call returns. -/
def AgentCall.identity (call : AgentCall) : Option AgentAuthorizationIdentity :=
  if call.phase = .accepted then
    call.rows.head?.map fun first =>
      { credentialDigest := call.activeLookup.digest
        gatewayToken := call.request.gatewayToken
        supplierTenantId := first.tenantId
        supplierId := first.supplierId
        signedJobId := call.request.jobId
        authorizations := call.rows.map fun row =>
          { requestId := row.requestId
            authorizationRevision := row.authorizationRevision
            providerId := row.providerId
            modelPattern := row.modelPattern } }
  else none

end Server
end TokenStreaming
