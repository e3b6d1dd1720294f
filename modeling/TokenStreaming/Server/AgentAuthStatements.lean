import TokenStreaming.Server.ReviewInvariants
import Mathlib.Data.List.Sort

/-!
# Control plane - Agent authentication statements

The statements of {lit}`agent-auth.ts` and {lit}`agent-auth-invariants.ts`: the
nonce claim over every readable digest namespace, the two sweeps that forget
nonces, and the migration of lookup digests to the active key.

Main definitions:

- {lit}`claimAgentNonceNamespacesSql`: all namespaces of a nonce or none.
- {lit}`purgeExpiredNoncesSql`, {lit}`deleteExpiredNoncesSql`: the authenticator's
  and the maintenance sweep; they treat the expiry instant differently.
-/

namespace TokenStreaming
namespace Server

open Relational Domain

/-! ## Nonces -/

/-- The nonce rows one request claims. -/
def nonceRows (namespaces : List Digest) (nonce : String) (expiresAt : Nat) : List NonceRow :=
  namespaces.map fun credentialDigest => { credentialDigest, nonce, expiresAt }

/-- The nonce is already stored under one of the namespaces. -/
def nonceIsClaimed (db : MarketplaceDb) (namespaces : List Digest) (nonce : String) : Bool :=
  (db.rows .agentRequestNonces).any fun existing =>
    existing.nonce == nonce && namespaces.contains existing.credentialDigest

/-- {lit}`claimAgentNonceNamespacesSql`. -/
def claimAgentNonceNamespacesSql (namespaces : List Digest) (nonce : String) (expiresAt : Nat) :
    MarketplaceStatement :=
  .insertOrIgnore .agentRequestNonces fun db =>
    if nonceIsClaimed db namespaces nonce then [] else nonceRows namespaces nonce expiresAt

/-- The hundred nonces that expired first. -/
def firstExpiredNonces (db : MarketplaceDb) (now : Nat) : List NonceRow :=
  (((db.rows .agentRequestNonces).filter fun n => decide (n.expiresAt < now)).insertionSort
    fun a b => a.expiresAt ≤ b.expiresAt).take 100

/-- The bounded purge of {lit}`authenticateAgentRequest`. -/
def purgeExpiredNoncesSql (now : Nat) : MarketplaceStatement :=
  .delete .agentRequestNonces fun db n =>
    (firstExpiredNonces db now).any fun expired =>
      expired.credentialDigest == n.credentialDigest && expired.nonce == n.nonce

/-- The sweep of {lit}`runMarketplaceMaintenance`. -/
def deleteExpiredNoncesSql (now : Nat) : MarketplaceStatement :=
  .delete .agentRequestNonces fun _ n => decide (n.expiresAt ≤ now)

/-! ## Lookup digests -/

/-- The lookup columns of a request. -/
def AuthorizationRow.hasLookup (r : AuthorizationRow) (lookup : CredentialLookupDigest) : Bool :=
  r.gatewayTokenDigestVersion == lookup.version && r.gatewayTokenLookupKeyId == lookup.keyId &&
    r.gatewayTokenDigest == some lookup.digest

/-- The lookup columns replaced by a new digest. -/
def AuthorizationRow.withLookup (r : AuthorizationRow) (lookup : CredentialLookupDigest)
    (now : Nat) : AuthorizationRow :=
  { r with
    gatewayTokenDigest := some lookup.digest
    gatewayTokenDigestVersion := lookup.version
    gatewayTokenLookupKeyId := lookup.keyId
    updatedAt := now }

/-- The migration of one row whose lookup columns are the ones that were read. -/
def migrateLookupRowSql (requestId : String) (read active : CredentialLookupDigest) (now : Nat) :
    MarketplaceStatement :=
  .update .authorizationRequests
    (fun _ r => r.requestId == requestId && r.hasLookup read)
    fun _ r => r.withLookup active now

/-- {lit}`migrateAgentLookupNamespacesSql`. -/
def migrateAgentLookupNamespacesSql (active : CredentialLookupDigest)
    (legacyDigest : Digest) (readable : List CredentialLookupDigest) (now : Nat) :
    MarketplaceStatement :=
  .update .authorizationRequests
    (fun _ r => !r.hasLookup active && r.matchesLookup legacyDigest readable)
    fun _ r => r.withLookup active now

end Server
end TokenStreaming
