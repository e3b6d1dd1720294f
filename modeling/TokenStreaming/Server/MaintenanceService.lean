import TokenStreaming.Server.AgentAuthStatements
import TokenStreaming.Server.AuthorizationService
import TokenStreaming.Server.InferenceService

/-!
# Control plane - Maintenance

The two batches of {lit}`runMarketplaceMaintenance`: stored credentials move to the
active encryption key, and everything past its retention is failed, scrubbed or
deleted.  The artifact sweep the run ends with is
{lit}`cleanupExpiredArtifactData`.

Main definitions:

- {lit}`rotateCredentialEncryptions`: the rewrap of up to four credentials.
- {lit}`maintenanceBatch`: the retention batch.

Current gaps:

- The key-lifecycle assertions a run starts with, and the rate-limit sweep.
-/

namespace TokenStreaming
namespace Server

open Relational Domain

/-- {lit}`PENDING_AUTHORIZATION_MAX_AGE_MILLISECONDS`. -/
def pendingAuthorizationMaxAgeMilliseconds : Nat := 7 * 24 * 60 * 60000

/-- The credentials that are not sealed under the active key, oldest update first. -/
def staleCredentials (db : MarketplaceDb) (activeKeyId : String) : List AuthorizationRow :=
  (((db.rows .authorizationRequests).filter fun r =>
    r.encryptedGatewayToken != .cleared && r.credentialKeyId != activeKeyId).insertionSort
      fun a b => a.updatedAt ≤ b.updatedAt).take 4

/-- Decrypt a stored credential and seal it under the active key. -/
def rewrapCredential (keyring : ResolvedKeyring) (row : AuthorizationRow) (iv : String) :
    Request EncryptedCredential := do
  let context : CredentialEncryptionContext :=
    { tenantId := row.tenantId, authorizationRequestId := row.requestId }
  let plaintext ← found (decryptCredential keyring row.credential context) internalError
  pure (encryptCredential keyring iv plaintext context)

/-- The replacements of {lit}`rotateCredentialEncryptions`. -/
def rewrapStatements (keyring : ResolvedKeyring) (now : Nat) :
    List (AuthorizationRow × String) → Request Batch
  | [] => .ok []
  | (row, iv) :: rest => do
      let encrypted ← rewrapCredential keyring row iv
      let statements ← rewrapStatements keyring now rest
      pure (rewrapAuthorizationCredentialSql row.requestId row.credential encrypted now ::
        statements)

def rotateCredentialEncryptions (reads : Reads) (keyring : ResolvedKeyring) (ivs : List String) :
    Request Batch :=
  rewrapStatements keyring (reads 0).clock
    ((staleCredentials (reads 1) keyring.activeKeyId).zip ivs)

/-- The retention batch of {lit}`runMarketplaceMaintenance`. -/
def maintenanceBatch (policy : MarketplaceRuntimePolicy) (now : Nat) : Batch :=
  [expireInferenceReservationsSql now (now - policy.inferenceReservationTimeoutSeconds * 1000),
    purgeExpiredInferenceOutputsSql now,
    expirePendingAuthorizationsSql now (now - pendingAuthorizationMaxAgeMilliseconds),
    scrubExpiredCredentialsSql now,
    scrubTerminatedCredentialsSql now,
    scrubUsersSql now,
    deleteExpiredNoncesSql now,
    deleteExpiredWorkersSql now]

end Server
end TokenStreaming
