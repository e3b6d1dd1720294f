import TokenStreaming.Server.Requests
import Mathlib.Data.List.Dedup
import Mathlib.Data.List.Sort

/-!
# Key lifecycle - Schema, key rings and the preflight

The lifecycle of credential keys has four tables of its own next to the tables of
the marketplace: canaries of registered keys, an event ledger, the applied manifest
of each domain and the eligibility of a fresh database for a baseline.

The preflight compares the key rings of one running instance with these tables.
It writes nothing, and nothing stops other instances from writing while it reads.
A configuration that cannot be resolved refuses every command before it reads the
database; a key ring here is a resolved one.
-/

namespace TokenStreaming
namespace KeyLifecycle

open Relational Server

/-! ## Schema -/

/-- {lit}`VersionedKeyringDomain`. -/
inductive VersionedKeyringDomain where
  | credentialEncryption
  | credentialLookup
deriving DecidableEq

def VersionedKeyringDomain.text : VersionedKeyringDomain → String
  | .credentialEncryption => "credential-encryption"
  | .credentialLookup => "credential-lookup"

/-- A stored canary: the sealed canary plaintext or the signature of the key id. -/
inductive CanaryText where
  | sealed (material iv keyId : String)
  | signed (material keyId : String)
deriving DecidableEq

/-- {lit}`cryptographic_key_canaries`. -/
structure CanaryRow where
  canaryId : String
  domain : VersionedKeyringDomain
  keyId : String
  formatVersion : Nat
  ciphertext : CanaryText
  iv : Option String
  createdAt : Nat
deriving DecidableEq

/-- The {lit}`event_type` column. -/
inductive LifecycleEventType where
  | manifestApplied
  | keyRegistered
deriving DecidableEq

/-- {lit}`cryptographic_key_lifecycle_events`. -/
structure LifecycleEventRow where
  eventId : String
  domain : VersionedKeyringDomain
  keyId : String
  eventType : LifecycleEventType
  generation : Nat
  manifestHash : Digest
  backupReference : Option String
  commandId : String
  occurredAt : Nat
deriving DecidableEq

/-- {lit}`cryptographic_keyring_states`. -/
structure KeyringStateRow where
  domain : VersionedKeyringDomain
  generation : Nat
  manifestHash : Digest
  activeKeyId : String
  minimumReaderVersion : Nat := 3
  appliedAt : Nat
  commandId : String
deriving DecidableEq

/-- The columns {lit}`consumed_at` and {lit}`consumed_command_id`, both null or both set. -/
structure Consumption where
  consumedAt : Nat
  consumedCommandId : String
deriving DecidableEq

/-- {lit}`cryptographic_key_bootstrap_eligibility`. -/
structure EligibilityRow where
  domain : VersionedKeyringDomain
  provenance : String
  eligibleAt : Nat
  consumption : Option Consumption
deriving DecidableEq

/-- The tables of the database. -/
inductive LifecycleTable where
  | canaries
  | lifecycleEvents
  | keyringStates
  | bootstrapEligibility
  | marketplace (t : MarketplaceTable)
deriving DecidableEq

@[reducible]
def LifecycleRow : LifecycleTable → Type
  | .canaries => CanaryRow
  | .lifecycleEvents => LifecycleEventRow
  | .keyringStates => KeyringStateRow
  | .bootstrapEligibility => EligibilityRow
  | .marketplace t => MarketplaceRow t

/-- An entry of a primary key or unique index. -/
inductive LifecycleIndexEntry where
  | primaryKey (id : String)
  | byDomain (domain : VersionedKeyringDomain)
  | byDomainKey (domain : VersionedKeyringDomain) (keyId : String)
  | byCommand (commandId : String)
  | marketplace (entry : IndexEntry)
deriving DecidableEq

/-- {lit}`idx_cryptographic_key_registered_once` covers registrations only. -/
def LifecycleEventRow.registeredOnce (event : LifecycleEventRow) : List LifecycleIndexEntry :=
  if event.eventType = .keyRegistered then [.byDomainKey event.domain event.keyId] else []

/-- The unique-index entries of a row. -/
def lifecycleKeys : (t : LifecycleTable) → LifecycleRow t → List LifecycleIndexEntry
  | .canaries, r => [.primaryKey r.canaryId, .byDomainKey r.domain r.keyId]
  | .lifecycleEvents, r => [.primaryKey r.eventId, .byCommand r.commandId] ++ r.registeredOnce
  | .keyringStates, r => [.byDomain r.domain]
  | .bootstrapEligibility, r => [.byDomain r.domain]
  | .marketplace t, r => (marketplaceKeys t r).map .marketplace

@[reducible]
def lifecycleSchema : Schema where
  Table := LifecycleTable
  Row := LifecycleRow
  Key := fun _ => LifecycleIndexEntry
  keys := lifecycleKeys
  tableDecEq := inferInstance
  keyDecEq := fun _ => inferInstance

abbrev LifecycleDb := Database lifecycleSchema

abbrev LifecycleStatement := Statement lifecycleSchema

/-- The empty database. -/
def LifecycleDb.empty (clock : Nat) : LifecycleDb where
  rows := fun _ => []
  clock := clock

/-- The database states the successive reads of a command observe. -/
abbrev LifecycleReads := Nat → LifecycleDb

/-! ## Key rings -/

/-- {lit}`VersionedKeyState`. -/
inductive VersionedKeyState where
  | staged
  | readable
deriving DecidableEq

/-- {lit}`VersionedKeySource`. -/
inductive VersionedKeySource where
  | composite
  | legacyAlias
  | slot
deriving DecidableEq

/-- {lit}`VersionedKeyMetadata` together with the material of the key. -/
structure VersionedKey where
  keyId : String
  source : VersionedKeySource
  state : VersionedKeyState
  expectedVerifier : Option Digest
  material : String
deriving DecidableEq

/-- {lit}`ResolvedVersionedKeyring`: its keys are in the order of {lit}`allKeyIds`. -/
structure ResolvedVersionedKeyring where
  activeKeyId : String
  keys : List VersionedKey
  configurationGeneration : Option Nat
  canonicalManifest : Option String
deriving DecidableEq

/-- The two key rings of a running instance. -/
structure Keyrings where
  credentials : ResolvedVersionedKeyring
  lookups : ResolvedVersionedKeyring
deriving DecidableEq

def Keyrings.get (keyrings : Keyrings) : VersionedKeyringDomain → ResolvedVersionedKeyring
  | .credentialEncryption => keyrings.credentials
  | .credentialLookup => keyrings.lookups

/-- {lit}`referencedVerificationKeyBytes`. -/
def referencedVerificationKeyBytes (keyring : ResolvedVersionedKeyring) (keyId : String) :
    Request String :=
  found ((keyring.keys.find? fun key => key.keyId == keyId).map VersionedKey.material)
    { code := "CRYPTO_REFERENCED_KEY_MISSING", message := "生产凭据密钥环缺少待验证的密钥。"
      status := 503, retryable := true }

/-- {lit}`createKeyCustodyVerifier`. -/
def createKeyCustodyVerifier (domain : VersionedKeyringDomain) (keyId material : String) :
    Digest :=
  .hmac material ("gongsuanyun.key-custody.v1\n" ++ domain.text ++ "\n" ++ keyId)

/-- {lit}`createRuntimeKeyCustodyVerifier`. -/
def createRuntimeKeyCustodyVerifier (keyrings : Keyrings) (domain : VersionedKeyringDomain)
    (keyId : String) : Request Digest :=
  (referencedVerificationKeyBytes (keyrings.get domain) keyId).map
    (createKeyCustodyVerifier domain keyId)

/-- The canary columns a command stores. -/
structure KeyCanary where
  ciphertext : CanaryText
  iv : Option String
  formatVersion : Nat
deriving DecidableEq

/-- {lit}`createCredentialEncryptionKeyCanary` or {lit}`createCredentialLookupKeyCanary`. -/
def createKeyCanary (keyrings : Keyrings) (domain : VersionedKeyringDomain) (keyId iv : String) :
    Request KeyCanary :=
  (referencedVerificationKeyBytes (keyrings.get domain) keyId).map fun material =>
    match domain with
    | .credentialEncryption =>
        { ciphertext := .sealed material iv keyId, iv := some iv, formatVersion := 1 }
    | .credentialLookup => { ciphertext := .signed material keyId, iv := none, formatVersion := 1 }

/-! ## Preflight -/

/-- {lit}`CanaryStatus`. -/
inductive CanaryStatus where
  | valid
  | missing
  | invalid
deriving DecidableEq

/-- {lit}`configurationState`. -/
inductive ConfigurationState where
  | legacy
  | unapplied
  | current
  | forward
  | rollback
  | conflict
deriving DecidableEq

/-- {lit}`baselineEligibility`. -/
inductive BaselineEligibility where
  | eligible
  | consumed
  | unavailable
deriving DecidableEq

/-- {lit}`CryptographicKeyPreflightView`, without what only the report shows. -/
structure KeyPreflightView where
  keyId : String
  source : VersionedKeySource
  state : VersionedKeyState
  active : Bool
  /-- The verifier is {lit}`valid`; otherwise it is {lit}`not-applicable`. -/
  verifierIsValid : Bool
  canary : CanaryStatus
  liveReferences : Nat
  legacyContentReferences : Nat
deriving DecidableEq

/-- {lit}`CryptographicDomainPreflightView`. -/
structure DomainPreflightView where
  domain : VersionedKeyringDomain
  generation : Option Nat
  manifestHash : Option Digest
  persistedGeneration : Option Nat
  persistedMinimumReaderVersion : Option Nat
  baselineEligibility : BaselineEligibility
  configurationState : ConfigurationState
  activeKeyId : String
  unknownReferencedKeyIds : List String
  keys : List KeyPreflightView
deriving DecidableEq

/-- {lit}`CryptographicPreflightResult`, without what only the report shows. -/
structure CryptographicPreflightResult where
  readyForApply : Bool
  invalidPersistedReferences : Nat
  domains : List DomainPreflightView
deriving DecidableEq

/-- {lit}`MARKETPLACE_CRYPTO_READER_VERSION`. -/
def marketplaceCryptoReaderVersion : Nat := 3

/-- {lit}`ReferenceRow`: how many rows refer to a key. -/
structure ReferenceRow where
  keyId : String
  referenceCount : Nat
deriving DecidableEq

/-- {lit}`GROUP BY` with {lit}`COUNT(*)`. -/
def groupReferences (keyIds : List String) : List ReferenceRow :=
  keyIds.dedup.map fun keyId => { keyId, referenceCount := keyIds.count keyId }

/-- The live references of the credential keys. -/
def credentialReferences (db : LifecycleDb) : List ReferenceRow :=
  groupReferences (((db.rows (.marketplace .authorizationRequests)).filter fun r =>
    r.encryptedGatewayToken != .cleared).map AuthorizationRow.credentialKeyId)

/-- The live references of the lookup keys. -/
def lookupReferences (db : LifecycleDb) : List ReferenceRow :=
  groupReferences (((db.rows (.marketplace .authorizationRequests)).filter fun r =>
    r.gatewayTokenDigest.isSome).map AuthorizationRow.gatewayTokenLookupKeyId)

/-- Content of version 1 is sealed under the legacy credential key. -/
def isLegacyTask (t : ArtifactTaskRow) : Bool :=
  t.contentKeyVersion == 1 && (t.instructionCiphertext != .cleared || t.outputCiphertext.isSome)

def isLegacyJob (j : InferenceJobRow) : Bool :=
  j.contentKeyVersion == 1 && j.outputCiphertext.isSome

def legacyContentReferences (db : LifecycleDb) : Nat :=
  (db.rows (.marketplace .inferenceJobs)).countP isLegacyJob +
    (db.rows (.marketplace .artifactTasks)).countP isLegacyTask

/-- {lit}`COUNT_INVALID_AUTHORIZATION_CREDENTIAL_REFERENCES_SQL`. -/
def countInvalidAuthorizationCredentialReferences (db : LifecycleDb) : Nat :=
  (db.rows (.marketplace .authorizationRequests)).countP fun r =>
    (r.encryptedGatewayToken != .cleared &&
      !(([1, 2].contains r.encryptionKeyVersion && r.credentialKeyId == legacyCredentialKeyId) ||
        (r.encryptionKeyVersion == 3 && r.credentialKeyId != legacyCredentialKeyId))) ||
    (r.gatewayTokenDigest.isSome &&
      !(([1, 2].contains r.gatewayTokenDigestVersion &&
          r.gatewayTokenLookupKeyId == legacyCredentialLookupKeyId) ||
        (r.gatewayTokenDigestVersion == 3 &&
          r.gatewayTokenLookupKeyId != legacyCredentialLookupKeyId)))

/-- {lit}`resolveConfigurationState`. -/
def resolveConfigurationState (generation : Option Nat) (manifestHash : Option Digest)
    (persisted : Option (Nat × Digest)) : ConfigurationState :=
  match generation, manifestHash, persisted with
  | some _, some _, none => .unapplied
  | some generation, some manifestHash, some (persistedGeneration, persistedHash) =>
      if generation < persistedGeneration then .rollback
      else if persistedGeneration < generation then .forward
      else if manifestHash = persistedHash then .current
      else .conflict
  | _, _, none => .legacy
  | _, _, some _ => .rollback

/-- {lit}`inspectCanary`. -/
def inspectCanary (db : LifecycleDb) (keyring : ResolvedVersionedKeyring)
    (domain : VersionedKeyringDomain) (keyId : String) : CanaryStatus :=
  match (db.rows .canaries).find? fun c => c.domain == domain && c.keyId == keyId with
  | none => .missing
  | some row =>
      let opens := match referencedVerificationKeyBytes keyring keyId, domain, row.iv with
        | .ok material, .credentialEncryption, some iv => row.ciphertext == .sealed material iv keyId
        | .ok material, .credentialLookup, none => row.ciphertext == .signed material keyId
        | _, _, _ => false
      if row.formatVersion == 1 && opens then .valid else .invalid

/-- {lit}`buildDomainView`; its reads are those of the state and eligibility and then one for
each key. -/
def buildDomainView (reads : LifecycleReads) (keyring : ResolvedVersionedKeyring)
    (domain : VersionedKeyringDomain) (references : List ReferenceRow)
    (legacyContentReferences : Nat) : DomainPreflightView :=
  let manifestHash := keyring.canonicalManifest.map sha256Hex
  let persisted := ((reads 0).rows .keyringStates).find? fun s => s.domain == domain
  let baseline := ((reads 1).rows .bootstrapEligibility).find? fun e => e.domain == domain
  let configuredIds := keyring.keys.map VersionedKey.keyId
  let unknownIds := (references.filter fun row =>
    !configuredIds.contains row.keyId && decide (0 < row.referenceCount)).map ReferenceRow.keyId
  let legacyIds :=
    if domain = .credentialEncryption ∧ 0 < legacyContentReferences ∧
        legacyCredentialKeyId ∉ configuredIds then [legacyCredentialKeyId]
    else []
  { domain
    generation := keyring.configurationGeneration
    manifestHash
    persistedGeneration := persisted.map KeyringStateRow.generation
    persistedMinimumReaderVersion := persisted.map KeyringStateRow.minimumReaderVersion
    baselineEligibility :=
      match baseline with
      | none => .unavailable
      | some row => if row.consumption.isSome then .consumed else .eligible
    configurationState :=
      resolveConfigurationState keyring.configurationGeneration manifestHash
        (persisted.map fun s => (s.generation, s.manifestHash))
    activeKeyId := keyring.activeKeyId
    unknownReferencedKeyIds :=
      ((unknownIds ++ legacyIds).dedup).insertionSort fun a b => a ≤ b
    keys := keyring.keys.zipIdx.map fun (key, position) =>
      let legacy :=
        if domain = .credentialEncryption ∧ key.keyId = legacyCredentialKeyId then
          legacyContentReferences
        else 0
      { keyId := key.keyId
        source := key.source
        state := key.state
        active := key.keyId == keyring.activeKeyId
        verifierIsValid := key.expectedVerifier.isSome
        canary := inspectCanary (reads (2 + position)) keyring domain key.keyId
        liveReferences :=
          (((references.find? fun row => row.keyId == key.keyId).map
            ReferenceRow.referenceCount).getD 0) + legacy
        legacyContentReferences := legacy } }

/-- The domain may be applied. -/
def DomainPreflightView.readyForApply (view : DomainPreflightView) : Bool :=
  view.configurationState != .rollback && view.configurationState != .conflict &&
    decide (view.persistedMinimumReaderVersion.getD marketplaceCryptoReaderVersion ≤
      marketplaceCryptoReaderVersion) &&
    view.unknownReferencedKeyIds.isEmpty &&
    (view.keys.all fun key => key.liveReferences == 0 || key.state == .readable) &&
    (view.keys.filter fun key => key.state == .readable).all fun key => key.canary == .valid

/-- {lit}`runCryptographicPreflight`; read 0 of a command precedes its preflight, and the reads
of the two domain views alternate. -/
def runCryptographicPreflight (reads : LifecycleReads) (keyrings : Keyrings) :
    CryptographicPreflightResult :=
  let legacyContent := legacyContentReferences (reads 3)
  let credentials := buildDomainView (fun k => reads (5 + 2 * k)) keyrings.credentials
    .credentialEncryption (credentialReferences (reads 1)) legacyContent
  let lookups := buildDomainView (fun k => reads (6 + 2 * k)) keyrings.lookups .credentialLookup
    (lookupReferences (reads 2)) 0
  let invalidPersistedReferences := countInvalidAuthorizationCredentialReferences (reads 4)
  { readyForApply :=
      invalidPersistedReferences == 0 && credentials.readyForApply && lookups.readyForApply
    invalidPersistedReferences
    domains := [credentials, lookups] }

end KeyLifecycle
end TokenStreaming
