import TokenStreaming.KeyLifecycle.Preflight
import TokenStreaming.Foundation.TransitionSystem

/-!
# Key lifecycle - Commands and their statements

The three commands of the key lifecycle: {lit}`applyKeyringManifest` raises the applied
manifest of a domain, {lit}`registerStagedKey` stores the canary of a staged key and
{lit}`baselineReadableKey` stores the first canary of a fresh database.

A command looks up its command id, runs the preflight and sends one batch computed
from what it read.  The state remembers every database state, and each read of a
command observes one of them by its age, so any interleaving of commands is a run.
-/

namespace TokenStreaming
namespace KeyLifecycle

open Relational Server TransitionSystem

/-! ## Inputs -/

/-- {lit}`ApplyKeyringManifestInput`. -/
structure ApplyKeyringManifestInput where
  domain : VersionedKeyringDomain
  generation : Nat
  commandId : String
deriving DecidableEq

/-- {lit}`RegisterStagedKeyInput`. -/
structure RegisterStagedKeyInput extends ApplyKeyringManifestInput where
  keyId : String
  backupReference : String
deriving DecidableEq

/-- {lit}`BaselineReadableKeyInput`. -/
structure BaselineReadableKeyInput extends RegisterStagedKeyInput where
  materialVerifier : Digest
deriving DecidableEq

/-- {lit}`[A-Za-z0-9]`. -/
def isAlphanumeric (c : Char) : Bool :=
  ('A' ≤ c && c ≤ 'Z') || ('a' ≤ c && c ≤ 'z') || ('0' ≤ c && c ≤ '9')

/-- One character of a class followed by a bounded number of characters of another. -/
def isToken (first rest : Char → Bool) (minimum maximum : Nat) : List Char → Bool
  | [] => false
  | c :: cs =>
      first c && decide (minimum ≤ cs.length) && decide (cs.length ≤ maximum) && cs.all rest

/-- {lit}`COMMAND_ID_PATTERN`. -/
def matchesCommandIdPattern (value : String) : Bool :=
  isToken isAlphanumeric (fun c => isAlphanumeric c || ['.', '_', ':', '-'].contains c) 7 127
    value.toList

/-- {lit}`[a-z0-9]`. -/
def isLowerAlphanumeric (c : Char) : Bool :=
  ('a' ≤ c && c ≤ 'z') || ('0' ≤ c && c ≤ '9')

/-- {lit}`KEY_ID_PATTERN`. -/
def matchesKeyIdPattern (value : String) : Bool :=
  isToken isLowerAlphanumeric (fun c => isLowerAlphanumeric c || ['.', '_', '-'].contains c) 0 47
    value.toList

/-- {lit}`BACKUP_REFERENCE_PATTERN`: the first slash ends the first segment. -/
def matchesBackupReferencePattern (value : String) : Bool :=
  ["kms:", "hsm:", "vault:"].any fun scheme =>
    scheme.toList.isPrefixOf value.toList &&
      let segments := (value.toList.drop scheme.length).span (· != '/')
      isToken isAlphanumeric (fun c => isAlphanumeric c || ['.', '_', '-'].contains c) 1 63
          segments.1 &&
        isToken isAlphanumeric
          (fun c => isAlphanumeric c || ['.', '_', ':', '/', '-'].contains c) 1 127
          (segments.2.drop 1)

/-- {lit}`assertApplyInput`. -/
def ApplyKeyringManifestInput.isValid (input : ApplyKeyringManifestInput) : Bool :=
  decide (input.generation ≤ 2 ^ 53 - 1) && decide (1 ≤ input.generation) &&
    matchesCommandIdPattern input.commandId

/-! ## Errors and results -/

def invalidRequest : ApiError where
  code := "INVALID_REQUEST"
  message := "密钥生命周期请求无效。"
  status := 400

def cryptoConfigurationConflict : ApiError where
  code := "CRYPTO_CONFIG_INVALID"
  message := "密钥 manifest 未通过单调配置或引用门禁。"
  status := 409

def cryptoConfigurationRollback : ApiError where
  code := "CRYPTO_CONFIG_ROLLBACK"
  message := "密钥 manifest generation 不允许回退。"
  status := 409

def cryptoCanaryConflict : ApiError where
  code := "CRYPTO_CANARY_MISMATCH"
  message := "密钥 canary 与当前材料不一致。"
  status := 503
  retryable := true

def cryptoKeyAlreadyRegistered : ApiError where
  code := "CRYPTO_CONFIG_INVALID"
  message := "密钥 ID 已登记且不可复用。"
  status := 409

/-- The {lit}`state` of a result. -/
inductive LifecycleState where
  | manifestApplied
  | keyRegistered
  | keyBaselined
deriving DecidableEq

/-- {lit}`CryptographicLifecycleResult`. -/
structure LifecycleResult where
  domain : VersionedKeyringDomain
  generation : Nat
  keyId : String
  state : LifecycleState
  idempotent : Bool
  occurredAt : Nat
deriving DecidableEq

/-- What {lit}`assertMatchingEvent` compares an event with. -/
structure ExpectedEvent where
  eventId : String
  keyId : String
  generation : Nat
  eventType : LifecycleEventType
  manifestHash : Option Digest
  backupReference : Option String
deriving DecidableEq

/-- {lit}`assertMatchingEvent`. -/
def ExpectedEvent.matches (expected : ExpectedEvent) (event : LifecycleEventRow) : Bool :=
  event.eventId == expected.eventId && event.keyId == expected.keyId &&
    event.generation == expected.generation && event.eventType == expected.eventType &&
    expected.manifestHash.all (event.manifestHash == ·) &&
    event.backupReference == expected.backupReference

/-- {lit}`readLifecycleEventByCommand`. -/
def readLifecycleEventByCommand (db : LifecycleDb) (commandId : String) :
    Option LifecycleEventRow :=
  (db.rows .lifecycleEvents).find? fun e => e.commandId == commandId

/-- A command that is ready to send its batch, with what it answers afterwards. -/
structure PreparedCommand where
  batch : List LifecycleStatement
  result : LifecycleResult
  expected : ExpectedEvent
  /-- The error when the batch changed too little and no event bears the command id. -/
  refusal : ApiError

/-- What a command does after its first reads: it answers or sends a batch. -/
inductive Preparation where
  | answered (result : LifecycleResult)
  | prepared (command : PreparedCommand)

/-- The answer after the batch.  {lit}`changes` is missing when the batch was aborted, and
{lit}`raced` is the event a last read found. -/
def PreparedCommand.respond (command : PreparedCommand) (changes : Option (List Nat))
    (raced : Option LifecycleEventRow) : Request LifecycleResult :=
  if changes.any fun counts => counts.all (· == 1) then .ok command.result
  else
    match raced with
    | none => .error (if changes.isSome then command.refusal else internalError)
    | some event => do
        demand (command.expected.matches event) cryptoConfigurationConflict
        pure { command.result with idempotent := true, occurredAt := event.occurredAt }

/-! ## Statements -/

/-- {lit}`EXISTS` a lifecycle event of the command. -/
def hasCommand (db : LifecycleDb) (commandId : String) : Bool :=
  (db.rows .lifecycleEvents).any fun e => e.commandId == commandId

/-- {lit}`EXISTS` an applied manifest with the generation and hash. -/
def hasManifest (db : LifecycleDb) (domain : VersionedKeyringDomain) (generation : Nat)
    (manifestHash : Digest) : Bool :=
  (db.rows .keyringStates).any fun s =>
    s.domain == domain && s.generation == generation && s.manifestHash == manifestHash

/-- {lit}`EXISTS` a canary of the key. -/
def hasCanary (db : LifecycleDb) (domain : VersionedKeyringDomain) (keyId : String) : Bool :=
  (db.rows .canaries).any fun c => c.domain == domain && c.keyId == keyId

/-- {lit}`EXISTS` a registration of the key. -/
def hasRegistration (db : LifecycleDb) (domain : VersionedKeyringDomain) (keyId : String) :
    Bool :=
  (db.rows .lifecycleEvents).any fun e =>
    e.domain == domain && e.keyId == keyId && e.eventType == .keyRegistered

/-- The upsert of {lit}`applyKeyringManifest`.  Its {lit}`WHERE` keeps a stored row of the same
or a later generation, which then counts as unchanged. -/
def upsertKeyringStateSql (row : KeyringStateRow) : LifecycleStatement :=
  .upsert .keyringStates
    (fun old new =>
      { old with
        generation := new.generation
        manifestHash := new.manifestHash
        activeKeyId := new.activeKeyId
        appliedAt := new.appliedAt
        commandId := new.commandId })
    fun db =>
      if hasCommand db row.commandId ||
          (db.rows .keyringStates).any fun s =>
            s.domain == row.domain && decide (row.generation ≤ s.generation) then []
      else [row]

/-- The event of {lit}`applyKeyringManifest`. -/
def insertManifestEventSql (event : LifecycleEventRow) : LifecycleStatement :=
  .insert .lifecycleEvents fun db =>
    if hasManifest db event.domain event.generation event.manifestHash &&
        !((db.rows .lifecycleEvents).any fun e => e.eventId == event.eventId) &&
        !hasCommand db event.commandId then [event]
    else []

/-- The canary of {lit}`registerStagedKey`. -/
def insertRegisteredCanarySql (canary : CanaryRow) (generation : Nat) (manifestHash : Digest)
    (commandId : String) : LifecycleStatement :=
  .insert .canaries fun db =>
    if hasManifest db canary.domain generation manifestHash &&
        !hasCanary db canary.domain canary.keyId &&
        !hasRegistration db canary.domain canary.keyId && !hasCommand db commandId then [canary]
    else []

/-- The event of {lit}`registerStagedKey`. -/
def insertRegistrationEventSql (event : LifecycleEventRow) : LifecycleStatement :=
  .insert .lifecycleEvents fun db =>
    if hasCanary db event.domain event.keyId && !hasRegistration db event.domain event.keyId &&
        !hasCommand db event.commandId then [event]
    else []

/-- {lit}`CRYPTOGRAPHIC_BOOTSTRAP_PROVENANCE`. -/
def cryptographicBootstrapProvenance : String := "migration-empty-history-v1"

/-- {lit}`freshDatabaseHistoryPredicate`: the listed tables are all tables of the marketplace. -/
def freshDatabaseHistoryPredicate (db : LifecycleDb) : Bool :=
  [MarketplaceTable.users, .suppliers, .authorizationRequests, .capacityOffers,
    .marketplaceEvents, .inferenceJobs, .usageRecords, .serviceEvidence, .ledgerEntries,
    .auditEvents, .idempotencyKeys, .artifacts, .artifactChunks, .artifactObjectDeletions,
    .supplierArtifactWorkers, .artifactTasks, .artifactTaskCheckpoints, .artifactTaskEvidence,
    .agentRequestNonces].all fun t => (db.rows (.marketplace t)).isEmpty

/-- {lit}`zeroReferencePredicate`. -/
def zeroReferencePredicate (db : LifecycleDb) : VersionedKeyringDomain → Bool
  | .credentialLookup =>
      !((db.rows (.marketplace .authorizationRequests)).any fun r => r.gatewayTokenDigest.isSome)
  | .credentialEncryption =>
      !((db.rows (.marketplace .authorizationRequests)).any fun r =>
          r.encryptedGatewayToken != .cleared) &&
        !((db.rows (.marketplace .inferenceJobs)).any isLegacyJob) &&
        !((db.rows (.marketplace .artifactTasks)).any isLegacyTask)

/-- An unconsumed eligibility row of the domain. -/
def EligibilityRow.isOpen (row : EligibilityRow) (domain : VersionedKeyringDomain) : Bool :=
  row.domain == domain && row.provenance == cryptographicBootstrapProvenance &&
    row.consumption.isNone

/-- {lit}`EXISTS` an applied manifest of the domain. -/
def hasKeyringState (db : LifecycleDb) (domain : VersionedKeyringDomain) : Bool :=
  (db.rows .keyringStates).any fun s => s.domain == domain

/-- {lit}`EXISTS` the canary with all its columns. -/
def hasExactCanary (db : LifecycleDb) (canary : CanaryRow) : Bool :=
  (db.rows .canaries).any fun c =>
    c.canaryId == canary.canaryId && c.domain == canary.domain && c.keyId == canary.keyId &&
      c.formatVersion == canary.formatVersion && c.ciphertext == canary.ciphertext &&
      c.iv == canary.iv

/-- {lit}`EXISTS` another canary of the domain. -/
def hasOtherCanary (db : LifecycleDb) (canary : CanaryRow) : Bool :=
  (db.rows .canaries).any fun c => c.domain == canary.domain && c.canaryId != canary.canaryId

/-- {lit}`baselineReadableKeyCanarySql`. -/
def baselineReadableKeyCanarySql (canary : CanaryRow) (commandId : String) :
    LifecycleStatement :=
  .insert .canaries fun db =>
    if ((db.rows .bootstrapEligibility).any fun e => e.isOpen canary.domain) &&
        !hasKeyringState db canary.domain &&
        !((db.rows .canaries).any fun c => c.domain == canary.domain) &&
        !((db.rows .lifecycleEvents).any fun e => e.domain == canary.domain) &&
        !hasCommand db commandId && freshDatabaseHistoryPredicate db &&
        zeroReferencePredicate db canary.domain then [canary]
    else []

/-- {lit}`baselineReadableKeyEventSql`. -/
def baselineReadableKeyEventSql (event : LifecycleEventRow) (canary : CanaryRow) :
    LifecycleStatement :=
  .insert .lifecycleEvents fun db =>
    if ((db.rows .bootstrapEligibility).any fun e => e.isOpen event.domain) &&
        hasExactCanary db canary && !hasKeyringState db event.domain &&
        !hasOtherCanary db canary &&
        !((db.rows .lifecycleEvents).any fun e => e.domain == event.domain) &&
        !hasCommand db event.commandId && freshDatabaseHistoryPredicate db &&
        zeroReferencePredicate db event.domain then [event]
    else []

/-- {lit}`consumeBaselineEligibilitySql`. -/
def consumeBaselineEligibilitySql (event : LifecycleEventRow) (canary : CanaryRow) :
    LifecycleStatement :=
  .update .bootstrapEligibility
    (fun db row =>
      row.isOpen event.domain && !hasKeyringState db event.domain && hasExactCanary db canary &&
        !hasOtherCanary db canary &&
        ((db.rows .lifecycleEvents).any fun e =>
          e.eventId == event.eventId && e.domain == event.domain && e.keyId == event.keyId &&
            e.eventType == .keyRegistered && e.commandId == event.commandId) &&
        !((db.rows .lifecycleEvents).any fun e =>
          e.domain == event.domain && e.eventId != event.eventId) &&
        freshDatabaseHistoryPredicate db && zeroReferencePredicate db event.domain)
    fun _ row =>
      { row with
        consumption := some
          { consumedAt := event.occurredAt, consumedCommandId := event.commandId } }

/-- The last statement of the schema: eligibility of a database without any history. -/
def insertEligibilitySql (now : Nat) : LifecycleStatement :=
  .insertOrIgnore .bootstrapEligibility fun db =>
    if freshDatabaseHistoryPredicate db && (db.rows .canaries).isEmpty &&
        (db.rows .lifecycleEvents).isEmpty && (db.rows .keyringStates).isEmpty then
      [.credentialEncryption, .credentialLookup].map fun domain =>
        { domain, provenance := cryptographicBootstrapProvenance, eligibleAt := now
          consumption := none }
    else []

/-! ## Commands -/

def manifestEventId (domain : VersionedKeyringDomain) (commandId : String) : String :=
  "crypto-manifest:" ++ domain.text ++ ":" ++ commandId

def registrationEventId (domain : VersionedKeyringDomain) (commandId : String) : String :=
  "crypto-register:" ++ domain.text ++ ":" ++ commandId

def baselineEventId (domain : VersionedKeyringDomain) (commandId : String) : String :=
  "crypto-baseline:" ++ domain.text ++ ":" ++ commandId

def canaryId (domain : VersionedKeyringDomain) (keyId : String) : String :=
  "canary:" ++ domain.text ++ ":" ++ keyId

/-- {lit}`domains.find`. -/
def CryptographicPreflightResult.find (preflight : CryptographicPreflightResult)
    (domain : VersionedKeyringDomain) (error : ApiError) : Request DomainPreflightView :=
  found (preflight.domains.find? fun view => view.domain == domain) error

def DomainPreflightView.findKey (view : DomainPreflightView) (keyId : String) :
    Request KeyPreflightView :=
  found (view.keys.find? fun key => key.keyId == keyId) cryptoConfigurationConflict

/-- {lit}`applyKeyringManifest` up to its batch. -/
def applyKeyringManifest (reads : LifecycleReads) (keyrings : Keyrings)
    (input : ApplyKeyringManifestInput) (now : Nat) : Request Preparation := do
  demand input.isValid invalidRequest
  let eventId := manifestEventId input.domain input.commandId
  match readLifecycleEventByCommand (reads 0) input.commandId with
  | some existing => do
      let expected : ExpectedEvent :=
        { eventId, keyId := existing.keyId, generation := input.generation
          eventType := .manifestApplied, manifestHash := none, backupReference := none }
      demand (expected.matches existing) cryptoConfigurationConflict
      pure (.answered
        { domain := input.domain, generation := input.generation, keyId := existing.keyId
          state := .manifestApplied, idempotent := true, occurredAt := existing.occurredAt })
  | none => do
      let preflight := runCryptographicPreflight reads keyrings
      let view ← preflight.find input.domain invalidRequest
      demand (view.generation == some input.generation) invalidRequest
      let manifestHash ← found view.manifestHash invalidRequest
      demand (view.configurationState != .rollback) cryptoConfigurationRollback
      demand (preflight.readyForApply && view.configurationState != .conflict)
        cryptoConfigurationConflict
      let event : LifecycleEventRow :=
        { eventId, domain := input.domain, keyId := view.activeKeyId
          eventType := .manifestApplied, generation := input.generation, manifestHash
          backupReference := none, commandId := input.commandId, occurredAt := now }
      pure (.prepared
        { batch :=
            [upsertKeyringStateSql
                { domain := input.domain, generation := input.generation, manifestHash
                  activeKeyId := view.activeKeyId, appliedAt := now
                  commandId := input.commandId },
              insertManifestEventSql event]
          result :=
            { domain := input.domain, generation := input.generation, keyId := view.activeKeyId
              state := .manifestApplied, idempotent := false, occurredAt := now }
          expected :=
            { eventId, keyId := view.activeKeyId, generation := input.generation
              eventType := .manifestApplied, manifestHash := some manifestHash
              backupReference := none }
          refusal := cryptoConfigurationConflict })

/-- {lit}`registerStagedKey` up to its batch; {lit}`iv` is drawn for the canary. -/
def registerStagedKey (reads : LifecycleReads) (keyrings : Keyrings)
    (input : RegisterStagedKeyInput) (iv : String) (now : Nat) : Request Preparation := do
  demand input.isValid invalidRequest
  demand (matchesKeyIdPattern input.keyId && matchesBackupReferencePattern input.backupReference)
    invalidRequest
  let eventId := registrationEventId input.domain input.commandId
  let expected : ExpectedEvent :=
    { eventId, keyId := input.keyId, generation := input.generation
      eventType := .keyRegistered, manifestHash := none
      backupReference := some input.backupReference }
  let result : LifecycleResult :=
    { domain := input.domain, generation := input.generation, keyId := input.keyId
      state := .keyRegistered, idempotent := false, occurredAt := now }
  match readLifecycleEventByCommand (reads 0) input.commandId with
  | some existing => do
      demand (expected.matches existing) cryptoConfigurationConflict
      pure (.answered { result with idempotent := true, occurredAt := existing.occurredAt })
  | none => do
      let preflight := runCryptographicPreflight reads keyrings
      let view ← preflight.find input.domain cryptoConfigurationConflict
      let key ← view.findKey input.keyId
      demand (view.generation == some input.generation) cryptoConfigurationConflict
      let manifestHash ← found view.manifestHash cryptoConfigurationConflict
      demand (view.configurationState == .current && key.source == .slot &&
          key.state == .staged && !key.active && key.verifierIsValid && key.liveReferences == 0)
        cryptoConfigurationConflict
      demand (key.canary != .invalid) cryptoCanaryConflict
      demand (key.canary != .valid) cryptoKeyAlreadyRegistered
      let canary ← createKeyCanary keyrings input.domain input.keyId iv
      pure (.prepared
        { batch :=
            [insertRegisteredCanarySql
                { canaryId := canaryId input.domain input.keyId, domain := input.domain
                  keyId := input.keyId, formatVersion := canary.formatVersion
                  ciphertext := canary.ciphertext, iv := canary.iv, createdAt := now }
                input.generation manifestHash input.commandId,
              insertRegistrationEventSql
                { eventId, domain := input.domain, keyId := input.keyId
                  eventType := .keyRegistered, generation := input.generation, manifestHash
                  backupReference := some input.backupReference, commandId := input.commandId
                  occurredAt := now }]
          result
          expected := { expected with manifestHash := some manifestHash }
          refusal := cryptoKeyAlreadyRegistered })

/-- {lit}`LEGACY_BASELINE_GENERATION`. -/
def legacyBaselineGeneration : Nat := 1

/-- The digest that stands for the manifest of a baseline. -/
def baselineHash (input : BaselineReadableKeyInput) : Digest :=
  sha256Hex ("\x7b\"schema\":\"gongsuanyun.key-baseline.v1\",\"domain\":" ++
    jsonString input.domain.text ++ ",\"generation\":" ++ toString input.generation ++
    ",\"keyId\":" ++ jsonString input.keyId ++ ",\"materialVerifier\":" ++
    jsonString input.materialVerifier.hex ++ ",\"backupReference\":" ++
    jsonString input.backupReference ++ "\x7d")

/-- The domain has never been configured by a manifest that was applied. -/
def DomainPreflightView.isFreshFor (view : DomainPreflightView) (generation : Nat) : Bool :=
  (view.configurationState == .legacy && view.generation.isNone && view.manifestHash.isNone &&
      generation == legacyBaselineGeneration) ||
    (view.configurationState == .unapplied && view.generation == some generation &&
      view.manifestHash.isSome)

/-- {lit}`baselineReadableKey` up to its batch. -/
def baselineReadableKey (reads : LifecycleReads) (keyrings : Keyrings)
    (input : BaselineReadableKeyInput) (iv : String) (now : Nat) : Request Preparation := do
  demand input.isValid invalidRequest
  demand (matchesKeyIdPattern input.keyId && matchesBackupReferencePattern input.backupReference)
    invalidRequest
  let eventId := baselineEventId input.domain input.commandId
  let expected : ExpectedEvent :=
    { eventId, keyId := input.keyId, generation := input.generation
      eventType := .keyRegistered, manifestHash := some (baselineHash input)
      backupReference := some input.backupReference }
  let result : LifecycleResult :=
    { domain := input.domain, generation := input.generation, keyId := input.keyId
      state := .keyBaselined, idempotent := false, occurredAt := now }
  match readLifecycleEventByCommand (reads 0) input.commandId with
  | some existing => do
      demand (expected.matches existing) cryptoConfigurationConflict
      pure (.answered { result with idempotent := true, occurredAt := existing.occurredAt })
  | none => do
      let preflight := runCryptographicPreflight reads keyrings
      let view ← preflight.find input.domain cryptoConfigurationConflict
      let key ← view.findKey input.keyId
      demand (view.baselineEligibility == .eligible) cryptoConfigurationConflict
      demand (!(view.keys.any fun entry => entry.canary == .invalid)) cryptoCanaryConflict
      demand (view.isFreshFor input.generation && view.persistedGeneration.isNone &&
          key.state == .readable && key.canary == .missing && key.liveReferences == 0 &&
          key.legacyContentReferences == 0 && view.unknownReferencedKeyIds.isEmpty &&
          (view.keys.all fun entry => entry.liveReferences == 0) &&
          preflight.invalidPersistedReferences == 0) cryptoConfigurationConflict
      let actualVerifier ← createRuntimeKeyCustodyVerifier keyrings input.domain input.keyId
      demand (actualVerifier == input.materialVerifier) cryptoConfigurationConflict
      let keyCanary ← createKeyCanary keyrings input.domain input.keyId iv
      let canary : CanaryRow :=
        { canaryId := canaryId input.domain input.keyId, domain := input.domain
          keyId := input.keyId, formatVersion := keyCanary.formatVersion
          ciphertext := keyCanary.ciphertext, iv := keyCanary.iv, createdAt := now }
      let event : LifecycleEventRow :=
        { eventId, domain := input.domain, keyId := input.keyId, eventType := .keyRegistered
          generation := input.generation, manifestHash := baselineHash input
          backupReference := some input.backupReference, commandId := input.commandId
          occurredAt := now }
      pure (.prepared
        { batch :=
            [baselineReadableKeyCanarySql canary input.commandId,
              baselineReadableKeyEventSql event canary,
              consumeBaselineEligibilitySql event canary]
          result
          expected
          refusal := cryptoConfigurationConflict })

/-! ## States and steps -/

/-- A state: the database and its earlier states, newest first. -/
structure World where
  db : LifecycleDb
  past : List LifecycleDb

/-- An empty database. -/
def World.start (clock : Nat) : World where
  db := .empty clock
  past := []

/-- The states observed by reads of the given ages. -/
def World.reads (w : World) (ages : List Nat) : LifecycleReads := fun k =>
  (w.db :: w.past).getD (ages.getD k 0) w.db

/-- A new database state; the old one remains observable. -/
def World.commit (w : World) (db : LifecycleDb) : World where
  db := db
  past := w.db :: w.past

/-- Send a batch; an aborted one leaves the state alone. -/
def World.send (w : World) (batch : List LifecycleStatement) : World :=
  match runBatch w.db batch with
  | some db => w.commit db
  | none => w

/-- Send the batch of a command that is ready. -/
def World.perform (w : World) (preparation : Request Preparation) : World :=
  match preparation with
  | .ok (.prepared command) => w.send command.batch
  | .ok (.answered _) => w
  | .error _ => w

/-- One step: a command sends its batch, or something else happens to the database. -/
inductive Call where
  /-- Other services write the tables of the marketplace. -/
  | external (rows : (t : MarketplaceTable) → List (MarketplaceRow t))
  /-- An instance prepares the schema. -/
  | prepareSchema (now : Nat)
  | applyKeyringManifest (ages : List Nat) (keyrings : Keyrings)
      (input : ApplyKeyringManifestInput) (now : Nat)
  | registerStagedKey (ages : List Nat) (keyrings : Keyrings) (input : RegisterStagedKeyInput)
      (iv : String) (now : Nat)
  | baselineReadableKey (ages : List Nat) (keyrings : Keyrings)
      (input : BaselineReadableKeyInput) (iv : String) (now : Nat)

/-- The database after other services wrote. -/
def LifecycleDb.withMarketplace (db : LifecycleDb)
    (rows : (t : MarketplaceTable) → List (MarketplaceRow t)) : LifecycleDb where
  rows
    | .canaries => db.rows .canaries
    | .lifecycleEvents => db.rows .lifecycleEvents
    | .keyringStates => db.rows .keyringStates
    | .bootstrapEligibility => db.rows .bootstrapEligibility
    | .marketplace t => rows t
  clock := db.clock

def step (w : World) : Call → World
  | .external rows => w.commit (w.db.withMarketplace rows)
  | .prepareSchema now => w.send [insertEligibilitySql now]
  | .applyKeyringManifest ages keyrings input now =>
      w.perform (KeyLifecycle.applyKeyringManifest (w.reads ages) keyrings input now)
  | .registerStagedKey ages keyrings input iv now =>
      w.perform (KeyLifecycle.registerStagedKey (w.reads ages) keyrings input iv now)
  | .baselineReadableKey ages keyrings input iv now =>
      w.perform (KeyLifecycle.baselineReadableKey (w.reads ages) keyrings input iv now)

/-- The states of all runs. -/
def Reachable (w : World) : Prop :=
  ∃ clock calls, w = run step (World.start clock) calls

end KeyLifecycle
end TokenStreaming
