import TokenStreaming.Domain.Validation

/-!
# Marketplace domain - The supplier aggregate

A supplier is an event-sourced aggregate: commands check the current state and
return one event, and {lit}`rehydrateSupplier` folds a stored history back into a
state, refusing histories no sequence of commands could have written.

Main definitions:

- {lit}`registerSupplier`, {lit}`recordSupplierVerification`,
  {lit}`recordProviderAuthorization`, {lit}`revokeProviderAuthorization`,
  {lit}`activateSupplier`, {lit}`suspendSupplier`: the commands.
- {lit}`rehydrateSupplier`: the fold of a history, with all its refusals.

What accepted histories look like is the subject of the next module.
-/

namespace TokenStreaming
namespace Domain

/-! ## The aggregate's data -/

/-- {lit}`MARKETPLACE_SCHEMA_VERSION`. -/
def marketplaceSchemaVersion : Nat := 1

/-- {lit}`SupplierKind`. -/
inductive SupplierKind where
  | individual
  | organization
deriving DecidableEq

/-- {lit}`SupplierStatus`. -/
inductive SupplierStatus where
  | pendingVerification
  | active
  | suspended
  | rejected
deriving DecidableEq

def SupplierStatus.text : SupplierStatus → String
  | .pendingVerification => "pending-verification"
  | .active => "active"
  | .suspended => "suspended"
  | .rejected => "rejected"

/-- {lit}`SupplierVerificationKind`. -/
inductive SupplierVerificationKind where
  | identity
  | business
  | beneficialOwnership
  | tax
  | payout
deriving DecidableEq

def SupplierVerificationKind.text : SupplierVerificationKind → String
  | .identity => "identity"
  | .business => "business"
  | .beneficialOwnership => "beneficial-ownership"
  | .tax => "tax"
  | .payout => "payout"

/-- {lit}`SupplierVerificationStatus`. -/
inductive SupplierVerificationStatus where
  | verified
  | rejected
deriving DecidableEq

/-- {lit}`SupplierRegistrationInput`. -/
structure SupplierRegistrationInput where
  supplierId : String
  kind : SupplierKind
  legalName : String
  displayName : String
  countryCode : String
  taxResidenceCountryCode : String
deriving DecidableEq

/-- {lit}`SupplierVerificationInput`, also the stored verification. -/
structure SupplierVerification where
  verificationId : String
  kind : SupplierVerificationKind
  status : SupplierVerificationStatus
  evidenceRef : String
  completedAt : TimestampText
  expiresAt : Option TimestampText
deriving DecidableEq

/-- {lit}`ProviderAuthorizationStatus`. -/
inductive ProviderAuthorizationStatus where
  | pending
  | active
  | suspended
  | revoked
deriving DecidableEq

def ProviderAuthorizationStatus.text : ProviderAuthorizationStatus → String
  | .pending => "pending"
  | .active => "active"
  | .suspended => "suspended"
  | .revoked => "revoked"

/-- {lit}`CapacitySourceType`. -/
inductive CapacitySourceType where
  | apiProject
  | commercialAccount
  | subscriptionPlan
  | selfHostedLicense
deriving DecidableEq

/-- {lit}`CapacityAuthorizedUse`. -/
inductive CapacityAuthorizedUse where
  | managedInference
  | inferenceResale
deriving DecidableEq

/-- {lit}`CapacityMeteringMode`. -/
inductive CapacityMeteringMode where
  | providerReport
  | signedReceipt
  | dedicatedCounter
deriving DecidableEq

/-- {lit}`MarketplaceDataClass`. -/
inductive MarketplaceDataClass where
  | p0
  | p1
  | p2
  | p3
deriving DecidableEq

def MarketplaceDataClass.text : MarketplaceDataClass → String
  | .p0 => "P0"
  | .p1 => "P1"
  | .p2 => "P2"
  | .p3 => "P3"

/-- {lit}`CapacityLimits`. -/
structure CapacityLimits where
  requestsPerMinute : Nat
  tokensPerMinute : Nat
  concurrency : Nat
  maxOutputTokens : Nat
deriving DecidableEq

/-- {lit}`ProviderAuthorizationInput`, also the stored authorization. -/
structure ProviderAuthorization where
  authorizationId : String
  providerId : String
  sourceType : CapacitySourceType
  authorizedUse : CapacityAuthorizedUse
  meteringMode : CapacityMeteringMode
  evidenceRef : String
  modelPatterns : List String
  regionCodes : List String
  allowedDataClasses : List MarketplaceDataClass
  capacityCeiling : CapacityLimits
  validFrom : TimestampText
  validUntil : TimestampText
  status : ProviderAuthorizationStatus
deriving DecidableEq

/-- The payloads of {lit}`SupplierEvent`; the constructor is the event type. -/
inductive SupplierEventPayload where
  | registered (input : SupplierRegistrationInput)
  | verificationRecorded (verification : SupplierVerification)
  | providerAuthorizationRecorded (authorization : ProviderAuthorization)
  | providerAuthorizationRevoked (authorizationId reasonCode : String)
  | activated (activatedAt : TimestampText)
  | suspended (reasonCode : String)
deriving DecidableEq

/-- {lit}`MarketplaceEventEnvelope` of a supplier event. -/
structure SupplierEvent where
  schemaVersion : Nat
  eventId : String
  tenantId : String
  actorId : String
  causationId : String
  aggregateType : String
  aggregateId : String
  aggregateVersion : Nat
  occurredAt : TimestampText
  payload : SupplierEventPayload
deriving DecidableEq

/-- {lit}`SupplierState`. -/
structure SupplierState where
  supplierId : String
  tenantId : String
  kind : SupplierKind
  legalName : String
  displayName : String
  countryCode : String
  taxResidenceCountryCode : String
  status : SupplierStatus
  verifications : List SupplierVerification
  authorizations : List ProviderAuthorization
  version : Nat
  createdAt : TimestampText
  updatedAt : TimestampText
deriving DecidableEq

/-! ## Verification and authorization windows -/

/-- {lit}`REQUIRED_VERIFICATIONS`. -/
def requiredVerificationKinds : SupplierKind → List SupplierVerificationKind
  | .individual => [.identity, .tax, .payout]
  | .organization => [.business, .beneficialOwnership, .tax, .payout]

def hasCurrentVerification (state : SupplierState) (kind : SupplierVerificationKind)
    (instant : TimestampText) : Checked Bool :=
  match state.verifications.find? fun candidate =>
      candidate.kind == kind && candidate.status == .verified with
  | none => .ok false
  | some verification =>
      match verification.expiresAt with
      | none => .ok true
      | some expiresAt =>
          if expiresAt.text = "" then .ok true
          else do
            let expiry ← assertTimestamp expiresAt "expiresAt"
            let at' ← assertTimestamp instant "instant"
            pure (decide (expiry > at'))

/-- The members of a list that fail a check that may itself throw. -/
def rejectChecked {α : Type} (check : α → Checked Bool) : List α → Checked (List α)
  | [] => .ok []
  | x :: xs => do
      let passes ← check x
      let rest ← rejectChecked check xs
      pure (if passes then rest else x :: rest)

/-- {lit}`Array.some` with a predicate that may throw; it stops at the first hit. -/
def someChecked {α : Type} (check : α → Checked Bool) : List α → Checked Bool
  | [] => .ok false
  | x :: xs => do
      if ← check x then pure true else someChecked check xs

def missingRequiredVerificationKinds (state : SupplierState) (instant : TimestampText) :
    Checked (List SupplierVerificationKind) :=
  rejectChecked (fun kind => hasCurrentVerification state kind instant)
    (requiredVerificationKinds state.kind)

def isAuthorizationActive (authorization : ProviderAuthorization) (instant : TimestampText) :
    Checked Bool :=
  if authorization.status = .active then
    isActiveAt authorization.validFrom authorization.validUntil instant
  else .ok false

/-! ## Commands -/

def assertSupplierWritable (state : SupplierState) : Checked Unit :=
  ensure (state.status != .suspended && state.status != .rejected)
    { code := .invalidSupplierState
      message := "Supplier is not writable in its current state."
      details := [("status", .text state.status.text)] }

def assertStateContext (state : SupplierState) (context : MarketplaceCommandContext) :
    Checked Unit := do
  assertContext context
  assertTenant state.tenantId context
  assertCommandNotBefore state.updatedAt context

/-- {lit}`supplierEvent`: the next event of the aggregate. -/
def supplierEvent (state : SupplierState) (context : MarketplaceCommandContext)
    (payload : SupplierEventPayload) : SupplierEvent where
  schemaVersion := marketplaceSchemaVersion
  eventId := context.eventId
  tenantId := context.tenantId
  actorId := context.actorId
  causationId := context.commandId
  aggregateType := "supplier"
  aggregateId := state.supplierId
  aggregateVersion := state.version + 1
  occurredAt := context.occurredAt
  payload := payload

def registerSupplier (input : SupplierRegistrationInput) (context : MarketplaceCommandContext) :
    Checked SupplierEvent := do
  assertContext context
  assertIdentifier input.supplierId "supplierId"
  assertText input.legalName "legalName" 200
  assertText input.displayName "displayName" 120
  assertCountryCode input.countryCode "countryCode"
  assertCountryCode input.taxResidenceCountryCode "taxResidenceCountryCode"
  pure
    { schemaVersion := marketplaceSchemaVersion
      eventId := context.eventId
      tenantId := context.tenantId
      actorId := context.actorId
      causationId := context.commandId
      aggregateType := "supplier"
      aggregateId := input.supplierId
      aggregateVersion := 1
      occurredAt := context.occurredAt
      payload := .registered input }

/-- The optional expiry of a verification lies after its completion. -/
def assertVerificationExpiry (expiresAt : Option TimestampText) (completedAt : Int) :
    Checked Unit :=
  match expiresAt with
  | none => .ok ()
  | some expiresAt =>
      if expiresAt.text = "" then .ok ()
      else do
        let expiry ← assertTimestamp expiresAt "expiresAt"
        ensure (decide (completedAt < expiry))
          { code := .invalidArgument, message := "expiresAt must be later than completedAt." }

def recordSupplierVerification (state : SupplierState) (input : SupplierVerification)
    (context : MarketplaceCommandContext) : Checked SupplierEvent := do
  assertStateContext state context
  assertSupplierWritable state
  assertIdentifier input.verificationId "verificationId"
  assertIdentifier input.evidenceRef "evidenceRef"
  let completedAt ← assertTimestamp input.completedAt "completedAt"
  let occurredAt ← assertTimestamp context.occurredAt "occurredAt"
  ensure (decide (completedAt ≤ occurredAt))
    { code := .invalidArgument
      message := "completedAt cannot be later than the event timestamp." }
  assertVerificationExpiry input.expiresAt completedAt
  ensure (!state.verifications.any fun verification =>
      verification.verificationId == input.verificationId && verification.kind != input.kind)
    { code := .duplicateRecord
      message := "verificationId is already used for another verification kind."
      details := [("verificationId", .text input.verificationId)] }
  pure (supplierEvent state context (.verificationRecorded input))

def validateModelPattern (value : String) : Checked Unit := do
  assertText value "modelPattern" 120
  -- A wildcard may only be the last character.
  ensure (!decide ('*' ∈ value.toList.dropLast))
    { code := .invalidArgument
      message := "A model wildcard is allowed only as the final character." }

def assertCapacityLimits (value : CapacityLimits) (label : String) : Checked Unit := do
  assertPositiveSafeInteger value.requestsPerMinute (label ++ ".requestsPerMinute") 1000000
  assertPositiveSafeInteger value.tokensPerMinute (label ++ ".tokensPerMinute") 10000000000
  assertPositiveSafeInteger value.concurrency (label ++ ".concurrency") 100000
  assertPositiveSafeInteger value.maxOutputTokens (label ++ ".maxOutputTokens") 10000000

def recordProviderAuthorization (state : SupplierState) (input : ProviderAuthorization)
    (context : MarketplaceCommandContext) : Checked SupplierEvent := do
  assertStateContext state context
  assertSupplierWritable state
  assertIdentifier input.authorizationId "authorizationId"
  assertIdentifier input.providerId "providerId"
  assertIdentifier input.evidenceRef "evidenceRef"
  assertAllowedValue input.status.text "authorization.status" ["pending", "active", "suspended"]
  let validFrom ← assertTimestamp input.validFrom "validFrom"
  let validUntil ← assertTimestamp input.validUntil "validUntil"
  ensure (decide (validFrom < validUntil))
    { code := .invalidArgument, message := "validUntil must be later than validFrom." }
  assertUniqueStrings input.modelPatterns "modelPatterns" validateModelPattern
  assertUniqueStrings input.regionCodes "regionCodes" fun value =>
    assertCountryCode value "regionCode" true
  assertUniqueStrings (input.allowedDataClasses.map MarketplaceDataClass.text)
    "allowedDataClasses" fun value =>
      assertAllowedValue value "allowedDataClass" ["P0", "P1", "P2", "P3"]
  ensure (!(input.allowedDataClasses.contains .p2 || input.allowedDataClasses.contains .p3))
    { code := .unsupportedDataClass
      message := "P2 and P3 authorizations require a future dedicated compliance policy." }
  assertCapacityLimits input.capacityCeiling "capacityCeiling"
  ensure (!state.authorizations.any fun authorization =>
      authorization.authorizationId == input.authorizationId)
    { code := .duplicateRecord
      message := "authorizationId already exists."
      details := [("authorizationId", .text input.authorizationId)] }
  pure (supplierEvent state context (.providerAuthorizationRecorded input))

/-- {lit}`authorizations.find` by id. -/
def SupplierState.findAuthorization (state : SupplierState) (authorizationId : String) :
    Option ProviderAuthorization :=
  state.authorizations.find? fun candidate => candidate.authorizationId == authorizationId

/-- The authorization exists and is not yet revoked. -/
def SupplierState.hasUnrevoked (state : SupplierState) (authorizationId : String) : Bool :=
  match state.findAuthorization authorizationId with
  | some authorization => authorization.status != .revoked
  | none => false

def revokeProviderAuthorization (state : SupplierState) (authorizationId reasonCode : String)
    (context : MarketplaceCommandContext) : Checked SupplierEvent := do
  assertStateContext state context
  assertIdentifier authorizationId "authorizationId"
  assertIdentifier reasonCode "reasonCode"
  ensure (state.hasUnrevoked authorizationId)
    { code := .authorizationRequired
      message := "An existing non-revoked authorization is required."
      details := [("authorizationId", .text authorizationId)] }
  pure (supplierEvent state context (.providerAuthorizationRevoked authorizationId reasonCode))

def activateSupplier (state : SupplierState) (context : MarketplaceCommandContext) :
    Checked SupplierEvent := do
  assertStateContext state context
  ensure (state.status == .pendingVerification)
    { code := .invalidSupplierState
      message := "Only a pending supplier can be activated."
      details := [("status", .text state.status.text)] }
  let missing ← missingRequiredVerificationKinds state context.occurredAt
  ensure missing.isEmpty
    { code := .verificationIncomplete
      message := "Supplier verification is incomplete."
      details := [("missing", .texts (missing.map SupplierVerificationKind.text))] }
  let authorized ← someChecked (fun authorization =>
    isAuthorizationActive authorization context.occurredAt) state.authorizations
  ensure authorized
    { code := .authorizationRequired
      message := "At least one active, metered provider authorization is required." }
  pure (supplierEvent state context (.activated context.occurredAt))

def suspendSupplier (state : SupplierState) (reasonCode : String)
    (context : MarketplaceCommandContext) : Checked SupplierEvent := do
  assertStateContext state context
  assertIdentifier reasonCode "reasonCode"
  ensure (state.status != .suspended && state.status != .rejected)
    { code := .invalidSupplierState
      message := "Supplier cannot be suspended from its current state."
      details := [("status", .text state.status.text)] }
  pure (supplierEvent state context (.suspended reasonCode))

/-! ## Rehydration -/

/-- {lit}`invalidHistory`. -/
def invalidHistory (message : String) : MarketplaceDomainError where
  code := .invalidEventHistory
  message := message

/-- {lit}`advance`: the state after an event that changes some fields. -/
def advance (state : SupplierState) (event : SupplierEvent) : SupplierState :=
  { state with version := event.aggregateVersion, updatedAt := event.occurredAt }

/-- A supplier in status suspended or rejected takes no more records. -/
def SupplierState.isWritable (state : SupplierState) : Bool :=
  state.status != .suspended && state.status != .rejected

/-- The conditions under which an activation event is accepted. -/
def activationHolds (state : SupplierState) (event : SupplierEvent)
    (activatedAt : TimestampText) : Checked Bool :=
  if state.status ≠ .pendingVerification ∨ activatedAt.text ≠ event.occurredAt.text then
    .ok false
  else do
    let missing ← missingRequiredVerificationKinds state event.occurredAt
    if missing.isEmpty then
      someChecked (fun authorization => isAuthorizationActive authorization event.occurredAt)
        state.authorizations
    else pure false

/-- The state a registration event creates. -/
def SupplierState.ofRegistration (event : SupplierEvent) (input : SupplierRegistrationInput) :
    SupplierState where
  supplierId := input.supplierId
  tenantId := event.tenantId
  kind := input.kind
  legalName := input.legalName
  displayName := input.displayName
  countryCode := input.countryCode
  taxResidenceCountryCode := input.taxResidenceCountryCode
  status := .pendingVerification
  verifications := []
  authorizations := []
  version := event.aggregateVersion
  createdAt := event.occurredAt
  updatedAt := event.occurredAt

/-- Mark the named authorization as revoked. -/
def revokeIn (authorizationId : String) (authorizations : List ProviderAuthorization) :
    List ProviderAuthorization :=
  authorizations.map fun authorization =>
    if authorization.authorizationId = authorizationId then
      { authorization with status := .revoked }
    else authorization

def applySupplierEvent (state? : Option SupplierState) (event : SupplierEvent) :
    Checked SupplierState :=
  match event.payload, state? with
  | .registered _, some _ => .error (invalidHistory "Supplier cannot be registered twice.")
  | .registered input, none => .ok (SupplierState.ofRegistration event input)
  | _, none => .error (invalidHistory "Supplier state is missing.")
  | .verificationRecorded verification, some state => do
      ensure state.isWritable
        (invalidHistory "A non-writable supplier contains a verification event.")
      ensure (!state.verifications.any fun existing =>
          existing.verificationId == verification.verificationId &&
            existing.kind != verification.kind)
        (invalidHistory "A verificationId is reused across verification kinds.")
      pure { advance state event with
        verifications :=
          (state.verifications.filter fun existing => existing.kind != verification.kind) ++
            [verification] }
  | .providerAuthorizationRecorded authorization, some state => do
      ensure state.isWritable
        (invalidHistory "A non-writable supplier contains an authorization event.")
      ensure (!state.authorizations.any fun existing =>
          existing.authorizationId == authorization.authorizationId)
        (invalidHistory "A provider authorization is recorded more than once.")
      pure { advance state event with authorizations := state.authorizations ++ [authorization] }
  | .providerAuthorizationRevoked authorizationId _, some state => do
      ensure (state.hasUnrevoked authorizationId)
        (invalidHistory "A revocation event requires an existing non-revoked authorization.")
      pure { advance state event with
        authorizations := revokeIn authorizationId state.authorizations }
  | .activated activatedAt, some state => do
      let holds ← activationHolds state event activatedAt
      ensure holds (invalidHistory "Supplier activation invariants are not satisfied.")
      pure { advance state event with status := .active }
  | .suspended _, some state => do
      ensure state.isWritable (invalidHistory "Supplier suspension transition is invalid.")
      pure { advance state event with status := .suspended }

/-- {lit}`assertHistoryIdentifier`. -/
def assertHistoryIdentifier (value label : String) : Checked Unit :=
  ensure (matchesIdentifierPattern value)
    (invalidHistory ("Supplier event " ++ label ++ " is invalid."))

/-- {lit}`historyTimestamp`. -/
def historyTimestamp (value : TimestampText) (label : String) : Checked Int :=
  match assertTimestamp value label with
  | .ok timestamp => .ok timestamp
  | .error _ => .error (invalidHistory ("Supplier event " ++ label ++ " is invalid."))

/-- The loop variables of {lit}`rehydrateSupplier`. -/
structure Rehydration where
  state : Option SupplierState := none
  eventIds : List String := []
  causationIds : List String := []
  previousOccurredAt : Option Int := none
deriving DecidableEq

/-- {lit}`state?.version ?? 0`. -/
def Rehydration.version (progress : Rehydration) : Nat :=
  match progress.state with
  | some state => state.version
  | none => 0

/-- The event belongs to the aggregate rehydrated so far. -/
def Rehydration.sameAggregate (progress : Rehydration) (event : SupplierEvent) : Bool :=
  match progress.state with
  | some state => event.aggregateId == state.supplierId && event.tenantId == state.tenantId
  | none => true

/-- A registration payload names the aggregate of its event. -/
def SupplierEvent.registersAggregate (event : SupplierEvent) : Bool :=
  match event.payload with
  | .registered input => event.aggregateId == input.supplierId
  | _ => true

def SupplierEvent.isRegistration (event : SupplierEvent) : Bool :=
  match event.payload with
  | .registered _ => true
  | _ => false

/-- One iteration of the loop of {lit}`rehydrateSupplier`. -/
def rehydrateStep (progress : Rehydration) (event : SupplierEvent) : Checked Rehydration := do
  ensure (event.schemaVersion == marketplaceSchemaVersion && event.aggregateType == "supplier")
    (invalidHistory "Unsupported supplier event envelope.")
  assertHistoryIdentifier event.eventId "eventId"
  assertHistoryIdentifier event.tenantId "tenantId"
  assertHistoryIdentifier event.actorId "actorId"
  assertHistoryIdentifier event.causationId "causationId"
  assertHistoryIdentifier event.aggregateId "aggregateId"
  ensure (0 < event.aggregateVersion && event.aggregateVersion ≤ maxSafeInteger)
    (invalidHistory "Supplier aggregate versions must be positive safe integers.")
  let occurredAt ← historyTimestamp event.occurredAt "occurredAt"
  ensure (progress.previousOccurredAt.all fun previous => decide (previous ≤ occurredAt))
    (invalidHistory "Supplier event timestamps cannot move backwards.")
  ensure (!progress.eventIds.contains event.eventId)
    (invalidHistory "Duplicate eventId in supplier history.")
  ensure (!progress.causationIds.contains event.causationId)
    (invalidHistory "Duplicate causationId in supplier history.")
  ensure (event.aggregateVersion == progress.version + 1)
    (invalidHistory ("Expected supplier aggregate version " ++ toString (progress.version + 1) ++
      ", received " ++ toString event.aggregateVersion ++ "."))
  ensure (progress.state.isSome || event.isRegistration)
    (invalidHistory "The first supplier event must be supplier.registered.")
  ensure event.registersAggregate
    (invalidHistory "Registered supplier payload does not match its aggregateId.")
  ensure (progress.sameAggregate event)
    (invalidHistory "Supplier history crosses aggregate or tenant boundaries.")
  let state ← applySupplierEvent progress.state event
  pure
    { state := some state
      eventIds := event.eventId :: progress.eventIds
      causationIds := event.causationId :: progress.causationIds
      previousOccurredAt := some occurredAt }

/-- The loop of {lit}`rehydrateSupplier`. -/
def rehydrateLoop : Rehydration → List SupplierEvent → Checked Rehydration
  | progress, [] => .ok progress
  | progress, event :: events => do
      let next ← rehydrateStep progress event
      rehydrateLoop next events

def rehydrateSupplier (events : List SupplierEvent) : Checked (Option SupplierState) := do
  let progress ← rehydrateLoop {} events
  pure progress.state

end Domain
end TokenStreaming
