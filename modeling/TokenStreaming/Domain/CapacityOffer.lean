import TokenStreaming.Domain.Supplier

/-!
# Marketplace domain - Capacity offers

The publication check: an offer stays inside the provider, model, region,
data-class, capacity and time scope of an active authorization.

Main results:

- Theorem {lit}`publishCapacityOffer_concurrency`: a published offer admits at
  least one concurrent request.
-/

namespace TokenStreaming
namespace Domain

/-- {lit}`CapacityRateComponent`. -/
structure CapacityRateComponent where
  unit : String
  amountMicros : String
deriving DecidableEq

/-- {lit}`CapacityOfferInput`. -/
structure CapacityOfferInput where
  offerId : String
  authorizationId : String
  providerId : String
  model : String
  serviceTier : Option String
  regionCode : String
  dataClasses : List MarketplaceDataClass
  limits : CapacityLimits
  currency : String
  rates : List CapacityRateComponent
  validFrom : TimestampText
  validUntil : TimestampText
deriving DecidableEq

/-- {lit}`CapacityOfferPublishedEvent`. -/
structure CapacityOfferPublishedEvent where
  schemaVersion : Nat
  eventId : String
  tenantId : String
  actorId : String
  causationId : String
  aggregateId : String
  aggregateVersion : Nat
  occurredAt : TimestampText
  offer : CapacityOfferInput
  supplierId : String
  sourceType : CapacitySourceType
deriving DecidableEq

def matchesPattern (value pattern : String) : Bool :=
  if pattern = "*" then true
  else if pattern.toList.getLast? = some '*' then
    pattern.toList.dropLast.isPrefixOf value.toList
  else value == pattern

def isWithinCapacityCeiling (requested ceiling : CapacityLimits) : Bool :=
  requested.requestsPerMinute ≤ ceiling.requestsPerMinute &&
    requested.tokensPerMinute ≤ ceiling.tokensPerMinute &&
    requested.concurrency ≤ ceiling.concurrency &&
    requested.maxOutputTokens ≤ ceiling.maxOutputTokens

/-- The loop of {lit}`assertRates`, with the units seen so far. -/
def assertRatesFrom : List String → List CapacityRateComponent → Checked Unit
  | _, [] => .ok ()
  | units, rate :: rates => do
      assertText rate.unit "rate.unit" 80
      assertPositiveDecimalInteger rate.amountMicros "rate.amountMicros"
      ensure (!units.contains rate.unit)
        { code := .duplicateRecord
          message := "Duplicate rate unit " ++ rate.unit ++ "."
          details := [("unit", .text rate.unit)] }
      assertRatesFrom (rate.unit :: units) rates

def assertRates (input : CapacityOfferInput) : Checked Unit := do
  ensure (input.rates.length != 0 && input.rates.length ≤ 100)
    { code := .invalidArgument, message := "rates must contain 1-100 components." }
  assertRatesFrom [] input.rates

/-- The error for an authorization that is missing or not active. -/
def activeAuthorizationRequired (authorizationId : String) : MarketplaceDomainError where
  code := .authorizationRequired
  message := "An active provider authorization is required."
  details := [("authorizationId", .text authorizationId)]

/-- {lit}`assertAuthorizationScope` for an authorization that was found. -/
def assertAuthorizationScope (authorization : ProviderAuthorization) (input : CapacityOfferInput)
    (instant : TimestampText) : Checked Unit := do
  let active ← isAuthorizationActive authorization instant
  ensure active (activeAuthorizationRequired input.authorizationId)
  let providerMatches := authorization.providerId == input.providerId
  let modelMatches := authorization.modelPatterns.any fun pattern =>
    matchesPattern input.model pattern
  let regionMatches := authorization.regionCodes.contains "*" ||
    authorization.regionCodes.contains input.regionCode
  let dataClassesMatch := input.dataClasses.all fun dataClass =>
    authorization.allowedDataClasses.contains dataClass
  let capacityMatches := isWithinCapacityCeiling input.limits authorization.capacityCeiling
  ensure (providerMatches && modelMatches && regionMatches && dataClassesMatch && capacityMatches)
    { code := .authorizationScopeMismatch
      message := "Offer is outside the authorized provider, model, region, data-class, " ++
        "or capacity scope."
      details := [("providerMatches", .flag providerMatches), ("modelMatches", .flag modelMatches),
        ("regionMatches", .flag regionMatches), ("dataClassesMatch", .flag dataClassesMatch),
        ("capacityMatches", .flag capacityMatches)] }

/-- The authorization the offer names, after {lit}`assertAuthorizationScope`. -/
def scopedAuthorization (supplier : SupplierState) (input : CapacityOfferInput)
    (instant : TimestampText) : Checked ProviderAuthorization :=
  match supplier.findAuthorization input.authorizationId with
  | some authorization =>
      (assertAuthorizationScope authorization input instant).map fun _ => authorization
  | none => .error (activeAuthorizationRequired input.authorizationId)

/-- The service tier is optional. -/
def assertServiceTier : Option String → Checked Unit
  | none => .ok ()
  | some serviceTier => assertText serviceTier "serviceTier" 80

def publishCapacityOffer (supplier : SupplierState) (input : CapacityOfferInput)
    (context : MarketplaceCommandContext) : Checked CapacityOfferPublishedEvent := do
  assertContext context
  assertTenant supplier.tenantId context
  assertCommandNotBefore supplier.updatedAt context
  ensure (supplier.status == .active)
    { code := .invalidSupplierState
      message := "Only an active supplier can publish capacity."
      details := [("status", .text supplier.status.text)] }
  let missing ← missingRequiredVerificationKinds supplier context.occurredAt
  ensure missing.isEmpty
    { code := .verificationIncomplete
      message := "Supplier verification is no longer current."
      details := [("missing", .texts (missing.map SupplierVerificationKind.text))] }
  assertIdentifier input.offerId "offerId"
  assertIdentifier input.authorizationId "authorizationId"
  assertIdentifier input.providerId "providerId"
  assertText input.model "model" 120
  assertServiceTier input.serviceTier
  assertCountryCode input.regionCode "regionCode"
  assertCurrency input.currency
  assertUniqueStrings (input.dataClasses.map MarketplaceDataClass.text) "dataClasses" fun value =>
    assertAllowedValue value "dataClass" ["P0", "P1", "P2", "P3"]
  ensure (!(input.dataClasses.contains .p2 || input.dataClasses.contains .p3))
    { code := .unsupportedDataClass
      message := "P2 and P3 capacity offers require a future dedicated compliance policy." }
  assertCapacityLimits input.limits "limits"
  assertRates input
  let validFrom ← assertTimestamp input.validFrom "validFrom"
  let validUntil ← assertTimestamp input.validUntil "validUntil"
  let occurredAt ← assertTimestamp context.occurredAt "occurredAt"
  ensure (decide (validFrom < validUntil) && decide (occurredAt < validUntil))
    { code := .invalidArgument
      message := "Offer validity must end after both its start and publication time." }
  let authorization ← scopedAuthorization supplier input context.occurredAt
  let start ← assertTimestamp authorization.validFrom "authorization.validFrom"
  ensure (decide (start ≤ validFrom))
    { code := .authorizationScopeMismatch
      message := "Offer validity exceeds the provider authorization window." }
  let stop ← assertTimestamp authorization.validUntil "authorization.validUntil"
  ensure (decide (validUntil ≤ stop))
    { code := .authorizationScopeMismatch
      message := "Offer validity exceeds the provider authorization window." }
  pure
    { schemaVersion := marketplaceSchemaVersion
      eventId := context.eventId
      tenantId := context.tenantId
      actorId := context.actorId
      causationId := context.commandId
      aggregateId := input.offerId
      aggregateVersion := 1
      occurredAt := context.occurredAt
      offer := input
      supplierId := supplier.supplierId
      sourceType := authorization.sourceType }

theorem assertCapacityLimits_eq_ok {limits : CapacityLimits} {label : String}
    (h : assertCapacityLimits limits label = .ok ()) : 0 < limits.concurrency := by
  simp only [assertCapacityLimits, assertPositiveSafeInteger, Except.bind_eq_ok, ensure_eq_ok,
    exists_unit, Bool.and_eq_true, decide_eq_true_eq] at h
  exact h.2.2.1.1.1

/-- A published offer admits at least one concurrent request. -/
theorem publishCapacityOffer_concurrency {supplier : SupplierState} {input : CapacityOfferInput}
    {context : MarketplaceCommandContext} {event : CapacityOfferPublishedEvent}
    (h : publishCapacityOffer supplier input context = .ok event) :
    0 < event.offer.limits.concurrency := by
  simp only [publishCapacityOffer, Except.bind_eq_ok, ensure_eq_ok, exists_unit,
    Except.pure_eq_ok] at h
  obtain ⟨-, -, -, -, _, -, -, -, -, -, -, -, -, -, -, -, hlimits, -, _, -, _, -, _, -, -, _, -,
    _, -, -, _, -, -, rfl⟩ := h
  exact assertCapacityLimits_eq_ok hlimits

end Domain
end TokenStreaming
