import TokenStreaming.Domain.TimeWindows

/-!
# Marketplace domain - When an offer is published

{lit}`publishCapacityOffer` conjoins the supplier's standing, the scope of the
authorization and three overlapping windows.  {lit}`OfferAuthorized` states them over
sets, patterns and instants; for an offer whose fields are valid the two agree.

Main results:

- Theorem {lit}`matchesPattern_iff`: equal, {lit}`*`, or a text before the final {lit}`*`.
- Theorem {lit}`publishCapacityOffer_iff_authorized`: an offer with valid fields is
  published exactly when it is authorized, with exactly its own terms.
-/

namespace TokenStreaming
namespace Domain

/-! ## The published offer read back -/

/-- {lit}`CapacityOfferState`; its status is always active. -/
structure CapacityOfferState where
  offer : CapacityOfferInput
  supplierId : String
  sourceType : CapacitySourceType
  tenantId : String
  version : Nat
  publishedAt : TimestampText
deriving DecidableEq

/-- {lit}`rehydrateCapacityOffer`; the aggregate type holds by typing. -/
def rehydrateCapacityOffer : List CapacityOfferPublishedEvent → Checked (Option CapacityOfferState)
  | [] => .ok none
  | [event] => do
      ensure (event.schemaVersion == marketplaceSchemaVersion && event.aggregateVersion == 1 &&
          event.aggregateId == event.offer.offerId)
        (invalidHistory "Invalid capacity-offer event envelope.")
      pure (some
        { offer := event.offer
          supplierId := event.supplierId
          sourceType := event.sourceType
          tenantId := event.tenantId
          version := event.aggregateVersion
          publishedAt := event.occurredAt })
  | _ => .error (invalidHistory "Only the initial capacity-offer event is supported in this slice.")

/-! ## The scope of an authorization -/

/-- The pattern is the model, {lit}`*`, or a text the model begins with before a final
{lit}`*`. -/
def PatternMatches (model pattern : String) : Prop :=
  model = pattern ∨ pattern = "*" ∨
    ∃ stem, pattern.toList = stem ++ ['*'] ∧ stem <+: model.toList

theorem matchesPattern_iff {model pattern : String} :
    matchesPattern model pattern = true ↔ PatternMatches model pattern := by
  unfold matchesPattern PatternMatches
  by_cases hstar : pattern = "*"
  · simp [hstar]
  · rw [if_neg hstar]
    by_cases hlast : pattern.toList.getLast? = some '*'
    · rw [if_pos hlast, List.isPrefixOf_iff_prefix]
      have hsplit : pattern.toList = pattern.toList.dropLast ++ ['*'] :=
        (List.dropLast_append_getLast? '*' hlast).symm
      constructor
      · intro hstem
        exact Or.inr (Or.inr ⟨_, hsplit, hstem⟩)
      · rintro (rfl | heq | ⟨stem, hstem, hbegins⟩)
        · exact List.dropLast_prefix _
        · exact absurd heq hstar
        · rw [hstem, List.dropLast_concat]
          exact hbegins
    · rw [if_neg hlast, beq_iff_eq]
      constructor
      · exact Or.inl
      · rintro (heq | heq | ⟨stem, hstem, -⟩)
        · exact heq
        · exact absurd heq hstar
        · rw [hstem, List.getLast?_concat] at hlast
          exact absurd rfl hlast

/-- The offer is inside the authorization's provider, model, region, data-class and
capacity scope. -/
structure InScope (authorization : ProviderAuthorization) (input : CapacityOfferInput) :
    Prop where
  provider : authorization.providerId = input.providerId
  model : ∃ pattern ∈ authorization.modelPatterns, PatternMatches input.model pattern
  region : "*" ∈ authorization.regionCodes ∨ input.regionCode ∈ authorization.regionCodes
  dataClasses : ∀ dataClass ∈ input.dataClasses, dataClass ∈ authorization.allowedDataClasses
  requestsPerMinute :
    input.limits.requestsPerMinute ≤ authorization.capacityCeiling.requestsPerMinute
  tokensPerMinute : input.limits.tokensPerMinute ≤ authorization.capacityCeiling.tokensPerMinute
  concurrency : input.limits.concurrency ≤ authorization.capacityCeiling.concurrency
  maxOutputTokens : input.limits.maxOutputTokens ≤ authorization.capacityCeiling.maxOutputTokens

theorem assertAuthorizationScope_eq_ok {authorization : ProviderAuthorization}
    {input : CapacityOfferInput} {instant : TimestampText} {t : Int} (ht : instant.Reads t) :
    assertAuthorizationScope authorization input instant = .ok () ↔
      authorization.OpenAt t ∧ InScope authorization input := by
  simp only [assertAuthorizationScope, Except.bind_eq_ok, ensure_eq_ok, exists_unit]
  have hactive : (∃ active, isAuthorizationActive authorization instant = .ok active ∧
      active = true) ↔ authorization.OpenAt t := by
    rw [← isAuthorizationActive_eq_true ht]
    constructor
    · rintro ⟨active, hok, rfl⟩
      exact hok
    · intro hok
      exact ⟨true, hok, rfl⟩
  simp only [← and_assoc, exists_and_right, hactive]
  refine and_congr_right fun _ => ?_
  simp only [Bool.and_eq_true, Bool.or_eq_true, beq_iff_eq, List.any_eq_true, List.all_eq_true,
    List.contains_eq_mem, decide_eq_true_eq, isWithinCapacityCeiling, matchesPattern_iff]
  constructor
  · rintro ⟨⟨⟨⟨hprovider, hmodel⟩, hregion⟩, hclasses⟩, ⟨⟨hrequests, htokens⟩, hconcurrency⟩,
      houtput⟩
    exact ⟨hprovider, hmodel, hregion, hclasses, hrequests, htokens, hconcurrency, houtput⟩
  · rintro ⟨hprovider, hmodel, hregion, hclasses, hrequests, htokens, hconcurrency, houtput⟩
    exact ⟨⟨⟨⟨hprovider, hmodel⟩, hregion⟩, hclasses⟩, ⟨⟨hrequests, htokens⟩, hconcurrency⟩,
      houtput⟩

/-- The authorization found by its id, inside its scope. -/
theorem scopedAuthorization_eq_ok {supplier : SupplierState} {input : CapacityOfferInput}
    {instant : TimestampText} {t : Int} (ht : instant.Reads t)
    {authorization : ProviderAuthorization} :
    scopedAuthorization supplier input instant = .ok authorization ↔
      supplier.findAuthorization input.authorizationId = some authorization ∧
        authorization.OpenAt t ∧ InScope authorization input := by
  unfold scopedAuthorization
  cases hfound : supplier.findAuthorization input.authorizationId with
  | none => simp
  | some found =>
      simp only [Option.some.injEq]
      rw [← assertAuthorizationScope_eq_ok ht]
      cases hscope : assertAuthorizationScope found input instant with
      | error error =>
          constructor
          · intro h
            cases h
          · rintro ⟨rfl, hok⟩
            rw [hscope] at hok
            cases hok
      | ok u =>
          constructor
          · intro h
            obtain rfl := Except.ok.inj h
            exact ⟨rfl, hscope⟩
          · rintro ⟨rfl, -⟩
            rfl

/-! ## Authorized offers -/

/-- The fields of the offer pass their validators. -/
structure OfferFieldsValid (input : CapacityOfferInput) : Prop where
  offerId : assertIdentifier input.offerId "offerId" = .ok ()
  authorizationId : assertIdentifier input.authorizationId "authorizationId" = .ok ()
  providerId : assertIdentifier input.providerId "providerId" = .ok ()
  model : assertText input.model "model" 120 = .ok ()
  serviceTier : assertServiceTier input.serviceTier = .ok ()
  regionCode : assertCountryCode input.regionCode "regionCode" = .ok ()
  currency : assertCurrency input.currency = .ok ()
  dataClasses : assertUniqueStrings (input.dataClasses.map MarketplaceDataClass.text)
    "dataClasses" (fun value => assertAllowedValue value "dataClass" ["P0", "P1", "P2", "P3"]) =
      .ok ()
  limits : assertCapacityLimits input.limits "limits" = .ok ()
  rates : assertRates input = .ok ()
  validFrom : input.validFrom.Readable
  validUntil : input.validUntil.Readable

/-- The supplier may publish the offer under one of its authorizations at the instant. -/
structure OfferAuthorized (supplier : SupplierState) (input : CapacityOfferInput)
    (authorization : ProviderAuthorization) (t : Int) : Prop where
  active : supplier.status = .active
  verified : ∀ kind ∈ requiredVerificationKinds supplier.kind,
    ∃ verification ∈ supplier.verifications, verification.kind = kind ∧
      verification.status = .verified ∧ verification.CurrentAt t
  referenced : authorization ∈ supplier.authorizations ∧
    authorization.authorizationId = input.authorizationId
  openNow : authorization.OpenAt t
  /-- The offer's window is not empty, ends behind the publication and lies in the
  authorization's. -/
  window : ∃ validFrom validUntil start stop, input.validFrom.Reads validFrom ∧
    input.validUntil.Reads validUntil ∧ authorization.validFrom.Reads start ∧
    authorization.validUntil.Reads stop ∧ validFrom < validUntil ∧ t < validUntil ∧
    start ≤ validFrom ∧ validUntil ≤ stop
  supported : ∀ dataClass ∈ input.dataClasses, dataClass = .p0 ∨ dataClass = .p1
  scope : InScope authorization input

/-- A rehydrated state holds at most one verification of a kind. -/
theorem HeldRecords.verified_eq_some {history : List SupplierEvent} {state : SupplierState}
    (h : HeldRecords history state) {kind : SupplierVerificationKind}
    {verification : SupplierVerification} :
    state.verified kind = some verification ↔
      verification ∈ state.verifications ∧ verification.kind = kind ∧
        verification.status = .verified := by
  unfold SupplierState.verified
  constructor
  · intro hfound
    have hholds := List.find?_some hfound
    rw [Bool.and_eq_true, beq_iff_eq, beq_iff_eq] at hholds
    exact ⟨List.mem_of_find?_eq_some hfound, hholds⟩
  · rintro ⟨hmem, hkind, hstatus⟩
    cases hfound : state.verifications.find? fun candidate =>
        candidate.kind == kind && candidate.status == .verified with
    | none =>
        have hmiss := List.find?_eq_none.mp hfound verification hmem
        simp [hkind, hstatus] at hmiss
    | some other =>
        have hother := List.find?_some hfound
        rw [Bool.and_eq_true, beq_iff_eq, beq_iff_eq] at hother
        have hfilter := h.verifications kind
        have hin : ∀ v ∈ state.verifications, v.kind = kind →
            v ∈ (latestVerification history kind).toList := by
          intro v hv hvkind
          rw [← hfilter]
          exact List.mem_filter.mpr ⟨hv, beq_iff_eq.mpr hvkind⟩
        have hfirst := hin verification hmem hkind
        have hsecond := hin other (List.mem_of_find?_eq_some hfound) hother.1
        rw [Option.mem_toList] at hfirst hsecond
        exact congrArg some (Option.some.inj (hsecond.symm.trans hfirst))

/-- Ids of authorizations are unique in a rehydrated state. -/
theorem HeldRecords.findAuthorization_eq_some {history : List SupplierEvent}
    {state : SupplierState} (h : HeldRecords history state) {authorizationId : String}
    {authorization : ProviderAuthorization} :
    state.findAuthorization authorizationId = some authorization ↔
      authorization ∈ state.authorizations ∧ authorization.authorizationId = authorizationId := by
  unfold SupplierState.findAuthorization
  constructor
  · intro hfound
    have hid := List.find?_some hfound
    exact ⟨List.mem_of_find?_eq_some hfound, beq_iff_eq.mp hid⟩
  · rintro ⟨hmem, hid⟩
    cases hfound : state.authorizations.find? fun candidate =>
        candidate.authorizationId == authorizationId with
    | none =>
        have hmiss := List.find?_eq_none.mp hfound authorization hmem
        simp [hid] at hmiss
    | some other =>
        have hid' := List.find?_some hfound
        have hother := beq_iff_eq.mp hid'
        have hsame := List.inj_on_of_nodup_map h.authorizationIds
          (List.mem_of_find?_eq_some hfound) hmem (hother.trans hid.symm)
        rw [hsame]

theorem missingRequiredVerificationKinds_current {history : List SupplierEvent}
    {state : SupplierState} (h : HeldRecords history state) {instant : TimestampText} {t : Int}
    (ht : instant.Reads t) :
    missingRequiredVerificationKinds state instant = .ok [] ↔
      ∀ kind ∈ requiredVerificationKinds state.kind,
        ∃ verification ∈ state.verifications, verification.kind = kind ∧
          verification.status = .verified ∧ verification.CurrentAt t := by
  rw [missingRequiredVerificationKinds_eq_nil]
  refine forall₂_congr fun kind _ => ?_
  rw [hasCurrentVerification_eq_true ht]
  simp only [h.verified_eq_some, and_assoc]

/-- The time of a rehydrated state was read with its last event. -/
theorem rehydrateSupplier_updatedAt {history : List SupplierEvent} {state : SupplierState}
    (h : rehydrateSupplier history = .ok (some state)) :
    ∃ updatedAt, state.updatedAt.Reads updatedAt := by
  rcases rehydrateSupplier_eq_ok.mp h with ⟨progress, hloop, hstate⟩
  rcases (rehydrateLoop_numbered hloop).timed state hstate with ⟨updatedAt, hread, -⟩
  exact ⟨updatedAt, assertTimestamp_reads.mp hread⟩

/-! ## Publication -/

/-- The event of a publication. -/
def publishedEvent (supplier : SupplierState) (input : CapacityOfferInput)
    (context : MarketplaceCommandContext) (sourceType : CapacitySourceType) :
    CapacityOfferPublishedEvent where
  schemaVersion := marketplaceSchemaVersion
  eventId := context.eventId
  tenantId := context.tenantId
  actorId := context.actorId
  causationId := context.commandId
  aggregateId := input.offerId
  aggregateVersion := 1
  occurredAt := context.occurredAt
  offer := input
  supplierId := supplier.supplierId
  sourceType := sourceType

/-- A valid offer is published exactly when one of the supplier's authorizations covers it. -/
theorem publishCapacityOffer_eq_ok {history : List SupplierEvent} {supplier : SupplierState}
    (hheld : HeldRecords history supplier) {input : CapacityOfferInput}
    (hvalid : OfferFieldsValid input) {context : MarketplaceCommandContext} {t updatedAt : Int}
    (hcontext : assertContext context = .ok ()) (ht : context.occurredAt.Reads t)
    (htenant : supplier.tenantId = context.tenantId) (hupdated : supplier.updatedAt.Reads updatedAt)
    (hnotBefore : updatedAt ≤ t) {event : CapacityOfferPublishedEvent} :
    publishCapacityOffer supplier input context = .ok event ↔
      ∃ authorization, OfferAuthorized supplier input authorization t ∧
        event = publishedEvent supplier input context authorization.sourceType := by
  have hunsupported : (!(input.dataClasses.contains .p2 || input.dataClasses.contains .p3)) =
      true ↔ ∀ dataClass ∈ input.dataClasses, dataClass = .p0 ∨ dataClass = .p1 := by
    rw [Bool.not_eq_true', Bool.or_eq_false_iff, List.contains_eq_mem, List.contains_eq_mem,
      decide_eq_false_iff_not, decide_eq_false_iff_not]
    constructor
    · rintro ⟨hp2, hp3⟩ dataClass hmem
      cases dataClass with
      | p0 => exact Or.inl rfl
      | p1 => exact Or.inr rfl
      | p2 => exact absurd hmem hp2
      | p3 => exact absurd hmem hp3
    · intro h
      refine ⟨fun hmem => ?_, fun hmem => ?_⟩
      · rcases h .p2 hmem with heq | heq <;> cases heq
      · rcases h .p3 hmem with heq | heq <;> cases heq
  simp only [publishCapacityOffer, assertTenant, assertCommandNotBefore, Except.bind_eq_ok,
    ensure_eq_ok, exists_unit, Except.pure_eq_ok, assertTimestamp_reads,
    scopedAuthorization_eq_ok ht, hheld.findAuthorization_eq_some, hunsupported, beq_iff_eq,
    Bool.and_eq_true, decide_eq_true_eq]
  constructor
  · rintro ⟨-, -, -, hactive, missing, hmissing, hempty, -, -, -, -, -, -, -, -, hsupported, -, -,
      validFrom, hfrom, validUntil, huntil, u, hu, ⟨hwindow, hafter⟩, authorization,
      ⟨⟨hmem, hid⟩, hopen, hscope⟩, start, hstart, hstarts, stop, hstop, hstops, rfl⟩
    obtain rfl := hu.unique ht
    rw [List.isEmpty_iff.mp hempty] at hmissing
    refine ⟨authorization, ?_, rfl⟩
    exact
      { active := hactive
        verified := (missingRequiredVerificationKinds_current hheld ht).mp hmissing
        referenced := ⟨hmem, hid⟩
        openNow := hopen
        window := ⟨validFrom, validUntil, start, stop, hfrom, huntil, hstart, hstop, hwindow,
          hafter, hstarts, hstops⟩
        supported := hsupported
        scope := hscope }
  · rintro ⟨authorization, h, rfl⟩
    rcases h.window with ⟨validFrom, validUntil, start, stop, hfrom, huntil, hstart, hstop,
      hwindow, hafter, hstarts, hstops⟩
    exact ⟨hcontext, htenant, ⟨t, ht, updatedAt, hupdated, hnotBefore⟩, h.active, [],
      (missingRequiredVerificationKinds_current hheld ht).mpr h.verified, rfl, hvalid.offerId,
      hvalid.authorizationId, hvalid.providerId, hvalid.model, hvalid.serviceTier,
      hvalid.regionCode, hvalid.currency, hvalid.dataClasses, h.supported, hvalid.limits,
      hvalid.rates, validFrom, hfrom, validUntil, huntil, t, ht, ⟨hwindow, hafter⟩, authorization,
      ⟨h.referenced, h.openNow, h.scope⟩, start, hstart, hstarts, stop, hstop, hstops, rfl⟩

/-- The state read back from a published event has the event's terms. -/
theorem rehydrateCapacityOffer_published (supplier : SupplierState) (input : CapacityOfferInput)
    (context : MarketplaceCommandContext) (sourceType : CapacitySourceType) :
    rehydrateCapacityOffer [publishedEvent supplier input context sourceType] =
      .ok (some
        { offer := input
          supplierId := supplier.supplierId
          sourceType := sourceType
          tenantId := context.tenantId
          version := 1
          publishedAt := context.occurredAt }) := by
  simp [rehydrateCapacityOffer, publishedEvent, ensure, bind, Except.bind, pure, Except.pure]

/-- An offer with valid fields is published exactly when it is authorized; the event carries
the offer's terms and the authorization's source type, and reads back as them. -/
theorem publishCapacityOffer_iff_authorized {history : List SupplierEvent}
    {supplier : SupplierState} (hsupplier : rehydrateSupplier history = .ok (some supplier))
    {input : CapacityOfferInput} (hvalid : OfferFieldsValid input)
    {context : MarketplaceCommandContext} {t : Int} (hcontext : assertContext context = .ok ())
    (ht : context.occurredAt.Reads t) (htenant : supplier.tenantId = context.tenantId)
    (hnotBefore : ∀ updatedAt, supplier.updatedAt.Reads updatedAt → updatedAt ≤ t) :
    ((∃ event, publishCapacityOffer supplier input context = .ok event) ↔
      ∃ authorization, OfferAuthorized supplier input authorization t) ∧
    ∀ event, publishCapacityOffer supplier input context = .ok event →
      ∃ authorization, OfferAuthorized supplier input authorization t ∧
        event = publishedEvent supplier input context authorization.sourceType ∧
        rehydrateCapacityOffer [event] = .ok (some
          { offer := input
            supplierId := supplier.supplierId
            sourceType := authorization.sourceType
            tenantId := context.tenantId
            version := 1
            publishedAt := context.occurredAt }) := by
  rcases rehydrateSupplier_updatedAt hsupplier with ⟨updatedAt, hupdated⟩
  have hpublish : ∀ event, publishCapacityOffer supplier input context = .ok event ↔
      ∃ authorization, OfferAuthorized supplier input authorization t ∧
        event = publishedEvent supplier input context authorization.sourceType := fun _ =>
    publishCapacityOffer_eq_ok (HeldRecords.ofHistory hsupplier) hvalid hcontext ht htenant hupdated
      (hnotBefore updatedAt hupdated)
  constructor
  · constructor
    · rintro ⟨event, hevent⟩
      rcases (hpublish event).mp hevent with ⟨authorization, hauthorized, -⟩
      exact ⟨authorization, hauthorized⟩
    · rintro ⟨authorization, hauthorized⟩
      exact ⟨_, (hpublish _).mpr ⟨authorization, hauthorized, rfl⟩⟩
  · intro event hevent
    rcases (hpublish event).mp hevent with ⟨authorization, hauthorized, rfl⟩
    exact ⟨authorization, hauthorized, rfl, rehydrateCapacityOffer_published ..⟩

/-! ## A published offer -/

/-- An authorization of the sample supplier for the models {lit}`gpt-*`. -/
def authorizationSample : ProviderAuthorization where
  authorizationId := "authorization-001"
  providerId := "provider-001"
  sourceType := .commercialAccount
  authorizedUse := .managedInference
  meteringMode := .providerReport
  evidenceRef := "evidence-002"
  modelPatterns := ["gpt-*"]
  regionCodes := ["*"]
  allowedDataClasses := [.p0, .p1]
  capacityCeiling :=
    { requestsPerMinute := 60
      tokensPerMinute := 60000
      concurrency := 4
      maxOutputTokens := 4096 }
  validFrom := { text := "2026-01-01T00:00:00.000Z", instant := some 1767225600000 }
  validUntil := { text := "2026-02-01T00:00:00.000Z", instant := some 1769904000000 }
  status := .active

/-- The sample supplier after its verifications, its authorization and its activation. -/
def activeHistorySample : List SupplierEvent :=
  let payloads : List SupplierEventPayload :=
    [.verificationRecorded verificationSample,
      .verificationRecorded
        { verificationSample with verificationId := "verification-002", kind := .tax },
      .verificationRecorded
        { verificationSample with verificationId := "verification-003", kind := .payout },
      .providerAuthorizationRecorded authorizationSample,
      .activated registeredSample.occurredAt]
  registeredSample :: payloads.zipIdx.map fun (payload, i) =>
    { registeredSample with
      eventId := "event-10" ++ toString i
      causationId := "command-10" ++ toString i
      aggregateVersion := i + 2
      payload := payload }

/-- An offer of the sample supplier for one model, from the next hour on. -/
def offerSample : CapacityOfferInput where
  offerId := "offer-001"
  authorizationId := "authorization-001"
  providerId := "provider-001"
  model := "gpt-test"
  serviceTier := none
  regionCode := "US"
  dataClasses := [.p0]
  limits :=
    { requestsPerMinute := 10
      tokensPerMinute := 10000
      concurrency := 1
      maxOutputTokens := 1024 }
  currency := "CNY"
  rates := [{ unit := "token", amountMicros := "25" }]
  validFrom := { text := "2026-01-01T01:00:00.000Z", instant := some 1767229200000 }
  validUntil := { text := "2026-01-31T00:00:00.000Z", instant := some 1769817600000 }

/-- The offer of the sample is published under its authorization. -/
theorem publishCapacityOffer_iff_authorized_sample :
    ∃ supplier, rehydrateSupplier activeHistorySample = .ok (some supplier) ∧
      (∃ event, publishCapacityOffer supplier offerSample verificationContextSample =
        .ok event) ∧
      ∃ authorization, OfferAuthorized supplier offerSample authorization 1767225720000 := by
  let supplier : SupplierState :=
    { SupplierState.ofRegistration registeredSample
        { supplierId := "supplier-a"
          kind := .individual
          legalName := "Ada Supplier"
          displayName := "Ada"
          countryCode := "US"
          taxResidenceCountryCode := "US" } with
      status := .active
      verifications :=
        [verificationSample,
          { verificationSample with verificationId := "verification-002", kind := .tax },
          { verificationSample with verificationId := "verification-003", kind := .payout }]
      authorizations := [authorizationSample]
      version := 6 }
  have hsupplier : rehydrateSupplier activeHistorySample = .ok (some supplier) := by decide +kernel
  have hvalid : OfferFieldsValid offerSample :=
    { offerId := by decide
      authorizationId := by decide
      providerId := by decide
      model := by decide
      serviceTier := rfl
      regionCode := by decide
      currency := by decide
      dataClasses := by decide
      limits := by decide
      rates := by decide
      validFrom := ⟨1767229200000, by decide, rfl⟩
      validUntil := ⟨1769817600000, by decide, rfl⟩ }
  have hread : verificationContextSample.occurredAt.Reads 1767225720000 := ⟨by decide, rfl⟩
  have hiff := publishCapacityOffer_iff_authorized hsupplier hvalid (by decide +kernel) hread rfl
    (by
      rintro updatedAt ⟨-, hinstant⟩
      obtain rfl := Option.some.inj hinstant
      decide)
  have hpublished : ∃ event, publishCapacityOffer supplier offerSample
      verificationContextSample = .ok event :=
    ⟨publishedEvent supplier offerSample verificationContextSample .commercialAccount,
      by decide +kernel⟩
  exact ⟨supplier, hsupplier, hpublished, hiff.1.mp hpublished⟩

end Domain
end TokenStreaming
