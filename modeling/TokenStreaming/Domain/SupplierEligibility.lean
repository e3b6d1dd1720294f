import TokenStreaming.Domain.CapacityOffer
import TokenStreaming.Domain.SupplierInvariant

/-!
# Marketplace domain - What a supplier needs to publish

An active supplier may publish under an authorization while every required
verification is current.  This module says which verification of a kind counts, how
the commands change it, and that a recorded authorization always has an offer inside
its scope.

Main results:

- Theorem {lit}`missingRequiredVerificationKinds_eq_nil`: nothing is missing exactly when
  every required kind is current.
- Theorem {lit}`verified_recordVerification`: a recorded verification decides its own
  kind and no other.
- Theorem {lit}`recordProviderAuthorization_eq_ok`: when an authorization is recorded.
- Theorem {lit}`publishCapacityOffer_of_authorization`: an authorization inside its window
  has an offer that can be published.
-/

namespace TokenStreaming
namespace Domain

/-! ## The verification that counts -/

/-- The verification {lit}`hasCurrentVerification` looks at. -/
def SupplierState.verified (state : SupplierState) (kind : SupplierVerificationKind) :
    Option SupplierVerification :=
  state.verifications.find? fun candidate =>
    candidate.kind == kind && candidate.status == .verified

/-- The kind has a verification, current or not. -/
theorem verified_isSome {state : SupplierState} {kind : SupplierVerificationKind} :
    (state.verified kind).isSome = state.verifications.any fun verification =>
      verification.kind == kind && verification.status == .verified := by
  rw [Bool.eq_iff_iff, SupplierState.verified, List.find?_isSome, List.any_eq_true]

/-- Only the verification of the kind matters. -/
theorem hasCurrentVerification_congr {a b : SupplierState} {kind : SupplierVerificationKind}
    (h : a.verified kind = b.verified kind) (instant : TimestampText) :
    hasCurrentVerification a kind instant = hasCurrentVerification b kind instant := by
  unfold SupplierState.verified at h
  unfold hasCurrentVerification
  rw [h]

theorem hasCurrentVerification_none {state : SupplierState} {kind : SupplierVerificationKind}
    (h : state.verified kind = none) (instant : TimestampText) :
    hasCurrentVerification state kind instant = .ok false := by
  unfold SupplierState.verified at h
  unfold hasCurrentVerification
  rw [h]

/-- A verification that expires behind the instant is current. -/
theorem hasCurrentVerification_unexpired {state : SupplierState}
    {kind : SupplierVerificationKind} {verification : SupplierVerification}
    {expiresAt : TimestampText} {expiry : Int} {now : Nat}
    (h : state.verified kind = some verification)
    (hexpires : verification.expiresAt = some expiresAt)
    (hexpiry : assertTimestamp expiresAt "expiresAt" = .ok expiry) (hlt : (now : Int) < expiry) :
    hasCurrentVerification state kind (TimestampText.ofInstant now) = .ok true := by
  unfold SupplierState.verified at h
  unfold hasCurrentVerification
  rw [h]
  simp only [hexpires]
  split
  · rfl
  · simp only [hexpiry, assertTimestamp_ofInstant, Except.bind_eq_ok, Except.pure_eq_ok]
    exact ⟨expiry, rfl, now, rfl, decide_eq_true hlt⟩

theorem rejectChecked_eq_nil {α : Type} {check : α → Checked Bool} {xs : List α} :
    rejectChecked check xs = .ok [] ↔ ∀ x ∈ xs, check x = .ok true := by
  constructor
  · exact rejectChecked_nil
  · intro h
    induction xs with
    | nil => rfl
    | cons x xs ih =>
        have hhead := h x (by simp)
        have htail := ih fun y hy => h y (List.mem_cons_of_mem _ hy)
        simp only [rejectChecked, Except.bind_eq_ok, Except.pure_eq_ok]
        exact ⟨true, hhead, [], htail, rfl⟩

/-- Nothing is missing exactly when every required kind is current. -/
theorem missingRequiredVerificationKinds_eq_nil {state : SupplierState}
    {instant : TimestampText} :
    missingRequiredVerificationKinds state instant = .ok [] ↔
      ∀ kind ∈ requiredVerificationKinds state.kind,
        hasCurrentVerification state kind instant = .ok true :=
  rejectChecked_eq_nil

/-- A recorded verification decides its own kind and no other. -/
theorem verified_recordVerification (state : SupplierState) (input : SupplierVerification)
    (event : SupplierEvent) (kind : SupplierVerificationKind)
    (hstatus : input.status = .verified) :
    (advance ((SupplierCommand.recordVerification input).changed state) event).verified kind =
      if kind = input.kind then some input else state.verified kind := by
  simp only [SupplierState.verified, advance, SupplierCommand.changed, List.find?_append]
  by_cases hkind : kind = input.kind
  · rw [if_pos hkind]
    have hnone : (state.verifications.filter fun existing => existing.kind != input.kind).find?
        (fun candidate => candidate.kind == kind && candidate.status == .verified) = none := by
      rw [List.find?_eq_none]
      intro candidate hmem
      have hne := (List.mem_filter.mp hmem).2
      simp only [bne_iff_ne] at hne
      simp [hkind, hne]
    rw [hnone]
    simp [hkind, hstatus]
  · rw [if_neg hkind]
    have hsame : (state.verifications.filter fun existing => existing.kind != input.kind).find?
        (fun candidate => candidate.kind == kind && candidate.status == .verified) =
        state.verifications.find? fun candidate =>
          candidate.kind == kind && candidate.status == .verified := by
      rw [List.find?_filter]
      congr 1
      funext candidate
      by_cases hcandidate : candidate.kind = kind
      · rw [Bool.eq_iff_iff]
        simp [hcandidate, hkind]
      · simp [hcandidate]
    have hother : [input].find? (fun candidate =>
        candidate.kind == kind && candidate.status == .verified) = none := by
      simp [Ne.symm hkind]
    rw [hsame, hother, Option.or_none]

/-- The other commands leave the verifications alone. -/
theorem verified_changed {state : SupplierState} {command : SupplierCommand}
    {event : SupplierEvent} (h : ∀ input, command ≠ .recordVerification input)
    (kind : SupplierVerificationKind) :
    (advance (command.changed state) event).verified kind = state.verified kind := by
  cases command with
  | recordVerification input => exact absurd rfl (h input)
  | recordAuthorization input => rfl
  | revokeAuthorization authorizationId reasonCode => rfl
  | activate => rfl
  | suspend reasonCode => rfl

/-! ## Recorded authorizations -/

theorem assertUniqueFrom_eq_ok {label : String} {validate : String → Checked Unit}
    {seen values : List String} :
    assertUniqueFrom label validate seen values = .ok () ↔
      (∀ value ∈ values, validate value = .ok ()) ∧ values.Nodup ∧
        ∀ value ∈ values, value ∉ seen := by
  induction values generalizing seen with
  | nil => simp [assertUniqueFrom]
  | cons value values ih =>
      simp only [assertUniqueFrom, Except.bind_eq_ok, exists_unit, ensure_eq_ok, ih,
        Bool.not_eq_true', decide_eq_false_iff_not, List.mem_cons, forall_eq_or_imp,
        List.nodup_cons, not_or]
      constructor
      · rintro ⟨hvalid, hnew, hrest, hnodup, hfresh⟩
        exact ⟨⟨hvalid, hrest⟩, ⟨fun hmem => (hfresh value hmem).1 rfl, hnodup⟩, hnew,
          fun other hother => (hfresh other hother).2⟩
      · rintro ⟨⟨hvalid, hrest⟩, ⟨habsent, hnodup⟩, hnew, hfresh⟩
        refine ⟨hvalid, hnew, hrest, hnodup, fun other hother => ⟨?_, hfresh other hother⟩⟩
        rintro rfl
        exact habsent hother

/-- Lists of one to a hundred different accepted texts. -/
theorem assertUniqueStrings_eq_ok {values : List String} {label : String}
    {validate : String → Checked Unit} :
    assertUniqueStrings values label validate = .ok () ↔
      (values ≠ [] ∧ values.length ≤ 100) ∧ (∀ value ∈ values, validate value = .ok ()) ∧
        values.Nodup := by
  simp only [assertUniqueStrings, Except.bind_eq_ok, exists_unit, ensure_eq_ok,
    assertUniqueFrom_eq_ok, Bool.and_eq_true, bne_iff_ne, ne_eq, List.length_eq_zero_iff,
    decide_eq_true_eq, List.not_mem_nil, not_false_eq_true, implies_true, and_true]

theorem assertAllowedValue_eq_ok {value label : String} {allowed : List String} :
    assertAllowedValue value label allowed = .ok () ↔ value ∈ allowed := by
  simp only [assertAllowedValue, ensure_eq_ok, decide_eq_true_eq]

/-- The label only names the field in the error. -/
theorem assertCapacityLimits_label {value : CapacityLimits} {label : String}
    (h : assertCapacityLimits value label = .ok ()) (other : String) :
    assertCapacityLimits value other = .ok () := by
  simp only [assertCapacityLimits, assertPositiveSafeInteger, Except.bind_eq_ok, ensure_eq_ok,
    exists_unit] at h ⊢
  exact h

/-- The checks on the input of {lit}`recordProviderAuthorization`. -/
structure AuthorizationWellFormed (input : ProviderAuthorization) : Prop where
  authorizationId : matchesIdentifierPattern input.authorizationId = true
  providerId : matchesIdentifierPattern input.providerId = true
  evidenceRef : matchesIdentifierPattern input.evidenceRef = true
  status : input.status ≠ .revoked
  window : ∃ start stop, assertTimestamp input.validFrom "validFrom" = .ok start ∧
    assertTimestamp input.validUntil "validUntil" = .ok stop ∧ start < stop
  modelPatterns : assertUniqueStrings input.modelPatterns "modelPatterns" validateModelPattern =
    .ok ()
  regionCodes : assertUniqueStrings input.regionCodes "regionCodes"
    (fun value => assertCountryCode value "regionCode" true) = .ok ()
  dataClasses : assertUniqueStrings (input.allowedDataClasses.map MarketplaceDataClass.text)
    "allowedDataClasses"
    (fun value => assertAllowedValue value "allowedDataClass" ["P0", "P1", "P2", "P3"]) = .ok ()
  supported : (input.allowedDataClasses.contains .p2 || input.allowedDataClasses.contains .p3) =
    false
  capacityCeiling : assertCapacityLimits input.capacityCeiling "capacityCeiling" = .ok ()

theorem assertAllowedStatus_eq_ok {status : ProviderAuthorizationStatus} {label : String} :
    assertAllowedValue status.text label ["pending", "active", "suspended"] = .ok () ↔
      status ≠ .revoked := by
  rw [assertAllowedValue_eq_ok]
  cases status <;> simp [ProviderAuthorizationStatus.text]

/-- When an authorization is recorded. -/
theorem recordProviderAuthorization_eq_ok {state : SupplierState}
    {input : ProviderAuthorization} {context : MarketplaceCommandContext}
    {event : SupplierEvent} :
    recordProviderAuthorization state input context = .ok event ↔
      assertStateContext state context = .ok () ∧ state.isWritable = true ∧
        AuthorizationWellFormed input ∧
        (∀ authorization ∈ state.authorizations,
          authorization.authorizationId ≠ input.authorizationId) ∧
        event = supplierEvent state context (.providerAuthorizationRecorded input) := by
  simp only [recordProviderAuthorization, Except.bind_eq_ok, exists_unit, ensure_eq_ok,
    assertSupplierWritable_eq_ok, assertIdentifier, assertAllowedStatus_eq_ok,
    Except.pure_eq_ok, decide_eq_true_eq, Bool.not_eq_true', List.any_eq_false, beq_iff_eq]
  constructor
  · rintro ⟨hcontext, hwritable, hid, hprovider, hevidence, hstatus, start, hstart, stop, hstop,
      hlt, hmodels, hregions, hclasses, hsupported, hceiling, hfresh, rfl⟩
    exact ⟨hcontext, hwritable, ⟨hid, hprovider, hevidence, hstatus, ⟨start, stop, hstart, hstop,
      hlt⟩, hmodels, hregions, hclasses, hsupported, hceiling⟩, hfresh, rfl⟩
  · rintro ⟨hcontext, hwritable, hformed, hfresh, rfl⟩
    obtain ⟨start, stop, hstart, hstop, hlt⟩ := hformed.window
    exact ⟨hcontext, hwritable, hformed.authorizationId, hformed.providerId,
      hformed.evidenceRef, hformed.status, start, hstart, stop, hstop, hlt,
      hformed.modelPatterns, hformed.regionCodes, hformed.dataClasses, hformed.supported,
      hformed.capacityCeiling, hfresh, rfl⟩

/-! ## The other commands of an approval -/

/-- The state is not later than the instant. -/
def SupplierState.NotAfter (state : SupplierState) (now : Nat) : Prop :=
  ∃ updatedAt, assertTimestamp state.updatedAt "aggregateUpdatedAt" = .ok updatedAt ∧
    updatedAt ≤ (now : Int)

/-- The tenant of a state was checked with the events of its history. -/
theorem rehydrateSupplier_tenantId {history : List SupplierEvent} {state : SupplierState}
    (h : rehydrateSupplier history = .ok (some state)) :
    matchesIdentifierPattern state.tenantId = true := by
  obtain ⟨first, event, rfl⟩ := List.eq_nil_or_concat' history |>.resolve_left
    (rehydrateSupplier_ne_nil h)
  obtain ⟨progress, next, -, hnext, -⟩ := rehydrateSupplier_snoc.mp h
  rw [← (rehydrateSupplier_identified h event (by simp)).2.1]
  exact hnext.tenantId

/-- When a command may run at an instant. -/
theorem assertStateContext_eq_ok {state : SupplierState} {context : MarketplaceCommandContext}
    {now : Nat} (hoccurred : context.occurredAt = TimestampText.ofInstant now) :
    assertStateContext state context = .ok () ↔
      ContextAccepted context ∧ state.tenantId = context.tenantId ∧ state.NotAfter now := by
  simp only [assertStateContext, assertTenant, assertCommandNotBefore, Except.bind_eq_ok,
    ensure_eq_ok, exists_unit, assertContext_eq_ok, beq_iff_eq, decide_eq_true_eq, hoccurred,
    assertTimestamp_ofInstant, Except.ok.injEq, exists_eq_left', SupplierState.NotAfter]

/-- The checks on the input of {lit}`recordSupplierVerification`. -/
structure VerificationWellFormed (input : SupplierVerification) (now : Nat) : Prop where
  verificationId : matchesIdentifierPattern input.verificationId = true
  evidenceRef : matchesIdentifierPattern input.evidenceRef = true
  window : ∃ completedAt, assertTimestamp input.completedAt "completedAt" = .ok completedAt ∧
    completedAt ≤ (now : Int) ∧ assertVerificationExpiry input.expiresAt completedAt = .ok ()

/-- When a verification is recorded. -/
theorem recordSupplierVerification_eq_ok {state : SupplierState} {input : SupplierVerification}
    {context : MarketplaceCommandContext} {event : SupplierEvent} {now : Nat}
    (hoccurred : context.occurredAt = TimestampText.ofInstant now) :
    recordSupplierVerification state input context = .ok event ↔
      assertStateContext state context = .ok () ∧ state.isWritable = true ∧
        VerificationWellFormed input now ∧
        (∀ verification ∈ state.verifications,
          verification.verificationId = input.verificationId → verification.kind = input.kind) ∧
        event = supplierEvent state context (.verificationRecorded input) := by
  simp only [recordSupplierVerification, Except.bind_eq_ok, exists_unit, ensure_eq_ok,
    assertSupplierWritable_eq_ok, assertIdentifier, Except.pure_eq_ok, decide_eq_true_eq,
    Bool.not_eq_true', List.any_eq_false, Bool.and_eq_true, beq_iff_eq, bne_iff_ne, ne_eq,
    not_and, Decidable.not_not, hoccurred, assertTimestamp_ofInstant, Except.ok.injEq,
    exists_eq_left']
  constructor
  · rintro ⟨hcontext, hwritable, hid, hevidence, completedAt, hcompleted, hle, hexpiry, hreuse,
      rfl⟩
    exact ⟨hcontext, hwritable, ⟨hid, hevidence, completedAt, hcompleted, hle, hexpiry⟩, hreuse,
      rfl⟩
  · rintro ⟨hcontext, hwritable, ⟨hid, hevidence, completedAt, hcompleted, hle, hexpiry⟩, hreuse,
      rfl⟩
    exact ⟨hcontext, hwritable, hid, hevidence, completedAt, hcompleted, hle, hexpiry, hreuse,
      rfl⟩

/-- When a supplier is activated. -/
theorem activateSupplier_eq_ok {state : SupplierState} {context : MarketplaceCommandContext}
    {event : SupplierEvent} :
    activateSupplier state context = .ok event ↔
      assertStateContext state context = .ok () ∧ state.status = .pendingVerification ∧
        missingRequiredVerificationKinds state context.occurredAt = .ok [] ∧
        someChecked (fun authorization => isAuthorizationActive authorization
          context.occurredAt) state.authorizations = .ok true ∧
        event = supplierEvent state context (.activated context.occurredAt) := by
  simp only [activateSupplier, Except.bind_eq_ok, exists_unit, ensure_eq_ok, beq_iff_eq,
    Except.pure_eq_ok, List.isEmpty_iff]
  constructor
  · rintro ⟨hcontext, hpending, missing, hmissing, rfl, authorized, hauthorized, rfl, rfl⟩
    exact ⟨hcontext, hpending, hmissing, hauthorized, rfl⟩
  · rintro ⟨hcontext, hpending, hmissing, hauthorized, rfl⟩
    exact ⟨hcontext, hpending, [], hmissing, rfl, true, hauthorized, rfl, rfl⟩

/-- What the ids of a context and the length of a history leave room for. -/
structure ExtendsHistory (history : List SupplierEvent) (context : MarketplaceCommandContext) :
    Prop where
  eventId : context.eventId ∉ history.map SupplierEvent.eventId
  commandId : context.commandId ∉ history.map SupplierEvent.causationId
  room : history.length + 1 ≤ maxSafeInteger

/-- When the event of a command extends its history, and the state it leads to. -/
theorem rehydrate_append_run_iff {history : List SupplierEvent} {state state' : SupplierState}
    {command : SupplierCommand} {context : MarketplaceCommandContext} {event : SupplierEvent}
    (h : rehydrateSupplier history = .ok (some state))
    (hcommand : command.run state context = .ok event) :
    rehydrateSupplier (history ++ [event]) = .ok (some state') ↔
      ExtendsHistory history context ∧ state' = advance (command.changed state) event := by
  constructor
  · intro hextended
    obtain ⟨progress, next, hloop, hnext, hstate'⟩ := rehydrateSupplier_snoc.mp hextended
    obtain ⟨progress', hloop', hstate⟩ := rehydrateSupplier_eq_ok.mp h
    obtain rfl : progress = progress' := Except.ok.inj (hloop.symm.trans hloop')
    obtain ⟨hevents, hcauses, -, -⟩ := rehydrateLoop_ids hloop List.nodup_nil List.nodup_nil
    have happlied := applySupplierEvent_command hcommand
    obtain ⟨-, rfl⟩ := SupplierCommand.run_context hcommand
    have hversion := (rehydrateSupplier_tracks h).2
    refine ⟨⟨?_, ?_, ?_⟩, ?_⟩
    · intro hmem
      refine hnext.freshEventId ?_
      rw [hevents]
      simpa [supplierEvent] using hmem
    · intro hmem
      refine hnext.freshCausationId ?_
      rw [hcauses]
      simpa [supplierEvent] using hmem
    · have hsafe := hnext.versionSafe
      simp only [supplierEvent, hversion] at hsafe
      exact hsafe
    · obtain ⟨reached, hreached, hsome⟩ := hnext.applied
      rw [hstate, happlied] at hreached
      rw [Except.ok.inj hreached]
      exact Option.some.inj (hstate'.symm.trans hsome)
  · rintro ⟨hextends, rfl⟩
    exact rehydrate_append_run h hcommand hextends.eventId hextends.commandId hextends.room

/-! ## An offer inside the scope -/

/-- A pattern matches its own text, wildcard included. -/
theorem matchesPattern_self (pattern : String) : matchesPattern pattern pattern = true := by
  unfold matchesPattern
  split
  · rfl
  · split
    · exact List.isPrefixOf_iff_prefix.mpr (List.dropLast_prefix _)
    · exact beq_self_eq_true pattern

/-- An offer for the whole of an authorization. -/
def ProviderAuthorization.wholeOffer (authorization : ProviderAuthorization)
    (model regionCode : String) : CapacityOfferInput where
  offerId := "offer-1"
  authorizationId := authorization.authorizationId
  providerId := authorization.providerId
  model := model
  serviceTier := none
  regionCode := if regionCode = "*" then "US" else regionCode
  dataClasses := authorization.allowedDataClasses
  limits := authorization.capacityCeiling
  currency := "CNY"
  rates := [{ unit := "token", amountMicros := "1" }]
  validFrom := authorization.validFrom
  validUntil := authorization.validUntil

/-- The checks on the members of a whole offer are those on its authorization. -/
structure WholeOfferFits (authorization : ProviderAuthorization) (offer : CapacityOfferInput) :
    Prop where
  model : assertText offer.model "model" 120 = .ok ()
  matched : authorization.modelPatterns.any (fun pattern => matchesPattern offer.model pattern) =
    true
  regionCode : assertCountryCode offer.regionCode "regionCode" = .ok ()
  region : (authorization.regionCodes.contains "*" ||
    authorization.regionCodes.contains offer.regionCode) = true

/-- Every recorded authorization has a whole offer that fits. -/
theorem exists_wholeOffer {authorization : ProviderAuthorization}
    (h : AuthorizationWellFormed authorization) :
    ∃ model regionCode, WholeOfferFits authorization
      (authorization.wholeOffer model regionCode) := by
  obtain ⟨⟨hmodels, -⟩, hvalidModels, -⟩ := assertUniqueStrings_eq_ok.mp h.modelPatterns
  obtain ⟨⟨hregions, -⟩, hvalidRegions, -⟩ := assertUniqueStrings_eq_ok.mp h.regionCodes
  obtain ⟨model, hmodel⟩ := List.exists_mem_of_ne_nil _ hmodels
  obtain ⟨region, hregion⟩ := List.exists_mem_of_ne_nil _ hregions
  have hmodelValid := hvalidModels model hmodel
  have hregionValid := hvalidRegions region hregion
  simp only [validateModelPattern, assertText, Except.bind_eq_ok, exists_unit,
    ensure_eq_ok] at hmodelValid
  simp only [assertCountryCode, ensure_eq_ok, Bool.true_and, Bool.or_eq_true,
    beq_iff_eq] at hregionValid
  refine ⟨model, region, ?_⟩
  constructor
  · simp only [ProviderAuthorization.wholeOffer, assertText, ensure_eq_ok]
    exact hmodelValid.1
  · exact List.any_eq_true.mpr ⟨model, hmodel, matchesPattern_self model⟩
  · simp only [ProviderAuthorization.wholeOffer, assertCountryCode, ensure_eq_ok,
      Bool.false_and, Bool.false_or]
    split
    · decide
    · exact hregionValid.resolve_left ‹_›
  · simp only [ProviderAuthorization.wholeOffer, Bool.or_eq_true, List.contains_eq_mem,
      decide_eq_true_eq]
    split
    · rename_i hstar
      exact Or.inl (hstar ▸ hregion)
    · exact Or.inr hregion

/-- The context of a publication by the supplier. -/
def SupplierState.publication (state : SupplierState) (now : Nat) : MarketplaceCommandContext where
  tenantId := state.tenantId
  actorId := "supplier-actor"
  commandId := "publish-1"
  eventId := "event-publish-1"
  occurredAt := TimestampText.ofInstant now

/-- An authorization inside its window has an offer that can be published. -/
theorem publishCapacityOffer_of_authorization {state : SupplierState}
    {authorization : ProviderAuthorization} {now : Nat}
    (htenant : matchesIdentifierPattern state.tenantId = true)
    (hupdated : state.NotAfter now)
    (hactive : state.status = .active)
    (hmissing : missingRequiredVerificationKinds state (TimestampText.ofInstant now) = .ok [])
    (hfound : state.findAuthorization authorization.authorizationId = some authorization)
    (hformed : AuthorizationWellFormed authorization)
    (hcurrent : isAuthorizationActive authorization (TimestampText.ofInstant now) = .ok true) :
    ∃ offer context event, offer.authorizationId = authorization.authorizationId ∧
      context.occurredAt = TimestampText.ofInstant now ∧
      publishCapacityOffer state offer context = .ok event := by
  obtain ⟨model, region, hfits⟩ := exists_wholeOffer hformed
  obtain ⟨start, stop, hstart, hstop, hlt⟩ := hformed.window
  have hwindow : (now : Int) < stop := by
    obtain ⟨-, -, until_, -, huntil, -, hbefore⟩ := isAuthorizationActive_true rfl hcurrent
    have hsame := (assertTimestamp_eq_ok.mp hstop).2
    rw [huntil] at hsame
    rwa [Option.some.inj hsame] at hbefore
  have hscope : assertAuthorizationScope authorization (authorization.wholeOffer model region)
      (TimestampText.ofInstant now) = .ok () := by
    simp only [assertAuthorizationScope, hcurrent, Except.bind_eq_ok, ensure_eq_ok, exists_unit,
      Bool.and_eq_true]
    refine ⟨true, rfl, rfl, ⟨⟨⟨?_, hfits.matched⟩, hfits.region⟩, ?_⟩, ?_⟩
    · exact beq_self_eq_true _
    · simp [ProviderAuthorization.wholeOffer]
    · simp [ProviderAuthorization.wholeOffer, isWithinCapacityCeiling]
  obtain ⟨updatedAt, hupdatedAt, hle⟩ := hupdated
  have hcontext : assertContext (state.publication now) = .ok () :=
    assertContext_eq_ok.mpr
      { tenantId := htenant
        actorId := (show matchesIdentifierPattern "supplier-actor" = true by decide)
        commandId := (show matchesIdentifierPattern "publish-1" = true by decide)
        eventId := (show matchesIdentifierPattern "event-publish-1" = true by decide)
        occurredAt := ⟨now, assertTimestamp_ofInstant now _⟩ }
  have hoffer : matchesIdentifierPattern "offer-1" = true := by decide
  have hcurrency : isUppercaseCode 3 "CNY" = true := by decide
  have hrates : assertRates (authorization.wholeOffer model region) = .ok () := by
    have hrate : assertRatesFrom [] [{ unit := "token", amountMicros := "1" }] = .ok () := by
      decide
    exact Except.bind_eq_ok.mpr ⟨(), rfl, hrate⟩
  have hlimits := assertCapacityLimits_label hformed.capacityCeiling "limits"
  have hclasses : assertUniqueStrings
      ((authorization.wholeOffer model region).dataClasses.map MarketplaceDataClass.text)
      "dataClasses" (fun value => assertAllowedValue value "dataClass" ["P0", "P1", "P2", "P3"]) =
      .ok () := by
    have hchecked := hformed.dataClasses
    rw [assertUniqueStrings_eq_ok] at hchecked ⊢
    simp only [assertAllowedValue_eq_ok] at hchecked ⊢
    exact hchecked
  have hscoped : scopedAuthorization state (authorization.wholeOffer model region)
      (TimestampText.ofInstant now) = .ok authorization := by
    have hnamed : state.findAuthorization
        (authorization.wholeOffer model region).authorizationId = some authorization := hfound
    unfold scopedAuthorization
    rw [hnamed]
    simp only [hscope]
    rfl
  have hpublished : ∃ event, publishCapacityOffer state (authorization.wholeOffer model region)
      (state.publication now) = .ok event := by
    simp only [publishCapacityOffer, assertTenant, assertCommandNotBefore, assertIdentifier,
      assertServiceTier, assertCurrency, Except.bind_eq_ok, ensure_eq_ok, exists_unit,
      Except.pure_eq_ok]
    exact ⟨_, hcontext, beq_self_eq_true _, ⟨now, assertTimestamp_ofInstant now _, updatedAt,
      hupdatedAt, decide_eq_true hle⟩, beq_iff_eq.mpr hactive, [], hmissing, rfl, hoffer,
      hformed.authorizationId, hformed.providerId, hfits.model, rfl, hfits.regionCode, hcurrency,
      hclasses, Bool.not_eq_true' _ |>.mpr hformed.supported, hlimits,
      hrates, start, hstart, stop, hstop, now, assertTimestamp_ofInstant now _,
      Bool.and_eq_true _ _ |>.mpr ⟨decide_eq_true hlt, decide_eq_true hwindow⟩, authorization,
      hscoped, start, assertTimestamp_label hstart _, decide_eq_true le_rfl, stop,
      assertTimestamp_label hstop _, decide_eq_true le_rfl, rfl⟩
  obtain ⟨event, hevent⟩ := hpublished
  exact ⟨_, _, event, rfl, rfl, hevent⟩

end Domain
end TokenStreaming
