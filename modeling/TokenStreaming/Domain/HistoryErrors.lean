import TokenStreaming.Domain.TimeWindows

/-!
# Marketplace domain - The errors of rehydration

A history {lit}`rehydrateSupplier` cannot accept is reported as INVALID_EVENT_HISTORY.
The loop and the applier convert every error they can foresee; an activation event
reuses the command side's checks, whose timestamp errors carry another code.

Main results:

- Theorem {lit}`rehydrateStep_eq`: one iteration is the check of the envelope, then the
  applier.
- Theorem {lit}`rehydrateNumberedSupplier_classifies_iff`: only INVALID_EVENT_HISTORY
  escapes exactly when every activation reached can read the timestamps it looks at.
- Theorem {lit}`unreadableExpiry_escapes`: a history that throws another code.
-/

namespace TokenStreaming
namespace Domain

/-! ## Error codes of checks -/

/-- The check throws no other code. -/
def FailsWith (code : MarketplaceDomainErrorCode) {α : Type} (check : Checked α) : Prop :=
  ∀ error, check = .error error → error.code = code

section FailsWith

variable {code : MarketplaceDomainErrorCode} {α β : Type}

theorem failsWith_ok (a : α) : FailsWith code (.ok a : Checked α) := by
  intro error h
  cases h

theorem failsWith_error {error : MarketplaceDomainError} :
    FailsWith code (.error error : Checked α) ↔ error.code = code := by
  constructor
  · intro h
    exact h error rfl
  · intro h other hother
    rwa [← Except.error.inj hother]

theorem failsWith_ensure {condition : Bool} {error : MarketplaceDomainError}
    (h : error.code = code) : FailsWith code (ensure condition error) := by
  unfold ensure
  split
  · exact failsWith_ok ()
  · exact failsWith_error.mpr h

theorem failsWith_bind {x : Checked α} {f : α → Checked β} :
    FailsWith code (x >>= f) ↔ FailsWith code x ∧ ∀ a, x = .ok a → FailsWith code (f a) := by
  cases x with
  | error error =>
      have hbind : (Except.error error >>= f : Checked β) = .error error := rfl
      rw [hbind, failsWith_error, failsWith_error]
      simp
  | ok a =>
      have hbind : (Except.ok a >>= f : Checked β) = f a := rfl
      rw [hbind]
      simp [failsWith_ok]

/-- A check that throws only another code throws this one exactly when it never throws. -/
theorem FailsWith.iff_answers {other : MarketplaceDomainErrorCode} {x : Checked α}
    (h : FailsWith other x) (hne : other ≠ code) : FailsWith code x ↔ Answers x := by
  constructor
  · intro hcode
    cases x with
    | error error => exact absurd ((h error rfl).symm.trans (hcode error rfl)) hne
    | ok a => exact ⟨a, rfl⟩
  · rintro ⟨a, rfl⟩
    exact failsWith_ok a

end FailsWith

/-! ## Lists of checks -/

theorem rejectChecked_answers {α : Type} {check : α → Checked Bool} {xs : List α} :
    Answers (rejectChecked check xs) ↔ ∀ x ∈ xs, Answers (check x) := by
  induction xs with
  | nil =>
      refine ⟨?_, fun _ => ⟨[], rfl⟩⟩
      intro _ x hx
      cases hx
  | cons x xs ih =>
      simp only [rejectChecked, answers_bind, answers_pure, and_true, List.forall_mem_cons, ← ih]
      constructor
      · rintro ⟨passes, hpasses, rest, hrest⟩
        exact ⟨⟨passes, hpasses⟩, rest, hrest⟩
      · rintro ⟨⟨passes, hpasses⟩, rest, hrest⟩
        exact ⟨passes, hpasses, rest, hrest⟩

/-- {lit}`some` answers when every check up to the first hit does. -/
theorem someChecked_answers {α : Type} {check : α → Checked Bool} {xs : List α} :
    Answers (someChecked check xs) ↔
      ∀ before x after, xs = before ++ x :: after → (∀ b ∈ before, check b ≠ .ok true) →
        Answers (check x) := by
  induction xs with
  | nil =>
      refine ⟨?_, fun _ => ⟨false, rfl⟩⟩
      intro _ before x after hsplit
      simp at hsplit
  | cons x xs ih =>
      have hunfold : Answers (someChecked check (x :: xs)) ↔
          ∃ hit, check x = .ok hit ∧ (hit = true ∨ Answers (someChecked check xs)) := by
        simp only [someChecked, answers_bind]
        refine exists_congr fun hit => and_congr_right fun _ => ?_
        cases hit with
        | true => simp [answers_pure]
        | false => simp
      rw [hunfold]
      constructor
      · rintro ⟨hit, hcheck, hrest⟩ before y after hsplit hbefore
        cases before with
        | nil =>
            rw [List.nil_append, List.cons.injEq] at hsplit
            rw [← hsplit.1]
            exact ⟨hit, hcheck⟩
        | cons b before =>
            rw [List.cons_append, List.cons.injEq] at hsplit
            have hmiss : check x ≠ .ok true := by
              rw [hsplit.1]
              exact hbefore b List.mem_cons_self
            rcases hrest with rfl | hrest
            · exact absurd hcheck hmiss
            · exact ih.mp hrest before y after hsplit.2 fun c hc =>
                hbefore c (List.mem_cons_of_mem _ hc)
      · intro h
        rcases h [] x xs rfl (by simp) with ⟨hit, hcheck⟩
        refine ⟨hit, hcheck, ?_⟩
        by_cases hhit : hit = true
        · exact Or.inl hhit
        · refine Or.inr (ih.mpr ?_)
          intro before y after hsplit hbefore
          refine h (x :: before) y after (by rw [hsplit, List.cons_append]) ?_
          intro b hb
          rcases List.mem_cons.mp hb with rfl | hb
          · rw [hcheck]
            intro hok
            exact hhit (Except.ok.inj hok)
          · exact hbefore b hb

theorem failsWith_rejectChecked {code : MarketplaceDomainErrorCode} {α : Type}
    {check : α → Checked Bool} {xs : List α} (h : ∀ x ∈ xs, FailsWith code (check x)) :
    FailsWith code (rejectChecked check xs) := by
  induction xs with
  | nil => exact failsWith_ok []
  | cons x xs ih =>
      refine failsWith_bind.mpr ⟨h x List.mem_cons_self, fun _ _ => ?_⟩
      refine failsWith_bind.mpr ⟨ih fun y hy => h y (List.mem_cons_of_mem _ hy), fun _ _ => ?_⟩
      exact failsWith_ok _

theorem failsWith_someChecked {code : MarketplaceDomainErrorCode} {α : Type}
    {check : α → Checked Bool} {xs : List α} (h : ∀ x ∈ xs, FailsWith code (check x)) :
    FailsWith code (someChecked check xs) := by
  induction xs with
  | nil => exact failsWith_ok false
  | cons x xs ih =>
      refine failsWith_bind.mpr ⟨h x List.mem_cons_self, fun hit _ => ?_⟩
      cases hit with
      | true => exact failsWith_ok true
      | false => exact ih fun y hy => h y (List.mem_cons_of_mem _ hy)

/-! ## The command side's checks -/

theorem failsWith_assertTimestamp (value : TimestampText) (label : String) :
    FailsWith .invalidArgument (assertTimestamp value label) := by
  unfold assertTimestamp
  split
  · exact failsWith_ok _
  · exact failsWith_error.mpr rfl

theorem failsWith_hasCurrentVerification (state : SupplierState)
    (kind : SupplierVerificationKind) (instant : TimestampText) :
    FailsWith .invalidArgument (hasCurrentVerification state kind instant) := by
  unfold hasCurrentVerification
  split
  · exact failsWith_ok _
  · split
    · exact failsWith_ok _
    · split
      · exact failsWith_ok _
      · refine failsWith_bind.mpr ⟨failsWith_assertTimestamp _ _, fun _ _ => ?_⟩
        refine failsWith_bind.mpr ⟨failsWith_assertTimestamp _ _, fun _ _ => ?_⟩
        exact failsWith_ok _

theorem failsWith_isAuthorizationActive (authorization : ProviderAuthorization)
    (instant : TimestampText) :
    FailsWith .invalidArgument (isAuthorizationActive authorization instant) := by
  unfold isAuthorizationActive isActiveAt
  split
  · refine failsWith_bind.mpr ⟨failsWith_assertTimestamp _ _, fun _ _ => ?_⟩
    refine failsWith_bind.mpr ⟨failsWith_assertTimestamp _ _, fun _ _ => ?_⟩
    split
    · exact failsWith_bind.mpr ⟨failsWith_assertTimestamp _ _, fun _ _ => failsWith_ok _⟩
    · exact failsWith_ok _
  · exact failsWith_ok _

theorem failsWith_activationHolds (state : SupplierState) (event : SupplierEvent)
    (activatedAt : TimestampText) :
    FailsWith .invalidArgument (activationHolds state event activatedAt) := by
  unfold activationHolds
  split
  · exact failsWith_ok _
  · refine failsWith_bind.mpr ⟨?_, fun missing _ => ?_⟩
    · exact failsWith_rejectChecked fun kind _ => failsWith_hasCurrentVerification state kind _
    · split
      · exact failsWith_someChecked fun authorization _ =>
          failsWith_isAuthorizationActive authorization _
      · exact failsWith_ok _

/-- Everything an activation at the instant looks at can be read. -/
structure ActivationReadable (state : SupplierState) (t : Int) : Prop where
  verifications : ∀ kind ∈ requiredVerificationKinds state.kind,
    ∀ verification, state.verified kind = some verification → verification.ExpiryReadable
  /-- Authorizations are looked at up to the first open one, if no verification is missing. -/
  authorizations : (∀ kind ∈ requiredVerificationKinds state.kind,
      ∃ verification, state.verified kind = some verification ∧ verification.CurrentAt t) →
    ∀ before authorization after, state.authorizations = before ++ authorization :: after →
      (∀ earlier ∈ before, ¬ earlier.OpenAt t) → authorization.WindowReadable t

theorem activationHolds_answers {state : SupplierState} {event : SupplierEvent}
    {activatedAt : TimestampText} {t : Int} (ht : event.occurredAt.Reads t) :
    Answers (activationHolds state event activatedAt) ↔
      (state.status = .pendingVerification → activatedAt.text = event.occurredAt.text →
        ActivationReadable state t) := by
  unfold activationHolds
  by_cases hskips : state.status ≠ .pendingVerification ∨ activatedAt.text ≠ event.occurredAt.text
  · rw [if_pos hskips]
    refine ⟨?_, fun _ => ⟨false, rfl⟩⟩
    intro _ hpending hat
    rcases hskips with hskips | hskips
    · exact absurd hpending hskips
    · exact absurd hat hskips
  · rw [if_neg hskips, answers_bind]
    rw [not_or, not_not, not_not] at hskips
    have hmissing : Answers (missingRequiredVerificationKinds state event.occurredAt) ↔
        ∀ kind ∈ requiredVerificationKinds state.kind,
          ∀ verification, state.verified kind = some verification →
            verification.ExpiryReadable := by
      rw [missingRequiredVerificationKinds, rejectChecked_answers]
      exact forall₂_congr fun kind _ => hasCurrentVerification_answers ht
    have hnone : missingRequiredVerificationKinds state event.occurredAt = .ok [] ↔
        ∀ kind ∈ requiredVerificationKinds state.kind,
          ∃ verification, state.verified kind = some verification ∧ verification.CurrentAt t := by
      rw [missingRequiredVerificationKinds_eq_nil]
      exact forall₂_congr fun kind _ => hasCurrentVerification_eq_true ht
    have hsome : Answers (someChecked
          (fun authorization => isAuthorizationActive authorization event.occurredAt)
          state.authorizations) ↔
        ∀ before authorization after, state.authorizations = before ++ authorization :: after →
          (∀ earlier ∈ before, ¬ earlier.OpenAt t) → authorization.WindowReadable t := by
      rw [someChecked_answers]
      simp only [isAuthorizationActive_answers ht, ne_eq, isAuthorizationActive_eq_true ht]
    constructor
    · rintro ⟨missing, hok, hrest⟩ - -
      refine ⟨hmissing.mp ⟨missing, hok⟩, fun hcurrent => hsome.mp ?_⟩
      have hempty := hnone.mpr hcurrent
      rw [hok] at hempty
      rw [Except.ok.inj hempty] at hrest
      exact hrest
    · intro h
      have hreadable := h hskips.1 hskips.2
      rcases hmissing.mpr hreadable.verifications with ⟨missing, hok⟩
      refine ⟨missing, hok, ?_⟩
      by_cases hempty : missing.isEmpty = true
      · rw [if_pos hempty]
        rw [List.isEmpty_iff.mp hempty] at hok
        exact hsome.mpr (hreadable.authorizations (hnone.mp hok))
      · rw [if_neg hempty]
        exact answers_pure false

/-! ## One event -/

/-- The checks of one iteration of {lit}`rehydrateSupplier` before the applier. -/
def checkEnvelope (progress : Rehydration) (event : SupplierEvent) : Checked Int := do
  ensure (event.schemaVersion == marketplaceSchemaVersion && event.aggregateType == "supplier")
    (invalidHistory "Unsupported supplier event envelope.")
  assertHistoryIdentifier event.eventId "eventId"
  assertHistoryIdentifier event.tenantId "tenantId"
  assertHistoryIdentifier event.actorId "actorId"
  assertHistoryIdentifier event.causationId "causationId"
  assertHistoryIdentifier event.aggregateId "aggregateId"
  ensure (0 < event.aggregateVersion && event.aggregateVersion ≤ maxSafeInteger)
    (invalidHistory "Supplier aggregate versions must be positive safe integers.")
  let occurredAt ← historyTimestamp event.occurredAt "occurredAt"
  ensure (progress.previousOccurredAt.all fun previous => decide (previous ≤ occurredAt))
    (invalidHistory "Supplier event timestamps cannot move backwards.")
  ensure (!progress.eventIds.contains event.eventId)
    (invalidHistory "Duplicate eventId in supplier history.")
  ensure (!progress.causationIds.contains event.causationId)
    (invalidHistory "Duplicate causationId in supplier history.")
  ensure (event.aggregateVersion == progress.version + 1)
    (invalidHistory ("Expected supplier aggregate version " ++ toString (progress.version + 1) ++
      ", received " ++ toString event.aggregateVersion ++ "."))
  ensure (progress.state.isSome || event.isRegistration)
    (invalidHistory "The first supplier event must be supplier.registered.")
  ensure event.registersAggregate
    (invalidHistory "Registered supplier payload does not match its aggregateId.")
  ensure (progress.sameAggregate event)
    (invalidHistory "Supplier history crosses aggregate or tenant boundaries.")
  pure occurredAt

/-- The loop variables after an event that was applied. -/
def Rehydration.applied (progress : Rehydration) (event : SupplierEvent) (occurredAt : Int)
    (state : SupplierState) : Rehydration where
  state := some state
  eventIds := event.eventId :: progress.eventIds
  causationIds := event.causationId :: progress.causationIds
  previousOccurredAt := some occurredAt

/-- One iteration is the check of the envelope, then the applier. -/
theorem rehydrateStep_eq (progress : Rehydration) (event : SupplierEvent) :
    rehydrateStep progress event = (do
      let occurredAt ← checkEnvelope progress event
      let state ← applySupplierEvent progress.state event
      pure (progress.applied event occurredAt state)) := by
  simp only [rehydrateStep, checkEnvelope, bind_assoc, pure_bind, Rehydration.applied]

theorem checkEnvelope_occurredAt {progress : Rehydration} {event : SupplierEvent} {t : Int}
    (h : checkEnvelope progress event = .ok t) : event.occurredAt.Reads t := by
  simp only [checkEnvelope, Except.bind_eq_ok, exists_unit, Except.pure_eq_ok,
    historyTimestamp_eq_ok] at h
  rcases h with ⟨-, -, -, -, -, -, -, occurredAt, hread, -, -, -, -, -, -, -, rfl⟩
  exact assertTimestamp_reads.mp hread

theorem failsWith_historyTimestamp (value : TimestampText) (label : String) :
    FailsWith .invalidEventHistory (historyTimestamp value label) := by
  unfold historyTimestamp
  split
  · exact failsWith_ok _
  · exact failsWith_error.mpr rfl

theorem failsWith_checkEnvelope (progress : Rehydration) (event : SupplierEvent) :
    FailsWith .invalidEventHistory (checkEnvelope progress event) := by
  unfold checkEnvelope assertHistoryIdentifier
  iterate 7 refine failsWith_bind.mpr ⟨failsWith_ensure rfl, fun _ _ => ?_⟩
  refine failsWith_bind.mpr ⟨failsWith_historyTimestamp _ _, fun _ _ => ?_⟩
  iterate 7 refine failsWith_bind.mpr ⟨failsWith_ensure rfl, fun _ _ => ?_⟩
  exact failsWith_ok _

/-- An activation that is reached can read what it looks at. -/
def StepReadable (progress : Rehydration) (event : SupplierEvent) : Prop :=
  ∀ state t activatedAt, progress.state = some state → checkEnvelope progress event = .ok t →
    event.payload = .activated activatedAt → state.status = .pendingVerification →
      activatedAt.text = event.occurredAt.text → ActivationReadable state t

/-- The applier's own refusals are all classified; an activation is when it answers. -/
theorem failsWith_applySupplierEvent (state? : Option SupplierState) (event : SupplierEvent) :
    FailsWith .invalidEventHistory (applySupplierEvent state? event) ↔
      ∀ state activatedAt, state? = some state → event.payload = .activated activatedAt →
        Answers (activationHolds state event activatedAt) := by
  cases hpayload : event.payload with
  | activated activatedAt =>
      cases state? with
      | none =>
          simp only [applySupplierEvent, hpayload]
          refine ⟨?_, fun _ => failsWith_error.mpr rfl⟩
          intro _ state _ hstate
          cases hstate
      | some state =>
          simp only [applySupplierEvent, hpayload, failsWith_bind, Option.some.injEq,
            SupplierEventPayload.activated.injEq, forall_eq', forall_apply_eq_imp_iff]
          rw [(failsWith_activationHolds state event activatedAt).iff_answers (by decide)]
          refine and_iff_left ?_
          intro _ _
          exact ⟨failsWith_ensure rfl, fun _ _ => failsWith_ok _⟩
  | _ =>
      refine iff_of_true ?_ ?_
      · cases state? with
        | none =>
            simp only [applySupplierEvent, hpayload]
            first
              | exact failsWith_ok _
              | exact failsWith_error.mpr rfl
        | some state =>
            simp only [applySupplierEvent, hpayload]
            first
              | exact failsWith_error.mpr rfl
              | exact failsWith_bind.mpr ⟨failsWith_ensure rfl, fun _ _ => failsWith_ok _⟩
              | exact failsWith_bind.mpr ⟨failsWith_ensure rfl, fun _ _ =>
                  failsWith_bind.mpr ⟨failsWith_ensure rfl, fun _ _ => failsWith_ok _⟩⟩
      · intro state activatedAt _ hactivated
        cases hactivated

theorem failsWith_rehydrateStep (progress : Rehydration) (event : SupplierEvent) :
    FailsWith .invalidEventHistory (rehydrateStep progress event) ↔
      StepReadable progress event := by
  rw [rehydrateStep_eq, failsWith_bind]
  constructor
  · rintro ⟨-, happlied⟩ state t activatedAt hstate henvelope hpayload
    have happlies := (failsWith_bind.mp (happlied t henvelope)).1
    rw [failsWith_applySupplierEvent] at happlies
    exact (activationHolds_answers (checkEnvelope_occurredAt henvelope)).mp
      (happlies state activatedAt hstate hpayload)
  · intro h
    refine ⟨failsWith_checkEnvelope progress event, fun t henvelope => ?_⟩
    refine failsWith_bind.mpr ⟨?_, fun _ _ => failsWith_ok _⟩
    rw [failsWith_applySupplierEvent]
    intro state activatedAt hstate hpayload
    exact (activationHolds_answers (checkEnvelope_occurredAt henvelope)).mpr
      (h state t activatedAt hstate henvelope hpayload)

/-! ## Histories with any version numbers -/

/-- A stored event whose version is any number; {lit}`none` is one that is no integer. -/
structure NumberedSupplierEvent where
  event : SupplierEvent
  aggregateVersion : Option Int
deriving DecidableEq

/-- The event with the version, when that is a natural number. -/
def NumberedSupplierEvent.counted (numbered : NumberedSupplierEvent) : Option SupplierEvent :=
  match numbered.aggregateVersion with
  | some (Int.ofNat n) => some { numbered.event with aggregateVersion := n }
  | _ => none

/-- The checks an event with another version number meets: it never passes them all. -/
def refuseVersion (event : SupplierEvent) : Checked Rehydration := do
  ensure (event.schemaVersion == marketplaceSchemaVersion && event.aggregateType == "supplier")
    (invalidHistory "Unsupported supplier event envelope.")
  assertHistoryIdentifier event.eventId "eventId"
  assertHistoryIdentifier event.tenantId "tenantId"
  assertHistoryIdentifier event.actorId "actorId"
  assertHistoryIdentifier event.causationId "causationId"
  assertHistoryIdentifier event.aggregateId "aggregateId"
  .error (invalidHistory "Supplier aggregate versions must be positive safe integers.")

/-- One iteration of {lit}`rehydrateSupplier` over events with any version numbers. -/
def rehydrateNumberedStep (progress : Rehydration) (numbered : NumberedSupplierEvent) :
    Checked Rehydration :=
  match numbered.counted with
  | some event => rehydrateStep progress event
  | none => refuseVersion numbered.event

def rehydrateNumberedLoop : Rehydration → List NumberedSupplierEvent → Checked Rehydration
  | progress, [] => .ok progress
  | progress, numbered :: events => do
      let next ← rehydrateNumberedStep progress numbered
      rehydrateNumberedLoop next events

/-- {lit}`rehydrateSupplier` over events with any version numbers. -/
def rehydrateNumberedSupplier (events : List NumberedSupplierEvent) :
    Checked (Option SupplierState) := do
  let progress ← rehydrateNumberedLoop {} events
  pure progress.state

/-- An event with its own version number. -/
def SupplierEvent.numbered (event : SupplierEvent) : NumberedSupplierEvent where
  event := event
  aggregateVersion := some event.aggregateVersion

/-- Over natural version numbers this is {lit}`rehydrateSupplier`. -/
theorem rehydrateNumberedSupplier_numbered (events : List SupplierEvent) :
    rehydrateNumberedSupplier (events.map SupplierEvent.numbered) = rehydrateSupplier events := by
  have hloop : ∀ progress, rehydrateNumberedLoop progress (events.map SupplierEvent.numbered) =
      rehydrateLoop progress events := by
    induction events with
    | nil =>
        intro progress
        rfl
    | cons event events ih =>
        intro progress
        simp only [List.map_cons, rehydrateNumberedLoop, rehydrateLoop, ih]
        rfl
  rw [rehydrateNumberedSupplier, rehydrateSupplier, hloop]

/-- Every activation the loop reaches can read what it looks at. -/
def ActivationsReadable : Rehydration → List NumberedSupplierEvent → Prop
  | _, [] => True
  | progress, numbered :: events =>
      (∀ event, numbered.counted = some event → StepReadable progress event) ∧
        ∀ next, rehydrateNumberedStep progress numbered = .ok next →
          ActivationsReadable next events

theorem failsWith_refuseVersion (event : SupplierEvent) :
    FailsWith .invalidEventHistory (refuseVersion event) := by
  unfold refuseVersion assertHistoryIdentifier
  iterate 6 refine failsWith_bind.mpr ⟨failsWith_ensure rfl, fun _ _ => ?_⟩
  exact failsWith_error.mpr rfl

theorem failsWith_rehydrateNumberedStep (progress : Rehydration)
    (numbered : NumberedSupplierEvent) :
    FailsWith .invalidEventHistory (rehydrateNumberedStep progress numbered) ↔
      ∀ event, numbered.counted = some event → StepReadable progress event := by
  unfold rehydrateNumberedStep
  cases hcounted : numbered.counted with
  | none =>
      refine iff_of_true (failsWith_refuseVersion _) ?_
      intro event hevent
      cases hevent
  | some event =>
      simp only [Option.some.injEq, forall_eq']
      exact failsWith_rehydrateStep progress event

theorem failsWith_rehydrateNumberedLoop (progress : Rehydration)
    (events : List NumberedSupplierEvent) :
    FailsWith .invalidEventHistory (rehydrateNumberedLoop progress events) ↔
      ActivationsReadable progress events := by
  induction events generalizing progress with
  | nil => exact iff_of_true (failsWith_ok _) trivial
  | cons numbered events ih =>
      simp only [rehydrateNumberedLoop, failsWith_bind, failsWith_rehydrateNumberedStep, ih,
        ActivationsReadable]

/-- Only INVALID_EVENT_HISTORY escapes exactly when every activation that is reached can
read the timestamps it looks at. -/
theorem rehydrateNumberedSupplier_classifies_iff (events : List NumberedSupplierEvent) :
    FailsWith .invalidEventHistory (rehydrateNumberedSupplier events) ↔
      ActivationsReadable {} events := by
  rw [rehydrateNumberedSupplier, failsWith_bind, failsWith_rehydrateNumberedLoop]
  exact and_iff_left fun _ _ => failsWith_ok _

/-- An activation behind an identity check that expires at no readable time. -/
def unreadableExpirySample : List SupplierEvent :=
  let verified : SupplierEvent :=
    { registeredSample with
      eventId := "event-002"
      causationId := "command-002"
      aggregateVersion := 2
      payload := .verificationRecorded
        { verificationSample with expiresAt := some { text := "never", instant := none } } }
  [registeredSample, verified,
    { registeredSample with
      eventId := "event-003"
      causationId := "command-003"
      aggregateVersion := 3
      payload := .activated registeredSample.occurredAt }]

/-- The command side's INVALID_ARGUMENT escapes from the sample. -/
theorem unreadableExpiry_escapes :
    ∃ error, rehydrateNumberedSupplier (unreadableExpirySample.map SupplierEvent.numbered) =
      .error error ∧ error.code = .invalidArgument := by
  refine ⟨{
    code := .invalidArgument
    message := "expiresAt must be an ISO-8601 UTC timestamp."
    details := [("label", .text "expiresAt")] }, ?_, rfl⟩
  rw [rehydrateNumberedSupplier_numbered]
  decide +kernel

end Domain
end TokenStreaming
