import TokenStreaming.Domain.Supplier
import Mathlib.Data.List.Range

/-!
# Marketplace domain - Accepted supplier histories

What {lit}`rehydrateSupplier` guarantees about the histories it accepts, and
which events extend an accepted history.

Main results:

- Theorem {lit}`rehydrateStep_eq_ok`: the loop body accepts an event exactly
  when every check of {lit}`AcceptsNext` holds.
- Theorem {lit}`rehydrateLoop_numbered`: an accepted history is numbered
  consecutively and the state's version counts it.
- Theorem {lit}`rehydrate_registration`: a registration event alone is accepted.
- Theorem {lit}`AcceptsNext.of_context`: an event built from an accepted command
  context passes every check on its envelope.

Current gaps: none; the commands are matched with their events in the next module.
-/

namespace TokenStreaming
namespace Domain

/-! ## One accepted event -/

/-- The checks one iteration of {lit}`rehydrateSupplier` makes, and its result. -/
structure AcceptsNext (progress : Rehydration) (event : SupplierEvent) (next : Rehydration) :
    Prop where
  schemaVersion : event.schemaVersion = marketplaceSchemaVersion
  aggregateType : event.aggregateType = "supplier"
  eventId : matchesIdentifierPattern event.eventId = true
  tenantId : matchesIdentifierPattern event.tenantId = true
  actorId : matchesIdentifierPattern event.actorId = true
  causationId : matchesIdentifierPattern event.causationId = true
  aggregateId : matchesIdentifierPattern event.aggregateId = true
  versionPositive : 0 < event.aggregateVersion
  versionSafe : event.aggregateVersion ≤ maxSafeInteger
  occurredAt : ∃ t, assertTimestamp event.occurredAt "occurredAt" = .ok t ∧
    (∀ previous, progress.previousOccurredAt = some previous → previous ≤ t) ∧
    next.previousOccurredAt = some t
  freshEventId : event.eventId ∉ progress.eventIds
  freshCausationId : event.causationId ∉ progress.causationIds
  versionNext : event.aggregateVersion = progress.version + 1
  registersFirst : progress.state.isSome = true ∨ event.isRegistration = true
  registersAggregate : event.registersAggregate = true
  sameAggregate : progress.sameAggregate event = true
  applied : ∃ state, applySupplierEvent progress.state event = .ok state ∧
    next.state = some state
  eventIds : next.eventIds = event.eventId :: progress.eventIds
  causationIds : next.causationIds = event.causationId :: progress.causationIds

theorem historyTimestamp_eq_ok {value : TimestampText} {label : String} {t : Int} :
    historyTimestamp value label = .ok t ↔ assertTimestamp value label = .ok t := by
  unfold historyTimestamp
  split <;> rename_i h <;> simp [h]

/-- The loop body is exactly its list of checks. -/
theorem rehydrateStep_eq_ok {progress next : Rehydration} {event : SupplierEvent} :
    rehydrateStep progress event = .ok next ↔ AcceptsNext progress event next := by
  simp only [rehydrateStep, assertHistoryIdentifier, Except.bind_eq_ok, ensure_eq_ok,
    Except.pure_eq_ok, exists_unit, historyTimestamp_eq_ok, Bool.and_eq_true, beq_iff_eq,
    decide_eq_true_eq, Bool.not_eq_true', List.contains_eq_mem, decide_eq_false_iff_not,
    Bool.or_eq_true, Option.all_eq_true]
  constructor
  · rintro ⟨⟨h1, h2⟩, h3, h4, h5, h6, h7, ⟨h8, h9⟩, t, h10, h11, h12, h13, h14, h15, h16, h17,
      state, h18, rfl⟩
    exact ⟨h1, h2, h3, h4, h5, h6, h7, h8, h9, ⟨t, h10, fun p hp => h11 p hp, rfl⟩, h12, h13,
      h14, h15, h16, h17, ⟨state, h18, rfl⟩, rfl, rfl⟩
  · rintro ⟨h1, h2, h3, h4, h5, h6, h7, h8, h9, ⟨t, h10, h11, ht⟩, h12, h13, h14, h15, h16, h17,
      ⟨state, h18, hs⟩, he, hc⟩
    refine ⟨⟨h1, h2⟩, h3, h4, h5, h6, h7, ⟨h8, h9⟩, t, h10, fun p hp => h11 p hp, h12, h13, h14,
      h15, h16, h17, state, h18, ?_⟩
    cases next
    simp_all

/-- The applied event's version and time become the state's. -/
theorem applySupplierEvent_stamped {state? : Option SupplierState} {event : SupplierEvent}
    {state : SupplierState} (h : applySupplierEvent state? event = .ok state) :
    state.version = event.aggregateVersion ∧ state.updatedAt = event.occurredAt := by
  unfold applySupplierEvent at h
  split at h
  case h_1 => simp at h
  case h_2 =>
    obtain rfl := Except.ok.inj h
    exact ⟨rfl, rfl⟩
  case h_3 => simp at h
  all_goals
    simp only [Except.bind_eq_ok, ensure_eq_ok, Except.pure_eq_ok, exists_unit] at h
  case h_4 => obtain ⟨-, -, rfl⟩ := h; exact ⟨rfl, rfl⟩
  case h_5 => obtain ⟨-, -, rfl⟩ := h; exact ⟨rfl, rfl⟩
  case h_6 => obtain ⟨-, rfl⟩ := h; exact ⟨rfl, rfl⟩
  case h_7 => obtain ⟨_, -, -, rfl⟩ := h; exact ⟨rfl, rfl⟩
  case h_8 => obtain ⟨-, rfl⟩ := h; exact ⟨rfl, rfl⟩

/-- The aggregate keeps its identity. -/
theorem applySupplierEvent_identity {state state' : SupplierState} {event : SupplierEvent}
    (h : applySupplierEvent (some state) event = .ok state') :
    state'.supplierId = state.supplierId ∧ state'.tenantId = state.tenantId := by
  unfold applySupplierEvent at h
  split at h <;> rename_i hpayload hstate
  case h_1 => simp at h
  case h_2 => simp at hstate
  case h_3 => simp at h
  all_goals
    simp only [Except.bind_eq_ok, ensure_eq_ok, Except.pure_eq_ok, exists_unit] at h
    obtain rfl := Option.some.inj hstate
  case h_4 => obtain ⟨-, -, rfl⟩ := h; exact ⟨rfl, rfl⟩
  case h_5 => obtain ⟨-, -, rfl⟩ := h; exact ⟨rfl, rfl⟩
  case h_6 => obtain ⟨-, rfl⟩ := h; exact ⟨rfl, rfl⟩
  case h_7 => obtain ⟨_, -, -, rfl⟩ := h; exact ⟨rfl, rfl⟩
  case h_8 => obtain ⟨-, rfl⟩ := h; exact ⟨rfl, rfl⟩

theorem AcceptsNext.version {progress next : Rehydration} {event : SupplierEvent}
    (h : AcceptsNext progress event next) : next.version = progress.version + 1 := by
  rcases h.applied with ⟨state, hstate, hnext⟩
  rw [Rehydration.version, hnext]
  exact (applySupplierEvent_stamped hstate).1.trans h.versionNext

/-! ## Accepted histories -/

theorem rehydrateLoop_cons {progress : Rehydration} {event : SupplierEvent}
    {events : List SupplierEvent} {final : Rehydration} :
    rehydrateLoop progress (event :: events) = .ok final ↔
      ∃ next, AcceptsNext progress event next ∧ rehydrateLoop next events = .ok final := by
  simp only [rehydrateLoop, Except.bind_eq_ok, rehydrateStep_eq_ok]

theorem rehydrateLoop_append {progress final : Rehydration} {first second : List SupplierEvent} :
    rehydrateLoop progress (first ++ second) = .ok final ↔
      ∃ mid, rehydrateLoop progress first = .ok mid ∧ rehydrateLoop mid second = .ok final := by
  induction first generalizing progress with
  | nil => simp [rehydrateLoop]
  | cons event first ih =>
      simp only [List.cons_append, rehydrateLoop_cons, ih]
      constructor
      · rintro ⟨next, hnext, mid, hmid, hfinal⟩
        exact ⟨mid, ⟨next, hnext, hmid⟩, hfinal⟩
      · rintro ⟨mid, ⟨next, hnext, hmid⟩, hfinal⟩
        exact ⟨next, hnext, mid, hmid, hfinal⟩

/-- The facts that tie the loop variables to the events consumed so far. -/
structure Tracks (progress : Rehydration) (events : List SupplierEvent) : Prop where
  numbered : events.map SupplierEvent.aggregateVersion = List.range' 1 events.length
  version : progress.version = events.length
  eventIds : ∀ event ∈ events, event.eventId ∈ progress.eventIds
  eventIds_mem : ∀ i ∈ progress.eventIds, i ∈ events.map SupplierEvent.eventId
  causationIds_mem : ∀ i ∈ progress.causationIds, i ∈ events.map SupplierEvent.causationId
  empty : progress.state = none → progress.previousOccurredAt = none
  timed : ∀ state, progress.state = some state →
    ∃ t, assertTimestamp state.updatedAt "aggregateUpdatedAt" = .ok t ∧
      progress.previousOccurredAt = some t
  identified : ∀ state, progress.state = some state → ∀ event ∈ events,
    event.tenantId = state.tenantId ∧ event.aggregateId = state.supplierId
  identifier : ∀ state, progress.state = some state →
    matchesIdentifierPattern state.supplierId = true

theorem Tracks.initial : Tracks {} [] :=
  { numbered := rfl
    version := rfl
    eventIds := by simp
    eventIds_mem := by simp
    causationIds_mem := by simp
    empty := fun _ => rfl
    timed := by simp
    identified := by simp
    identifier := by simp }

/-- The identity of the state after an accepted event is the event's. -/
theorem AcceptsNext.identity {progress next : Rehydration} {event : SupplierEvent}
    (h : AcceptsNext progress event next) {state' : SupplierState}
    (hnext : next.state = some state') :
    event.tenantId = state'.tenantId ∧ event.aggregateId = state'.supplierId ∧
      ∀ state, progress.state = some state →
        state'.supplierId = state.supplierId ∧ state'.tenantId = state.tenantId := by
  rcases h.applied with ⟨applied, happlied, heq⟩
  obtain rfl : applied = state' := Option.some.inj (heq.symm.trans hnext)
  cases hstate : progress.state with
  | none =>
      rw [hstate] at happlied
      have hregister := h.registersFirst
      have hnames := h.registersAggregate
      unfold SupplierEvent.isRegistration at hregister
      unfold SupplierEvent.registersAggregate at hnames
      simp only [hstate, Option.isSome_none, Bool.false_eq_true, false_or] at hregister
      unfold applySupplierEvent at happlied
      split at hregister
      · rename_i input hpayload
        simp only [hpayload] at happlied hnames
        obtain rfl := Except.ok.inj happlied
        exact ⟨rfl, by simpa [SupplierState.ofRegistration] using hnames, by simp⟩
      · simp at hregister
  | some state =>
      rw [hstate] at happlied
      have hsame := h.sameAggregate
      rcases applySupplierEvent_identity happlied with ⟨hid, htenant⟩
      simp only [Rehydration.sameAggregate, hstate, Bool.and_eq_true, beq_iff_eq] at hsame
      refine ⟨hsame.2.trans htenant.symm, hsame.1.trans hid.symm, ?_⟩
      intro other hother
      obtain rfl := Option.some.inj hother
      exact ⟨hid, htenant⟩

theorem Tracks.next {progress next : Rehydration} {events : List SupplierEvent}
    {event : SupplierEvent} (h : Tracks progress events) (haccepts : AcceptsNext progress event next) :
    Tracks next (events ++ [event]) := by
  have hversion := haccepts.version
  rcases haccepts.applied with ⟨state, hstate, hnext⟩
  refine
    { numbered := ?_, version := ?_, eventIds := ?_, eventIds_mem := ?_, causationIds_mem := ?_,
      empty := ?_, timed := ?_, identified := ?_, identifier := ?_ }
  · rw [List.map_append, h.numbered, List.length_append, List.length_singleton,
      List.range'_concat, List.map_singleton, haccepts.versionNext, h.version, Nat.add_comm]
    simp
  · rw [hversion, h.version, List.length_append, List.length_singleton]
  · intro e he
    rw [haccepts.eventIds]
    rcases List.mem_append.mp he with he | he
    · exact List.mem_cons_of_mem _ (h.eventIds e he)
    · rw [List.mem_singleton.mp he]
      exact List.mem_cons_self
  · intro i hi
    rw [haccepts.eventIds] at hi
    rw [List.map_append, List.map_singleton, List.mem_append]
    rcases List.mem_cons.mp hi with rfl | hi
    · exact Or.inr (by simp)
    · exact Or.inl (h.eventIds_mem i hi)
  · intro i hi
    rw [haccepts.causationIds] at hi
    rw [List.map_append, List.map_singleton, List.mem_append]
    rcases List.mem_cons.mp hi with rfl | hi
    · exact Or.inr (by simp)
    · exact Or.inl (h.causationIds_mem i hi)
  · intro hnone
    simp [hnext] at hnone
  · intro state' hstate'
    obtain rfl : state = state' := Option.some.inj (hnext.symm.trans hstate')
    rcases haccepts.occurredAt with ⟨t, ht, -, hprev⟩
    exact ⟨t, by rw [(applySupplierEvent_stamped hstate).2]; exact assertTimestamp_label ht _,
      hprev⟩
  · intro state' hstate' e he
    rcases haccepts.identity hstate' with ⟨htenant, hid, hkeeps⟩
    rcases List.mem_append.mp he with he | he
    · cases hold : progress.state with
      | none =>
          have hempty : events = [] := by
            have hzero := h.version
            rw [Rehydration.version, hold] at hzero
            exact List.eq_nil_of_length_eq_zero hzero.symm
          simp [hempty] at he
      | some old =>
          rcases h.identified old hold e he with ⟨h1, h2⟩
          rcases hkeeps old hold with ⟨h3, h4⟩
          exact ⟨h1.trans h4.symm, h2.trans h3.symm⟩
    · rw [List.mem_singleton.mp he]
      exact ⟨htenant, hid⟩
  · intro state' hstate'
    rw [← (haccepts.identity hstate').2.1]
    exact haccepts.aggregateId

theorem Tracks.loop {progress final : Rehydration} {seen events : List SupplierEvent}
    (h : Tracks progress seen) (hloop : rehydrateLoop progress events = .ok final) :
    Tracks final (seen ++ events) := by
  induction events generalizing progress seen with
  | nil =>
      obtain rfl := Except.ok.inj hloop
      simpa using h
  | cons event events ih =>
      rcases rehydrateLoop_cons.mp hloop with ⟨next, hnext, hrest⟩
      simpa using ih (h.next hnext) hrest

/-- Accepted histories are numbered consecutively and counted by the version. -/
theorem rehydrateLoop_numbered {events : List SupplierEvent} {final : Rehydration}
    (h : rehydrateLoop {} events = .ok final) : Tracks final events := by
  simpa using Tracks.initial.loop h

theorem rehydrateSupplier_eq_ok {events : List SupplierEvent} {state? : Option SupplierState} :
    rehydrateSupplier events = .ok state? ↔
      ∃ progress, rehydrateLoop {} events = .ok progress ∧ progress.state = state? := by
  simp only [rehydrateSupplier, Except.bind_eq_ok, Except.pure_eq_ok]

/-- Everything {lit}`rehydrateSupplier` tells about a history it accepts with a state. -/
theorem rehydrateSupplier_tracks {events : List SupplierEvent} {state : SupplierState}
    (h : rehydrateSupplier events = .ok (some state)) :
    events.map SupplierEvent.aggregateVersion = List.range' 1 events.length ∧
      state.version = events.length := by
  rcases rehydrateSupplier_eq_ok.mp h with ⟨progress, hloop, hstate⟩
  have htracks := rehydrateLoop_numbered hloop
  refine ⟨htracks.numbered, ?_⟩
  have hversion := htracks.version
  rwa [Rehydration.version, hstate] at hversion

theorem rehydrateLoop_aggregateType {events : List SupplierEvent} {progress final : Rehydration}
    (h : rehydrateLoop progress events = .ok final) :
    ∀ event ∈ events, event.aggregateType = "supplier" := by
  induction events generalizing progress with
  | nil => simp
  | cons event events ih =>
      rcases rehydrateLoop_cons.mp h with ⟨next, hnext, hrest⟩
      intro other hother
      rcases List.mem_cons.mp hother with rfl | hother
      · exact hnext.aggregateType
      · exact ih hrest other hother

/-- The events of an accepted history all name the aggregate of its state. -/
theorem rehydrateSupplier_identified {events : List SupplierEvent} {state : SupplierState}
    (h : rehydrateSupplier events = .ok (some state)) :
    ∀ event ∈ events, event.aggregateType = "supplier" ∧ event.tenantId = state.tenantId ∧
      event.aggregateId = state.supplierId := by
  rcases rehydrateSupplier_eq_ok.mp h with ⟨progress, hloop, hstate⟩
  intro event hevent
  exact ⟨rehydrateLoop_aggregateType hloop event hevent,
    (rehydrateLoop_numbered hloop).identified state hstate event hevent⟩

/-- An accepted history with a state is not empty. -/
theorem rehydrateSupplier_ne_nil {events : List SupplierEvent} {state : SupplierState}
    (h : rehydrateSupplier events = .ok (some state)) : events ≠ [] := by
  intro hnil
  rw [hnil] at h
  cases h

/-! ## Events that extend a history -/

/-- The identity checks an event built from an accepted command context passes. -/
theorem AcceptsNext.of_context {progress : Rehydration} {state : SupplierState}
    {seen : List SupplierEvent} (htracks : Tracks progress seen)
    (hstate : progress.state = some state) {context : MarketplaceCommandContext}
    {payload : SupplierEventPayload} (hcontext : assertStateContext state context = .ok ())
    (hevent : context.eventId ∉ seen.map SupplierEvent.eventId)
    (hcausation : context.commandId ∉ seen.map SupplierEvent.causationId)
    (hsafe : seen.length + 1 ≤ maxSafeInteger)
    (hpayload : (supplierEvent state context payload).isRegistration = false)
    {state' : SupplierState}
    (happlied : applySupplierEvent (some state) (supplierEvent state context payload) = .ok state') :
    ∃ next, AcceptsNext progress (supplierEvent state context payload) next ∧
      next.state = some state' := by
  simp only [assertStateContext, assertTenant, assertCommandNotBefore, Except.bind_eq_ok,
    ensure_eq_ok, beq_iff_eq, exists_unit, assertContext_eq_ok, decide_eq_true_eq] at hcontext
  rcases hcontext with ⟨haccepted, htenant, t, ht, u, hu, hle⟩
  rcases htracks.timed state hstate with ⟨v, hv, hprev⟩
  obtain rfl : u = v := Except.ok.inj (hu.symm.trans hv)
  have hversion : state.version = seen.length := by
    have := htracks.version
    rwa [Rehydration.version, hstate] at this
  have hregisters : (supplierEvent state context payload).registersAggregate = true := by
    unfold SupplierEvent.isRegistration at hpayload
    unfold SupplierEvent.registersAggregate
    split <;> simp_all
  refine ⟨{ state := some state', eventIds := context.eventId :: progress.eventIds
            causationIds := context.commandId :: progress.causationIds
            previousOccurredAt := some t }, ?_, rfl⟩
  exact
    { schemaVersion := rfl
      aggregateType := rfl
      eventId := haccepted.eventId
      tenantId := haccepted.tenantId
      actorId := haccepted.actorId
      causationId := haccepted.commandId
      aggregateId := htracks.identifier state hstate
      versionPositive := by simp [supplierEvent]
      versionSafe := by simpa [supplierEvent, hversion] using hsafe
      occurredAt := ⟨t, ht, fun previous hp => by
        obtain rfl := Option.some.inj (hprev.symm.trans hp)
        exact hle, rfl⟩
      freshEventId := fun hmem => hevent (htracks.eventIds_mem _ hmem)
      freshCausationId := fun hmem => hcausation (htracks.causationIds_mem _ hmem)
      versionNext := by simp [supplierEvent, Rehydration.version, hstate]
      registersFirst := Or.inl (by simp [hstate])
      registersAggregate := hregisters
      sameAggregate := by simp [Rehydration.sameAggregate, hstate, supplierEvent, htenant]
      applied := ⟨state', by rw [hstate]; exact happlied, rfl⟩
      eventIds := rfl
      causationIds := rfl }

/-- A registration event alone is an accepted history of a pending supplier. -/
theorem rehydrate_registration {input : SupplierRegistrationInput}
    {context : MarketplaceCommandContext} {event : SupplierEvent}
    (h : registerSupplier input context = .ok event) :
    ∃ state, rehydrateSupplier [event] = .ok (some state) ∧
      state.status = .pendingVerification := by
  simp only [registerSupplier, assertIdentifier, Except.bind_eq_ok, ensure_eq_ok, exists_unit,
    Except.pure_eq_ok, assertContext_eq_ok] at h
  rcases h with ⟨haccepted, hid, -, -, -, -, rfl⟩
  rcases haccepted.occurredAt with ⟨t, ht⟩
  let event : SupplierEvent :=
    { schemaVersion := marketplaceSchemaVersion
      eventId := context.eventId
      tenantId := context.tenantId
      actorId := context.actorId
      causationId := context.commandId
      aggregateType := "supplier"
      aggregateId := input.supplierId
      aggregateVersion := 1
      occurredAt := context.occurredAt
      payload := .registered input }
  let next : Rehydration :=
    { state := some (SupplierState.ofRegistration event input)
      eventIds := [context.eventId]
      causationIds := [context.commandId]
      previousOccurredAt := some t }
  have hnext : AcceptsNext {} event next :=
    { schemaVersion := rfl
      aggregateType := rfl
      eventId := haccepted.eventId
      tenantId := haccepted.tenantId
      actorId := haccepted.actorId
      causationId := haccepted.commandId
      aggregateId := hid
      versionPositive := by simp [event]
      versionSafe := by simp [event, maxSafeInteger]
      occurredAt := ⟨t, ht, by simp, rfl⟩
      freshEventId := by simp
      freshCausationId := by simp
      versionNext := rfl
      registersFirst := Or.inr rfl
      registersAggregate := by simp [event, SupplierEvent.registersAggregate]
      sameAggregate := rfl
      applied := ⟨_, rfl, rfl⟩
      eventIds := rfl
      causationIds := rfl }
  exact ⟨SupplierState.ofRegistration event input,
    rehydrateSupplier_eq_ok.mpr ⟨next, rehydrateLoop_cons.mpr ⟨next, hnext, rfl⟩, rfl⟩, rfl⟩

end Domain
end TokenStreaming
