import TokenStreaming.Domain.SupplierCommands
import Mathlib.Data.List.Induction
import Mathlib.Data.List.Nodup

/-!
# Marketplace domain - What every accepted supplier history satisfies

The invariant of the supplier aggregate, over all prefixes of a history that
{lit}`rehydrateSupplier` accepts: how the status moves, which records are held,
and what was true at the instant of activation.

Main results:

- Theorem {lit}`applySupplierEvent_transition`: one accepted event of a
  registered supplier is one of five transitions.
- Theorem {lit}`HeldRecords.ofHistory`: the records held are the latest ones.
- Theorem {lit}`accepted_history_invariant`: the invariant of every history.

Current gaps: none for the supplier aggregate.
-/

namespace TokenStreaming
namespace Domain

/-! ## The transitions of a registered supplier -/

/-- What an accepted event does to a registered supplier, with the checks it passed. -/
inductive SupplierTransition (state : SupplierState) (event : SupplierEvent) :
    SupplierState → Prop where
  | verificationRecorded (verification : SupplierVerification)
      (payload : event.payload = .verificationRecorded verification)
      (writable : state.isWritable = true) :
      SupplierTransition state event
        { advance state event with
          verifications :=
            (state.verifications.filter fun existing => existing.kind != verification.kind) ++
              [verification] }
  | authorizationRecorded (authorization : ProviderAuthorization)
      (payload : event.payload = .providerAuthorizationRecorded authorization)
      (writable : state.isWritable = true)
      (fresh : authorization.authorizationId ∉
        state.authorizations.map ProviderAuthorization.authorizationId) :
      SupplierTransition state event
        { advance state event with authorizations := state.authorizations ++ [authorization] }
  | authorizationRevoked (authorizationId reasonCode : String)
      (payload : event.payload = .providerAuthorizationRevoked authorizationId reasonCode) :
      SupplierTransition state event
        { advance state event with
          authorizations := revokeIn authorizationId state.authorizations }
  | activated (activatedAt : TimestampText) (payload : event.payload = .activated activatedAt)
      (holds : activationHolds state event activatedAt = .ok true) :
      SupplierTransition state event { advance state event with status := .active }
  | suspended (reasonCode : String) (payload : event.payload = .suspended reasonCode)
      (writable : state.isWritable = true) :
      SupplierTransition state event { advance state event with status := .suspended }

/-- The applier's accepted events are exactly these transitions. -/
theorem applySupplierEvent_transition {state state' : SupplierState} {event : SupplierEvent}
    (h : applySupplierEvent (some state) event = .ok state') :
    SupplierTransition state event state' := by
  unfold applySupplierEvent at h
  split at h <;> rename_i hpayload hstate
  case h_1 => simp at h
  case h_2 => simp at hstate
  case h_3 => simp at h
  all_goals
    simp only [Except.bind_eq_ok, ensure_eq_ok, Except.pure_eq_ok, exists_unit] at h
    obtain rfl := Option.some.inj hstate
  case h_4 =>
    rcases h with ⟨hwritable, -, rfl⟩
    exact .verificationRecorded _ hpayload hwritable
  case h_5 =>
    rcases h with ⟨hwritable, hfresh, rfl⟩
    refine .authorizationRecorded _ hpayload hwritable ?_
    intro hmem
    rcases List.mem_map.mp hmem with ⟨existing, hexisting, hid⟩
    have hany : state.authorizations.any (fun existing =>
        existing.authorizationId == _) = true :=
      List.any_eq_true.mpr ⟨existing, hexisting, beq_iff_eq.mpr hid⟩
    rw [hany] at hfresh
    exact Bool.noConfusion hfresh
  case h_6 =>
    rcases h with ⟨-, rfl⟩
    exact .authorizationRevoked _ _ hpayload
  case h_7 =>
    rcases h with ⟨holds, hholds, htrue, rfl⟩
    subst htrue
    exact .activated _ hpayload hholds
  case h_8 =>
    rcases h with ⟨hwritable, rfl⟩
    exact .suspended _ hpayload hwritable

/-- The first accepted event registers the supplier. -/
theorem applySupplierEvent_first {state' : SupplierState} {event : SupplierEvent}
    (h : applySupplierEvent none event = .ok state') :
    ∃ input, event.payload = .registered input ∧
      state' = SupplierState.ofRegistration event input := by
  unfold applySupplierEvent at h
  cases hpayload : event.payload with
  | registered input =>
      rw [hpayload] at h
      exact ⟨input, rfl, (Except.ok.inj h).symm⟩
  | verificationRecorded verification => rw [hpayload] at h; cases h
  | providerAuthorizationRecorded authorization => rw [hpayload] at h; cases h
  | providerAuthorizationRevoked authorizationId reasonCode => rw [hpayload] at h; cases h
  | activated activatedAt => rw [hpayload] at h; cases h
  | suspended reasonCode => rw [hpayload] at h; cases h

/-! ## Prefixes of a history -/

/-- Accepted histories end with an accepted event. -/
theorem rehydrateSupplier_snoc {first : List SupplierEvent} {event : SupplierEvent}
    {state? : Option SupplierState} :
    rehydrateSupplier (first ++ [event]) = .ok state? ↔
      ∃ progress next, rehydrateLoop {} first = .ok progress ∧
        AcceptsNext progress event next ∧ next.state = state? := by
  rw [rehydrateSupplier_eq_ok]
  simp only [rehydrateLoop_append, rehydrateLoop_cons]
  constructor
  · rintro ⟨final, ⟨progress, hfirst, next, hnext, hfinal⟩, hstate⟩
    obtain rfl := Except.ok.inj hfinal
    exact ⟨progress, next, hfirst, hnext, hstate⟩
  · rintro ⟨progress, next, hfirst, hnext, hstate⟩
    exact ⟨next, ⟨progress, hfirst, next, hnext, rfl⟩, hstate⟩

/-- A prefix of an accepted history is accepted. -/
theorem rehydrateSupplier_prefix {first more : List SupplierEvent} {state? : Option SupplierState}
    (h : rehydrateSupplier (first ++ more) = .ok state?) :
    ∃ earlier?, rehydrateSupplier first = .ok earlier? := by
  rcases rehydrateSupplier_eq_ok.mp h with ⟨final, hloop, -⟩
  rcases rehydrateLoop_append.mp hloop with ⟨progress, hfirst, -⟩
  exact ⟨progress.state, rehydrateSupplier_eq_ok.mpr ⟨progress, hfirst, rfl⟩⟩

/-- How the state of a history comes from the state of the history before its
last event. -/
inductive LastEvent (first : List SupplierEvent) (event : SupplierEvent) (state : SupplierState) :
    Prop where
  | registration (input : SupplierRegistrationInput) (start : first = [])
      (payload : event.payload = .registered input)
      (created : state = SupplierState.ofRegistration event input)
  | transition (earlier : SupplierState)
      (accepted : rehydrateSupplier first = .ok (some earlier))
      (step : SupplierTransition earlier event state)

/-- An accepted history is not empty only if its state exists. -/
theorem rehydrateSupplier_lastEvent {first : List SupplierEvent} {event : SupplierEvent}
    {state? : Option SupplierState} (h : rehydrateSupplier (first ++ [event]) = .ok state?) :
    ∃ state, state? = some state ∧ LastEvent first event state := by
  rcases rehydrateSupplier_snoc.mp h with ⟨progress, next, hfirst, hnext, hstate⟩
  rcases hnext.applied with ⟨state, happlied, hsome⟩
  refine ⟨state, hstate.symm.trans hsome, ?_⟩
  cases hprogress : progress.state with
  | none =>
      rw [hprogress] at happlied
      rcases applySupplierEvent_first happlied with ⟨input, hpayload, hcreated⟩
      have htracks := rehydrateLoop_numbered hfirst
      have hlength := htracks.version
      rw [Rehydration.version, hprogress] at hlength
      exact .registration input (List.eq_nil_of_length_eq_zero hlength.symm) hpayload hcreated
  | some earlier =>
      rw [hprogress] at happlied
      exact .transition earlier (rehydrateSupplier_eq_ok.mpr ⟨progress, hfirst, hprogress⟩)
        (applySupplierEvent_transition happlied)

theorem rehydrateSupplier_nil : rehydrateSupplier [] = .ok none := rfl

/-! ## The status -/

/-- The moves of a supplier's status. -/
inductive StatusMove : SupplierStatus → SupplierStatus → Prop where
  | stays (status : SupplierStatus) : StatusMove status status
  | activation : StatusMove .pendingVerification .active
  | pendingSuspension : StatusMove .pendingVerification .suspended
  | activeSuspension : StatusMove .active .suspended

/-- The event is a revocation. -/
def SupplierEvent.isRevocation (event : SupplierEvent) : Bool :=
  match event.payload with
  | .providerAuthorizationRevoked _ _ => true
  | _ => false

theorem activationHolds_pending {state : SupplierState} {event : SupplierEvent}
    {activatedAt : TimestampText} (h : activationHolds state event activatedAt = .ok true) :
    state.status = .pendingVerification := by
  unfold activationHolds at h
  by_cases hpasses : state.status ≠ .pendingVerification ∨ activatedAt.text ≠ event.occurredAt.text
  · rw [if_pos hpasses] at h
    cases h
  · by_contra hne
    exact hpasses (Or.inl hne)

/-- No accepted history reaches the status rejected. -/
theorem rehydrate_status_ne_rejected {history : List SupplierEvent} {state : SupplierState}
    (h : rehydrateSupplier history = .ok (some state)) : state.status ≠ .rejected := by
  induction history using List.reverseRecOn generalizing state with
  | nil => cases h
  | append_singleton first event ih =>
      rcases rehydrateSupplier_lastEvent h with ⟨state', hstate, hlast⟩
      obtain rfl := Option.some.inj hstate
      cases hlast with
      | registration input start payload created =>
          rw [created]
          intro hstatus
          cases hstatus
      | transition earlier accepted step =>
          have hearlier := ih accepted
          cases step with
          | verificationRecorded verification payload writable => exact hearlier
          | authorizationRecorded authorization payload writable fresh => exact hearlier
          | authorizationRevoked authorizationId reasonCode payload => exact hearlier
          | activated activatedAt payload holds =>
              intro hstatus
              cases hstatus
          | suspended reasonCode payload writable =>
              intro hstatus
              cases hstatus

/-- One transition moves the status along an allowed move. -/
theorem SupplierTransition.status_move {state state' : SupplierState} {event : SupplierEvent}
    (h : SupplierTransition state event state') (hrejected : state.status ≠ .rejected) :
    StatusMove state.status state'.status := by
  cases h with
  | verificationRecorded verification payload writable => exact .stays _
  | authorizationRecorded authorization payload writable fresh => exact .stays _
  | authorizationRevoked authorizationId reasonCode payload => exact .stays _
  | activated activatedAt payload holds =>
      rw [activationHolds_pending holds]
      exact .activation
  | suspended reasonCode payload writable =>
      cases hstatus : state.status with
      | pendingVerification => exact .pendingSuspension
      | active => exact .activeSuspension
      | suspended => exact .stays _
      | rejected => exact absurd hstatus hrejected

/-- A suspended supplier takes revocations only, and stays suspended. -/
theorem SupplierTransition.of_suspended {state state' : SupplierState} {event : SupplierEvent}
    (h : SupplierTransition state event state') (hsuspended : state.status = .suspended) :
    event.isRevocation = true ∧ state'.status = .suspended := by
  have hreadonly : state.isWritable = false := by
    rw [SupplierState.isWritable, hsuspended]
    rfl
  cases h with
  | verificationRecorded verification payload writable =>
      rw [hreadonly] at writable
      exact Bool.noConfusion writable
  | authorizationRecorded authorization payload writable fresh =>
      rw [hreadonly] at writable
      exact Bool.noConfusion writable
  | authorizationRevoked authorizationId reasonCode payload =>
      exact ⟨by rw [SupplierEvent.isRevocation, payload], hsuspended⟩
  | activated activatedAt payload holds =>
      have hpending := activationHolds_pending holds
      rw [hsuspended] at hpending
      cases hpending
  | suspended reasonCode payload writable =>
      rw [hreadonly] at writable
      exact Bool.noConfusion writable

/-! ## The records held -/

/-- The verifications a history records, oldest first. -/
def recordedVerifications (history : List SupplierEvent) : List SupplierVerification :=
  history.filterMap fun event =>
    match event.payload with
    | .verificationRecorded verification => some verification
    | _ => none

/-- The verification of a kind recorded last. -/
def latestVerification (history : List SupplierEvent) (kind : SupplierVerificationKind) :
    Option SupplierVerification :=
  ((recordedVerifications history).filter fun verification => verification.kind == kind).getLast?

/-- The records a state holds after a history. -/
structure HeldRecords (history : List SupplierEvent) (state : SupplierState) : Prop where
  authorizationIds :
    (state.authorizations.map ProviderAuthorization.authorizationId).Nodup
  verifications : ∀ kind,
    (state.verifications.filter fun verification => verification.kind == kind) =
      (latestVerification history kind).toList

theorem recordedVerifications_snoc (first : List SupplierEvent) (event : SupplierEvent) :
    recordedVerifications (first ++ [event]) =
      recordedVerifications first ++ recordedVerifications [event] := by
  rw [recordedVerifications, List.filterMap_append]
  rfl

theorem recordedVerifications_other {event : SupplierEvent}
    (h : ∀ verification, event.payload ≠ .verificationRecorded verification) :
    recordedVerifications [event] = [] := by
  unfold recordedVerifications
  rw [List.filterMap_cons, List.filterMap_nil]
  split
  · rfl
  · rename_i verification hsome
    split at hsome
    · exact absurd ‹_› (h _)
    · cases hsome

theorem latestVerification_other {first : List SupplierEvent} {event : SupplierEvent}
    (h : ∀ verification, event.payload ≠ .verificationRecorded verification)
    (kind : SupplierVerificationKind) :
    latestVerification (first ++ [event]) kind = latestVerification first kind := by
  unfold latestVerification
  rw [recordedVerifications_snoc, recordedVerifications_other h, List.append_nil]

theorem recordedVerifications_recorded {event : SupplierEvent}
    {verification : SupplierVerification}
    (h : event.payload = .verificationRecorded verification) :
    recordedVerifications [event] = [verification] := by
  unfold recordedVerifications
  rw [List.filterMap_cons, h]
  rfl

/-- Recording replaces the held verification of that kind and no other. -/
theorem latestVerification_recorded {first : List SupplierEvent} {event : SupplierEvent}
    {verification : SupplierVerification}
    (h : event.payload = .verificationRecorded verification) (kind : SupplierVerificationKind) :
    latestVerification (first ++ [event]) kind =
      if verification.kind = kind then some verification else latestVerification first kind := by
  unfold latestVerification
  rw [recordedVerifications_snoc, recordedVerifications_recorded h, List.filter_append]
  by_cases hkind : verification.kind = kind
  · rw [if_pos hkind, List.filter_singleton]
    simp [hkind]
  · have hfalse : (verification.kind == kind) = false := beq_eq_false_iff_ne.mpr hkind
    rw [if_neg hkind, List.filter_cons_of_neg (by rw [hfalse]; exact Bool.false_ne_true),
      List.filter_nil, List.append_nil]

theorem authorizationIds_revokeIn (authorizationId : String)
    (authorizations : List ProviderAuthorization) :
    (revokeIn authorizationId authorizations).map ProviderAuthorization.authorizationId =
      authorizations.map ProviderAuthorization.authorizationId := by
  unfold revokeIn
  rw [List.map_map]
  refine List.map_congr_left ?_
  intro authorization _
  by_cases hid : authorization.authorizationId = authorizationId
  · simp [hid]
  · simp [hid]

/-- One transition keeps the records matched with the history. -/
theorem HeldRecords.next {first : List SupplierEvent} {event : SupplierEvent}
    {state state' : SupplierState} (h : HeldRecords first state)
    (hstep : SupplierTransition state event state') : HeldRecords (first ++ [event]) state' := by
  cases hstep with
  | verificationRecorded verification payload writable =>
      refine ⟨h.authorizationIds, ?_⟩
      intro kind
      rw [latestVerification_recorded payload, List.filter_append, List.filter_filter]
      by_cases hkind : verification.kind = kind
      · have hnone : (state.verifications.filter fun existing =>
            existing.kind == kind && existing.kind != verification.kind) = [] := by
          rw [List.filter_eq_nil_iff]
          intro existing _ hboth
          rw [Bool.and_eq_true, beq_iff_eq, bne_iff_ne, hkind] at hboth
          exact hboth.2 hboth.1
        rw [hnone, if_pos hkind]
        simp [hkind]
      · have hsame : (state.verifications.filter fun existing =>
            existing.kind == kind && existing.kind != verification.kind) =
              state.verifications.filter fun existing => existing.kind == kind := by
          refine List.filter_congr ?_
          intro existing _
          by_cases hexisting : existing.kind = kind
          · have hne : kind ≠ verification.kind := fun heq => hkind heq.symm
            simp [hexisting, hne]
          · simp [hexisting]
        rw [hsame, if_neg hkind, h.verifications kind]
        simp [hkind]
  | authorizationRecorded authorization payload writable fresh =>
      have hother : ∀ verification, event.payload ≠ .verificationRecorded verification := by
        intro verification hverification
        rw [payload] at hverification
        cases hverification
      refine ⟨?_, ?_⟩
      · change (List.map _ (state.authorizations ++ [authorization])).Nodup
        rw [List.map_append, List.map_singleton, List.nodup_append]
        refine ⟨h.authorizationIds, List.nodup_singleton _, ?_⟩
        intro existing hexisting recorded hrecorded heq
        rw [List.mem_singleton.mp hrecorded] at heq
        exact fresh (heq ▸ hexisting)
      · intro kind
        rw [latestVerification_other hother]
        exact h.verifications kind
  | authorizationRevoked authorizationId reasonCode payload =>
      have hother : ∀ verification, event.payload ≠ .verificationRecorded verification := by
        intro verification hverification
        rw [payload] at hverification
        cases hverification
      refine ⟨?_, ?_⟩
      · change (List.map _ (revokeIn authorizationId state.authorizations)).Nodup
        rw [authorizationIds_revokeIn]
        exact h.authorizationIds
      · intro kind
        rw [latestVerification_other hother]
        exact h.verifications kind
  | activated activatedAt payload holds =>
      refine ⟨h.authorizationIds, ?_⟩
      intro kind
      have hother : ∀ verification, event.payload ≠ .verificationRecorded verification := by
        intro verification hverification
        rw [payload] at hverification
        cases hverification
      rw [latestVerification_other hother]
      exact h.verifications kind
  | suspended reasonCode payload writable =>
      refine ⟨h.authorizationIds, ?_⟩
      intro kind
      have hother : ∀ verification, event.payload ≠ .verificationRecorded verification := by
        intro verification hverification
        rw [payload] at hverification
        cases hverification
      rw [latestVerification_other hother]
      exact h.verifications kind

/-- The records held after an accepted history. -/
theorem HeldRecords.ofHistory {history : List SupplierEvent} {state : SupplierState}
    (h : rehydrateSupplier history = .ok (some state)) : HeldRecords history state := by
  induction history using List.reverseRecOn generalizing state with
  | nil => cases h
  | append_singleton first event ih =>
      rcases rehydrateSupplier_lastEvent h with ⟨state', hstate, hlast⟩
      obtain rfl := Option.some.inj hstate
      cases hlast with
      | registration input start payload created =>
          subst start
          have hother : ∀ verification, event.payload ≠ .verificationRecorded verification := by
            intro verification hverification
            rw [payload] at hverification
            cases hverification
          rw [created]
          refine ⟨List.nodup_nil, ?_⟩
          intro kind
          rw [latestVerification_other hother]
          rfl
      | transition earlier accepted step => exact (ih accepted).next step

/-- Authorization ids are unique, so a revoked one cannot be revoked again. -/
theorem hasUnrevoked_of_revoked {history : List SupplierEvent} {state : SupplierState}
    (h : rehydrateSupplier history = .ok (some state)) {authorization : ProviderAuthorization}
    (hmem : authorization ∈ state.authorizations) (hrevoked : authorization.status = .revoked) :
    state.hasUnrevoked authorization.authorizationId = false := by
  unfold SupplierState.hasUnrevoked
  cases hfind : state.findAuthorization authorization.authorizationId with
  | none => rfl
  | some found =>
      have hfound : found ∈ state.authorizations := List.mem_of_find?_eq_some hfind
      have hid : found.authorizationId = authorization.authorizationId := by
        simpa using List.find?_some hfind
      have hsame : found = authorization :=
        List.inj_on_of_nodup_map (HeldRecords.ofHistory h).authorizationIds hfound hmem hid
      simp [hsame, hrevoked]

/-- A revocation leaves the authorization it names revoked. -/
theorem revokeIn_revoked {state : SupplierState} {authorizationId : String}
    (h : state.hasUnrevoked authorizationId = true) :
    ∃ authorization ∈ revokeIn authorizationId state.authorizations,
      authorization.authorizationId = authorizationId ∧ authorization.status = .revoked := by
  unfold SupplierState.hasUnrevoked at h
  cases hfind : state.findAuthorization authorizationId with
  | none =>
      rw [hfind] at h
      cases h
  | some found =>
      have hid : found.authorizationId = authorizationId := by
        simpa using List.find?_some hfind
      refine ⟨{ found with status := .revoked }, ?_, hid, rfl⟩
      exact List.mem_map.mpr ⟨found, List.mem_of_find?_eq_some hfind, if_pos hid⟩

/-- A revoked authorization survives every transition unchanged. -/
theorem SupplierTransition.revoked_stays {state state' : SupplierState} {event : SupplierEvent}
    (h : SupplierTransition state event state') {authorization : ProviderAuthorization}
    (hmem : authorization ∈ state.authorizations) (hrevoked : authorization.status = .revoked) :
    authorization ∈ state'.authorizations := by
  cases h with
  | verificationRecorded verification payload writable => exact hmem
  | authorizationRecorded recorded payload writable fresh =>
      exact List.mem_append_left _ hmem
  | authorizationRevoked authorizationId reasonCode payload =>
      refine List.mem_map.mpr ⟨authorization, hmem, ?_⟩
      by_cases hid : authorization.authorizationId = authorizationId
      · rw [if_pos hid, ← hrevoked]
      · rw [if_neg hid]
  | activated activatedAt payload holds => exact hmem
  | suspended reasonCode payload writable => exact hmem

/-- A revoked authorization stays revoked under every accepted extension. -/
theorem rehydrate_revoked_stays {first more : List SupplierEvent} {state state' : SupplierState}
    (h : rehydrateSupplier first = .ok (some state))
    (h' : rehydrateSupplier (first ++ more) = .ok (some state'))
    {authorization : ProviderAuthorization} (hmem : authorization ∈ state.authorizations)
    (hrevoked : authorization.status = .revoked) : authorization ∈ state'.authorizations := by
  induction more using List.reverseRecOn generalizing state' with
  | nil =>
      rw [List.append_nil, h] at h'
      obtain rfl := Option.some.inj (Except.ok.inj h')
      exact hmem
  | append_singleton more event ih =>
      rw [← List.append_assoc] at h'
      rcases rehydrateSupplier_lastEvent h' with ⟨state'', hstate, hlast⟩
      obtain rfl := Option.some.inj hstate
      cases hlast with
      | registration input start payload created =>
          have hfirst : first = [] := (List.append_eq_nil_iff.mp start).1
          rw [hfirst] at h
          cases h
      | transition earlier accepted step => exact step.revoked_stays (ih accepted) hrevoked

/-! ## Ids and times -/

/-- The ids the loop has collected are the history's, all distinct. -/
theorem rehydrateLoop_ids {events : List SupplierEvent} {progress final : Rehydration}
    (h : rehydrateLoop progress events = .ok final)
    (hevents : progress.eventIds.Nodup) (hcauses : progress.causationIds.Nodup) :
    final.eventIds = (events.map SupplierEvent.eventId).reverse ++ progress.eventIds ∧
      final.causationIds =
        (events.map SupplierEvent.causationId).reverse ++ progress.causationIds ∧
      final.eventIds.Nodup ∧ final.causationIds.Nodup := by
  induction events generalizing progress with
  | nil =>
      obtain rfl := Except.ok.inj h
      exact ⟨rfl, rfl, hevents, hcauses⟩
  | cons event events ih =>
      rcases rehydrateLoop_cons.mp h with ⟨next, hnext, hrest⟩
      have hnextEvents : next.eventIds.Nodup := by
        rw [hnext.eventIds]
        exact List.nodup_cons.mpr ⟨hnext.freshEventId, hevents⟩
      have hnextCauses : next.causationIds.Nodup := by
        rw [hnext.causationIds]
        exact List.nodup_cons.mpr ⟨hnext.freshCausationId, hcauses⟩
      rcases ih hrest hnextEvents hnextCauses with ⟨h1, h2, h3, h4⟩
      refine ⟨?_, ?_, h3, h4⟩
      · rw [h1, hnext.eventIds, List.map_cons, List.reverse_cons, List.append_assoc]
        rfl
      · rw [h2, hnext.causationIds, List.map_cons, List.reverse_cons, List.append_assoc]
        rfl

/-- The instants of a history never move backwards. -/
def OccurredInOrder (history : List SupplierEvent) : Prop :=
  ∃ instants : List Int,
    history.map (fun event => event.occurredAt.instant) = instants.map some ∧
      instants.Pairwise (· ≤ ·)

theorem rehydrateLoop_times {events : List SupplierEvent} {progress final : Rehydration}
    (h : rehydrateLoop progress events = .ok final) :
    ∃ instants : List Int,
      events.map (fun event => event.occurredAt.instant) = instants.map some ∧
        instants.Pairwise (· ≤ ·) ∧
        ∀ previous, progress.previousOccurredAt = some previous →
          ∀ t ∈ instants, previous ≤ t := by
  induction events generalizing progress with
  | nil => exact ⟨[], rfl, List.Pairwise.nil, fun _ _ t ht => absurd ht List.not_mem_nil⟩
  | cons event events ih =>
      rcases rehydrateLoop_cons.mp h with ⟨next, hnext, hrest⟩
      rcases ih hrest with ⟨instants, hmap, hsorted, hbound⟩
      rcases hnext.occurredAt with ⟨t, ht, hle, hprevious⟩
      have hinstant := (assertTimestamp_eq_ok.mp ht).2
      have hafter := hbound t hprevious
      refine ⟨t :: instants, ?_, List.pairwise_cons.mpr ⟨hafter, hsorted⟩, ?_⟩
      · rw [List.map_cons, List.map_cons, hmap, hinstant]
      · intro previous hp u hu
        rcases List.mem_cons.mp hu with rfl | hu
        · exact hle previous hp
        · exact le_trans (hle previous hp) (hafter u hu)

/-! ## Activation -/

/-- The verification has no expiry or expires after the instant. -/
def SupplierVerification.UnexpiredAt (verification : SupplierVerification) (t : Int) : Prop :=
  match verification.expiresAt with
  | none => True
  | some expiresAt => expiresAt.text = "" ∨ ∃ expiry, expiresAt.instant = some expiry ∧ t < expiry

/-- The authorization is active and the instant lies in its window. -/
def ProviderAuthorization.ActiveAt (authorization : ProviderAuthorization) (t : Int) : Prop :=
  authorization.status = .active ∧
    ∃ start stop, authorization.validFrom.instant = some start ∧
      authorization.validUntil.instant = some stop ∧ start ≤ t ∧ t < stop

theorem hasCurrentVerification_true {state : SupplierState} {kind : SupplierVerificationKind}
    {instant : TimestampText} {t : Int} (hinstant : instant.instant = some t)
    (h : hasCurrentVerification state kind instant = .ok true) :
    ∃ verification ∈ state.verifications, verification.kind = kind ∧
      verification.status = .verified ∧ verification.UnexpiredAt t := by
  unfold hasCurrentVerification at h
  split at h
  · cases h
  · rename_i verification hfind
    have hmem := List.mem_of_find?_eq_some hfind
    have hholds := List.find?_some hfind
    rw [Bool.and_eq_true, beq_iff_eq, beq_iff_eq] at hholds
    refine ⟨verification, hmem, hholds.1, hholds.2, ?_⟩
    unfold SupplierVerification.UnexpiredAt
    cases hexpires : verification.expiresAt with
    | none => trivial
    | some expiresAt =>
        simp only [hexpires] at h
        by_cases hempty : expiresAt.text = ""
        · exact Or.inl hempty
        · rw [if_neg hempty] at h
          simp only [Except.bind_eq_ok, Except.pure_eq_ok, decide_eq_true_eq] at h
          rcases h with ⟨expiry, hexpiry, u, hu, hlt⟩
          have hut : u = t := by
            have hu' := (assertTimestamp_eq_ok.mp hu).2
            rw [hinstant] at hu'
            exact (Option.some.inj hu').symm
          rw [hut] at hlt
          exact Or.inr ⟨expiry, (assertTimestamp_eq_ok.mp hexpiry).2, hlt⟩

theorem rejectChecked_nil {α : Type} {check : α → Checked Bool} {xs : List α}
    (h : rejectChecked check xs = .ok []) : ∀ x ∈ xs, check x = .ok true := by
  induction xs with
  | nil => intro x hx; cases hx
  | cons x xs ih =>
      simp only [rejectChecked, Except.bind_eq_ok, Except.pure_eq_ok] at h
      rcases h with ⟨passes, hpasses, rest, hrest, heq⟩
      cases passes with
      | false => cases heq
      | true =>
          rw [if_pos rfl] at heq
          subst heq
          intro y hy
          rcases List.mem_cons.mp hy with rfl | hy
          · exact hpasses
          · exact ih hrest y hy

theorem someChecked_true {α : Type} {check : α → Checked Bool} {xs : List α}
    (h : someChecked check xs = .ok true) : ∃ x ∈ xs, check x = .ok true := by
  induction xs with
  | nil => cases h
  | cons x xs ih =>
      simp only [someChecked, Except.bind_eq_ok] at h
      rcases h with ⟨hit, hcheck, hrest⟩
      cases hit with
      | true => exact ⟨x, List.mem_cons_self, hcheck⟩
      | false =>
          rw [if_neg Bool.false_ne_true] at hrest
          rcases ih hrest with ⟨y, hy, hholds⟩
          exact ⟨y, List.mem_cons_of_mem _ hy, hholds⟩

theorem isAuthorizationActive_true {authorization : ProviderAuthorization}
    {instant : TimestampText} {t : Int} (hinstant : instant.instant = some t)
    (h : isAuthorizationActive authorization instant = .ok true) : authorization.ActiveAt t := by
  unfold isAuthorizationActive at h
  by_cases hactive : authorization.status = .active
  · rw [if_pos hactive] at h
    simp only [isActiveAt, Except.bind_eq_ok] at h
    rcases h with ⟨u, hu, start, hstart, hwindow⟩
    have hut : u = t := by
      have hu' := (assertTimestamp_eq_ok.mp hu).2
      rw [hinstant] at hu'
      exact (Option.some.inj hu').symm
    by_cases hle : start ≤ u
    · rw [if_pos hle] at hwindow
      simp only [Except.bind_eq_ok, Except.pure_eq_ok, decide_eq_true_eq] at hwindow
      rcases hwindow with ⟨stop, hstop, hlt⟩
      rw [hut] at hle hlt
      exact ⟨hactive, start, stop, (assertTimestamp_eq_ok.mp hstart).2,
        (assertTimestamp_eq_ok.mp hstop).2, hle, hlt⟩
    · rw [if_neg hle] at hwindow
      cases hwindow
  · rw [if_neg hactive] at h
    cases h

/-- What held when the supplier was activated. -/
structure ActivatedWith (state : SupplierState) (t : Int) : Prop where
  pending : state.status = .pendingVerification
  verified : ∀ kind ∈ requiredVerificationKinds state.kind,
    ∃ verification ∈ state.verifications, verification.kind = kind ∧
      verification.status = .verified ∧ verification.UnexpiredAt t
  authorized : ∃ authorization ∈ state.authorizations, authorization.ActiveAt t

theorem ActivatedWith.of_holds {state : SupplierState} {event : SupplierEvent}
    {activatedAt : TimestampText} {t : Int} (hinstant : event.occurredAt.instant = some t)
    (h : activationHolds state event activatedAt = .ok true) : ActivatedWith state t := by
  have hpending := activationHolds_pending h
  unfold activationHolds at h
  by_cases hpasses : state.status ≠ .pendingVerification ∨ activatedAt.text ≠ event.occurredAt.text
  · rw [if_pos hpasses] at h
    cases h
  · rw [if_neg hpasses] at h
    rcases Except.bind_eq_ok.mp h with ⟨missing, hmissing, hrest⟩
    by_cases hempty : missing.isEmpty = true
    · rw [if_pos hempty] at hrest
      rw [List.isEmpty_iff.mp hempty] at hmissing
      rcases someChecked_true hrest with ⟨authorization, hmem, hactive⟩
      refine ⟨hpending, ?_, authorization, hmem, isAuthorizationActive_true hinstant hactive⟩
      intro kind hkind
      exact hasCurrentVerification_true hinstant (rejectChecked_nil hmissing kind hkind)
    · rw [if_neg hempty] at hrest
      cases hrest

/-- The event's time is one the history check accepted. -/
theorem rehydrateSupplier_occurredAt {first : List SupplierEvent} {event : SupplierEvent}
    {state? : Option SupplierState} (h : rehydrateSupplier (first ++ [event]) = .ok state?) :
    ∃ t, event.occurredAt.instant = some t := by
  rcases rehydrateSupplier_snoc.mp h with ⟨progress, next, -, hnext, -⟩
  rcases hnext.occurredAt with ⟨t, ht, -, -⟩
  exact ⟨t, (assertTimestamp_eq_ok.mp ht).2⟩

/-- An active supplier was activated by an event of its history. -/
theorem rehydrate_active {history : List SupplierEvent} {state : SupplierState}
    (h : rehydrateSupplier history = .ok (some state)) (hactive : state.status = .active) :
    ∃ first event rest activatedAt earlier t, history = first ++ event :: rest ∧
      event.payload = .activated activatedAt ∧ event.occurredAt.instant = some t ∧
      rehydrateSupplier first = .ok (some earlier) ∧ ActivatedWith earlier t := by
  induction history using List.reverseRecOn generalizing state with
  | nil => cases h
  | append_singleton before last ih =>
      -- Every transition but the activation leaves the status as it found it.
      have hearlier : ∀ earlier, rehydrateSupplier before = .ok (some earlier) →
          earlier.status = .active →
          ∃ first event rest activatedAt earlier t, before ++ [last] = first ++ event :: rest ∧
            event.payload = .activated activatedAt ∧ event.occurredAt.instant = some t ∧
            rehydrateSupplier first = .ok (some earlier) ∧ ActivatedWith earlier t := by
        intro earlier haccepted hstatus
        rcases ih haccepted hstatus with ⟨first, event, rest, activatedAt, s, t, hsplit, hfacts⟩
        refine ⟨first, event, rest ++ [last], activatedAt, s, t, ?_, hfacts⟩
        rw [hsplit, List.append_assoc, List.cons_append]
      rcases rehydrateSupplier_lastEvent h with ⟨state', hstate, hlast⟩
      obtain rfl := Option.some.inj hstate
      cases hlast with
      | registration input start payload created =>
          rw [created] at hactive
          cases hactive
      | transition earlier accepted step =>
          cases step with
          | verificationRecorded verification payload writable =>
              exact hearlier earlier accepted hactive
          | authorizationRecorded authorization payload writable fresh =>
              exact hearlier earlier accepted hactive
          | authorizationRevoked authorizationId reasonCode payload =>
              exact hearlier earlier accepted hactive
          | activated activatedAt payload holds =>
              rcases rehydrateSupplier_occurredAt h with ⟨t, ht⟩
              exact ⟨before, last, [], activatedAt, earlier, t, rfl, payload, ht, accepted,
                ActivatedWith.of_holds ht holds⟩
          | suspended reasonCode payload writable => cases hactive

/-! ## The invariant -/

/-- The supplier aggregate's invariant: every prefix of the history is read as
the history of an earlier moment. -/
structure SupplierInvariant (history : List SupplierEvent) : Prop where
  /-- The empty history has no state, every longer prefix has one. -/
  prefixes : ∀ first more, history = first ++ more →
    (first = [] ∧ rehydrateSupplier first = .ok none) ∨
      ∃ state, rehydrateSupplier first = .ok (some state)
  /-- The status starts pending and moves along the allowed moves only. -/
  status : ∀ first event more state, history = first ++ event :: more →
    rehydrateSupplier (first ++ [event]) = .ok (some state) →
      (first = [] ∧ state.status = .pendingVerification) ∨
        ∃ earlier, rehydrateSupplier first = .ok (some earlier) ∧
          StatusMove earlier.status state.status
  /-- After a suspension there are revocations only. -/
  suspendedFinal : ∀ first event more state, history = first ++ event :: more →
    rehydrateSupplier first = .ok (some state) → state.status = .suspended →
      event.isRevocation = true
  version : ∀ first more state, history = first ++ more →
    rehydrateSupplier first = .ok (some state) → state.version = first.length
  held : ∀ first more state, history = first ++ more →
    rehydrateSupplier first = .ok (some state) → HeldRecords first state
  /-- A revoked authorization is the same revoked authorization ever after. -/
  revokedStays : ∀ first next more state state', history = first ++ next ++ more →
    rehydrateSupplier first = .ok (some state) →
    rehydrateSupplier (first ++ next) = .ok (some state') →
      ∀ authorization ∈ state.authorizations, authorization.status = .revoked →
        authorization ∈ state'.authorizations
  eventIds : (history.map SupplierEvent.eventId).Nodup
  causationIds : (history.map SupplierEvent.causationId).Nodup
  times : OccurredInOrder history
  /-- Whenever the supplier is active, an activation lies behind it, with its
  verifications and an authorization current at that instant. -/
  activation : ∀ first more state, history = first ++ more →
    rehydrateSupplier first = .ok (some state) → state.status = .active →
      ∃ before event rest activatedAt earlier t, first = before ++ event :: rest ∧
        event.payload = .activated activatedAt ∧ event.occurredAt.instant = some t ∧
        rehydrateSupplier before = .ok (some earlier) ∧ ActivatedWith earlier t

/-- Every accepted history satisfies the invariant of the supplier aggregate. -/
theorem accepted_history_invariant {history : List SupplierEvent} {state? : Option SupplierState}
    (h : rehydrateSupplier history = .ok state?) : SupplierInvariant history := by
  rcases rehydrateSupplier_eq_ok.mp h with ⟨final, hloop, -⟩
  have hids := rehydrateLoop_ids hloop List.nodup_nil List.nodup_nil
  refine
    { prefixes := ?_, status := ?_, suspendedFinal := ?_, version := ?_, held := ?_,
      revokedStays := ?_, eventIds := ?_, causationIds := ?_, times := ?_, activation := ?_ }
  · intro first more hsplit
    induction first using List.reverseRecOn with
    | nil => exact Or.inl ⟨rfl, rehydrateSupplier_nil⟩
    | append_singleton first event _ =>
        rw [hsplit] at h
        rcases rehydrateSupplier_prefix h with ⟨earlier?, hearlier⟩
        rcases rehydrateSupplier_lastEvent hearlier with ⟨state, hstate, -⟩
        exact Or.inr ⟨state, by rw [hearlier, hstate]⟩
  · intro first event more state hsplit hstate
    rcases rehydrateSupplier_lastEvent hstate with ⟨state', hsome, hlast⟩
    obtain rfl := Option.some.inj hsome
    cases hlast with
    | registration input start payload created => exact Or.inl ⟨start, by rw [created]; rfl⟩
    | transition earlier accepted step =>
        exact Or.inr ⟨earlier, accepted,
          step.status_move (rehydrate_status_ne_rejected accepted)⟩
  · intro first event more state hsplit hstate hsuspended
    have hnext : ∃ state?, rehydrateSupplier (first ++ [event]) = .ok state? := by
      rw [hsplit, ← List.singleton_append, ← List.append_assoc] at h
      exact rehydrateSupplier_prefix h
    rcases hnext with ⟨next?, hnext⟩
    rcases rehydrateSupplier_lastEvent hnext with ⟨next, -, hlast⟩
    cases hlast with
    | registration input start payload created =>
        rw [start] at hstate
        cases hstate
    | transition earlier accepted step =>
        rw [hstate] at accepted
        obtain rfl := Option.some.inj (Except.ok.inj accepted)
        exact (step.of_suspended hsuspended).1
  · intro first more state _ hstate
    exact (rehydrateSupplier_tracks hstate).2
  · intro first more state _ hstate
    exact HeldRecords.ofHistory hstate
  · intro first next more state state' _ hstate hstate' authorization hmem hrevoked
    exact rehydrate_revoked_stays hstate hstate' hmem hrevoked
  · have hnodup := hids.2.2.1
    rw [hids.1, List.append_nil] at hnodup
    exact List.nodup_reverse.mp hnodup
  · have hnodup := hids.2.2.2
    rw [hids.2.1, List.append_nil] at hnodup
    exact List.nodup_reverse.mp hnodup
  · rcases rehydrateLoop_times hloop with ⟨instants, hmap, hsorted, -⟩
    exact ⟨instants, hmap, hsorted⟩
  · intro first more state _ hstate hactive
    exact rehydrate_active hstate hactive

/-- A history that ends with the first verification. -/
theorem accepted_history_invariant_sample :
    SupplierInvariant [registeredSample,
      supplierEvent
        { supplierId := "supplier-a"
          tenantId := "tenant-a"
          kind := .individual
          legalName := "Ada Supplier"
          displayName := "Ada"
          countryCode := "US"
          taxResidenceCountryCode := "US"
          status := .pendingVerification
          verifications := []
          authorizations := []
          version := 1
          createdAt := registeredSample.occurredAt
          updatedAt := registeredSample.occurredAt }
        verificationContextSample (.verificationRecorded verificationSample)] := by
  let state : SupplierState :=
    { supplierId := "supplier-a"
      tenantId := "tenant-a"
      kind := .individual
      legalName := "Ada Supplier"
      displayName := "Ada"
      countryCode := "US"
      taxResidenceCountryCode := "US"
      status := .pendingVerification
      verifications := [verificationSample]
      authorizations := []
      version := 2
      createdAt := registeredSample.occurredAt
      updatedAt := verificationContextSample.occurredAt }
  exact @accepted_history_invariant _ (some state) (by decide +kernel)

end Domain
end TokenStreaming
