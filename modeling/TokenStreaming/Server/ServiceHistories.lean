import TokenStreaming.Server.ApprovalEvents
import TokenStreaming.Server.SupplierLog

/-!
# Control plane - Supplier histories of the service

The aggregate accepts many histories that the service never writes: only registrations,
approvals and revocations append to a log.  This module describes the histories these three
can write and shows that no other is ever stored.

Main results:

- Theorem {lit}`ServiceHistory.state`: what every state of such a history satisfies.
- Theorem {lit}`LogWrite.serviceHistory`: every write of a log continues such a history.
- Theorem {lit}`Reachable.serviceHistories`: every stored log is one.
-/

namespace TokenStreaming
namespace Server

open Relational Domain TransitionSystem

/-! ## Histories -/

/-- The histories the requests of the service write. -/
inductive ServiceHistory : List SupplierEvent → Prop
  | empty : ServiceHistory []
  | registered {input : SupplierRegistrationInput} {context : MarketplaceCommandContext}
      {event : SupplierEvent} (hevent : registerSupplier input context = .ok event) :
      ServiceHistory [event]
  | approved {history events : List SupplierEvent} {identity : RequestIdentity}
      {request : AuthorizationRow} {commandId : String} {eventUuids : List String} {now : Nat}
      {final : SupplierState} (h : ServiceHistory history)
      (hevents : approvalEvents history identity request commandId eventUuids now = .ok events)
      (hfinal : rehydrateSupplier (history ++ events) = .ok (some final))
      (hactive : final.status = .active) : ServiceHistory (history ++ events)
  | revoked {history : List SupplierEvent} {state : SupplierState}
      {authorizationId reasonCode : String} {context : MarketplaceCommandContext}
      {event : SupplierEvent} (h : ServiceHistory history)
      (hstate : rehydrateSupplier history = .ok (some state))
      (hevent : revokeProviderAuthorization state authorizationId reasonCode context = .ok event)
      (haccepted : ∃ after, rehydrateSupplier (history ++ [event]) = .ok (some after)) :
      ServiceHistory (history ++ [event])

/-- What the states of these histories have in common. -/
structure ServiceState (state : SupplierState) : Prop where
  named : VerificationsNamed state.verifications
  status : state.status = .pendingVerification ∨ state.status = .active
  /-- A supplier waits for its first approval with nothing recorded. -/
  pending : state.status = .pendingVerification →
    state.verifications = [] ∧ state.authorizations = []

/-- A revocation names an authorization that is recorded. -/
theorem revokeProviderAuthorization_recorded {state : SupplierState}
    {authorizationId reasonCode : String} {context : MarketplaceCommandContext}
    {event : SupplierEvent}
    (h : revokeProviderAuthorization state authorizationId reasonCode context = .ok event) :
    state.authorizations ≠ [] := by
  simp only [revokeProviderAuthorization, Except.bind_eq_ok, exists_unit, ensure_eq_ok] at h
  obtain ⟨-, -, -, hunrevoked, -⟩ := h
  intro hnone
  rw [SupplierState.hasUnrevoked, SupplierState.findAuthorization, hnone] at hunrevoked
  cases hunrevoked

theorem ServiceHistory.state {history : List SupplierEvent} (h : ServiceHistory history) :
    ∀ state, rehydrateSupplier history = .ok (some state) → ServiceState state := by
  induction h with
  | empty =>
      intro state hstate
      cases hstate
  | @registered _ _ event hevent =>
      intro state hstate
      have hsnoc : rehydrateSupplier ([] ++ [event]) = .ok (some state) := hstate
      obtain ⟨_, hsome, hlast⟩ := rehydrateSupplier_lastEvent hsnoc
      obtain rfl := Option.some.inj hsome
      cases hlast with
      | registration input start payload created =>
          rw [created]
          exact
            { named := fun v hv => absurd hv List.not_mem_nil
              status := Or.inl rfl
              pending := fun _ => ⟨rfl, rfl⟩ }
      | transition earlier accepted step => cases accepted
  | approved h hevents hfinal hactive ih =>
      intro state hstate
      obtain rfl := Option.some.inj (Except.ok.inj (hfinal.symm.trans hstate))
      obtain ⟨before, -, -, hbefore, -⟩ := approvalEvents_eq_ok.mp hevents
      have hleads := approvalEvents_leads hbefore hevents hfinal
      refine { named := ?_, status := Or.inr hactive, pending := ?_ }
      · intro v hv
        rcases hleads.verifications v hv with hold | ⟨kind, rfl⟩
        · exact (ih before hbefore).named v hold
        · exact ⟨_, rfl⟩
      · intro hpending
        rw [hactive] at hpending
        cases hpending
  | @revoked history before authorizationId reasonCode context event h hbefore hevent _ ih =>
      intro state hstate
      have hrun : (SupplierCommand.revokeAuthorization authorizationId reasonCode).run before
          context = .ok event := hevent
      obtain ⟨-, rfl⟩ := (rehydrate_append_run_iff hbefore hrun).mp hstate
      have hold := ih before hbefore
      refine { named := hold.named, status := hold.status, pending := ?_ }
      intro hpending
      exact absurd (hold.pending hpending).2 (revokeProviderAuthorization_recorded hevent)

/-- A history of the service is empty or replays to a state. -/
theorem ServiceHistory.accepted {history : List SupplierEvent} (h : ServiceHistory history) :
    history = [] ∨ ∃ state, rehydrateSupplier history = .ok (some state) := by
  cases h with
  | empty => exact Or.inl rfl
  | registered hevent =>
      obtain ⟨state, hstate, -⟩ := rehydrate_registration hevent
      exact Or.inr ⟨state, hstate⟩
  | approved _ _ hfinal _ => exact Or.inr ⟨_, hfinal⟩
  | revoked _ _ _ haccepted => exact Or.inr haccepted

/-! ## Stored logs -/

/-- Histories that one event extends are equally long. -/
theorem rehydrate_length_eq {first second more others : List SupplierEvent}
    {event : SupplierEvent} {a b : SupplierState}
    (ha : rehydrateSupplier (first ++ event :: more) = .ok (some a))
    (hb : rehydrateSupplier (second ++ event :: others) = .ok (some b)) :
    first.length = second.length := by
  have hnumber : ∀ {history rest : List SupplierEvent} {state : SupplierState},
      rehydrateSupplier (history ++ event :: rest) = .ok (some state) →
      event.aggregateVersion = history.length + 1 := by
    intro history rest state h
    have hnumbered := (rehydrateSupplier_tracks h).1
    have hat := congrArg (fun versions => versions[history.length]?) hnumbered
    simp only [List.map_append, List.map_cons, List.length_append, List.length_cons] at hat
    rw [List.getElem?_append_right (by simp)] at hat
    simp at hat
    omega
  have h1 := hnumber ha
  have h2 := hnumber hb
  omega

/-- An approval that took effect was computed from the whole log of its supplier. -/
theorem approval_history {w : World} {db : MarketplaceDb} {ages : List Nat}
    {identity : RequestIdentity} {request : AuthorizationRow}
    {commandId note auditId token : String} {eventUuids : List String}
    {events : List SupplierEvent} {state : SupplierState} {c : ReviewCommand}
    (hw : Reachable w) (hlogs : SupplierLogs w.db)
    (hof : ApprovalOf w (w.reads ages) identity request commandId eventUuids token events state)
    (haccepted : rehydrateSupplier (readSupplierEvents (w.reads ages 5) request.tenantId
      request.supplierId ++ events) = .ok (some state))
    (h : Approved c note request.supplierId request.tenantId events
      (state.version - events.length) state.version auditId w.db db) :
    readSupplierEvents (w.reads ages 4) request.tenantId request.supplierId =
        supplierLog w.db request.tenantId request.supplierId ∧
      readSupplierEvents (w.reads ages 5) request.tenantId request.supplierId =
        supplierLog w.db request.tenantId request.supplierId := by
  have hlater := (approval_current hlogs (hw.sound.follows _ (w.reads_mem ages 5)) haccepted
    h.supplier).1
  refine ⟨?_, hlater⟩
  -- The first event carries the number behind both logs.
  have hbuilt := hof.builds
  rw [buildApprovalEvents_eq] at hbuilt
  obtain ⟨first, more, rest, reached, rfl, hfirst⟩ := approvalEvents_first hbuilt
  have hlength := rehydrate_length_eq hfirst haccepted
  obtain ⟨s, hs, hat⟩ := h.supplier
  obtain ⟨hid, htenant, -⟩ := SupplierRow.standsAt_eq_true.mp hat
  obtain ⟨current, hprojects⟩ := hlogs.projects s hs
  have hcurrent := hprojects.length
  rw [hid, htenant] at hcurrent
  have hread := readSupplierEvents_current hlogs (hw.sound.follows _ (w.reads_mem ages 4)) hs
  rw [hid, htenant] at hread
  exact hread (by rw [hlength, hlater, hcurrent])

/-- Every write of a log continues a history of the service. -/
theorem LogWrite.serviceHistory {w : World} {db : MarketplaceDb} (h : LogWrite w db)
    (hw : Reachable w) (hlogs : SupplierLogs w.db) (hbound :
      (db.rows .marketplaceEvents).length ≤ maxSafeInteger) {tenantId supplierId : String}
    (hold : ServiceHistory (supplierLog w.db tenantId supplierId)) :
    ServiceHistory (supplierLog db tenantId supplierId) := by
  cases h with
  | free h =>
      rw [h.supplierLog]
      exact hold
  | registered identity input event registeredId eventUuid now hevent h =>
      have hidentity : ∀ e ∈ [event], e.aggregateType = "supplier" ∧
          e.tenantId = identity.tenantId ∧ e.aggregateId = registeredId := by
        intro e he
        rw [List.mem_singleton.mp he]
        exact registerSupplier_names hevent
      by_cases hmine : tenantId = identity.tenantId ∧ supplierId = registeredId
      · obtain ⟨rfl, rfl⟩ := hmine
        rw [supplierLog_extended h.events hidentity, hlogs.supplierLog_eq_nil h.isNew]
        exact .registered hevent
      · rw [supplierLog_other h.events hidentity hmine]
        exact hold
  | approved ages identity request commandId note auditId token eventUuids events state c hof
      haccepted hactive h =>
      obtain ⟨hread, hlater⟩ := approval_history hw hlogs hof haccepted h
      have hidentity := (approval_current hlogs (hw.sound.follows _ (w.reads_mem ages 5))
        haccepted h.supplier).2
      by_cases hmine : tenantId = request.tenantId ∧ supplierId = request.supplierId
      · obtain ⟨rfl, rfl⟩ := hmine
        have hbuilt := hof.builds
        rw [buildApprovalEvents_eq, hread] at hbuilt
        rw [supplierLog_extended h.events hidentity]
        rw [hlater] at haccepted
        exact .approved hold hbuilt haccepted hactive
      · rw [supplierLog_other h.events hidentity hmine]
        exact hold
  | revoked snap c reasonCode event context state hsnap hstate hevent htenant h =>
      obtain ⟨s, hs, hat⟩ := h.supplier
      obtain ⟨hsid, hstenant, -⟩ := SupplierRow.standsAt_eq_true.mp hat
      have hprojects := revocation_current hlogs (hw.sound.follows snap hsnap) hstate hs hat
      have hrows : db.rows .marketplaceEvents =
          w.db.rows .marketplaceEvents ++ [event].map EventRow.ofSupplierEvent := h.events
      have haccepted := revocation_extends hprojects hevent (htenant.trans hstenant.symm) h.isNew
        (by
          rw [hrows, List.length_append, List.map_singleton, List.length_singleton] at hbound
          exact hbound)
      have hidentity :=
        appended_identity haccepted (rehydrateSupplier_ne_nil hprojects.accepted)
      by_cases hmine : tenantId = s.tenantId ∧ supplierId = s.supplierId
      · obtain ⟨rfl, rfl⟩ := hmine
        rw [supplierLog_extended hrows hidentity]
        exact .revoked hold hprojects.accepted hevent ⟨_, haccepted⟩
      · rw [supplierLog_other hrows hidentity hmine]
        exact hold

/-- In every reachable state the stored logs are histories of the service. -/
theorem Reachable.serviceHistories {w : World} (h : Reachable w) :
    ∀ snap ∈ w.snapshots, ∀ tenantId supplierId,
      ServiceHistory (supplierLog snap tenantId supplierId) := by
  refine h.snapshots
    (P := fun db => ∀ tenantId supplierId, ServiceHistory (supplierLog db tenantId supplierId))
    ?_ ?_ ?_
  · intro clock tenantId supplierId
    have hempty : supplierLog (MarketplaceDb.empty clock) tenantId supplierId = [] := rfl
    rw [hempty]
    exact .empty
  · intro db instant hdb
    exact hdb
  · intro w call batch db hw hold hsent hrun hbound tenantId supplierId
    have hlogs := hw.supplierLogs w.db w.db_mem
    exact (hsent.logWrite hw hlogs hrun).serviceHistory hw hlogs hbound
      (hold w.db w.db_mem tenantId supplierId)

/-- What is read of a log is the log. -/
theorem Reachable.readSupplierEvents_eq {w : World} (h : Reachable w) {snap : MarketplaceDb}
    (hsnap : snap ∈ w.snapshots) (tenantId supplierId : String) :
    readSupplierEvents snap tenantId supplierId = supplierLog snap tenantId supplierId := by
  have hordered : (supplierLog snap tenantId supplierId).Pairwise fun a b =>
      a.aggregateVersion ≤ b.aggregateVersion := by
    rcases (h.serviceHistories snap hsnap tenantId supplierId).accepted with
      hempty | ⟨state, hstate⟩
    · rw [hempty]
      exact List.Pairwise.nil
    · exact rehydrateSupplier_ordered hstate
  exact (Server.readSupplierEvents_eq (h.supplierLogs snap hsnap).held hordered).2

end Server
end TokenStreaming
