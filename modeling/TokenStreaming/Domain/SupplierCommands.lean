import TokenStreaming.Domain.SupplierHistory

/-!
# Marketplace domain - Supplier commands extend their history

A command checks the state rehydrated from a history and returns one event.  The
event applier checks again, with its own conditions; this module shows that it
never refuses what a command returned.

Main results:

- Theorem {lit}`applySupplierEvent_command`: the applier accepts the event of a
  command and changes exactly the fields the command is about.
- Theorems {lit}`rehydrate_append_run` and {lit}`rehydrate_append_command`: the history a command was computed
  from, followed by its event, is accepted.

Current gaps: none for the five commands of a registered supplier.
-/

namespace TokenStreaming
namespace Domain

/-! ## The commands as one type -/

/-- The five commands a registered supplier takes, with their inputs. -/
inductive SupplierCommand where
  | recordVerification (input : SupplierVerification)
  | recordAuthorization (input : ProviderAuthorization)
  | revokeAuthorization (authorizationId reasonCode : String)
  | activate
  | suspend (reasonCode : String)
deriving DecidableEq

/-- Run a command against the current state. -/
def SupplierCommand.run (command : SupplierCommand) (state : SupplierState)
    (context : MarketplaceCommandContext) : Checked SupplierEvent :=
  match command with
  | .recordVerification input => recordSupplierVerification state input context
  | .recordAuthorization input => recordProviderAuthorization state input context
  | .revokeAuthorization authorizationId reasonCode =>
      revokeProviderAuthorization state authorizationId reasonCode context
  | .activate => activateSupplier state context
  | .suspend reasonCode => suspendSupplier state reasonCode context

/-- The payload of the event a command returns. -/
def SupplierCommand.payload (command : SupplierCommand)
    (context : MarketplaceCommandContext) : SupplierEventPayload :=
  match command with
  | .recordVerification input => .verificationRecorded input
  | .recordAuthorization input => .providerAuthorizationRecorded input
  | .revokeAuthorization authorizationId reasonCode =>
      .providerAuthorizationRevoked authorizationId reasonCode
  | .activate => .activated context.occurredAt
  | .suspend reasonCode => .suspended reasonCode

/-- The fields a command is about: one kind's verification, one authorization or
the status.  Everything not named here stays. -/
def SupplierCommand.changed (command : SupplierCommand) (state : SupplierState) :
    SupplierState :=
  match command with
  | .recordVerification input =>
      { state with
        verifications :=
          (state.verifications.filter fun existing => existing.kind != input.kind) ++ [input] }
  | .recordAuthorization input =>
      { state with authorizations := state.authorizations ++ [input] }
  | .revokeAuthorization authorizationId _ =>
      { state with authorizations := revokeIn authorizationId state.authorizations }
  | .activate => { state with status := .active }
  | .suspend _ => { state with status := .suspended }

/-- Authorizations under another id are not touched by a revocation. -/
theorem mem_revokeIn_of_ne {authorizationId : String} {authorizations : List ProviderAuthorization}
    {authorization : ProviderAuthorization}
    (hne : authorization.authorizationId ≠ authorizationId) :
    authorization ∈ revokeIn authorizationId authorizations ↔ authorization ∈ authorizations := by
  unfold revokeIn
  rw [List.mem_map]
  constructor
  · rintro ⟨existing, hmem, heq⟩
    by_cases hid : existing.authorizationId = authorizationId
    · rw [if_pos hid] at heq
      exact absurd (by rw [← heq]; exact hid) hne
    · rw [if_neg hid] at heq
      rwa [← heq]
  · intro hmem
    exact ⟨authorization, hmem, if_neg hne⟩

/-! ## What a returned event shows -/

/-- A command that returns an event has checked its context. -/
theorem SupplierCommand.run_context {command : SupplierCommand} {state : SupplierState}
    {context : MarketplaceCommandContext} {event : SupplierEvent}
    (h : command.run state context = .ok event) :
    assertStateContext state context = .ok () ∧
      event = supplierEvent state context (command.payload context) := by
  cases command with
  | recordVerification input =>
      simp only [run, recordSupplierVerification, Except.bind_eq_ok, exists_unit,
        Except.pure_eq_ok] at h
      rcases h with ⟨hcontext, -, -, -, _, -, _, -, -, -, -, rfl⟩
      exact ⟨hcontext, rfl⟩
  | recordAuthorization input =>
      simp only [run, recordProviderAuthorization, Except.bind_eq_ok, exists_unit,
        Except.pure_eq_ok] at h
      rcases h with ⟨hcontext, -, -, -, -, -, _, -, _, -, -, -, -, -, -, -, -, rfl⟩
      exact ⟨hcontext, rfl⟩
  | revokeAuthorization authorizationId reasonCode =>
      simp only [run, revokeProviderAuthorization, Except.bind_eq_ok, exists_unit,
        Except.pure_eq_ok] at h
      rcases h with ⟨hcontext, -, -, -, rfl⟩
      exact ⟨hcontext, rfl⟩
  | activate =>
      simp only [run, activateSupplier, Except.bind_eq_ok, exists_unit, Except.pure_eq_ok] at h
      rcases h with ⟨hcontext, -, _, -, -, _, -, -, rfl⟩
      exact ⟨hcontext, rfl⟩
  | suspend reasonCode =>
      simp only [run, suspendSupplier, Except.bind_eq_ok, exists_unit, Except.pure_eq_ok] at h
      rcases h with ⟨hcontext, -, -, rfl⟩
      exact ⟨hcontext, rfl⟩

theorem assertSupplierWritable_eq_ok {state : SupplierState} :
    assertSupplierWritable state = .ok () ↔ state.isWritable = true := by
  simp only [assertSupplierWritable, ensure_eq_ok, SupplierState.isWritable]

/-- The event applier accepts what a command returned. -/
theorem applySupplierEvent_command {command : SupplierCommand} {state : SupplierState}
    {context : MarketplaceCommandContext} {event : SupplierEvent}
    (h : command.run state context = .ok event) :
    applySupplierEvent (some state) event = .ok (advance (command.changed state) event) := by
  rcases SupplierCommand.run_context h with ⟨-, rfl⟩
  cases command with
  | recordVerification input =>
      -- The applier's two refusals are the command's writable and reuse checks.
      simp only [SupplierCommand.run, recordSupplierVerification, Except.bind_eq_ok, exists_unit,
        ensure_eq_ok, assertSupplierWritable_eq_ok] at h
      rcases h with ⟨-, hwritable, -, -, _, -, _, -, -, -, hreuse, -⟩
      simp only [applySupplierEvent, supplierEvent, SupplierCommand.payload, Except.bind_eq_ok,
        ensure_eq_ok, exists_unit, Except.pure_eq_ok]
      exact ⟨hwritable, hreuse, rfl⟩
  | recordAuthorization input =>
      simp only [SupplierCommand.run, recordProviderAuthorization, Except.bind_eq_ok, exists_unit,
        ensure_eq_ok, assertSupplierWritable_eq_ok] at h
      rcases h with ⟨-, hwritable, -, -, -, -, _, -, _, -, -, -, -, -, -, -, hfresh, -⟩
      simp only [applySupplierEvent, supplierEvent, SupplierCommand.payload, Except.bind_eq_ok,
        ensure_eq_ok, exists_unit, Except.pure_eq_ok]
      exact ⟨hwritable, hfresh, rfl⟩
  | revokeAuthorization authorizationId reasonCode =>
      simp only [SupplierCommand.run, revokeProviderAuthorization, Except.bind_eq_ok, exists_unit,
        ensure_eq_ok] at h
      rcases h with ⟨-, -, -, hunrevoked, -⟩
      simp only [applySupplierEvent, supplierEvent, SupplierCommand.payload, Except.bind_eq_ok,
        ensure_eq_ok, exists_unit, Except.pure_eq_ok]
      exact ⟨hunrevoked, rfl⟩
  | activate =>
      -- The command's instant is the event's, so both sides read the same windows.
      simp only [SupplierCommand.run, activateSupplier, Except.bind_eq_ok, exists_unit,
        ensure_eq_ok, beq_iff_eq] at h
      rcases h with ⟨-, hpending, missing, hmissing, hempty, authorized, hauthorized, htrue, -⟩
      have hholds : activationHolds state (supplierEvent state context
          (.activated context.occurredAt)) context.occurredAt = .ok true := by
        unfold activationHolds
        rw [if_neg (by simp [hpending, supplierEvent])]
        refine Except.bind_eq_ok.mpr ⟨missing, hmissing, ?_⟩
        rw [if_pos hempty]
        exact hauthorized.trans (by rw [htrue])
      exact Except.bind_eq_ok.mpr ⟨true, hholds, Except.bind_eq_ok.mpr ⟨(), rfl, rfl⟩⟩
  | suspend reasonCode =>
      simp only [SupplierCommand.run, suspendSupplier, Except.bind_eq_ok, exists_unit,
        ensure_eq_ok] at h
      rcases h with ⟨-, -, hwritable, -⟩
      simp only [applySupplierEvent, supplierEvent, SupplierCommand.payload, Except.bind_eq_ok,
        ensure_eq_ok, exists_unit, Except.pure_eq_ok]
      exact ⟨hwritable, rfl⟩

/-! ## Extending a history -/

/-- The event a command returned extends the history, as long as versions stay safe
integers. -/
theorem rehydrate_append_run {history : List SupplierEvent} {state : SupplierState}
    {command : SupplierCommand} {context : MarketplaceCommandContext} {event : SupplierEvent}
    (h : rehydrateSupplier history = .ok (some state))
    (hcommand : command.run state context = .ok event)
    (hevent : context.eventId ∉ history.map SupplierEvent.eventId)
    (hcausation : context.commandId ∉ history.map SupplierEvent.causationId)
    (hsafe : history.length + 1 ≤ maxSafeInteger) :
    rehydrateSupplier (history ++ [event]) =
      .ok (some (advance (command.changed state) event)) := by
  rcases rehydrateSupplier_eq_ok.mp h with ⟨progress, hloop, hstate⟩
  rcases SupplierCommand.run_context hcommand with ⟨hcontext, hshape⟩
  have happlied := applySupplierEvent_command hcommand
  have hpayload : (supplierEvent state context (command.payload context)).isRegistration =
      false := by
    cases command <;> rfl
  subst hshape
  rcases AcceptsNext.of_context (rehydrateLoop_numbered hloop) hstate hcontext hevent hcausation
    hsafe hpayload happlied with ⟨next, hnext, hnextState⟩
  have hextended : rehydrateLoop {} (history ++ [supplierEvent state context
      (command.payload context)]) = .ok next :=
    rehydrateLoop_append.mpr ⟨progress, hloop, rehydrateLoop_cons.mpr ⟨next, hnext, rfl⟩⟩
  exact rehydrateSupplier_eq_ok.mpr ⟨next, hextended, hnextState⟩

/-- The length limit of a JavaScript array. -/
def maximumArrayLength : Nat := 4294967295

/-- Commands and rehydration agree: whatever a command returns on a rehydrated
state can be appended, and replay changes just what the command is about. -/
theorem rehydrate_append_command {history : List SupplierEvent} {state : SupplierState}
    {command : SupplierCommand} {context : MarketplaceCommandContext} {event : SupplierEvent}
    (h : rehydrateSupplier history = .ok (some state))
    (hcommand : command.run state context = .ok event)
    (hevent : context.eventId ∉ history.map SupplierEvent.eventId)
    (hcausation : context.commandId ∉ history.map SupplierEvent.causationId)
    (hlength : (history ++ [event]).length ≤ maximumArrayLength) :
    rehydrateSupplier (history ++ [event]) = .ok (some
      { command.changed state with
        version := state.version + 1
        updatedAt := context.occurredAt }) := by
  have hsafe : history.length + 1 ≤ maxSafeInteger := by
    rw [List.length_append, List.length_singleton] at hlength
    have hlimit : maximumArrayLength ≤ maxSafeInteger := by decide
    omega
  have hrun := rehydrate_append_run h hcommand hevent hcausation hsafe
  rcases SupplierCommand.run_context hcommand with ⟨-, rfl⟩
  exact hrun

/-- A registered supplier two minutes before its first verification. -/
def registeredSample : SupplierEvent where
  schemaVersion := marketplaceSchemaVersion
  eventId := "event-001"
  tenantId := "tenant-a"
  actorId := "operator-a"
  causationId := "command-001"
  aggregateType := "supplier"
  aggregateId := "supplier-a"
  aggregateVersion := 1
  occurredAt := { text := "2026-01-01T00:00:00.000Z", instant := some 1767225600000 }
  payload := .registered
    { supplierId := "supplier-a"
      kind := .individual
      legalName := "Ada Supplier"
      displayName := "Ada"
      countryCode := "US"
      taxResidenceCountryCode := "US" }

/-- The identity check recorded for it. -/
def verificationSample : SupplierVerification where
  verificationId := "verification-001"
  kind := .identity
  status := .verified
  evidenceRef := "evidence-001"
  completedAt := { text := "2026-01-01T00:01:00.000Z", instant := some 1767225660000 }
  expiresAt := none

/-- The context of that command. -/
def verificationContextSample : MarketplaceCommandContext where
  tenantId := "tenant-a"
  actorId := "operator-a"
  commandId := "command-002"
  eventId := "event-002"
  occurredAt := { text := "2026-01-01T00:02:00.000Z", instant := some 1767225720000 }

/-- The first verification of a fresh supplier extends its history. -/
theorem rehydrate_append_command_sample :
    ∃ state event, rehydrateSupplier [registeredSample] = .ok (some state) ∧
      (SupplierCommand.recordVerification verificationSample).run state
        verificationContextSample = .ok event ∧
      rehydrateSupplier ([registeredSample] ++ [event]) = .ok (some
        { state with
          verifications := [verificationSample]
          version := 2
          updatedAt := verificationContextSample.occurredAt }) := by
  let state := SupplierState.ofRegistration registeredSample
    { supplierId := "supplier-a"
      kind := .individual
      legalName := "Ada Supplier"
      displayName := "Ada"
      countryCode := "US"
      taxResidenceCountryCode := "US" }
  let event := supplierEvent state verificationContextSample
    (.verificationRecorded verificationSample)
  have hstate : rehydrateSupplier [registeredSample] = .ok (some state) := by decide +kernel
  have hrun : (SupplierCommand.recordVerification verificationSample).run state
      verificationContextSample = .ok event := by decide +kernel
  have happend := rehydrate_append_command hstate hrun (by decide +kernel) (by decide +kernel)
    (by decide)
  exact ⟨state, event, hstate, hrun, happend⟩

end Domain
end TokenStreaming
