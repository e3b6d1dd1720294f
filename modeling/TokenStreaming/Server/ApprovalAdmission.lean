import TokenStreaming.Server.AuthorizationExpiry
import TokenStreaming.Server.ServiceHistories

/-!
# Control plane - Which accepted requests can be approved

The intake and the domain validate the same request with different rules, and an approval
derives longer texts from the accepted ones before they are validated again.  This module
says exactly when {lit}`buildApprovalEvents` returns events for an accepted request.

Main results:

- Theorem {lit}`toProviderAuthorization_wellFormed_iff`: an accepted request lacks nothing but
  a model pattern without a wildcard inside.
- Theorem {lit}`approvalEvents_ok_iff`: the condition, on any history of the service.
- Theorem {lit}`buildApprovalEvents_ok_iff`: the same for the stored logs of every run.
-/

namespace TokenStreaming
namespace Server

open Relational Domain TransitionSystem

/-! ## Derived texts -/

/-- {lit}`[A-Za-z0-9._:-]`. -/
def isIdentifierChar (c : Char) : Bool :=
  isAsciiAlphanumeric c || c ∈ ['.', '_', ':', '-']

/-- The beginning of an identifier may be followed by more of its characters. -/
theorem matchesIdentifierPattern_append {a b : String} (ha : matchesIdentifierPattern a = true)
    (hb : ∀ c ∈ b.toList, isIdentifierChar c = true)
    (hlength : a.toList.length + b.toList.length ≤ 128) :
    matchesIdentifierPattern (a ++ b) = true := by
  unfold matchesIdentifierPattern at ha ⊢
  rw [String.toList_append]
  cases htext : a.toList with
  | nil => simp [htext] at ha
  | cons first rest =>
      rw [htext, List.length_cons] at hlength
      simp only [htext, Bool.and_eq_true, decide_eq_true_eq, List.all_eq_true] at ha
      simp only [List.cons_append, Bool.and_eq_true, decide_eq_true_eq, List.all_append,
        List.all_eq_true, List.length_append]
      obtain ⟨⟨⟨hfirst, hlower⟩, hupper⟩, hrest⟩ := ha
      exact ⟨⟨⟨hfirst, by omega⟩, by omega⟩, hrest, hb⟩

/-- The shape of {lit}`crypto.randomUUID`: 36 hexadecimal digits and dashes. -/
structure IsRandomUuid (uuid : String) : Prop where
  length : uuid.toList.length = 36
  chars : ∀ c ∈ uuid.toList, isIdentifierChar c = true

/-- A request id is short enough for the ids that an approval derives from it. -/
theorem derivedIds_identifiers {request : AuthorizationRow} {uuid : String} (now : Nat)
    (huuid : IsRandomUuid uuid)
    (hid : request.requestId = "authorization-request-" ++ uuid) :
    matchesIdentifierPattern ("authorization-" ++ request.requestId) = true ∧
      ∀ kind, matchesIdentifierPattern (request.verificationOf kind now).verificationId =
        true := by
  have hfixed : ∀ c ∈ "authorization-request-".toList, isIdentifierChar c = true :=
    List.all_eq_true.mp (by decide)
  have hchars : ∀ c ∈ request.requestId.toList, isIdentifierChar c = true := by
    rw [hid, String.toList_append]
    intro c hc
    rcases List.mem_append.mp hc with hstart | hrest
    · exact hfixed c hstart
    · exact huuid.chars c hrest
  have hlength : request.requestId.toList.length = 58 := by
    rw [hid, String.toList_append, List.length_append, huuid.length]
    rfl
  constructor
  · refine matchesIdentifierPattern_append (by decide) hchars ?_
    rw [hlength]
    decide
  · intro kind
    have hkind : kind.text.toList.all isIdentifierChar = true ∧
        kind.text.toList.length ≤ 20 := by
      cases kind <;> decide
    have hstart : matchesIdentifierPattern ("verification-" ++ request.requestId) = true := by
      refine matchesIdentifierPattern_append (by decide) hchars ?_
      rw [hlength]
      decide
    have hdash : matchesIdentifierPattern ("verification-" ++ request.requestId ++ "-") =
        true := by
      refine matchesIdentifierPattern_append hstart (List.all_eq_true.mp (by decide)) ?_
      rw [String.toList_append, List.length_append, hlength]
      decide
    refine matchesIdentifierPattern_append hdash (List.all_eq_true.mp hkind.1) ?_
    rw [String.toList_append, String.toList_append, List.length_append, List.length_append,
      hlength, show "verification-".toList.length = 13 from rfl,
      show "-".toList.length = 1 from rfl]
    omega

/-! ## The recorded authorization -/

/-- Different supported data classes have different texts. -/
theorem dataClasses_unique {classes : List MarketplaceDataClass}
    (h : classes ≠ [] ∧ (∀ c ∈ classes, c = .p0 ∨ c = .p1) ∧ classes.Nodup) :
    assertUniqueStrings (classes.map MarketplaceDataClass.text) "allowedDataClasses"
      (fun value => assertAllowedValue value "allowedDataClass" ["P0", "P1", "P2", "P3"]) =
      .ok () := by
  obtain ⟨hnonempty, hclasses, hnodup⟩ := h
  have hinjective : Function.Injective MarketplaceDataClass.text := by
    intro a b
    cases a <;> cases b <;> decide
  have hfew : classes.length ≤ 2 := by
    have hsubset : classes ⊆ [.p0, .p1] := by
      intro c hc
      simpa using hclasses c hc
    exact (List.subperm_of_subset hnodup hsubset).length_le
  rw [assertUniqueStrings_eq_ok]
  refine ⟨⟨by simpa using hnonempty, by rw [List.length_map]; omega⟩, ?_,
    hnodup.map hinjective⟩
  intro value hvalue
  obtain ⟨c, -, rfl⟩ := List.mem_map.mp hvalue
  rw [assertAllowedValue_eq_ok]
  cases c <;> decide

/-- The intake's limits lie below the domain's. -/
theorem assertCapacityLimits_of_accepted {limits : CapacityLimits} (h : LimitsAccepted limits) :
    assertCapacityLimits limits "capacityCeiling" = .ok () := by
  obtain ⟨⟨hrequests, hrequests'⟩, ⟨htokens, htokens'⟩, ⟨hconcurrency, hconcurrency'⟩, houtput,
    houtput'⟩ := h
  simp only [assertCapacityLimits, assertPositiveSafeInteger, Except.bind_eq_ok, exists_unit,
    ensure_eq_ok, Bool.and_eq_true, decide_eq_true_eq]
  have hsafe : 1000000000 ≤ maxSafeInteger := by decide
  omega

/-- An accepted request lacks nothing but a model pattern without a wildcard inside. -/
theorem toProviderAuthorization_wellFormed_iff {request : AuthorizationRow}
    {input : CreateAuthorizationRequest} {accepted now : Nat} {t : Int}
    (haccepted : IntakeAccepted input accepted) (hdescribes : input.Describes request)
    (hid : matchesIdentifierPattern ("authorization-" ++ request.requestId) = true)
    (hexpiry : assertTimestamp request.validUntil "validUntil" = .ok t) (hlt : (now : Int) < t) :
    AuthorizationWellFormed (request.toProviderAuthorization now) ↔
      '*' ∉ request.modelPattern.toList.dropLast := by
  have hmodel : ∀ u, assertUniqueStrings [request.modelPattern] "modelPatterns"
      validateModelPattern = .ok u ↔ '*' ∉ request.modelPattern.toList.dropLast := by
    intro u
    rw [hdescribes.modelPattern, assertUniqueStrings_eq_ok]
    simp only [List.mem_singleton, forall_eq, validateModelPattern, assertText,
      Except.bind_eq_ok, exists_unit, ensure_eq_ok, haccepted.modelPattern.1,
      haccepted.modelPattern.2]
    simp
  constructor
  · intro h
    exact (hmodel ()).mp h.modelPatterns
  · intro h
    refine
      { authorizationId := hid
        providerId := (congrArg matchesIdentifierPattern hdescribes.providerId).trans
          haccepted.providerId
        evidenceRef := (congrArg matchesIdentifierPattern hdescribes.evidenceRef).trans
          haccepted.evidenceRef
        status := fun hrevoked => ProviderAuthorizationStatus.noConfusion hrevoked
        window := ⟨now, t, assertTimestamp_ofInstant now _, hexpiry, hlt⟩
        modelPatterns := (hmodel ()).mpr h
        regionCodes := ?_
        dataClasses := ?_
        supported := ?_
        capacityCeiling := ?_ }
    · simp only [AuthorizationRow.toProviderAuthorization, hdescribes.regionCode]
      rw [assertUniqueStrings_eq_ok]
      simp only [List.mem_singleton, forall_eq, assertCountryCode, ensure_eq_ok,
        haccepted.regionCode, Bool.or_true]
      simp
    · simp only [AuthorizationRow.toProviderAuthorization, hdescribes.dataClasses]
      exact dataClasses_unique haccepted.dataClasses
    · simp only [AuthorizationRow.toProviderAuthorization, hdescribes.dataClasses,
        Bool.or_eq_false_iff, List.contains_eq_mem, decide_eq_false_iff_not]
      obtain ⟨-, hclasses, -⟩ := haccepted.dataClasses
      constructor
      · intro hmem
        rcases hclasses _ hmem with heq | heq <;> cases heq
      · intro hmem
        rcases hclasses _ hmem with heq | heq <;> cases heq
    · simp only [AuthorizationRow.toProviderAuthorization, hdescribes.limits]
      exact assertCapacityLimits_of_accepted haccepted.limits

/-! ## When an approval succeeds -/

/-- What an approval of an accepted request still needs. -/
structure Approvable (identity : RequestIdentity) (request : AuthorizationRow)
    (commandId : String) (now : Nat) (history : List SupplierEvent) (state : SupplierState) :
    Prop where
  actorId : matchesIdentifierPattern identity.actorId = true
  /-- The approval is not earlier than the last event. -/
  notAfter : state.NotAfter now
  /-- The evidence reference leaves room for the kinds that are verified now. -/
  evidenceRef : ∀ kind ∈ unverifiedKinds state (requiredVerificationKinds state.kind),
    matchesIdentifierPattern (request.evidenceRef ++ "-" ++ kind.text) = true
  /-- A wildcard of the model pattern is its last character. -/
  modelPattern : '*' ∉ request.modelPattern.toList.dropLast
  unrecorded : ∀ authorization ∈ state.authorizations,
    authorization.authorizationId ≠ "authorization-" ++ request.requestId
  /-- The ids derived from the command id are identifiers, and new where they are replayed. -/
  verificationIds : ∀ entry ∈ (unverifiedKinds state (requiredVerificationKinds
    state.kind)).zipIdx 1, CommandIdFits commandId "verification" entry.2 history
  authorizationId : CommandIdFits commandId "authorization"
    ((unverifiedKinds state (requiredVerificationKinds state.kind)).length + 1) history
  activationId : state.status = .pendingVerification → matchesIdentifierPattern
    (approvalCommandId commandId "activation"
      ((unverifiedKinds state (requiredVerificationKinds state.kind)).length + 2)) = true
  room : history.length +
    (unverifiedKinds state (requiredVerificationKinds state.kind)).length + 1 ≤ maxSafeInteger

section Approval

variable {identity : RequestIdentity} {request : AuthorizationRow} {commandId : String}
  {eventUuids : List String} {now : Nat} {history : List SupplierEvent} {state : SupplierState}

/-- What a successful approval shows. -/
theorem Approvable.of_events {events : List SupplierEvent}
    (hstate : rehydrateSupplier history = .ok (some state))
    (h : approvalEvents history identity request commandId eventUuids now = .ok events)
    (hmodel : AuthorizationWellFormed (request.toProviderAuthorization now) →
      '*' ∉ request.modelPattern.toList.dropLast) :
    Approvable identity request commandId now history state := by
  obtain ⟨state', verified, event, hstate', hverified, hauthorizes, hactivated⟩ :=
    approvalEvents_eq_ok.mp h
  obtain rfl : state = state' := Option.some.inj (Except.ok.inj (hstate.symm.trans hstate'))
  have hloop := recordMissingVerifications_verifies (show ApprovalProgress.Replays
    { history, events := [], state } from hstate) (requiredVerificationKinds_nodup _) hverified
  obtain ⟨more, hhistory, hmore, hlength, -⟩ := hloop.appends
  rw [List.nil_append] at hmore
  have hcount : verified.events.length =
      (unverifiedKinds state (requiredVerificationKinds state.kind)).length := by
    rw [hmore, hlength]
  have hrecorded : recordProviderAuthorization verified.state
      (request.toProviderAuthorization now) (approvalContext identity request commandId
        "authorization" eventUuids (verified.events.length + 1) now) = .ok event :=
    hauthorizes.runs
  obtain ⟨hcontext, -, hformed, hfresh, -⟩ := recordProviderAuthorization_eq_ok.mp hrecorded
  obtain ⟨hcontextFits, hidentifier⟩ := approvalContext_eq_ok.mp hcontext
  have hextends := hauthorizes.extends_
  rw [hcount] at hidentifier hextends
  refine
    { actorId := hcontextFits.actorId
      notAfter := hloop.notAfter hcontextFits.notAfter
      evidenceRef := ?_
      modelPattern := hmodel hformed
      unrecorded := ?_
      verificationIds := fun entry hentry => (hloop.fits entry hentry).commandId
      authorizationId := ⟨hidentifier, fun hmem => hextends.commandId ?_⟩
      activationId := ?_
      room := ?_ }
  · intro kind hkind
    obtain ⟨i, hi, rfl⟩ := List.mem_iff_getElem.mp hkind
    have hentry : (_, 1 + i) ∈ (unverifiedKinds state (requiredVerificationKinds
        state.kind)).zipIdx 1 :=
      List.mk_add_mem_zipIdx_iff_getElem?.mpr (List.getElem?_eq_getElem hi)
    exact (hloop.fits _ hentry).evidenceRef
  · rw [← hloop.authorizations]
    exact hfresh
  · rw [hhistory, List.map_append]
    exact List.mem_append_left _ hmem
  · intro hpending
    rcases activatePending_eq_ok.mp hactivated with ⟨hother, -⟩ | ⟨-, last, hrun, -⟩
    · exact absurd (hloop.status.trans hpending) hother
    · have hactivation := (approvalContext_eq_ok.mp (SupplierCommand.run_context hrun).1).2
      simp only [ApprovalProgress.after, List.length_append, List.length_singleton,
        hcount] at hactivation
      exact hactivation
  · have hroom := hextends.room
    rw [hhistory, List.length_append, hlength] at hroom
    exact hroom

/-- A supplier that was pending is activated, for everything was recorded just now. -/
theorem activation_succeeds {verified : ApprovalProgress} {event : SupplierEvent} {t : Int}
    (hservice : ServiceState state) (hpending : state.status = .pendingVerification)
    (hloop : VerifiesMissing request commandId now (requiredVerificationKinds state.kind)
      { history, events := [], state } verified)
    (hexpiry : assertTimestamp request.validUntil "validUntil" = .ok t) (hlt : (now : Int) < t)
    (hcontext : assertStateContext
      (verified.after (.recordAuthorization (request.toProviderAuthorization now)) event).state
      (approvalContext identity request commandId "activation" eventUuids
        (verified.events.length + 2) now) = .ok ()) :
    ∃ last, SupplierCommand.activate.run
      (verified.after (.recordAuthorization (request.toProviderAuthorization now)) event).state
      (approvalContext identity request commandId "activation" eventUuids
        (verified.events.length + 2) now) = .ok last := by
  obtain ⟨hverifications, hauthorizations⟩ := hservice.pending hpending
  refine ⟨_, activateSupplier_eq_ok.mpr ⟨hcontext, hloop.status.trans hpending, ?_, ?_, rfl⟩⟩
  · refine missingRequiredVerificationKinds_eq_nil.mpr fun kind hkind => ?_
    have hrequired : kind ∈ requiredVerificationKinds state.kind := by
      rw [← hloop.kind]
      exact hkind
    have hnone : state.verified kind = none := by
      rw [SupplierState.verified, hverifications]
      rfl
    have hmissing : kind ∈ unverifiedKinds state (requiredVerificationKinds state.kind) :=
      List.mem_filter.mpr ⟨hrequired, by rw [hnone]; rfl⟩
    have hrecorded := hloop.verified kind
    rw [if_pos hmissing] at hrecorded
    exact hasCurrentVerification_unexpired hrecorded rfl
      (assertTimestamp_label hexpiry "expiresAt") hlt
  · have honly : (verified.after (.recordAuthorization (request.toProviderAuthorization now))
        event).state.authorizations = [request.toProviderAuthorization now] := by
      rw [ApprovalProgress.after, advance, SupplierCommand.changed, hloop.authorizations,
        hauthorizations]
      rfl
    rw [honly]
    exact Except.bind_eq_ok.mpr ⟨true, toProviderAuthorization_active hexpiry hlt, rfl⟩

/-- An approval that lacks nothing returns events. -/
theorem Approvable.exists_events {t : Int}
    (h : Approvable identity request commandId now history state)
    (hstate : rehydrateSupplier history = .ok (some state)) (hservice : ServiceState state)
    (htenant : state.tenantId = request.tenantId)
    (huuids : FreshEventUuids eventUuids history)
    (hids : ∀ kind,
      matchesIdentifierPattern (request.verificationOf kind now).verificationId = true)
    (hformed : AuthorizationWellFormed (request.toProviderAuthorization now))
    (hexpiry : assertTimestamp request.validUntil "validUntil" = .ok t) (hlt : (now : Int) < t) :
    ∃ events, approvalEvents history identity request commandId eventUuids now = .ok events := by
  have hstands : RequestStands request now :=
    ⟨hids, t, assertTimestamp_label hexpiry "expiresAt", hlt⟩
  have hready : LoopReady identity request eventUuids now { history, events := [], state } :=
    { replays := hstate
      tenantId := htenant ▸ rehydrateSupplier_tenantId hstate
      actorId := h.actorId
      tenant := htenant
      writable := by
        unfold SupplierState.isWritable
        rcases hservice.status with hstatus | hstatus <;> rw [hstatus] <;> rfl
      notAfter := h.notAfter
      named := hservice.named
      eventIds := fun i hi _ => huuids.isNew i hi }
  have hkinds := requiredVerificationKinds_length state.kind
  have hfits : ∀ entry ∈ (unverifiedKinds state (requiredVerificationKinds state.kind)).zipIdx
      1, KindFits request commandId history entry := fun entry hentry =>
    ⟨h.evidenceRef _ (List.fst_mem_of_mem_zipIdx hentry), h.verificationIds entry hentry⟩
  have hroom := h.room
  obtain ⟨verified, hverified, hlast⟩ := recordMissingVerifications_succeeds huuids hstands
    hready (requiredVerificationKinds_nodup _) (by simp only [List.length_nil]; omega)
    (Nat.le_of_succ_le hroom) hfits
  have hloop := recordMissingVerifications_verifies (show ApprovalProgress.Replays
    { history, events := [], state } from hstate) (requiredVerificationKinds_nodup _) hverified
  obtain ⟨more, hhistory, hmore, hlength, hcauses⟩ := hloop.appends
  rw [List.nil_append] at hmore
  have hcount : verified.events.length =
      (unverifiedKinds state (requiredVerificationKinds state.kind)).length := by
    rw [hmore, hlength]
  have hfew : verified.events.length ≤ 4 := by
    have hsome : (unverifiedKinds state (requiredVerificationKinds state.kind)).length ≤
        (requiredVerificationKinds state.kind).length := List.length_filter_le _ _
    omega
  -- The authorization follows the verifications.
  have hrun : ∃ event, (SupplierCommand.recordAuthorization
      (request.toProviderAuthorization now)).run verified.state (approvalContext identity request
        commandId "authorization" eventUuids (verified.events.length + 1) now) = .ok event := by
    refine ⟨_, recordProviderAuthorization_eq_ok.mpr ⟨?_, hlast.writable, hformed, ?_, rfl⟩⟩
    · refine approvalContext_eq_ok.mpr ⟨hlast.contextFits huuids (by omega), ?_⟩
      rw [hcount]
      exact h.authorizationId.isIdentifier
    · rw [hloop.authorizations]
      exact h.unrecorded
  obtain ⟨event, hrun⟩ := hrun
  have hextends : ExtendsHistory verified.history (approvalContext identity request commandId
      "authorization" eventUuids (verified.events.length + 1) now) := by
    refine { eventId := hlast.eventIds _ (by omega) le_rfl, commandId := ?_, room := ?_ }
    · rw [hhistory, List.map_append, List.mem_append, not_or]
      refine ⟨?_, fun hmem => ?_⟩
      · rw [hcount]
        exact h.authorizationId.isNew
      · obtain ⟨other, hother, hsame⟩ := List.mem_map.mp hmem
        obtain ⟨i, hcause⟩ := hcauses other hother
        exact approvalCommandId_ne commandId i _ (hcause.symm.trans hsame)
    · rw [hhistory, List.length_append, hlength]
      exact hroom
  have hafter := hlast.after huuids (by omega) hrun hextends rfl rfl (by
    rw [SupplierCommand.changed]
    exact hlast.named)
  have hmoreEvents : (verified.after (.recordAuthorization
      (request.toProviderAuthorization now)) event).events.length = verified.events.length + 1 :=
    List.length_append
  suffices hactivated : ∃ events, activatePending identity request commandId eventUuids now
      (verified.after (.recordAuthorization (request.toProviderAuthorization now)) event) =
      .ok events by
    obtain ⟨events, hevents⟩ := hactivated
    exact ⟨events, approvalEvents_eq_ok.mpr
      ⟨state, verified, event, hstate, hverified, ⟨hrun, hextends⟩, hevents⟩⟩
  by_cases hpending : state.status = .pendingVerification
  · have hcontext : assertStateContext (verified.after (.recordAuthorization
        (request.toProviderAuthorization now)) event).state (approvalContext identity request
          commandId "activation" eventUuids (verified.events.length + 2) now) = .ok () := by
      have hfits := hafter.contextFits huuids (by rw [hmoreEvents]; omega)
      rw [hmoreEvents] at hfits
      refine approvalContext_eq_ok.mpr ⟨hfits, ?_⟩
      rw [hcount]
      exact h.activationId hpending
    obtain ⟨last, hactivation⟩ :=
      activation_succeeds hservice hpending hloop hexpiry hlt hcontext
    refine ⟨_, activatePending_eq_ok.mpr (Or.inr ⟨hloop.status.trans hpending, last, ?_, rfl⟩)⟩
    rw [hmoreEvents]
    exact hactivation
  · refine ⟨_, activatePending_eq_ok.mpr (Or.inl ⟨?_, rfl⟩)⟩
    intro hstatus
    exact hpending (hloop.status.symm.trans hstatus)

/-- An approval of an accepted request on a history of the service, before its expiry, returns
events exactly when it lacks nothing. -/
theorem approvalEvents_ok_iff {input : CreateAuthorizationRequest} {accepted : Nat}
    {uuid : String} {t : Int} (hservice : ServiceHistory history)
    (hstate : rehydrateSupplier history = .ok (some state))
    (htenant : state.tenantId = request.tenantId)
    (haccepted : validateAuthorizationInput input accepted = .ok ())
    (hdescribes : input.Describes request) (huuid : IsRandomUuid uuid)
    (hid : request.requestId = "authorization-request-" ++ uuid)
    (huuids : FreshEventUuids eventUuids history)
    (hinstant : request.validUntil.instant = some t) (hlt : (now : Int) < t) :
    (∃ events, approvalEvents history identity request commandId eventUuids now = .ok events) ↔
      Approvable identity request commandId now history state := by
  have hintake := validateAuthorizationInput_eq_ok haccepted
  have hexpiry : assertTimestamp request.validUntil "validUntil" = .ok t := by
    obtain ⟨hsuffix, -⟩ := isAuthorizationValidityAllowed_eq_true hintake.validUntil
    rw [← hdescribes.validUntil] at hsuffix
    exact assertTimestamp_eq_ok.mpr ⟨hsuffix, hinstant⟩
  obtain ⟨hauthorizationId, hverificationIds⟩ := derivedIds_identifiers now huuid hid
  have hformed := toProviderAuthorization_wellFormed_iff hintake hdescribes hauthorizationId
    hexpiry hlt
  constructor
  · rintro ⟨events, hevents⟩
    exact .of_events hstate hevents hformed.mp
  · intro h
    exact h.exists_events hstate (hservice.state state hstate) htenant huuids hverificationIds
      (hformed.mpr h.modelPattern) hexpiry hlt

end Approval

/-! ## Stored logs -/

/--
For every accepted authorization request, every log of its supplier that a run stores and
every time before its expiry, {lit}`buildApprovalEvents` returns events exactly when the
derived texts and ids fit: the evidence reference with the name of every kind that is
verified now, a model pattern without a wildcard inside, command ids that are identifiers and
new in the log, an authorization that is not recorded yet, and a time not before the last
event.
-/
theorem buildApprovalEvents_ok_iff (w : World) (hw : Reachable w) {db : MarketplaceDb}
    (hdb : db ∈ w.snapshots) {input : CreateAuthorizationRequest} {accepted : Nat}
    (haccepted : validateAuthorizationInput input accepted = .ok ())
    {request : AuthorizationRow} (hdescribes : input.Describes request) {uuid : String}
    (huuid : IsRandomUuid uuid) (hid : request.requestId = "authorization-request-" ++ uuid)
    {state : SupplierState}
    (hstate : rehydrateSupplier (readSupplierEvents db request.tenantId request.supplierId) =
      .ok (some state)) {eventUuids : List String}
    (huuids : FreshEventUuids eventUuids
      (readSupplierEvents db request.tenantId request.supplierId))
    {t : Int} (hinstant : request.validUntil.instant = some t) {now : Nat} (hlt : (now : Int) < t)
    (identity : RequestIdentity) (commandId : String) :
    (∃ events, buildApprovalEvents db identity request commandId eventUuids now = .ok events) ↔
      Approvable identity request commandId now
        (readSupplierEvents db request.tenantId request.supplierId) state := by
  have hservice := hw.serviceHistories db hdb request.tenantId request.supplierId
  rw [← hw.readSupplierEvents_eq hdb] at hservice
  rw [buildApprovalEvents_eq]
  exact approvalEvents_ok_iff hservice hstate (rehydrated_identity hstate).1 haccepted hdescribes
    huuid hid huuids hinstant hlt

/-- The row of a submission to the sample run. -/
def sampleRow (input : CreateAuthorizationRequest) : AuthorizationRow :=
  input.row sampleSupplier ("authorization-request-" ++ "00000000-0000-4000-8000-000000000001")
    "supplier-s1"
    (encryptCredential sampleDeployment.keyrings.credential "iv1" input.gatewayBearerToken
      { tenantId := "tenant-supplier", authorizationRequestId := "authorization-request-a1" })
    (createCredentialLookupDigest sampleDeployment.keyrings.credentialLookup
      input.gatewayBearerToken) 1000

theorem sampleRow_describes (input : CreateAuthorizationRequest) :
    input.Describes (sampleRow input) :=
  ⟨rfl, rfl, rfl, rfl, rfl, rfl, rfl, rfl, rfl⟩

theorem sampleUuid_isRandom : IsRandomUuid "00000000-0000-4000-8000-000000000001" :=
  ⟨by decide, List.all_eq_true.mp (by decide)⟩

/-- A result that is there was returned. -/
theorem toOption_isSome {ε α : Type} {result : Except ε α}
    (h : result.toOption.isSome = true) : ∃ value, result = .ok value := by
  cases result with
  | error e => cases h
  | ok value => exact ⟨value, rfl⟩

/-- What the sample supplier's log says before the first approval. -/
theorem sampleLog_approves :
    ∃ state, rehydrateSupplier (readSupplierEvents (sampleWorld 1).db "tenant-supplier"
        "supplier-s1") = .ok (some state) ∧
      FreshEventUuids ["e2", "e3", "e4", "e5", "e6", "e7"]
        (readSupplierEvents (sampleWorld 1).db "tenant-supplier" "supplier-s1") := by
  have hfacts : ((rehydrateSupplier (readSupplierEvents (sampleWorld 1).db "tenant-supplier"
      "supplier-s1")).toOption.join).isSome = true ∧
      (readSupplierEvents (sampleWorld 1).db "tenant-supplier" "supplier-s1").map
        SupplierEvent.eventId = ["event-e1"] := by
    decide +kernel
  generalize readSupplierEvents (sampleWorld 1).db "tenant-supplier" "supplier-s1" = history at *
  obtain ⟨hsome, hevents⟩ := hfacts
  obtain ⟨state, hstate⟩ := Option.isSome_iff_exists.mp hsome
  refine ⟨state, ?_, ⟨by decide, by decide, ?_⟩⟩
  · cases hresult : rehydrateSupplier history with
    | error e => simp [hresult, Except.toOption] at hstate
    | ok state? =>
        rw [hresult] at hstate
        cases state? with
        | none => simp [Except.toOption] at hstate
        | some reached =>
            simp only [Except.toOption, Option.join_some, Option.some.injEq] at hstate
            rw [hstate]
  · rw [hevents]
    decide

/-- The sample submission with a wildcard inside its model pattern. -/
def wildcardSubmission : CreateAuthorizationRequest :=
  { sampleSubmission "submit-1" sampleToken with modelPattern := "model-*-mini" }

/-- What an approval of the two submissions computes, one after the other. -/
theorem sampleApprovals_computed :
    (validateAuthorizationInput (sampleSubmission "submit-1" sampleToken) 1000 = .ok () ∧
      validateAuthorizationInput wildcardSubmission 1000 = .ok ()) ∧
    (buildApprovalEvents (sampleWorld 1).db sampleReviewer
      (sampleRow (sampleSubmission "submit-1" sampleToken)) "review-1"
      ["e2", "e3", "e4", "e5", "e6", "e7"] 2000).toOption.isSome = true ∧
    (buildApprovalEvents (sampleWorld 1).db sampleReviewer
      (sampleRow wildcardSubmission) "review-1" ["e2", "e3", "e4", "e5", "e6", "e7"]
      2000).toOption.isSome = false := by
  refine ⟨⟨?_, ?_⟩, ?_, ?_⟩
  · decide +kernel
  · decide +kernel
  · decide +kernel
  · decide +kernel

/-- The sample submission can be approved before its expiry. -/
theorem buildApprovalEvents_ok_iff_sample :
    ∃ state, Approvable sampleReviewer (sampleRow (sampleSubmission "submit-1" sampleToken))
      "review-1" 2000
      (readSupplierEvents (sampleWorld 1).db "tenant-supplier" "supplier-s1") state := by
  obtain ⟨⟨haccepted, -⟩, hbuilt, -⟩ := sampleApprovals_computed
  obtain ⟨state, hstate, huuids⟩ := sampleLog_approves
  refine ⟨state, (buildApprovalEvents_ok_iff (sampleWorld 1) (sampleWorld_reachable 1)
    (sampleWorld 1).db_mem haccepted (sampleRow_describes _) sampleUuid_isRandom rfl hstate huuids
    rfl (show ((2000 : Nat) : Int) < 86400000 by decide) sampleReviewer "review-1").mp ?_⟩
  exact toOption_isSome hbuilt

/-- The intake accepts it, and an approval before its expiry throws. -/
theorem wildcardSubmission_not_approvable :
    validateAuthorizationInput wildcardSubmission 1000 = .ok () ∧
      wildcardSubmission.validUntil.instant = some 86400000 ∧ Reachable (sampleWorld 1) ∧
      ((rehydrateSupplier (readSupplierEvents (sampleWorld 1).db "tenant-supplier"
        "supplier-s1")).toOption.join.any fun state => state.status != .suspended) = true ∧
      ∀ events, buildApprovalEvents (sampleWorld 1).db sampleReviewer
        (sampleRow wildcardSubmission) "review-1" ["e2", "e3", "e4", "e5", "e6", "e7"] 2000 ≠
        .ok events := by
  obtain ⟨⟨-, haccepted⟩, -, hrefused⟩ := sampleApprovals_computed
  have hactive : ((rehydrateSupplier (readSupplierEvents (sampleWorld 1).db "tenant-supplier"
      "supplier-s1")).toOption.join.any fun state => state.status != .suspended) = true := by
    decide +kernel
  refine ⟨haccepted, rfl, sampleWorld_reachable 1, hactive, fun events h => ?_⟩
  rw [h] at hrefused
  exact Bool.noConfusion hrefused

end Server
end TokenStreaming
