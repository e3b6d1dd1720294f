import TokenStreaming.Domain.SupplierEligibility
import TokenStreaming.Server.SupplierService

/-!
# Control plane - The events of an approval

{lit}`buildApprovalEvents` records a verification for every required kind that has none, then
the authorization, and activates a supplier that is still pending.  Between two events it
replays the history, so that each of them is checked against the state the others led to.

Main results:

- Theorem {lit}`recordMissingVerifications_verifies`: what the verification loop leaves behind.
- Theorem {lit}`recordMissingVerifications_succeeds`: when it comes to its end.
- Theorem {lit}`approvalEvents_eq_ok`: the parts of a successful approval.
-/

namespace TokenStreaming
namespace Server

open Domain

/-! ## Ids and inputs -/

/-- {lit}`${commandId}-${part}-${index}`. -/
def approvalCommandId (commandId part : String) (index : Nat) : String :=
  commandId ++ "-" ++ part ++ "-" ++ toString index

theorem approvalCommandId_inj {commandId part : String} {m n : Nat}
    (h : approvalCommandId commandId part m = approvalCommandId commandId part n) : m = n := by
  simp only [approvalCommandId, String.append_right_inj] at h
  exact toString_inj h

/-- The ids of verifications and of the authorization differ. -/
theorem approvalCommandId_ne (commandId : String) (m n : Nat) :
    approvalCommandId commandId "verification" m ≠ approvalCommandId commandId "authorization" n := by
  intro h
  have hchars := congrArg String.toList h
  simp [approvalCommandId, String.toList_append] at hchars

/-- The verification an approval records for a kind. -/
def AuthorizationRow.verificationOf (request : AuthorizationRow) (kind : SupplierVerificationKind)
    (now : Nat) : SupplierVerification where
  verificationId := "verification-" ++ request.requestId ++ "-" ++ kind.text
  kind := kind
  status := .verified
  evidenceRef := request.evidenceRef ++ "-" ++ kind.text
  completedAt := TimestampText.ofInstant now
  expiresAt := some request.validUntil

/-- The required kinds without a verification. -/
def unverifiedKinds (state : SupplierState) (kinds : List SupplierVerificationKind) :
    List SupplierVerificationKind :=
  kinds.filter fun kind => (state.verified kind).isNone

/-! ## Recording one event -/

/-- The state is the one the history replays to. -/
def ApprovalProgress.Replays (progress : ApprovalProgress) : Prop :=
  rehydrateSupplier progress.history = .ok (some progress.state)

/-- The loop variables after the event of a command. -/
def ApprovalProgress.after (progress : ApprovalProgress) (command : SupplierCommand)
    (event : SupplierEvent) : ApprovalProgress where
  history := progress.history ++ [event]
  events := progress.events ++ [event]
  state := advance (command.changed progress.state) event

theorem ApprovalProgress.record_eq_ok {progress next : ApprovalProgress}
    {command : SupplierCommand} {context : MarketplaceCommandContext} {event : SupplierEvent}
    (h : progress.Replays) (hrun : command.run progress.state context = .ok event) :
    progress.record event = .ok next ↔
      ExtendsHistory progress.history context ∧ next = progress.after command event := by
  simp only [ApprovalProgress.record, rehydrated, Except.bind_eq_ok, uncaught_eq_ok, found_eq_ok,
    Except.pure_eq_ok]
  constructor
  · rintro ⟨state, ⟨_, haccepted, rfl⟩, rfl⟩
    obtain ⟨hextends, rfl⟩ := (rehydrate_append_run_iff h hrun).mp haccepted
    exact ⟨hextends, rfl⟩
  · rintro ⟨hextends, rfl⟩
    exact ⟨_, ⟨_, (rehydrate_append_run_iff h hrun).mpr ⟨hextends, rfl⟩, rfl⟩, rfl⟩

/-- The history goes on replaying to the state. -/
theorem ApprovalProgress.Replays.after {progress : ApprovalProgress} {command : SupplierCommand}
    {context : MarketplaceCommandContext} {event : SupplierEvent} (h : progress.Replays)
    (hrun : command.run progress.state context = .ok event)
    (hextends : ExtendsHistory progress.history context) :
    (progress.after command event).Replays :=
  (rehydrate_append_run_iff h hrun).mpr ⟨hextends, rfl⟩

section Approval

variable {identity : RequestIdentity} {request : AuthorizationRow} {commandId part : String}
  {eventUuids : List String} {index now : Nat}

/-- The tenant of an approval's commands and the value the n-th of them draws. -/
structure ContextFits (identity : RequestIdentity) (request : AuthorizationRow)
    (eventUuids : List String) (index now : Nat) (state : SupplierState) : Prop where
  tenantId : matchesIdentifierPattern request.tenantId = true
  actorId : matchesIdentifierPattern identity.actorId = true
  eventId : matchesIdentifierPattern ("event-" ++ eventUuids.getD (index - 1) "") = true
  tenant : state.tenantId = request.tenantId
  notAfter : state.NotAfter now

/-- When the n-th command of an approval has an accepted context. -/
theorem approvalContext_eq_ok {state : SupplierState} :
    assertStateContext state
        (approvalContext identity request commandId part eventUuids index now) = .ok () ↔
      ContextFits identity request eventUuids index now state ∧
        matchesIdentifierPattern (approvalCommandId commandId part index) = true := by
  have hoccurred : (approvalContext identity request commandId part eventUuids index
      now).occurredAt = TimestampText.ofInstant now := rfl
  rw [assertStateContext_eq_ok hoccurred]
  constructor
  · rintro ⟨haccepted, htenant, hnotAfter⟩
    exact ⟨⟨haccepted.tenantId, haccepted.actorId, haccepted.eventId, htenant, hnotAfter⟩,
      haccepted.commandId⟩
  · rintro ⟨hfits, hcommand⟩
    exact ⟨⟨hfits.tenantId, hfits.actorId, hcommand, hfits.eventId, now,
      assertTimestamp_ofInstant now _⟩, hfits.tenant, hfits.notAfter⟩

/-- The derived id of a command is an identifier and new in the history. -/
structure CommandIdFits (commandId part : String) (index : Nat) (history : List SupplierEvent) :
    Prop where
  isIdentifier : matchesIdentifierPattern (approvalCommandId commandId part index) = true
  isNew : approvalCommandId commandId part index ∉ history.map SupplierEvent.causationId

/-! ## The verification loop -/

/-- A kind with a verification is left alone. -/
theorem recordMissingVerification_held {progress : ApprovalProgress}
    {kind : SupplierVerificationKind} (h : (progress.state.verified kind).isNone = false) :
    recordMissingVerification identity request commandId eventUuids now progress kind =
      .ok progress := by
  rw [Option.isNone_eq_false_iff, verified_isSome] at h
  unfold recordMissingVerification
  rw [if_pos h]

/-- A kind without one gets it, if the command and the replay accept it. -/
theorem recordMissingVerification_missing {progress next : ApprovalProgress}
    {kind : SupplierVerificationKind} (hreplays : progress.Replays)
    (h : (progress.state.verified kind).isNone = true) :
    recordMissingVerification identity request commandId eventUuids now progress kind = .ok next ↔
      ∃ event, (SupplierCommand.recordVerification (request.verificationOf kind now)).run
          progress.state (approvalContext identity request commandId "verification" eventUuids
            (progress.events.length + 1) now) = .ok event ∧
        ExtendsHistory progress.history (approvalContext identity request commandId
          "verification" eventUuids (progress.events.length + 1) now) ∧
        next = progress.after (.recordVerification (request.verificationOf kind now)) event := by
  rw [Option.isNone_iff_eq_none, ← Option.not_isSome_iff_eq_none, verified_isSome] at h
  unfold recordMissingVerification
  rw [if_neg h]
  simp only [Except.bind_eq_ok, mapDomainError_eq_ok]
  constructor
  · rintro ⟨event, hrecorded, hrecord⟩
    have hrun : (SupplierCommand.recordVerification (request.verificationOf kind now)).run
        progress.state (approvalContext identity request commandId "verification" eventUuids
          (progress.events.length + 1) now) = .ok event := hrecorded
    exact ⟨event, hrun, (ApprovalProgress.record_eq_ok hreplays hrun).mp hrecord⟩
  · rintro ⟨event, hrun, hnext⟩
    exact ⟨event, hrun, (ApprovalProgress.record_eq_ok hreplays hrun).mpr hnext⟩

/-- Recording one kind leaves the other kinds as they are. -/
theorem unverifiedKinds_after {progress : ApprovalProgress} {event : SupplierEvent}
    {kind : SupplierVerificationKind} {kinds : List SupplierVerificationKind}
    (h : kind ∉ kinds) :
    unverifiedKinds (progress.after (.recordVerification (request.verificationOf kind now))
        event).state kinds = unverifiedKinds progress.state kinds := by
  unfold unverifiedKinds
  refine List.filter_congr fun other hother => ?_
  have hne : other ≠ kind := fun hsame => h (hsame ▸ hother)
  have hverified := verified_recordVerification progress.state (request.verificationOf kind now)
    event other rfl
  rw [show (request.verificationOf kind now).kind = kind from rfl, if_neg hne] at hverified
  rw [ApprovalProgress.after, hverified]

/-- What a step of the loop needs beyond the ids of its context. -/
structure KindFits (request : AuthorizationRow) (commandId : String)
    (history : List SupplierEvent) (entry : SupplierVerificationKind × Nat) : Prop where
  evidenceRef : matchesIdentifierPattern (request.evidenceRef ++ "-" ++ entry.1.text) = true
  commandId : CommandIdFits commandId "verification" entry.2 history

/-- What the verification loop leaves behind. -/
structure VerifiesMissing (request : AuthorizationRow) (commandId : String) (now : Nat)
    (kinds : List SupplierVerificationKind) (progress final : ApprovalProgress) : Prop where
  replays : final.Replays
  appends : ∃ more, final.history = progress.history ++ more ∧
    final.events = progress.events ++ more ∧
    more.length = (unverifiedKinds progress.state kinds).length ∧
    ∀ event ∈ more, ∃ i, event.causationId = approvalCommandId commandId "verification" i
  fits : ∀ entry ∈ (unverifiedKinds progress.state kinds).zipIdx (progress.events.length + 1),
    KindFits request commandId progress.history entry
  verified : ∀ kind, final.state.verified kind =
    if kind ∈ unverifiedKinds progress.state kinds then some (request.verificationOf kind now)
    else progress.state.verified kind
  verifications : ∀ v ∈ final.state.verifications,
    v ∈ progress.state.verifications ∨ ∃ kind, v = request.verificationOf kind now
  kind : final.state.kind = progress.state.kind
  status : final.state.status = progress.state.status
  authorizations : final.state.authorizations = progress.state.authorizations
  tenantId : final.state.tenantId = progress.state.tenantId
  notAfter : final.state.NotAfter now → progress.state.NotAfter now

/-- A kind without a verification comes first. -/
theorem unverifiedKinds_cons {state : SupplierState} {kind : SupplierVerificationKind}
    {kinds : List SupplierVerificationKind} (h : (state.verified kind).isNone = true) :
    unverifiedKinds state (kind :: kinds) = kind :: unverifiedKinds state kinds :=
  List.filter_cons_of_pos h

/-- A kind with a verification is passed over. -/
theorem unverifiedKinds_skip {state : SupplierState} {kind : SupplierVerificationKind}
    {kinds : List SupplierVerificationKind} (h : (state.verified kind).isNone = false) :
    unverifiedKinds state (kind :: kinds) = unverifiedKinds state kinds :=
  List.filter_cons_of_neg (by rw [h]; exact Bool.false_ne_true)

/-- An approval that records a kind first and verifies the rest after it. -/
theorem VerifiesMissing.cons {kind : SupplierVerificationKind}
    {kinds : List SupplierVerificationKind} {progress final : ApprovalProgress}
    {event : SupplierEvent} (hkind : kind ∉ kinds)
    (hmissing : (progress.state.verified kind).isNone = true)
    (hrun : (SupplierCommand.recordVerification (request.verificationOf kind now)).run
      progress.state (approvalContext identity request commandId "verification" eventUuids
        (progress.events.length + 1) now) = .ok event)
    (hextends : ExtendsHistory progress.history (approvalContext identity request commandId
      "verification" eventUuids (progress.events.length + 1) now))
    (h : VerifiesMissing request commandId now kinds
      (progress.after (.recordVerification (request.verificationOf kind now)) event) final) :
    VerifiesMissing request commandId now (kind :: kinds) progress final := by
  have hsame : unverifiedKinds (progress.after (.recordVerification
      (request.verificationOf kind now)) event).state kinds =
      unverifiedKinds progress.state kinds := unverifiedKinds_after hkind
  have hrecorded : recordSupplierVerification progress.state (request.verificationOf kind now)
      (approvalContext identity request commandId "verification" eventUuids
        (progress.events.length + 1) now) = .ok event := hrun
  rw [recordSupplierVerification_eq_ok rfl] at hrecorded
  obtain ⟨hcontext, -, hformed, -, -⟩ := hrecorded
  obtain ⟨hcontextFits, hidentifier⟩ := approvalContext_eq_ok.mp hcontext
  obtain ⟨more, hhistory, hevents, hlength, hcauses⟩ := h.appends
  rw [hsame] at hlength
  refine
    { replays := h.replays
      appends := ⟨event :: more, ?_, ?_, ?_, ?_⟩
      fits := ?_
      verified := ?_
      verifications := ?_
      kind := h.kind
      status := h.status
      authorizations := h.authorizations
      tenantId := h.tenantId
      notAfter := fun _ => hcontextFits.notAfter }
  · simpa [ApprovalProgress.after] using hhistory
  · simpa [ApprovalProgress.after] using hevents
  · rw [unverifiedKinds_cons hmissing, List.length_cons, List.length_cons, hlength]
  · intro other hother
    rcases List.mem_cons.mp hother with rfl | hother
    · obtain ⟨-, rfl⟩ := SupplierCommand.run_context hrun
      exact ⟨_, rfl⟩
    · exact hcauses other hother
  · rw [unverifiedKinds_cons hmissing, List.zipIdx_cons]
    intro entry hentry
    rcases List.mem_cons.mp hentry with rfl | hentry
    · exact ⟨hformed.evidenceRef, hidentifier, hextends.commandId⟩
    · have hfits := h.fits
      rw [hsame] at hfits
      have hlater := hfits entry (by simpa [ApprovalProgress.after] using hentry)
      refine ⟨hlater.evidenceRef, hlater.commandId.isIdentifier, fun hmem => ?_⟩
      refine hlater.commandId.isNew ?_
      rw [ApprovalProgress.after, List.map_append]
      exact List.mem_append_left _ hmem
  · intro other
    have hverified := h.verified other
    rw [hsame] at hverified
    rw [hverified, unverifiedKinds_cons hmissing]
    have hafter := verified_recordVerification progress.state (request.verificationOf kind now)
      event other rfl
    by_cases hother : other = kind
    · have habsent : other ∉ unverifiedKinds progress.state kinds := fun hmem =>
        hkind (hother ▸ List.mem_of_mem_filter hmem)
      rw [if_neg habsent, if_pos (hother ▸ List.mem_cons_self), ApprovalProgress.after, hafter,
        if_pos (show other = (request.verificationOf kind now).kind from hother), hother]
    · rw [ApprovalProgress.after, hafter,
        if_neg (show ¬ other = (request.verificationOf kind now).kind from hother)]
      simp only [List.mem_cons, hother, false_or]
  · intro v hv
    rcases h.verifications v hv with hmem | hrecorded
    · simp only [ApprovalProgress.after, advance, SupplierCommand.changed, List.mem_append,
        List.mem_filter, List.mem_singleton] at hmem
      rcases hmem with ⟨hold, -⟩ | rfl
      · exact Or.inl hold
      · exact Or.inr ⟨kind, rfl⟩
    · exact Or.inr hrecorded

theorem recordMissingVerifications_verifies {kinds : List SupplierVerificationKind}
    {progress final : ApprovalProgress} (hreplays : progress.Replays) (hnodup : kinds.Nodup)
    (h : recordMissingVerifications identity request commandId eventUuids now progress kinds =
      .ok final) : VerifiesMissing request commandId now kinds progress final := by
  induction kinds generalizing progress with
  | nil =>
      obtain rfl := Except.ok.inj h
      exact
        { replays := hreplays
          appends := ⟨[], by simp [unverifiedKinds]⟩
          fits := by simp [unverifiedKinds]
          verified := by simp [unverifiedKinds]
          verifications := fun v hv => Or.inl hv
          kind := rfl
          status := rfl
          authorizations := rfl
          tenantId := rfl
          notAfter := id }
  | cons kind kinds ih =>
      obtain ⟨hkind, hkinds⟩ := List.nodup_cons.mp hnodup
      simp only [recordMissingVerifications, Except.bind_eq_ok] at h
      obtain ⟨next, hnext, hrest⟩ := h
      by_cases hheld : (progress.state.verified kind).isNone = true
      · obtain ⟨event, hrun, hextends, rfl⟩ :=
          (recordMissingVerification_missing hreplays hheld).mp hnext
        have hafter := ih (hreplays.after hrun hextends) hkinds hrest
        exact hafter.cons hkind hheld hrun hextends
      · rw [Bool.not_eq_true] at hheld
        rw [recordMissingVerification_held hheld] at hnext
        obtain rfl := Except.ok.inj hnext
        have hskip : unverifiedKinds progress.state (kind :: kinds) =
            unverifiedKinds progress.state kinds := unverifiedKinds_skip hheld
        have hrestFacts := ih hreplays hkinds hrest
        exact
          { hrestFacts with
            appends := by rw [hskip]; exact hrestFacts.appends
            fits := by rw [hskip]; exact hrestFacts.fits
            verified := by rw [hskip]; exact hrestFacts.verified }

/-! ## The loop comes to its end -/

/-- The values {lit}`crypto.randomUUID` returns for the ids of the events: they fit into an
identifier, they differ from each other, and no earlier event has one of them. -/
structure FreshEventUuids (eventUuids : List String) (history : List SupplierEvent) : Prop where
  isIdentifier : ∀ i < 6, matchesIdentifierPattern ("event-" ++ eventUuids.getD i "") = true
  distinct : ∀ i < 6, ∀ j < 6, eventUuids.getD i "" = eventUuids.getD j "" → i = j
  isNew : ∀ i < 6, "event-" ++ eventUuids.getD i "" ∉ history.map SupplierEvent.eventId

/-- Verifications carry ids that end in their kind. -/
def VerificationsNamed (verifications : List SupplierVerification) : Prop :=
  ∀ v ∈ verifications, ∃ requestId : String,
    v.verificationId = "verification-" ++ requestId ++ "-" ++ v.kind.text

/-- The kind is the end of the id. -/
theorem verificationId_kind {a b : String} {first second : SupplierVerificationKind}
    (h : "verification-" ++ a ++ "-" ++ first.text = "verification-" ++ b ++ "-" ++ second.text) :
    first = second := by
  have hend : ∀ (x : String) (kind : SupplierVerificationKind),
      ("verification-" ++ x ++ "-" ++ kind.text).toList.getLast? =
        kind.text.toList.getLast? := by
    intro x kind
    rw [String.toList_append]
    exact List.getLast?_append_of_ne_nil _ (by cases kind <;> decide)
  have hlast : first.text.toList.getLast? = second.text.toList.getLast? := by
    rw [← hend a first, h, hend b second]
  clear h
  revert hlast
  cases first <;> cases second <;> decide

/-- What the request contributes to the verifications of an approval. -/
structure RequestStands (request : AuthorizationRow) (now : Nat) : Prop where
  verificationId : ∀ kind,
    matchesIdentifierPattern (request.verificationOf kind now).verificationId = true
  expiry : ∃ t, assertTimestamp request.validUntil "expiresAt" = .ok t ∧ (now : Int) < t

/-- What every turn of the loop starts from. -/
structure LoopReady (identity : RequestIdentity) (request : AuthorizationRow)
    (eventUuids : List String) (now : Nat) (progress : ApprovalProgress) : Prop where
  replays : progress.Replays
  tenantId : matchesIdentifierPattern request.tenantId = true
  actorId : matchesIdentifierPattern identity.actorId = true
  tenant : progress.state.tenantId = request.tenantId
  writable : progress.state.isWritable = true
  notAfter : progress.state.NotAfter now
  named : VerificationsNamed progress.state.verifications
  eventIds : ∀ i < 6, progress.events.length ≤ i →
    "event-" ++ eventUuids.getD i "" ∉ progress.history.map SupplierEvent.eventId

/-- The context of the next command. -/
theorem LoopReady.contextFits {progress : ApprovalProgress} {history : List SupplierEvent}
    (h : LoopReady identity request eventUuids now progress)
    (huuids : FreshEventUuids eventUuids history) (hfew : progress.events.length < 6) :
    ContextFits identity request eventUuids (progress.events.length + 1) now progress.state where
  tenantId := h.tenantId
  actorId := h.actorId
  eventId := huuids.isIdentifier _ hfew
  tenant := h.tenant
  notAfter := h.notAfter

/-- The state after an event of an approval is as late as the approval. -/
theorem notAfter_after {progress : ApprovalProgress} {command : SupplierCommand}
    {event : SupplierEvent}
    (h : command.run progress.state (approvalContext identity request commandId part eventUuids
      index now) = .ok event) : (progress.after command event).state.NotAfter now := by
  obtain ⟨-, rfl⟩ := SupplierCommand.run_context h
  exact ⟨now, assertTimestamp_ofInstant now _, le_rfl⟩

/-- The next command, once it has run, leaves the loop ready. -/
theorem LoopReady.after {progress : ApprovalProgress} {history : List SupplierEvent}
    {command : SupplierCommand} {event : SupplierEvent}
    (h : LoopReady identity request eventUuids now progress)
    (huuids : FreshEventUuids eventUuids history) (hfew : progress.events.length < 6)
    (hrun : command.run progress.state (approvalContext identity request commandId part
      eventUuids (progress.events.length + 1) now) = .ok event)
    (hextends : ExtendsHistory progress.history (approvalContext identity request commandId part
      eventUuids (progress.events.length + 1) now))
    (htenant : (command.changed progress.state).tenantId = progress.state.tenantId)
    (hstatus : (command.changed progress.state).status = progress.state.status)
    (hnamed : VerificationsNamed (command.changed progress.state).verifications) :
    LoopReady identity request eventUuids now (progress.after command event) where
  replays := h.replays.after hrun hextends
  tenantId := h.tenantId
  actorId := h.actorId
  tenant := htenant.trans h.tenant
  writable := by
    have hwritable := h.writable
    unfold SupplierState.isWritable at hwritable ⊢
    rw [ApprovalProgress.after, advance, hstatus]
    exact hwritable
  notAfter := notAfter_after hrun
  named := hnamed
  eventIds := by
    intro i hi hle
    obtain ⟨-, rfl⟩ := SupplierCommand.run_context hrun
    simp only [ApprovalProgress.after, List.length_append, List.length_singleton] at hle
    simp only [ApprovalProgress.after, List.map_append, List.mem_append, not_or]
    refine ⟨h.eventIds i hi (by omega), fun hmem => ?_⟩
    simp only [List.map_cons, List.map_nil, List.mem_singleton, supplierEvent, approvalContext,
      commandContextForTenant, Nat.add_sub_cancel, String.append_right_inj] at hmem
    have hsame := huuids.distinct i hi _ hfew hmem
    omega

theorem recordMissingVerifications_succeeds {kinds : List SupplierVerificationKind}
    {progress : ApprovalProgress} {history : List SupplierEvent}
    (huuids : FreshEventUuids eventUuids history) (hstands : RequestStands request now)
    (hready : LoopReady identity request eventUuids now progress) (hnodup : kinds.Nodup)
    (hfew : progress.events.length + kinds.length < 6)
    (hroom : progress.history.length + (unverifiedKinds progress.state kinds).length ≤
      maxSafeInteger)
    (hfits : ∀ entry ∈ (unverifiedKinds progress.state kinds).zipIdx
      (progress.events.length + 1), KindFits request commandId progress.history entry) :
    ∃ final, recordMissingVerifications identity request commandId eventUuids now progress kinds =
      .ok final ∧ LoopReady identity request eventUuids now final := by
  induction kinds generalizing progress with
  | nil => exact ⟨progress, rfl, hready⟩
  | cons kind kinds ih =>
      obtain ⟨hkind, hkinds⟩ := List.nodup_cons.mp hnodup
      rw [List.length_cons] at hfew
      by_cases hmissing : (progress.state.verified kind).isNone = true
      · rw [unverifiedKinds_cons hmissing] at hroom hfits
        rw [List.length_cons] at hroom
        rw [List.zipIdx_cons] at hfits
        have hhead := hfits _ List.mem_cons_self
        obtain ⟨t, ht, hlt⟩ := hstands.expiry
        -- The kind has no verification, so its id is used for no other kind either.
        have hrun : ∃ event, (SupplierCommand.recordVerification
            (request.verificationOf kind now)).run progress.state (approvalContext identity
              request commandId "verification" eventUuids (progress.events.length + 1) now) =
              .ok event := by
          refine ⟨_, (recordSupplierVerification_eq_ok rfl).mpr ⟨?_, hready.writable, ?_, ?_,
            rfl⟩⟩
          · exact approvalContext_eq_ok.mpr
              ⟨hready.contextFits huuids (by omega), hhead.commandId.isIdentifier⟩
          · refine ⟨hstands.verificationId kind, hhead.evidenceRef, now,
              assertTimestamp_ofInstant now _, le_rfl, ?_⟩
            simp only [AuthorizationRow.verificationOf, assertVerificationExpiry]
            split
            · rfl
            · simp only [ht, Except.bind_eq_ok, ensure_eq_ok, decide_eq_true_eq]
              exact ⟨t, rfl, hlt⟩
          · intro v hv hid
            obtain ⟨requestId, hname⟩ := hready.named v hv
            exact verificationId_kind (hname.symm.trans hid)
        obtain ⟨event, hrun⟩ := hrun
        have hextends : ExtendsHistory progress.history (approvalContext identity request
            commandId "verification" eventUuids (progress.events.length + 1) now) :=
          { eventId := hready.eventIds _ (by omega) (by simp)
            commandId := hhead.commandId.isNew
            room := by omega }
        have hnext := (recordMissingVerification_missing hready.replays hmissing).mpr
          ⟨event, hrun, hextends, rfl⟩
        have hsame : unverifiedKinds (progress.after (.recordVerification
            (request.verificationOf kind now)) event).state kinds =
            unverifiedKinds progress.state kinds := unverifiedKinds_after hkind
        have hafter := hready.after huuids (by omega) hrun hextends rfl rfl (by
          intro v hv
          simp only [SupplierCommand.changed, List.mem_append, List.mem_filter,
            List.mem_singleton] at hv
          rcases hv with ⟨hold, -⟩ | rfl
          · exact hready.named v hold
          · exact ⟨request.requestId, rfl⟩)
        obtain ⟨final, hfinal, hlast⟩ := ih hafter hkinds
          (by
            simp only [ApprovalProgress.after, List.length_append, List.length_singleton]
            omega)
          (by
            rw [hsame]
            simp only [ApprovalProgress.after, List.length_append, List.length_singleton]
            omega)
          (by
            rw [hsame]
            intro entry hentry
            simp only [ApprovalProgress.after, List.length_append,
              List.length_singleton] at hentry
            have hlater := hfits entry (List.mem_cons_of_mem _ hentry)
            have hindex := List.le_snd_of_mem_zipIdx hentry
            refine ⟨hlater.evidenceRef, hlater.commandId.isIdentifier, fun hmem => ?_⟩
            obtain ⟨-, hshape⟩ := SupplierCommand.run_context hrun
            simp only [ApprovalProgress.after, List.map_append, List.mem_append] at hmem
            rcases hmem with hold | hrecorded
            · exact hlater.commandId.isNew hold
            · simp only [List.map_cons, List.map_nil, List.mem_singleton, hshape, supplierEvent,
                approvalContext, commandContextForTenant] at hrecorded
              have hsameIndex := approvalCommandId_inj hrecorded
              omega)
        refine ⟨final, ?_, hlast⟩
        simp only [recordMissingVerifications, Except.bind_eq_ok]
        exact ⟨_, hnext, hfinal⟩
      · rw [Bool.not_eq_true] at hmissing
        have hskip : unverifiedKinds progress.state (kind :: kinds) =
            unverifiedKinds progress.state kinds := unverifiedKinds_skip hmissing
        rw [hskip] at hroom hfits
        obtain ⟨final, hfinal, hlast⟩ := ih hready hkinds (by omega) hroom hfits
        refine ⟨final, ?_, hlast⟩
        simp only [recordMissingVerifications, Except.bind_eq_ok]
        exact ⟨progress, recordMissingVerification_held hmissing, hfinal⟩

/-! ## The whole approval -/

/-- {lit}`buildApprovalEvents` on a history that was read. -/
def approvalEvents (history : List SupplierEvent) (identity : RequestIdentity)
    (request : AuthorizationRow) (commandId : String) (eventUuids : List String) (now : Nat) :
    Request (List SupplierEvent) := do
  let state? ← uncaught (rehydrateSupplier history)
  let state ← found state?
    { code := "SUPPLIER_REQUIRED", message := "授权申请对应的供应商不存在。", status := 409 }
  let verified ← recordMissingVerifications identity request commandId eventUuids now
    { history, events := [], state } (requiredVerificationKinds state.kind)
  let event ← mapDomainError (recordProviderAuthorization verified.state
    (request.toProviderAuthorization now)
    (approvalContext identity request commandId "authorization" eventUuids
      (verified.events.length + 1) now))
  let authorized ← verified.record event
  activatePending identity request commandId eventUuids now authorized

theorem buildApprovalEvents_eq (db : MarketplaceDb) :
    buildApprovalEvents db identity request commandId eventUuids now =
      approvalEvents (readSupplierEvents db request.tenantId request.supplierId) identity request
        commandId eventUuids now :=
  rfl

theorem requiredVerificationKinds_nodup (kind : SupplierKind) :
    (requiredVerificationKinds kind).Nodup := by
  cases kind <;> decide

theorem requiredVerificationKinds_length (kind : SupplierKind) :
    (requiredVerificationKinds kind).length ≤ 4 := by
  cases kind <;> decide

/-- The command that records the authorization, and the state it leads to. -/
structure Authorizes (identity : RequestIdentity) (request : AuthorizationRow)
    (commandId : String) (eventUuids : List String) (now : Nat) (verified : ApprovalProgress)
    (event : SupplierEvent) : Prop where
  runs : (SupplierCommand.recordAuthorization (request.toProviderAuthorization now)).run
    verified.state (approvalContext identity request commandId "authorization" eventUuids
      (verified.events.length + 1) now) = .ok event
  extends_ : ExtendsHistory verified.history (approvalContext identity request commandId
    "authorization" eventUuids (verified.events.length + 1) now)

/-- The parts of a successful approval. -/
theorem approvalEvents_eq_ok {history events : List SupplierEvent} :
    approvalEvents history identity request commandId eventUuids now = .ok events ↔
      ∃ state verified event, rehydrateSupplier history = .ok (some state) ∧
        recordMissingVerifications identity request commandId eventUuids now
          { history, events := [], state } (requiredVerificationKinds state.kind) =
          .ok verified ∧
        Authorizes identity request commandId eventUuids now verified event ∧
        activatePending identity request commandId eventUuids now
          (verified.after (.recordAuthorization (request.toProviderAuthorization now)) event) =
          .ok events := by
  simp only [approvalEvents, Except.bind_eq_ok, uncaught_eq_ok, found_eq_ok,
    mapDomainError_eq_ok]
  constructor
  · rintro ⟨_, hstate, state, rfl, verified, hverified, event, hrecorded, authorized, hrecord,
      hactivated⟩
    have hreplays := (recordMissingVerifications_verifies (show ApprovalProgress.Replays
      { history, events := [], state } from hstate) (requiredVerificationKinds_nodup _)
      hverified).replays
    have hrun : (SupplierCommand.recordAuthorization (request.toProviderAuthorization now)).run
        verified.state (approvalContext identity request commandId "authorization" eventUuids
          (verified.events.length + 1) now) = .ok event := hrecorded
    obtain ⟨hextends, rfl⟩ := (ApprovalProgress.record_eq_ok hreplays hrun).mp hrecord
    exact ⟨state, verified, event, hstate, hverified, ⟨hrun, hextends⟩, hactivated⟩
  · rintro ⟨state, verified, event, hstate, hverified, hauthorizes, hactivated⟩
    have hreplays := (recordMissingVerifications_verifies (show ApprovalProgress.Replays
      { history, events := [], state } from hstate) (requiredVerificationKinds_nodup _)
      hverified).replays
    exact ⟨_, hstate, state, rfl, verified, hverified, event, hauthorizes.runs, _,
      (ApprovalProgress.record_eq_ok hreplays hauthorizes.runs).mpr ⟨hauthorizes.extends_, rfl⟩,
      hactivated⟩

/-- When a pending supplier is activated at the end. -/
theorem activatePending_eq_ok {progress : ApprovalProgress} {events : List SupplierEvent} :
    activatePending identity request commandId eventUuids now progress = .ok events ↔
      (progress.state.status ≠ .pendingVerification ∧ events = progress.events) ∨
        progress.state.status = .pendingVerification ∧
          ∃ event, SupplierCommand.activate.run progress.state (approvalContext identity request
            commandId "activation" eventUuids (progress.events.length + 1) now) = .ok event ∧
            events = progress.events ++ [event] := by
  unfold activatePending
  by_cases hpending : progress.state.status = .pendingVerification
  · rw [if_pos hpending]
    simp only [Except.bind_eq_ok, mapDomainError_eq_ok, Except.pure_eq_ok]
    constructor
    · rintro ⟨event, hrun, rfl⟩
      exact Or.inr ⟨hpending, event, hrun, rfl⟩
    · rintro (⟨hother, -⟩ | ⟨-, event, hrun, rfl⟩)
      · exact absurd hpending hother
      · exact ⟨event, hrun, rfl⟩
  · rw [if_neg hpending]
    simp only [Except.ok.injEq, hpending, ne_eq, not_false_eq_true, true_and, false_and,
      or_false, eq_comm]

/-- An approval writes an event that continues the history it read. -/
theorem approvalEvents_first {history events : List SupplierEvent}
    (h : approvalEvents history identity request commandId eventUuids now = .ok events) :
    ∃ first more rest state, events = first :: rest ∧
      rehydrateSupplier (history ++ first :: more) = .ok (some state) := by
  obtain ⟨before, verified, event, hbefore, hverified, hauthorizes, hactivated⟩ :=
    approvalEvents_eq_ok.mp h
  have hloop := recordMissingVerifications_verifies (show ApprovalProgress.Replays
    { history, events := [], state := before } from hbefore)
    (requiredVerificationKinds_nodup _) hverified
  have hreplays := hloop.replays.after hauthorizes.runs hauthorizes.extends_
  obtain ⟨more, hhistory, hmore, -, -⟩ := hloop.appends
  rw [List.nil_append] at hmore
  obtain ⟨rest, hrest⟩ : ∃ rest, events = (more ++ [event]) ++ rest := by
    rcases activatePending_eq_ok.mp hactivated with ⟨-, rfl⟩ | ⟨-, last, -, rfl⟩
    · exact ⟨[], by rw [ApprovalProgress.after, hmore, List.append_nil]⟩
    · exact ⟨[last], by rw [ApprovalProgress.after, hmore]⟩
  have hextended : rehydrateSupplier (history ++ (more ++ [event])) =
      .ok (some (verified.after (.recordAuthorization (request.toProviderAuthorization now))
        event).state) := by
    rw [← List.append_assoc, ← hhistory]
    exact hreplays
  cases more with
  | nil => exact ⟨event, [], rest, _, hrest, hextended⟩
  | cons first more => exact ⟨first, more ++ [event], _, _, hrest, hextended⟩

/-- An authorization is active from its approval on. -/
theorem toProviderAuthorization_active {t : Int}
    (hexpiry : assertTimestamp request.validUntil "validUntil" = .ok t) (hlt : (now : Int) < t) :
    isAuthorizationActive (request.toProviderAuthorization now) (TimestampText.ofInstant now) =
      .ok true := by
  unfold isAuthorizationActive
  rw [if_pos (show (request.toProviderAuthorization now).status = .active from rfl)]
  simp only [isActiveAt, AuthorizationRow.toProviderAuthorization, assertTimestamp_ofInstant,
    Except.bind_eq_ok, Except.ok.injEq, exists_eq_left']
  rw [if_pos le_rfl]
  exact Except.bind_eq_ok.mpr ⟨t, hexpiry, by rw [decide_eq_true hlt]; rfl⟩

/-- What an approval leads to. -/
structure ApprovalLeads (request : AuthorizationRow) (now : Nat) (state final : SupplierState) :
    Prop where
  verified : ∀ kind, final.verified kind =
    if kind ∈ unverifiedKinds state (requiredVerificationKinds state.kind) then
      some (request.verificationOf kind now)
    else state.verified kind
  verifications : ∀ v ∈ final.verifications,
    v ∈ state.verifications ∨ ∃ kind, v = request.verificationOf kind now
  authorizations : final.authorizations =
    state.authorizations ++ [request.toProviderAuthorization now]
  unrecorded : ∀ authorization ∈ state.authorizations,
    authorization.authorizationId ≠ (request.toProviderAuthorization now).authorizationId
  wellFormed : AuthorizationWellFormed (request.toProviderAuthorization now)
  kind : final.kind = state.kind
  tenantId : final.tenantId = state.tenantId
  tenantIdentifier : matchesIdentifierPattern state.tenantId = true
  notAfter : final.NotAfter now

theorem approvalEvents_leads {history events : List SupplierEvent} {state final : SupplierState}
    (hstate : rehydrateSupplier history = .ok (some state))
    (hevents : approvalEvents history identity request commandId eventUuids now = .ok events)
    (hfinal : rehydrateSupplier (history ++ events) = .ok (some final)) :
    ApprovalLeads request now state final := by
  obtain ⟨state', verified, event, hstate', hverified, hauthorizes, hactivated⟩ :=
    approvalEvents_eq_ok.mp hevents
  obtain rfl : state = state' := Option.some.inj (Except.ok.inj (hstate.symm.trans hstate'))
  have hloop := recordMissingVerifications_verifies (show ApprovalProgress.Replays
    { history, events := [], state } from hstate) (requiredVerificationKinds_nodup _) hverified
  obtain ⟨more, hhistory, hmore, -, -⟩ := hloop.appends
  rw [List.nil_append] at hmore
  have hreplays := hloop.replays.after hauthorizes.runs hauthorizes.extends_
  have hrecorded : recordProviderAuthorization verified.state
      (request.toProviderAuthorization now) (approvalContext identity request commandId
        "authorization" eventUuids (verified.events.length + 1) now) = .ok event :=
    hauthorizes.runs
  obtain ⟨hcontext, -, hformed, hfresh, -⟩ := recordProviderAuthorization_eq_ok.mp hrecorded
  obtain ⟨hcontextFits, -⟩ := approvalContext_eq_ok.mp hcontext
  have hsplit : (verified.after (.recordAuthorization (request.toProviderAuthorization now))
      event).history = history ++ (verified.after (.recordAuthorization
        (request.toProviderAuthorization now)) event).events := by
    rw [ApprovalProgress.after, hhistory, hmore, List.append_assoc]
  have hafter : ApprovalLeads request now state (verified.after (.recordAuthorization
      (request.toProviderAuthorization now)) event).state :=
    { verified := hloop.verified
      verifications := hloop.verifications
      authorizations := by
        rw [ApprovalProgress.after, advance, SupplierCommand.changed, hloop.authorizations]
      unrecorded := by
        rw [← hloop.authorizations]
        exact hfresh
      wellFormed := hformed
      kind := hloop.kind
      tenantId := hloop.tenantId
      tenantIdentifier := by
        rw [← hloop.tenantId, hcontextFits.tenant]
        exact hcontextFits.tenantId
      notAfter := notAfter_after hauthorizes.runs }
  rcases activatePending_eq_ok.mp hactivated with ⟨-, rfl⟩ | ⟨hpending, last, hrun, rfl⟩
  · rw [← hsplit, hreplays] at hfinal
    rwa [← Option.some.inj (Except.ok.inj hfinal)]
  · rw [← List.append_assoc, ← hsplit] at hfinal
    obtain ⟨-, rfl⟩ := (rehydrate_append_run_iff hreplays hrun).mp hfinal
    exact { hafter with notAfter := notAfter_after hrun }

end Approval

end Server
end TokenStreaming
