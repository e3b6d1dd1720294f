import TokenStreaming.Domain.SupplierInvariant

/-!
# Marketplace domain - Verification ids

A state keeps the latest verification of each kind, and a new verification is
refused when its id is held for another kind.  An id that was superseded within
its kind is forgotten by the state, so whether one id names one kind over a whole
history depends on what becomes of superseded ids.

Main results:

- Theorem {lit}`verificationIds_nameOneKind_iff`: the ids of an accepted history name
  one kind each exactly when no event takes a superseded id for another kind.
- Theorem {lit}`supersededId_namesTwoKinds`: an accepted history of commands whose
  fourth event takes a superseded id.
-/

namespace TokenStreaming
namespace Domain

/-- No verification id is recorded for two kinds. -/
def VerificationIdsNameOneKind (history : List SupplierEvent) : Prop :=
  ∀ first ∈ recordedVerifications history, ∀ second ∈ recordedVerifications history,
    first.verificationId = second.verificationId → first.kind = second.kind

/-- The verification was recorded, and its kind now has another id. -/
def Superseded (history : List SupplierEvent) (verification : SupplierVerification) : Prop :=
  verification ∈ recordedVerifications history ∧
    ∀ latest, latestVerification history verification.kind = some latest →
      latest.verificationId ≠ verification.verificationId

/-- No event of the history takes a superseded id for another kind. -/
def ReusesNoSupersededId (history : List SupplierEvent) : Prop :=
  ∀ first event more, history = first ++ event :: more →
    ∀ verification, event.payload = .verificationRecorded verification →
      ∀ earlier, Superseded first earlier →
        earlier.verificationId = verification.verificationId → earlier.kind = verification.kind

/-! ## What an accepted verification event says -/

theorem mem_recordedVerifications_snoc {first : List SupplierEvent} {event : SupplierEvent}
    {verification : SupplierVerification} :
    verification ∈ recordedVerifications (first ++ [event]) ↔
      verification ∈ recordedVerifications first ∨
        event.payload = .verificationRecorded verification := by
  rw [recordedVerifications_snoc, List.mem_append]
  refine or_congr_right ?_
  constructor
  · intro hmem
    by_cases hrecorded : ∃ other, event.payload = .verificationRecorded other
    · rcases hrecorded with ⟨other, hother⟩
      rw [recordedVerifications_recorded hother, List.mem_singleton] at hmem
      rw [hmem]
      exact hother
    · rw [recordedVerifications_other (fun other hother => hrecorded ⟨other, hother⟩)] at hmem
      cases hmem
  · intro hpayload
    rw [recordedVerifications_recorded hpayload]
    exact List.mem_singleton_self _

/-- An accepted verification takes no id the state holds for another kind. -/
theorem applySupplierEvent_verification {state state' : SupplierState} {event : SupplierEvent}
    {verification : SupplierVerification} (hpayload : event.payload = .verificationRecorded verification)
    (h : applySupplierEvent (some state) event = .ok state') :
    ∀ held ∈ state.verifications, held.verificationId = verification.verificationId →
      held.kind = verification.kind := by
  unfold applySupplierEvent at h
  rw [hpayload] at h
  simp only [Except.bind_eq_ok, ensure_eq_ok, exists_unit, Except.pure_eq_ok, Bool.not_eq_true',
    List.any_eq_false, Bool.and_eq_true, beq_iff_eq, bne_iff_ne, not_and, not_not] at h
  intro held hheld hid
  exact h.2.1 held hheld hid

/-- The latest verification of a kind is held by the state. -/
theorem HeldRecords.latest_mem {history : List SupplierEvent} {state : SupplierState}
    (h : HeldRecords history state) {kind : SupplierVerificationKind}
    {latest : SupplierVerification} (hlatest : latestVerification history kind = some latest) :
    latest ∈ state.verifications ∧ latest.kind = kind := by
  have hfilter := h.verifications kind
  rw [hlatest] at hfilter
  have hmem : latest ∈ state.verifications.filter fun held => held.kind == kind := by
    rw [hfilter]
    exact List.mem_singleton_self _
  rw [List.mem_filter, beq_iff_eq] at hmem
  exact hmem

/-- What was recorded and not superseded still has the latest id of its kind. -/
theorem latest_of_not_superseded {history : List SupplierEvent}
    {verification : SupplierVerification} (hmem : verification ∈ recordedVerifications history)
    (h : ¬ Superseded history verification) :
    ∃ latest, latestVerification history verification.kind = some latest ∧
      latest.verificationId = verification.verificationId := by
  by_contra hnone
  refine h ⟨hmem, ?_⟩
  intro latest hlatest hid
  exact hnone ⟨latest, hlatest, hid⟩

/-- An accepted event that reuses an id recorded for another kind reuses a superseded one. -/
theorem superseded_of_reuse {first : List SupplierEvent} {event : SupplierEvent}
    {state? : Option SupplierState} (h : rehydrateSupplier (first ++ [event]) = .ok state?)
    {verification earlier : SupplierVerification}
    (hpayload : event.payload = .verificationRecorded verification)
    (hearlier : earlier ∈ recordedVerifications first)
    (hid : earlier.verificationId = verification.verificationId)
    (hkind : earlier.kind ≠ verification.kind) : Superseded first earlier := by
  by_contra hheld
  rcases latest_of_not_superseded hearlier hheld with ⟨latest, hlatest, hlatestId⟩
  rcases rehydrateSupplier_snoc.mp h with ⟨progress, next, hfirst, hnext, -⟩
  rcases hnext.applied with ⟨applied, happlied, -⟩
  cases hstate : progress.state with
  | none =>
      rw [hstate] at happlied
      rcases applySupplierEvent_first happlied with ⟨input, hregistered, -⟩
      rw [hregistered] at hpayload
      cases hpayload
  | some state =>
      rw [hstate] at happlied
      have haccepted : rehydrateSupplier first = .ok (some state) :=
        rehydrateSupplier_eq_ok.mpr ⟨progress, hfirst, hstate⟩
      rcases (HeldRecords.ofHistory haccepted).latest_mem hlatest with ⟨hmem, hlatestKind⟩
      have hsame := applySupplierEvent_verification hpayload happlied latest hmem
        (hlatestId.trans hid)
      exact hkind (hlatestKind.symm.trans hsame)

/-! ## The history's ids -/

theorem ReusesNoSupersededId.of_append {first more : List SupplierEvent}
    (h : ReusesNoSupersededId (first ++ more)) : ReusesNoSupersededId first := by
  intro before event rest hsplit
  refine h before event (rest ++ more) ?_
  rw [hsplit, List.append_assoc, List.cons_append]

/-- Over an accepted history an id names one kind exactly when no event takes a
superseded id for another kind. -/
theorem verificationIds_nameOneKind_iff {history : List SupplierEvent}
    {state? : Option SupplierState} (h : rehydrateSupplier history = .ok state?) :
    VerificationIdsNameOneKind history ↔ ReusesNoSupersededId history := by
  constructor
  · intro hone first event more hsplit verification hpayload earlier hsuperseded hid
    have hsplit' : history = (first ++ [event]) ++ more := by
      rw [hsplit, List.append_assoc, List.singleton_append]
    have hmem : ∀ v ∈ recordedVerifications (first ++ [event]),
        v ∈ recordedVerifications history := by
      intro v hv
      rw [hsplit', recordedVerifications, List.filterMap_append]
      exact List.mem_append_left _ hv
    exact hone earlier (hmem _ (mem_recordedVerifications_snoc.mpr (Or.inl hsuperseded.1)))
      verification (hmem _ (mem_recordedVerifications_snoc.mpr (Or.inr hpayload))) hid
  · -- By induction on the history: only its last event can bring the second kind.
    intro hreuse
    induction history using List.reverseRecOn generalizing state? with
    | nil =>
        intro v hv
        cases hv
    | append_singleton first event ih =>
        rcases rehydrateSupplier_prefix h with ⟨earlier?, hearlier?⟩
        have hfirst := ih hearlier? hreuse.of_append
        -- An id the last event shares with an earlier verification has one kind.
        have hlast : ∀ earlier ∈ recordedVerifications first, ∀ verification,
            event.payload = .verificationRecorded verification →
            earlier.verificationId = verification.verificationId →
            earlier.kind = verification.kind := by
          intro earlier hmem verification hpayload hid
          by_contra hkind
          exact hkind (hreuse first event [] rfl verification hpayload earlier
            (superseded_of_reuse h hpayload hmem hid hkind) hid)
        intro v hv w hw hid
        rcases mem_recordedVerifications_snoc.mp hv with hv | hv
        · rcases mem_recordedVerifications_snoc.mp hw with hw | hw
          · exact hfirst v hv w hw hid
          · exact hlast v hv w hw hid
        · rcases mem_recordedVerifications_snoc.mp hw with hw | hw
          · exact (hlast w hw v hv hid.symm).symm
          · have hsame : SupplierEventPayload.verificationRecorded v = .verificationRecorded w :=
              hv.symm.trans hw
            cases hsame
            rfl

/-- The contexts of the three verification commands of the sample. -/
def verificationContext (n : Nat) : MarketplaceCommandContext :=
  { verificationContextSample with
    commandId := "command-00" ++ toString n
    eventId := "event-00" ++ toString n }

/-- A fresh supplier whose identity was verified twice, under two ids. -/
def reverifiedSample : List SupplierEvent :=
  let state := SupplierState.ofRegistration registeredSample
    { supplierId := "supplier-a"
      kind := .individual
      legalName := "Ada Supplier"
      displayName := "Ada"
      countryCode := "US"
      taxResidenceCountryCode := "US" }
  [registeredSample,
    supplierEvent state (verificationContext 2) (.verificationRecorded verificationSample),
    supplierEvent { state with version := 2 } (verificationContext 3)
      (.verificationRecorded { verificationSample with verificationId := "verification-002" })]

/-- The ids of the sample name one kind each. -/
theorem verificationIds_nameOneKind_iff_sample :
    VerificationIdsNameOneKind reverifiedSample ↔ ReusesNoSupersededId reverifiedSample := by
  have haccepted : ∃ state?, rehydrateSupplier reverifiedSample = .ok state? := by
    cases h : rehydrateSupplier reverifiedSample with
    | ok state? => exact ⟨state?, rfl⟩
    | error e =>
        have hok : (rehydrateSupplier reverifiedSample).isOk = true := by decide +kernel
        rw [h] at hok
        cases hok
  rcases haccepted with ⟨state?, h⟩
  exact verificationIds_nameOneKind_iff h

/-- The first identity check's id is accepted again, for the tax check. -/
theorem supersededId_namesTwoKinds :
    ∃ state event state', rehydrateSupplier reverifiedSample = .ok (some state) ∧
      recordSupplierVerification state { verificationSample with kind := .tax }
        (verificationContext 4) = .ok event ∧
      rehydrateSupplier (reverifiedSample ++ [event]) = .ok (some state') ∧
      ¬ VerificationIdsNameOneKind (reverifiedSample ++ [event]) := by
  let state : SupplierState :=
    { SupplierState.ofRegistration registeredSample
        { supplierId := "supplier-a"
          kind := .individual
          legalName := "Ada Supplier"
          displayName := "Ada"
          countryCode := "US"
          taxResidenceCountryCode := "US" } with
      verifications := [{ verificationSample with verificationId := "verification-002" }]
      version := 3
      updatedAt := verificationContextSample.occurredAt }
  let tax : SupplierVerification := { verificationSample with kind := .tax }
  refine ⟨state, supplierEvent state (verificationContext 4) (.verificationRecorded tax),
    { state with
      verifications := state.verifications ++ [tax]
      version := 4 }, by decide +kernel, by decide +kernel, by decide +kernel, ?_⟩
  intro hone
  have hkinds := hone verificationSample (by decide) tax (by decide) rfl
  exact SupplierVerificationKind.noConfusion hkinds

end Domain
end TokenStreaming
