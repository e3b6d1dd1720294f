import TokenStreaming.Server.Runs
import TokenStreaming.Server.ServiceHistories
import TokenStreaming.Server.Footprints

/-!
# Control plane - Eligibility after an approval

An approval verifies the required kinds that have no verification at all.  A verification
that has expired is one all the same and is left as it is, so a supplier may come out of its
approval with an active authorization under which it cannot publish.

Main results:

- Theorem {lit}`ApprovalLeads.eligible_iff`: the condition on the state an approval starts from.
- Theorem {lit}`approval_restores_eligibility_iff`: the same for every approval of every run.
-/

namespace TokenStreaming
namespace Server

open Relational Domain TransitionSystem

/-! ## Eligibility -/

/-- The supplier can publish under the authorization. -/
structure EligibleUnder (state : SupplierState) (authorizationId : String) (now : Nat) : Prop where
  verified : missingRequiredVerificationKinds state (TimestampText.ofInstant now) = .ok []
  authorized : ∃ authorization ∈ state.authorizations,
    authorization.authorizationId = authorizationId ∧ authorization.status ≠ .revoked ∧
      isAuthorizationActive authorization (TimestampText.ofInstant now) = .ok true
  publishes : ∃ offer context event, offer.authorizationId = authorizationId ∧
    context.occurredAt = TimestampText.ofInstant now ∧
    publishCapacityOffer state offer context = .ok event

/-- No required kind has a verification that is not current. -/
def NoneExpired (state : SupplierState) (now : Nat) : Prop :=
  ∀ kind ∈ requiredVerificationKinds state.kind, (state.verified kind).isSome = true →
    hasCurrentVerification state kind (TimestampText.ofInstant now) = .ok true

section Approval

variable {request : AuthorizationRow} {now : Nat} {state final : SupplierState}

/-- The window of a recorded authorization is open. -/
theorem ApprovalLeads.window (h : ApprovalLeads request now state final) :
    ∃ t, assertTimestamp request.validUntil "validUntil" = .ok t ∧ (now : Int) < t := by
  obtain ⟨start, stop, hstart, hstop, hlt⟩ := h.wellFormed.window
  have hnow : assertTimestamp (request.toProviderAuthorization now).validFrom "validFrom" =
      .ok (now : Int) := assertTimestamp_ofInstant now _
  obtain rfl := Except.ok.inj (hstart.symm.trans hnow)
  exact ⟨stop, hstop, hlt⟩

/-- Which kinds are current after an approval. -/
theorem ApprovalLeads.current_iff (h : ApprovalLeads request now state final)
    {kind : SupplierVerificationKind} (hkind : kind ∈ requiredVerificationKinds state.kind) :
    hasCurrentVerification final kind (TimestampText.ofInstant now) = .ok true ↔
      ((state.verified kind).isSome = true →
        hasCurrentVerification state kind (TimestampText.ofInstant now) = .ok true) := by
  obtain ⟨t, ht, hlt⟩ := h.window
  have hverified := h.verified kind
  cases hheld : state.verified kind with
  | none =>
      have hmissing : kind ∈ unverifiedKinds state (requiredVerificationKinds state.kind) :=
        List.mem_filter.mpr ⟨hkind, by rw [hheld]; rfl⟩
      rw [if_pos hmissing] at hverified
      have hcurrent := hasCurrentVerification_unexpired hverified rfl
        (assertTimestamp_label ht "expiresAt") hlt
      constructor
      · intro _ hsome
        cases hsome
      · intro _
        exact hcurrent
  | some verification =>
      have habsent : kind ∉ unverifiedKinds state (requiredVerificationKinds state.kind) := by
        intro hmem
        have hnone := (List.mem_filter.mp hmem).2
        rw [hheld] at hnone
        cases hnone
      rw [if_neg habsent] at hverified
      rw [hasCurrentVerification_congr hverified]
      constructor
      · intro hcurrent _
        exact hcurrent
      · intro hcurrent
        exact hcurrent rfl

/-- Nothing is missing after an approval exactly when nothing had expired before it. -/
theorem ApprovalLeads.missing_iff (h : ApprovalLeads request now state final) :
    missingRequiredVerificationKinds final (TimestampText.ofInstant now) = .ok [] ↔
      NoneExpired state now := by
  rw [missingRequiredVerificationKinds_eq_nil, h.kind]
  constructor
  · intro hcurrent kind hkind
    exact (h.current_iff hkind).mp (hcurrent kind hkind)
  · intro hnone kind hkind
    exact (h.current_iff hkind).mpr (hnone kind hkind)

/-- The recorded authorization is the one that is found under its id. -/
theorem ApprovalLeads.findAuthorization (h : ApprovalLeads request now state final) :
    final.findAuthorization (request.toProviderAuthorization now).authorizationId =
      some (request.toProviderAuthorization now) := by
  have hnone : state.authorizations.find? (fun candidate =>
      candidate.authorizationId == (request.toProviderAuthorization now).authorizationId) =
      none := by
    rw [List.find?_eq_none]
    intro authorization hmem hsame
    exact h.unrecorded authorization hmem (beq_iff_eq.mp hsame)
  rw [SupplierState.findAuthorization, h.authorizations, List.find?_append, hnone]
  simp

/-- After an approval the supplier can publish exactly when no verification had expired. -/
theorem ApprovalLeads.eligible_iff (h : ApprovalLeads request now state final)
    (hactive : final.status = .active) :
    EligibleUnder final ("authorization-" ++ request.requestId) now ↔ NoneExpired state now := by
  obtain ⟨t, ht, hlt⟩ := h.window
  have hcurrent := toProviderAuthorization_active ht hlt
  constructor
  · intro heligible
    exact h.missing_iff.mp heligible.verified
  · intro hnone
    have hmissing := h.missing_iff.mpr hnone
    have htenant : matchesIdentifierPattern final.tenantId = true := by
      rw [h.tenantId]
      exact h.tenantIdentifier
    refine
      { verified := hmissing
        authorized := ⟨request.toProviderAuthorization now, ?_, rfl, ?_, hcurrent⟩
        publishes := ?_ }
    · rw [h.authorizations]
      exact List.mem_append_right _ (List.mem_singleton.mpr rfl)
    · exact fun hrevoked => ProviderAuthorizationStatus.noConfusion hrevoked
    · exact publishCapacityOffer_of_authorization htenant h.notAfter hactive hmissing
        h.findAuthorization h.wellFormed hcurrent

end Approval

/-! ## Approvals of a run -/

/-- A request whose step changed the database drew new values and sent a batch that was
accepted. -/
theorem step_service_changed {w : World} {request : ServiceRequest} {ages : List Nat}
    (h : (Server.step w (.service ages request)).db ≠ w.db) :
    w.isFresh request.uuids = true ∧ ∃ batch,
      request.batch w.deployment (w.reads ages) = .ok batch ∧
        runBatch w.db batch = some (Server.step w (.service ages request)).db := by
  have hfresh : w.isFresh request.uuids = true := by
    by_contra hused
    have hidle : Server.step w (.service ages request) = w := by
      unfold Server.step
      rw [if_neg (show ¬ w.isFresh (Call.service ages request).uuids = true from hused)]
    exact h (by rw [hidle])
  cases hbatch : request.batch w.deployment (w.reads ages) with
  | error e => exact absurd (step_service_error hbatch) h
  | ok batch =>
      have hstep := step_service_ok hfresh hbatch
      refine ⟨hfresh, batch, rfl, ?_⟩
      cases hresult : w.result batch with
      | none =>
          rw [hresult] at hstep
          exact absurd hstep h
      | some db =>
          rw [hresult] at hstep
          rw [hstep]
          exact (World.result_eq_some.mp hresult).1

/-- The approval of a call that turned a pending request into an approved one. -/
theorem approval_took_effect {w : World} {ages : List Nat} {identity : RequestIdentity}
    {requestId commandId operationUuid auditUuid : String} {reviewNote : Option String}
    {eventUuids : List String} {pending approved : AuthorizationRow} (hw : Reachable w)
    (hpending : pending ∈ w.db.rows .authorizationRequests)
    (hstatus : pending.status = .pending)
    (happroved : approved ∈ (Server.step w (.service ages (.approveAuthorization identity requestId
      commandId reviewNote operationUuid auditUuid eventUuids))).db.rows .authorizationRequests)
    (hid : approved.requestId = pending.requestId) (hstatus' : approved.status = .approved) :
    ∃ request token events state c note auditId, request.requestId = requestId ∧
      ApprovalOf w (w.reads ages) identity request commandId eventUuids token events state ∧
      c.requestId = requestId ∧
      Approved c note request.supplierId request.tenantId events (state.version - events.length)
        state.version auditId w.db (Server.step w (.service ages (.approveAuthorization identity
          requestId commandId reviewNote operationUuid auditUuid eventUuids))).db := by
  generalize hnext : (Server.step w (.service ages (.approveAuthorization identity requestId
    commandId reviewNote operationUuid auditUuid eventUuids))).db = db at *
  -- The rows of the request differ, so the table cannot be the same.
  have hmoved : db.rows .authorizationRequests ≠ w.db.rows .authorizationRequests := by
    intro hsame
    rw [hsame] at happroved
    rw [request_unique hw.consistent happroved hpending hid, hstatus] at hstatus'
    cases hstatus'
  obtain ⟨hfresh, batch, hbatch, hrun⟩ := step_service_changed (by
    rw [hnext]
    exact fun hsame => hmoved (by rw [hsame]))
  rw [hnext] at hrun
  have hsent : approveAuthorization (w.reads ages) w.deployment.keyrings identity requestId
      commandId reviewNote operationUuid auditUuid eventUuids = .ok batch := hbatch
  rcases approveAuthorization_eq_ok hsent with rfl | ⟨request, token, events, state, rfl, hof, rfl⟩
  · rw [runBatch_nil, Option.some.injEq] at hrun
    exact absurd (by rw [hrun]) hmoved
  · have hlogs := hw.supplierLogs w.db w.db_mem
    have hleads := hof.leads
    simp only [approvedState, Except.bind_eq_ok, uncaught_eq_ok, found_eq_ok, demand_eq_ok,
      exists_unit, Except.pure_eq_ok, beq_iff_eq] at hleads
    obtain ⟨state?, haccepted, found, rfl, hactive, rfl⟩ := hleads
    have hdraws : Draws w (.service ages (.approveAuthorization identity request.requestId
        commandId reviewNote operationUuid auditUuid eventUuids)) operationUuid := by
      obtain ⟨-, hnew, -⟩ := World.isFresh_eq.mp hfresh
      have hdrawn : operationUuid ∈ (Call.service ages (.approveAuthorization identity
          request.requestId commandId reviewNote operationUuid auditUuid eventUuids)).uuids := by
        simp [Call.uuids, ServiceRequest.uuids]
      exact ⟨hnew _ hdrawn, hdrawn⟩
    have houtcome := approvalBatch_outcome hw.consistent identity.tenantId_ne_platform
      (hw.claim_isNew (p := "review-op-") rfl (by decide) hdraws rfl)
      (fun hstands event hevent =>
        have hidentity := (approval_current hlogs (hw.sound.follows _ (w.reads_mem ages 5))
          haccepted hstands).2 event hevent
        ⟨hidentity.2.2, hidentity.2.1⟩) hrun
    cases houtcome with
    | lost hsame => exact absurd (by rw [hsame]) hmoved
    | orphaned _ _ hclaims =>
        exact absurd (hclaims.rows_of_ne MarketplaceTable.noConfusion) hmoved
    | approved h =>
        exact ⟨request, token, events, found, _, _, _, rfl, hof, rfl, h⟩

/--
An approval that succeeds leaves the supplier able to publish under the approved
authorization, inside its window and without a missing verification, exactly when no
required kind had a verification that was no longer current.
-/
theorem approval_restores_eligibility_iff (clock : Nat) (deployment : Deployment)
    (calls : List Call) (n : Nat) (ages : List Nat) (identity : RequestIdentity)
    (requestId commandId operationUuid auditUuid : String) (reviewNote : Option String)
    (eventUuids : List String)
    (hcall : calls[n]? = some (.service ages (.approveAuthorization identity requestId commandId
      reviewNote operationUuid auditUuid eventUuids)))
    {pending approved : AuthorizationRow}
    (hpending : pending ∈ (World.along clock deployment calls n).db.rows .authorizationRequests)
    (hid : pending.requestId = requestId) (hstatus : pending.status = .pending)
    (happroved : approved ∈ (World.along clock deployment calls (n + 1)).db.rows
      .authorizationRequests)
    (hid' : approved.requestId = requestId) (hstatus' : approved.status = .approved) :
    ∃ before after,
      rehydrateSupplier (readSupplierEvents (World.along clock deployment calls n).db
        pending.tenantId pending.supplierId) = .ok (some before) ∧
      rehydrateSupplier (readSupplierEvents (World.along clock deployment calls (n + 1)).db
        pending.tenantId pending.supplierId) = .ok (some after) ∧
      (EligibleUnder after ("authorization-" ++ requestId)
          ((World.along clock deployment calls n).reads ages 2).clock ↔
        NoneExpired before ((World.along clock deployment calls n).reads ages 2).clock) := by
  rw [World.along_succ hcall] at happroved ⊢
  have hnow : Reachable (World.along clock deployment calls n) := World.along_reachable n
  generalize World.along clock deployment calls n = w at *
  have hlogs := hnow.supplierLogs w.db w.db_mem
  obtain ⟨request, token, events, state, c, note, auditId, hrequestId, hof, -, h⟩ :=
    approval_took_effect hnow hpending hstatus happroved (hid'.trans hid.symm) hstatus'
  have hleads := hof.leads
  simp only [approvedState, Except.bind_eq_ok, uncaught_eq_ok, found_eq_ok, demand_eq_ok,
    exists_unit, Except.pure_eq_ok, beq_iff_eq] at hleads
  obtain ⟨state?, haccepted, found, rfl, hactive, rfl⟩ := hleads
  obtain ⟨hread, hlater⟩ := approval_history hnow hlogs hof haccepted h
  -- The reviewed row and the stored one are the same request.
  obtain ⟨snap, hsnap, hrow⟩ := hof.observed
  have hterms := hnow.terms_eq hsnap (Follows.refl _) hnow.consistent hrow hpending
    (hid.trans hrequestId.symm)
  have htenant : pending.tenantId = request.tenantId := congrArg RequestTerms.tenantId hterms
  have hsupplier : pending.supplierId = request.supplierId :=
    congrArg RequestTerms.supplierId hterms
  have hbuilt := hof.builds
  rw [buildApprovalEvents_eq, hread] at hbuilt
  obtain ⟨before, -, -, hbefore, -⟩ := approvalEvents_eq_ok.mp hbuilt
  have hidentity := (approval_current hlogs (hnow.sound.follows _ (w.reads_mem ages 5)) haccepted
    h.supplier).2
  rw [hlater] at haccepted
  have hstep := hnow.step (.service ages (.approveAuthorization identity requestId commandId
    reviewNote operationUuid auditUuid eventUuids))
  refine ⟨before, found, ?_, ?_, ?_⟩
  · rw [hnow.readSupplierEvents_eq w.db_mem, htenant, hsupplier]
    exact hbefore
  · rw [hstep.readSupplierEvents_eq (World.db_mem _), htenant, hsupplier,
      supplierLog_extended h.events hidentity]
    exact haccepted
  · rw [← hrequestId]
    exact (approvalEvents_leads hbefore hbuilt haccepted).eligible_iff hactive

/-- The first approval of the sample run leaves its supplier able to publish. -/
theorem approval_restores_eligibility_iff_sample :
    ∃ after, rehydrateSupplier (readSupplierEvents
        (World.along 1000 sampleDeployment sampleCalls 3).db "tenant-supplier" "supplier-s1") =
        .ok (some after) ∧
      EligibleUnder after "authorization-authorization-request-a1" 1000 := by
  have hfacts :
      (∃ r ∈ (World.along 1000 sampleDeployment sampleCalls 2).db.rows .authorizationRequests,
        (r.requestId, r.tenantId, r.supplierId, r.status) =
          ("authorization-request-a1", "tenant-supplier", "supplier-s1", .pending)) ∧
      (∃ r ∈ (World.along 1000 sampleDeployment sampleCalls (2 + 1)).db.rows
        .authorizationRequests,
        r.requestId = "authorization-request-a1" ∧ r.status = .approved) ∧
      ((World.along 1000 sampleDeployment sampleCalls 2).reads [] 2).clock = 1000 ∧
      ((rehydrateSupplier (readSupplierEvents
        (World.along 1000 sampleDeployment sampleCalls 2).db "tenant-supplier"
        "supplier-s1")).toOption.join.all fun before => before.verifications.isEmpty) = true := by
    rw [show World.along 1000 sampleDeployment sampleCalls (2 + 1) = _ from sampleWorld_three]
    decide +kernel
  obtain ⟨⟨pending, hpending, hcolumns⟩, ⟨approved, happroved, hid', hstatus'⟩, hclock, hempty⟩ :=
    hfacts
  simp only [Prod.mk.injEq] at hcolumns
  obtain ⟨hid, htenant, hsupplier, hstatus⟩ := hcolumns
  obtain ⟨before, after, hbefore, hafter, hiff⟩ := approval_restores_eligibility_iff 1000
    sampleDeployment sampleCalls 2 [] sampleReviewer "authorization-request-a1" "review-1" "r1"
    "u3" none ["e2", "e3", "e4", "e5", "e6", "e7"] rfl hpending hid hstatus happroved hid' hstatus'
  rw [htenant, hsupplier] at hbefore hafter
  rw [hclock] at hiff
  refine ⟨after, hafter, hiff.mpr fun kind _ hheld => ?_⟩
  rw [hbefore] at hempty
  have hnone : before.verifications = [] := by
    simpa [Except.toOption] using hempty
  rw [SupplierState.verified, hnone] at hheld
  cases hheld

/-- The sample supplier asks for a second authorization after the first has expired. -/
def renewalCalls : List Call :=
  sampleCalls.take 3 ++
    [.setClock 86400001,
      .service [] (.submitAuthorizationRequest sampleSupplier
        { sampleSubmission "submit-2" sampleToken with validUntil := .ofInstant 172800000 }
        "a2" "iv3" "u6"),
      .service [] (.approveAuthorization sampleReviewer "authorization-request-a2" "review-2" none
        "r2" "u7" ["e8", "e9", "e10", "e11", "e12", "e13"])]

/-- The second approval succeeds and leaves every verification expired. -/
theorem renewal_not_eligible :
    (∃ r ∈ (World.along 1000 sampleDeployment renewalCalls 5).db.rows .authorizationRequests,
      r.requestId = "authorization-request-a2" ∧ r.status = .pending) ∧
    (∃ r ∈ (World.along 1000 sampleDeployment renewalCalls 6).db.rows .authorizationRequests,
      r.requestId = "authorization-request-a2" ∧ r.status = .approved) ∧
    ∀ after, rehydrateSupplier (readSupplierEvents
        (World.along 1000 sampleDeployment renewalCalls 6).db "tenant-supplier" "supplier-s1") =
        .ok (some after) →
      ¬ EligibleUnder after "authorization-authorization-request-a2" 86400001 := by
  have hfacts :
      (∃ r ∈ (World.along 1000 sampleDeployment renewalCalls 5).db.rows .authorizationRequests,
        r.requestId = "authorization-request-a2" ∧ r.status = .pending) ∧
      (∃ r ∈ (World.along 1000 sampleDeployment renewalCalls 6).db.rows .authorizationRequests,
        r.requestId = "authorization-request-a2" ∧ r.status = .approved) ∧
      ((rehydrateSupplier (readSupplierEvents
        (World.along 1000 sampleDeployment renewalCalls 6).db "tenant-supplier"
        "supplier-s1")).toOption.join.all fun after =>
          (missingRequiredVerificationKinds after (TimestampText.ofInstant 86400001)).toOption !=
            some []) = true := by
    rw [show World.along 1000 sampleDeployment renewalCalls 5 = _ from
        run_approved ((renewalCalls.drop 3).take 2),
      show World.along 1000 sampleDeployment renewalCalls 6 = _ from
        run_approved (renewalCalls.drop 3)]
    decide +kernel
  refine ⟨hfacts.1, hfacts.2.1, fun after hafter heligible => ?_⟩
  have hmissing := hfacts.2.2
  rw [hafter] at hmissing
  simp [Except.toOption, heligible.verified] at hmissing

end Server
end TokenStreaming
