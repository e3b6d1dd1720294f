import TokenStreaming.Server.AuthorizationBindings
import TokenStreaming.Server.CommandClaims

/-!
# Control plane - Outcomes of lifecycle commands

What a withdrawal, a revocation or a credential rotation does to the database.  A
command whose claim is refused still runs all later statements of its batch; it
is shown here that they change no event, job, task or request.  A
command whose claim is stored takes effect as a whole.

Main results:

- Theorems {lit}`withdrawalBatch_outcome`, {lit}`revocationBatch_outcome` and
  {lit}`rotationBatch_outcome`: each command is lost or takes effect.
-/

namespace TokenStreaming
namespace Server

open Relational Domain

/-! ## Shared guards -/

/-- The id of a command's audit row. -/
def LifecycleCommand.auditId (c : LifecycleCommand) : String :=
  "audit-authorization-lifecycle-" ++ c.tenantId ++ "-" ++ c.operation ++ "-" ++ c.commandId

/-- The audit row of the command is stored. -/
def LifecycleCommand.IsAudited (c : LifecycleCommand) (db : MarketplaceDb) : Prop :=
  ∃ row ∈ db.rows .auditEvents, row.auditId = c.auditId

/-- Guards on the claim read the keys only. -/
theorem LifecycleCommand.holdsClaim_congr {c : LifecycleCommand} {a b : MarketplaceDb}
    (h : b.rows .idempotencyKeys = a.rows .idempotencyKeys) : c.holdsClaim b = c.holdsClaim a := by
  simp only [LifecycleCommand.holdsClaim, hasBinding, h]

theorem LifecycleCommand.holdsCommand_congr {c : LifecycleCommand} {a b : MarketplaceDb}
    (h : b.rows .idempotencyKeys = a.rows .idempotencyKeys) :
    c.holdsCommand b = c.holdsCommand a := by
  simp only [LifecycleCommand.holdsCommand, hasBinding, h]

/-- The audit row of the command. -/
def LifecycleCommand.auditRow (c : LifecycleCommand) (action : String) : AuditEventRow where
  auditId := c.auditId
  tenantId := c.tenantId
  actorId := c.actorId
  action := action
  resourceType := "authorization-request"
  resourceId := c.requestId
  occurredAt := c.now

theorem AuditEventRow.clashes_eq_true {a b : AuditEventRow} :
    clashes (S := marketplaceSchema) .auditEvents a b = true ↔ a.auditId = b.auditId := by
  rw [Relational.clashes_eq_true]
  simp [marketplaceKeys]

/-- The guard of the audit insert. -/
def LifecycleCommand.mayAudit (c : LifecycleCommand) (status : AuthorizationStatus)
    (requiredEventId : Option String) (db : MarketplaceDb) : Bool :=
  (db.rows .authorizationRequests).any (fun r =>
      r.requestId == c.requestId && r.tenantId == c.tenantId && r.status == status &&
        r.authorizationRevision == c.nextRevision) &&
    c.holdsCommand db &&
    requiredEventId.all fun eventId =>
      (db.rows .marketplaceEvents).any fun e => e.eventId == eventId && e.tenantId == c.tenantId

theorem guardedAuthorizationLifecycleAuditInsert_eq (c : LifecycleCommand) (action : String)
    (status : AuthorizationStatus) (requiredEventId : Option String) :
    guardedAuthorizationLifecycleAuditInsert c action status requiredEventId =
      .insertOrIgnore .auditEvents fun db =>
        if c.mayAudit status requiredEventId db then [c.auditRow action] else [] :=
  rfl

/-- A command that is audited when it is bound adds no audit row. -/
theorem lifecycleAudit_lost {c : LifecycleCommand} {action : String}
    {status : AuthorizationStatus} {eventId : Option String} {a b : MarketplaceDb}
    (h : (guardedAuthorizationLifecycleAuditInsert c action status eventId).apply a = some b)
    (haudited : c.holdsCommand a = true → c.IsAudited a) : b = a := by
  rw [guardedAuthorizationLifecycleAuditInsert_eq] at h
  rcases Statement.insertOrIgnore_cases h rfl with hsame | ⟨hguard, hnew, -⟩
  · exact hsame
  · simp only [LifecycleCommand.mayAudit, Bool.and_eq_true] at hguard
    obtain ⟨row, hrow, hid⟩ := haudited hguard.1.2
    have hclash := AuditEventRow.clashes_eq_true.mpr
      (show (c.auditRow action).auditId = row.auditId from hid.symm)
    rw [hnew row hrow] at hclash
    cases hclash

/-- A command in effect is audited. -/
theorem lifecycleAudit_stored {c : LifecycleCommand} {action : String}
    {status : AuthorizationStatus} {eventId : Option String} {a b : MarketplaceDb}
    (h : (guardedAuthorizationLifecycleAuditInsert c action status eventId).apply a = some b)
    (hguard : c.mayAudit status eventId a = true) : c.IsAudited b := by
  rw [guardedAuthorizationLifecycleAuditInsert_eq] at h
  rcases Statement.insertOrIgnore_singleton h (if_pos hguard) with
    ⟨-, rfl⟩ | ⟨⟨old, hold, hclash⟩, rfl⟩
  · refine ⟨c.auditRow action, ?_, rfl⟩
    rw [Database.withRows_rows]
    exact List.mem_append_right _ (List.mem_singleton.mpr rfl)
  · exact ⟨old, hold, (AuditEventRow.clashes_eq_true.mp hclash).symm⟩

/-! ## Withdrawals -/

/-- The request a lifecycle command names, at the revision it was read at. -/
def LifecycleCommand.targets (c : LifecycleCommand) (status : AuthorizationStatus)
    (r : AuthorizationRow) : Bool :=
  c.owns r && r.status == status && r.authorizationRevision == c.authorizationRevision

/-- A command in effect: its claim, what becomes of its request, and its audit row. -/
structure TookEffect (c : LifecycleCommand) (status : AuthorizationStatus)
    (assign : AuthorizationRow → AuthorizationRow) (a b : MarketplaceDb) : Prop where
  target : ∃ r ∈ a.rows .authorizationRequests, c.targets status r = true
  claims : ∃ mid, Claims c.claimRow c.commandRow a mid ∧
    b.rows .idempotencyKeys = mid.rows .idempotencyKeys
  requests : b.rows .authorizationRequests = (a.rows .authorizationRequests).map fun r =>
    if r.requestId = c.requestId then assign r else r
  audited : c.IsAudited b

/-- A row with the target's id is the target. -/
theorem LifecycleCommand.eq_target {c : LifecycleCommand} {status : AuthorizationStatus}
    {db : MarketplaceDb} (hconsistent : Consistent db) {target r : AuthorizationRow}
    (hmem : target ∈ db.rows .authorizationRequests) (htarget : c.targets status target = true)
    (hr : r ∈ db.rows .authorizationRequests) (hid : r.requestId = c.requestId) : r = target := by
  simp only [LifecycleCommand.targets, LifecycleCommand.owns, Bool.and_eq_true,
    beq_iff_eq] at htarget
  exact request_unique hconsistent hr hmem (hid.trans htarget.1.1.1.1.symm)

/-- A guard that holds of the target alone selects by id. -/
theorem map_target {c : LifecycleCommand} {status : AuthorizationStatus} {db : MarketplaceDb}
    (hconsistent : Consistent db) {target : AuthorizationRow}
    (hmem : target ∈ db.rows .authorizationRequests) (htarget : c.targets status target = true)
    {selects : AuthorizationRow → Bool} (assign : AuthorizationRow → AuthorizationRow)
    (hselects : selects target = true)
    (hid : ∀ r, selects r = true → r.requestId = c.requestId) :
    ((db.rows .authorizationRequests).map fun r => if selects r then assign r else r) =
      (db.rows .authorizationRequests).map fun r =>
        if r.requestId = c.requestId then assign r else r := by
  refine List.map_congr_left fun r hr => ?_
  by_cases hsame : r.requestId = c.requestId
  · rw [c.eq_target hconsistent hmem htarget hr hsame, if_pos hselects]
    rw [if_pos]
    rw [← c.eq_target hconsistent hmem htarget hr hsame]
    exact hsame
  · rw [if_neg hsame, if_neg fun hsel => hsame (hid r hsel)]

/-- A lost command: it may drop worker heartbeats and complete an audit that is due. -/
structure LifecycleCommand.Lost (c : LifecycleCommand) (a b : MarketplaceDb) : Prop where
  rows : ∀ t, t ≠ .supplierArtifactWorkers → t ≠ .auditEvents → b.rows t = a.rows t
  audits : (c.holdsCommand a = true → c.IsAudited a) →
    b.rows .auditEvents = a.rows .auditEvents

/-- What a lost command ends with: heartbeats may go, then the audit row is due or not. -/
theorem LifecycleCommand.Lost.of_last {c : LifecycleCommand} {action : String}
    {status : AuthorizationStatus} {eventId : Option String} {a d b : MarketplaceDb}
    (hframe : ∀ t, t ≠ .supplierArtifactWorkers → d.rows t = a.rows t)
    (hlast : (guardedAuthorizationLifecycleAuditInsert c action status eventId).apply d =
      some b) : c.Lost a b where
  rows := fun t hworkers haudits =>
    (Statement.apply_rows_of_ne hlast haudits).trans (hframe t hworkers)
  audits := fun hdue => by
    have hsame : b = d := by
      refine lifecycleAudit_lost hlast fun hcommand => ?_
      rw [c.holdsCommand_congr (hframe .idempotencyKeys MarketplaceTable.noConfusion)] at hcommand
      obtain ⟨row, hrow, hid⟩ := hdue hcommand
      rw [← hframe .auditEvents MarketplaceTable.noConfusion] at hrow
      exact ⟨row, hrow, hid⟩
    rw [hsame]
    exact hframe .auditEvents MarketplaceTable.noConfusion

/-- A withdrawal is lost or takes effect. -/
theorem withdrawalBatch_outcome {c : LifecycleCommand} {request : AuthorizationRow}
    {supplierVersion : Nat} {reasonCode : String} {a b : MarketplaceDb}
    (hconsistent : Consistent a) (htenant : c.tenantId ≠ "platform")
    (hnew : c.claimRow.isHeld a = false) (hpending : request.status = .pending)
    (hrun : runBatch a (withdrawalBatch c request supplierVersion reasonCode) = some b) :
    c.Lost a b ∨ TookEffect c .pending (c.terminate .withdrawn reasonCode) a b := by
  simp only [withdrawalBatch, runBatch_cons_eq_some, runBatch_nil, Option.some.injEq] at hrun
  obtain ⟨d₁, h₁, d₂, h₂, d₃, h₃, d₄, h₄, rfl⟩ := hrun
  rcases claimed_or_lost c.claimRow c.commandRow htenant hnew h₁ h₂ with
    rfl | ⟨hguard, hclaims⟩
  · left
    have hlost : c.holdsClaim d₂ = false := hnew
    have hd₃ : d₃ = d₂ := Statement.update_eq_self h₃ fun r _ => by
      rw [hlost, Bool.and_false, Bool.false_and]
    subst hd₃
    exact .of_last (fun _ _ => rfl) h₄
  · right
    obtain ⟨target, hmem, hsel⟩ := List.any_eq_true.mp hguard
    rw [hpending] at hsel
    have htarget : c.targets .pending target = true := by
      rw [Bool.and_eq_true] at hsel
      exact hsel.1
    have hrequests₂ : d₂.rows .authorizationRequests = a.rows .authorizationRequests :=
      hclaims.rows_of_ne MarketplaceTable.noConfusion
    have hclaim : c.holdsClaim d₂ = true := hclaims.holdsClaim
    have hcommand : c.holdsCommand d₂ = true := hclaims.holdsCommand
    have hrequests₃ : d₃.rows .authorizationRequests =
        (a.rows .authorizationRequests).map fun r =>
          if r.requestId = c.requestId then c.terminate .withdrawn reasonCode r else r := by
      rw [Statement.update_rows h₃, hrequests₂]
      refine map_target hconsistent hmem htarget _ ?_ ?_
      · rw [hclaim, hcommand, Bool.and_true, Bool.and_true]
        exact htarget
      · intro r hr
        simp only [LifecycleCommand.owns, Bool.and_eq_true, beq_iff_eq] at hr
        exact hr.1.1.1.1.1.1
    have hkeys₃ : d₃.rows .idempotencyKeys = d₂.rows .idempotencyKeys :=
      Statement.apply_rows_of_ne h₃ MarketplaceTable.noConfusion
    have hkeys₄ : d₄.rows .idempotencyKeys = d₃.rows .idempotencyKeys :=
      Statement.apply_rows_of_ne h₄ MarketplaceTable.noConfusion
    have hrequests₄ : d₄.rows .authorizationRequests = d₃.rows .authorizationRequests :=
      Statement.apply_rows_of_ne h₄ MarketplaceTable.noConfusion
    refine
      { target := ⟨target, hmem, htarget⟩
        claims := ⟨d₂, hclaims, hkeys₄.trans hkeys₃⟩
        requests := hrequests₄.trans hrequests₃
        audited := lifecycleAudit_stored h₄ ?_ }
    simp only [LifecycleCommand.mayAudit, Bool.and_eq_true, Option.all_none, and_true]
    refine ⟨?_, (c.holdsCommand_congr hkeys₃).trans hcommand⟩
    rw [hrequests₃]
    refine List.any_eq_true.mpr ⟨_, List.mem_map_of_mem hmem, ?_⟩
    simp only [LifecycleCommand.targets, LifecycleCommand.owns, Bool.and_eq_true,
      beq_iff_eq] at htarget
    rw [if_pos htarget.1.1.1.1]
    simp [LifecycleCommand.terminate, AuthorizationRow.scrubbed, LifecycleCommand.nextRevision,
      htarget]

/-! ## Work of ended authorizations -/

section Bound

variable {c : LifecycleCommand} {a b : MarketplaceDb}

/-- A reserved job of a request stands on that request. -/
theorem Bindings.boundTo (h : Bindings none a) {job : InferenceJobRow}
    (hjob : job ∈ a.rows .inferenceJobs) (hreserved : job.status = .reserved) {requestId : String}
    (hbound : job.isBoundTo a requestId = true) :
    ∃ r ∈ a.rows .authorizationRequests, r.requestId = requestId ∧ job.StandsOn r := by
  obtain ⟨r, hr, hstands⟩ := h.standsOn hjob hreserved
  refine ⟨r, hr, ?_, hstands⟩
  simpa [InferenceJobRow.isBoundTo, hstands.1] using hbound

/-- A request that is already revoked has no reserved jobs. -/
theorem Bindings.failReserved_idle (h : Bindings none a) (hconsistent : Consistent a)
    (hs : (failReservedInferenceForRevokedAuthorizationSql c).apply a = some b) : b = a := by
  refine Statement.update_eq_self hs fun job hjob => Bool.eq_false_iff.mpr fun hsel => ?_
  simp only [Bool.and_eq_true, beq_iff_eq] at hsel
  obtain ⟨r, hr, hid, hstands⟩ := h.boundTo hjob hsel.1.1 hsel.1.2
  obtain ⟨r', hr', hrevoked⟩ := List.any_eq_true.mp hsel.2
  simp only [Bool.and_eq_true, beq_iff_eq] at hrevoked
  have hsame : r = r' := request_unique hconsistent hr hr' (hid.trans hrevoked.1.1.symm)
  have happroved := hstands.2.1
  rw [hsame, hrevoked.1.2] at happroved
  cases happroved

/-- Nor queued tasks. -/
theorem Bindings.failQueued_idle (h : Bindings none a)
    (hs : (failQueuedArtifactsForRevokedAuthorizationSql c).apply a = some b) : b = a := by
  refine Statement.update_eq_self hs fun task htask => Bool.eq_false_iff.mpr fun hsel => ?_
  simp only [Bool.and_eq_true, beq_iff_eq] at hsel
  obtain ⟨r, hr, hrevoked⟩ := List.any_eq_true.mp hsel.2
  simp only [Bool.and_eq_true, beq_iff_eq] at hrevoked
  have hwithdrawn := h.isWithdrawn hr hrevoked.1.2 htask (hsel.1.1.1.trans hrevoked.1.1.symm)
  rw [task.phase_eq_queued.mpr hsel.1.1.2] at hwithdrawn
  cases hwithdrawn

/-- Nor leased tasks that no cancellation is pending for. -/
theorem Bindings.cancelLeased_idle (h : Bindings none a)
    (hs : (cancelLeasedArtifactsForRevokedAuthorizationSql c).apply a = some b) : b = a := by
  refine Statement.update_eq_self hs fun task htask => Bool.eq_false_iff.mpr fun hsel => ?_
  simp only [Bool.and_eq_true, beq_iff_eq, Option.isNone_iff_eq_none] at hsel
  obtain ⟨r, hr, hrevoked⟩ := List.any_eq_true.mp hsel.2
  simp only [Bool.and_eq_true, beq_iff_eq] at hrevoked
  have hwithdrawn := h.isWithdrawn hr hrevoked.1.2 htask (hsel.1.1.1.trans hrevoked.1.1.symm)
  rw [ArtifactTaskRow.phase_of_isExecuting hsel.1.1.2 hsel.1.2] at hwithdrawn
  cases hwithdrawn

/-- A revision that was already rotated away has no reserved jobs. -/
theorem Bindings.failAfterRotation_idle (h : Bindings none a) (hconsistent : Consistent a)
    {digest : Digest}
    (hs : (failReservedInferenceAfterCredentialRotationSql c digest).apply a = some b) :
    b = a := by
  refine Statement.update_eq_self hs fun job hjob => Bool.eq_false_iff.mpr fun hsel => ?_
  simp only [Bool.and_eq_true, beq_iff_eq, Bool.or_eq_true, Option.isNone_iff_eq_none] at hsel
  obtain ⟨r, hr, hid, hstands⟩ := h.boundTo hjob hsel.1.1.1 hsel.1.1.2
  obtain ⟨r', hr', hrotated⟩ := List.any_eq_true.mp hsel.2
  simp only [LifecycleCommand.owns, Bool.and_eq_true, beq_iff_eq] at hrotated
  have hsame : r = r' := request_unique hconsistent hr hr' (hid.trans hrotated.1.1.1.1.1.symm)
  have hrevision := hstands.2.2
  rw [hsame, hrotated.1.2] at hrevision
  rcases hsel.1.2 with hold | hnone
  · have hnext := Option.some.inj (hold.symm.trans hrevision)
    simp [LifecycleCommand.nextRevision] at hnext
  · rw [hnone] at hrevision
    cases hrevision

end Bound

/-! ## Revocations -/

/-- The revocation took effect. -/
structure Revoked (c : LifecycleCommand) (reasonCode : String) (supplierVersion : Nat)
    (event : SupplierEvent) (a b : MarketplaceDb) : Prop
    extends TookEffect c .approved (c.terminate .revoked reasonCode) a b where
  supplier : ∃ s ∈ a.rows .suppliers, s.standsAt c.supplierId c.tenantId supplierVersion = true
  suppliers : ∃ supply : SupplierRow → Bool, b.rows .suppliers = (a.rows .suppliers).map fun s =>
    if s.standsAt c.supplierId c.tenantId supplierVersion then
      { s with version := event.aggregateVersion, updatedAt := c.now, supplyEnabled := supply s }
    else s
  events : b.rows .marketplaceEvents = a.rows .marketplaceEvents ++ [EventRow.ofSupplierEvent event]
  isNew : ∀ old ∈ a.rows .marketplaceEvents,
    clashes (S := marketplaceSchema) .marketplaceEvents old (EventRow.ofSupplierEvent event) = false

/-- A revocation is lost or takes effect. -/
theorem revocationBatch_outcome {c : LifecycleCommand} {request : AuthorizationRow}
    {supplierVersion : Nat} {reasonCode : String} {event : SupplierEvent} {a b : MarketplaceDb}
    (hconsistent : Consistent a) (htenant : c.tenantId ≠ "platform")
    (hnew : c.claimRow.isHeld a = false) (happroved : request.status = .approved)
    (hvalid : ∀ r ∈ a.rows .authorizationRequests, r.requestId = c.requestId →
      r.isValidAfter c.now = true)
    (hevent : event.aggregateId = c.supplierId ∧ event.tenantId = c.tenantId)
    (hbindings : Bindings none a)
    (hmoved : c.ownRevokedIn a = true → ∀ s ∈ a.rows .suppliers,
      s.standsAt c.supplierId c.tenantId supplierVersion = false)
    (hrun : runBatch a (revocationBatch c request supplierVersion reasonCode event) = some b) :
    c.Lost a b ∨ Revoked c reasonCode supplierVersion event a b := by
  simp only [revocationBatch, runBatch_cons_eq_some, runBatch_nil, Option.some.injEq] at hrun
  obtain ⟨d₁, h₁, d₂, h₂, d₃, h₃, d₄, h₄, d₅, h₅, d₆, h₆, d₇, h₇, d₈, h₈, d₉, h₉, d₁₀, h₁₀, rfl⟩ :=
    hrun
  rcases claimed_or_lost c.claimRow c.commandRow htenant hnew h₁ h₂ with
    rfl | ⟨hguard, hclaims⟩
  · left
    have hlost : c.holdsClaim d₂ = false := hnew
    have hd₃ : d₃ = d₂ := Statement.update_eq_self h₃ fun r _ => by
      rw [hlost, Bool.and_false, Bool.false_and]
    subst hd₃
    have hd₄ : d₄ = d₃ := Statement.update_eq_self h₄ fun s hs => by
      cases hrevoked : c.ownRevokedIn d₃ with
      | false => rw [Bool.and_false]
      | true => rw [hmoved hrevoked s hs, Bool.false_and]
    subst hd₄
    have hd₅ : d₅ = d₄ := Statement.insert_nil h₅ (by rw [hlost, Bool.and_false]; rfl)
    subst hd₅
    have hd₆ : d₆ = d₅ := hbindings.failReserved_idle hconsistent h₆
    subst hd₆
    have hd₇ : d₇ = d₆ := hbindings.failQueued_idle h₇
    subst hd₇
    have hd₈ : d₈ = d₇ := hbindings.cancelLeased_idle h₈
    subst hd₈
    exact .of_last (fun t ht => Statement.apply_rows_of_ne h₉ ht) h₁₀
  · right
    obtain ⟨target, hmem, hsel⟩ := List.any_eq_true.mp hguard
    rw [happroved, Bool.and_eq_true] at hsel
    obtain ⟨htarget, hstands⟩ := hsel
    have hrequests₂ : d₂.rows .authorizationRequests = a.rows .authorizationRequests :=
      hclaims.rows_of_ne MarketplaceTable.noConfusion
    have hsuppliers₂ : d₂.rows .suppliers = a.rows .suppliers :=
      hclaims.rows_of_ne MarketplaceTable.noConfusion
    have hclaim : c.holdsClaim d₂ = true := hclaims.holdsClaim
    have hcommand : c.holdsCommand d₂ = true := hclaims.holdsCommand
    have htarget' := htarget
    simp only [LifecycleCommand.owns, Bool.and_eq_true, beq_iff_eq] at htarget'
    obtain ⟨⟨⟨⟨hid, hrtenant⟩, hrsupplier⟩, hstatus⟩, hrevision⟩ := htarget'
    obtain ⟨s₀, hs₀, hat⟩ := List.any_eq_true.mp hstands
    rw [hrsupplier, hrtenant] at hat
    have hsupplier : s₀.standsAt c.supplierId c.tenantId supplierVersion = true := hat
    have hany : (d₂.rows .suppliers).any
        (fun s => s.standsAt c.supplierId c.tenantId supplierVersion) = true := by
      rw [hsuppliers₂]
      exact List.any_eq_true.mpr ⟨s₀, hs₀, hsupplier⟩
    have hrequests₃ : d₃.rows .authorizationRequests =
        (a.rows .authorizationRequests).map fun r =>
          if r.requestId = c.requestId then c.terminate .revoked reasonCode r else r := by
      rw [Statement.update_rows h₃, hrequests₂]
      refine map_target hconsistent hmem htarget _ ?_ ?_
      · rw [hclaim, hcommand, hany]
        simp [LifecycleCommand.owns, hid, hrtenant, hrsupplier, hstatus, hrevision,
          hvalid target hmem hid]
      · intro r hr
        simp only [LifecycleCommand.owns, Bool.and_eq_true, beq_iff_eq] at hr
        exact hr.1.1.1.1.1.1.1.1
    have hrevoked₃ : ∃ r ∈ d₃.rows .authorizationRequests, c.owns r = true ∧
        r.status = .revoked ∧ r.authorizationRevision = c.nextRevision := by
      rw [hrequests₃]
      refine ⟨_, List.mem_map_of_mem hmem, ?_⟩
      rw [if_pos hid]
      simp [LifecycleCommand.owns, LifecycleCommand.terminate, AuthorizationRow.scrubbed,
        LifecycleCommand.nextRevision, hid, hrtenant, hrsupplier, hrevision]
    have hown₃ : c.ownRevokedIn d₃ = true := by
      obtain ⟨r, hr, howns, hrevoked, hnext⟩ := hrevoked₃
      refine List.any_eq_true.mpr ⟨r, hr, ?_⟩
      simp [howns, hrevoked, hnext]
    have hsuppliers₃ : d₃.rows .suppliers = a.rows .suppliers :=
      (Statement.apply_rows_of_ne h₃ MarketplaceTable.noConfusion).trans hsuppliers₂
    have hkeys₃ : d₃.rows .idempotencyKeys = d₂.rows .idempotencyKeys :=
      Statement.apply_rows_of_ne h₃ MarketplaceTable.noConfusion
    have hevents₃ : d₃.rows .marketplaceEvents = a.rows .marketplaceEvents :=
      (Statement.apply_rows_of_ne h₃ MarketplaceTable.noConfusion).trans
        (hclaims.rows_of_ne MarketplaceTable.noConfusion)
    -- the supplier row follows the request
    have hsuppliers₄ := Statement.update_rows h₄
    rw [hsuppliers₃] at hsuppliers₄
    have hframe₄ : ∀ t, t ≠ .suppliers → d₄.rows t = d₃.rows t :=
      fun t ht => Statement.apply_rows_of_ne h₄ ht
    have hrevoked₄ : c.revokedIn d₄ = true := by
      obtain ⟨r, hr, howns, hrevoked, hnext⟩ := hrevoked₃
      rw [← hframe₄ .authorizationRequests MarketplaceTable.noConfusion] at hr
      simp only [LifecycleCommand.owns, Bool.and_eq_true, beq_iff_eq] at howns
      refine List.any_eq_true.mpr ⟨r, hr, ?_⟩
      simp [howns, hrevoked, hnext]
    have hclaim₄ : c.holdsClaim d₄ = true :=
      (c.holdsClaim_congr ((hframe₄ .idempotencyKeys MarketplaceTable.noConfusion).trans
        hkeys₃)).trans hclaim
    have hstands₄ : (d₄.rows .suppliers).any (fun s =>
        s.standsAt event.aggregateId event.tenantId event.aggregateVersion) = true := by
      rw [hsuppliers₄, hevent.1, hevent.2]
      refine List.any_eq_true.mpr ⟨_, List.mem_map_of_mem hs₀, ?_⟩
      rw [hsupplier, hown₃]
      simp only [SupplierRow.standsAt, Bool.and_eq_true, beq_iff_eq] at hsupplier
      simp [SupplierRow.standsAt, hsupplier]
    have hguard₄ : (c.revokedIn d₄ && (d₄.rows .suppliers).any (fun s =>
        s.standsAt event.aggregateId event.tenantId event.aggregateVersion) &&
        c.holdsClaim d₄) = true := by
      rw [hrevoked₄, hstands₄, hclaim₄]
      rfl
    obtain ⟨hfresh, hd₅⟩ := Statement.insert_singleton h₅ (if_pos hguard₄)
    have hframe₅ : ∀ t, t ≠ .marketplaceEvents → d₅.rows t = d₄.rows t := by
      intro t ht
      rw [hd₅]
      exact Database.withRows_rows_ne _ _ ht
    -- the rest of the batch writes jobs, tasks, heartbeats and the audit row
    have hframe₉ : ∀ t, t ≠ .inferenceJobs → t ≠ .artifactTasks → t ≠ .supplierArtifactWorkers →
        d₉.rows t = d₅.rows t := by
      intro t hjobs htasks hworkers
      calc
        d₉.rows t = d₈.rows t := Statement.apply_rows_of_ne h₉ hworkers
        _ = d₇.rows t := Statement.apply_rows_of_ne h₈ htasks
        _ = d₆.rows t := Statement.apply_rows_of_ne h₇ htasks
        _ = d₅.rows t := Statement.apply_rows_of_ne h₆ hjobs
    have hrequests₉ : d₉.rows .authorizationRequests = d₃.rows .authorizationRequests := by
      rw [hframe₉ _ MarketplaceTable.noConfusion MarketplaceTable.noConfusion
        MarketplaceTable.noConfusion, hframe₅ _ MarketplaceTable.noConfusion,
        hframe₄ _ MarketplaceTable.noConfusion]
    have hkeys₉ : d₉.rows .idempotencyKeys = d₂.rows .idempotencyKeys := by
      rw [hframe₉ _ MarketplaceTable.noConfusion MarketplaceTable.noConfusion
        MarketplaceTable.noConfusion, hframe₅ _ MarketplaceTable.noConfusion,
        hframe₄ _ MarketplaceTable.noConfusion, hkeys₃]
    have hevents₉ : d₉.rows .marketplaceEvents =
        a.rows .marketplaceEvents ++ [EventRow.ofSupplierEvent event] := by
      rw [hframe₉ _ MarketplaceTable.noConfusion MarketplaceTable.noConfusion
        MarketplaceTable.noConfusion, hd₅, Database.withRows_rows,
        hframe₄ _ MarketplaceTable.noConfusion, hevents₃]
    have hframe₁₀ : ∀ t, t ≠ .auditEvents → d₁₀.rows t = d₉.rows t :=
      fun t ht => Statement.apply_rows_of_ne h₁₀ ht
    refine
      { target := ⟨target, hmem, htarget⟩
        claims := ⟨d₂, hclaims, ?_⟩
        requests := ?_
        audited := lifecycleAudit_stored h₁₀ ?_
        supplier := ⟨s₀, hs₀, hsupplier⟩
        suppliers := ?_
        events := ?_
        isNew := ?_ }
    · rw [hframe₁₀ _ MarketplaceTable.noConfusion, hkeys₉]
    · rw [hframe₁₀ _ MarketplaceTable.noConfusion, hrequests₉, hrequests₃]
    · simp only [LifecycleCommand.mayAudit, Bool.and_eq_true]
      refine ⟨⟨?_, (c.holdsCommand_congr hkeys₉).trans hcommand⟩, ?_⟩
      · obtain ⟨r, hr, howns, hrevoked, hnext⟩ := hrevoked₃
        rw [← hrequests₉] at hr
        simp only [LifecycleCommand.owns, Bool.and_eq_true, beq_iff_eq] at howns
        refine List.any_eq_true.mpr ⟨r, hr, ?_⟩
        simp [howns, hrevoked, hnext]
      · rw [Option.all_some, hevents₉]
        refine List.any_eq_true.mpr ⟨EventRow.ofSupplierEvent event, by simp, ?_⟩
        simp [EventRow.ofSupplierEvent, hevent.2]
    · refine ⟨fun s => s.supplyEnabled && (d₃.rows .authorizationRequests).any fun other =>
        other.tenantId == s.tenantId && other.supplierId == s.supplierId &&
          other.status == .approved && other.isValidAfter c.now && other.hasCredential, ?_⟩
      rw [hframe₁₀ _ MarketplaceTable.noConfusion, hframe₉ _ MarketplaceTable.noConfusion
        MarketplaceTable.noConfusion MarketplaceTable.noConfusion,
        hframe₅ _ MarketplaceTable.noConfusion, hsuppliers₄]
      refine List.map_congr_left fun s _ => ?_
      rw [hown₃, Bool.and_true]
    · rw [hframe₁₀ _ MarketplaceTable.noConfusion, hevents₉]
    · rw [hframe₄ _ MarketplaceTable.noConfusion, hevents₃] at hfresh
      exact hfresh

/-! ## Credential rotations -/

/-- The columns a rotation writes. -/
def LifecycleCommand.rotate (c : LifecycleCommand) (encrypted : EncryptedCredential)
    (activeLookup : CredentialLookupDigest) (r : AuthorizationRow) : AuthorizationRow :=
  { r with
    encryptedGatewayToken := encrypted.ciphertext
    gatewayTokenIv := encrypted.iv
    credentialKeyId := encrypted.keyId
    gatewayTokenDigest := some activeLookup.digest
    gatewayTokenDigestVersion := activeLookup.version
    gatewayTokenLookupKeyId := activeLookup.keyId
    encryptionKeyVersion := encrypted.keyVersion
    authorizationRevision := r.authorizationRevision + 1
    credentialRotatedAt := some c.now
    updatedAt := c.now }

/-- A rotation is lost or takes effect. -/
theorem rotationBatch_outcome {c : LifecycleCommand} {generation encrypted : EncryptedCredential}
    {supplierVersion : Nat} {activeLookup : CredentialLookupDigest} {lookup : TokenLookup}
    {a b : MarketplaceDb} (hconsistent : Consistent a) (htenant : c.tenantId ≠ "platform")
    (hnew : c.claimRow.isHeld a = false) (hbindings : Bindings none a)
    (hrun : runBatch a
      (rotationBatch c generation encrypted supplierVersion activeLookup lookup) = some b) :
    c.Lost a b ∨
      TookEffect c .approved (c.rotate encrypted activeLookup) a b ∧
        c.tokenIsAvailable lookup a = true ∧
        ∀ t, t ≠ .idempotencyKeys → t ≠ .authorizationRequests → t ≠ .inferenceJobs →
          t ≠ .supplierArtifactWorkers → t ≠ .auditEvents → b.rows t = a.rows t := by
  simp only [rotationBatch, runBatch_cons_eq_some, runBatch_nil, Option.some.injEq] at hrun
  obtain ⟨d₁, h₁, d₂, h₂, d₃, h₃, d₄, h₄, d₅, h₅, d₆, h₆, rfl⟩ := hrun
  rcases claimed_or_lost c.claimRow c.commandRow htenant hnew h₁ h₂ with
    rfl | ⟨hguard, hclaims⟩
  · left
    have hlost : c.holdsClaim d₂ = false := hnew
    have hd₃ : d₃ = d₂ := Statement.update_eq_self h₃ fun r _ => by
      rw [hlost, Bool.and_false, Bool.false_and]
    subst hd₃
    have hd₄ : d₄ = d₃ := hbindings.failAfterRotation_idle hconsistent h₄
    subst hd₄
    exact .of_last (fun t ht => Statement.apply_rows_of_ne h₅ ht) h₆
  · right
    obtain ⟨target, hmem, hsel⟩ := List.any_eq_true.mp hguard
    simp only [Bool.and_eq_true] at hsel
    obtain ⟨⟨hrotates, -⟩, havailable⟩ := hsel
    have hrequests₂ : d₂.rows .authorizationRequests = a.rows .authorizationRequests :=
      hclaims.rows_of_ne MarketplaceTable.noConfusion
    have hclaim : c.holdsClaim d₂ = true := hclaims.holdsClaim
    have hcommand : c.holdsCommand d₂ = true := hclaims.holdsCommand
    have havailable₂ : c.tokenIsAvailable lookup d₂ = true := by
      rw [← havailable]
      simp only [LifecycleCommand.tokenIsAvailable, hrequests₂]
    have hrotates' := hrotates
    simp only [LifecycleCommand.rotates, Bool.and_eq_true, beq_iff_eq] at hrotates'
    have htarget : c.targets .approved target = true := by
      simp [LifecycleCommand.targets, hrotates']
    have hrequests₃ : d₃.rows .authorizationRequests =
        (a.rows .authorizationRequests).map fun r =>
          if r.requestId = c.requestId then c.rotate encrypted activeLookup r else r := by
      rw [Statement.update_rows h₃, hrequests₂]
      refine map_target hconsistent hmem htarget _ ?_ ?_
      · rw [hclaim, hcommand, havailable₂, hrotates]
        rfl
      · intro r hr
        simp only [LifecycleCommand.rotates, LifecycleCommand.owns, Bool.and_eq_true,
          beq_iff_eq] at hr
        exact hr.1.1.1.1.1.1.1.1.1
    have hframe₅ : ∀ t, t ≠ .inferenceJobs → t ≠ .supplierArtifactWorkers →
        d₅.rows t = d₃.rows t := fun t hjobs hworkers =>
      (Statement.apply_rows_of_ne h₅ hworkers).trans (Statement.apply_rows_of_ne h₄ hjobs)
    have hkeys₃ : d₃.rows .idempotencyKeys = d₂.rows .idempotencyKeys :=
      Statement.apply_rows_of_ne h₃ MarketplaceTable.noConfusion
    have hkeys₅ : d₅.rows .idempotencyKeys = d₂.rows .idempotencyKeys :=
      (hframe₅ _ MarketplaceTable.noConfusion MarketplaceTable.noConfusion).trans hkeys₃
    have hrequests₅ : d₅.rows .authorizationRequests = d₃.rows .authorizationRequests :=
      hframe₅ _ MarketplaceTable.noConfusion MarketplaceTable.noConfusion
    have hframe₆ : ∀ t, t ≠ .auditEvents → d₆.rows t = d₅.rows t :=
      fun t ht => Statement.apply_rows_of_ne h₆ ht
    refine ⟨?_, havailable, ?_⟩
    · refine
        { target := ⟨target, hmem, htarget⟩
          claims := ⟨d₂, hclaims, ?_⟩
          requests := ?_
          audited := lifecycleAudit_stored h₆ ?_ }
      · rw [hframe₆ _ MarketplaceTable.noConfusion, hkeys₅]
      · rw [hframe₆ _ MarketplaceTable.noConfusion, hrequests₅, hrequests₃]
      · simp only [LifecycleCommand.mayAudit, Bool.and_eq_true, Option.all_none, and_true]
        refine ⟨?_, (c.holdsCommand_congr hkeys₅).trans hcommand⟩
        rw [hrequests₅, hrequests₃]
        refine List.any_eq_true.mpr ⟨_, List.mem_map_of_mem hmem, ?_⟩
        simp only [LifecycleCommand.targets, LifecycleCommand.owns, Bool.and_eq_true,
          beq_iff_eq] at htarget
        rw [if_pos htarget.1.1.1.1]
        simp [LifecycleCommand.rotate, LifecycleCommand.nextRevision, htarget]
    · intro t hkeys hrequests hjobs hworkers haudit
      rw [hframe₆ t haudit, hframe₅ t hjobs hworkers,
        Statement.apply_rows_of_ne h₃ hrequests, hclaims.rows_of_ne hkeys]

end Server
end TokenStreaming
