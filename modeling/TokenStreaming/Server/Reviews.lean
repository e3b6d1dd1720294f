import TokenStreaming.Server.CommandClaims

/-!
# Control plane - Outcomes of reviews

What a rejection or an approval does to the database, all guards considered.  A
review whose claim is refused changes nothing.  A rejection whose claim is stored
takes effect; an approval additionally needs the supplier at the version its
events were computed from, and without it leaves a claim that no decision
follows.

Main results:

- Theorem {lit}`rejectionBatch_outcome`: a rejection is lost or takes effect.
- Theorem {lit}`approvalBatch_outcome`: an approval is lost, orphaned or takes effect.
-/

namespace TokenStreaming
namespace Server

open Relational Domain

/-! ## Targets -/

/-- The target of a review is the only request with its id. -/
theorem ReviewCommand.decides_iff {c : ReviewCommand} {db mid : MarketplaceDb}
    (hconsistent : Consistent db) {target : AuthorizationRow}
    (hmem : target ∈ db.rows .authorizationRequests) (htarget : c.targets target = true)
    (hclaim : c.holdsClaim mid = true) (hcommand : c.holdsCommand mid = true)
    {r : AuthorizationRow} (hr : r ∈ db.rows .authorizationRequests) :
    c.decides mid r = decide (r.requestId = c.requestId) := by
  simp only [ReviewCommand.targets, Bool.and_eq_true, beq_iff_eq] at htarget
  by_cases hid : r.requestId = c.requestId
  · have hsame : r = target :=
      request_unique hconsistent hr hmem (hid.trans htarget.1.1.1.symm)
    rw [decide_eq_true hid]
    simp [ReviewCommand.decides, hsame, htarget, hclaim, hcommand]
  · rw [decide_eq_false hid]
    simp [ReviewCommand.decides, hid]

/-- Guards on the claim read the keys only. -/
theorem ReviewCommand.holdsClaim_congr {c : ReviewCommand} {a b : MarketplaceDb}
    (h : b.rows .idempotencyKeys = a.rows .idempotencyKeys) : c.holdsClaim b = c.holdsClaim a := by
  simp only [ReviewCommand.holdsClaim, hasBinding, h]

/-- Without the claim nothing is decided. -/
theorem ReviewCommand.decides_of_lost {c : ReviewCommand} {db : MarketplaceDb}
    (hclaim : c.holdsClaim db = false) (r : AuthorizationRow) : c.decides db r = false := by
  simp [ReviewCommand.decides, hclaim]

/-! ## Rejections -/

/-- The rejection took effect. -/
structure Rejected (c : ReviewCommand) (note auditId : String) (a b : MarketplaceDb) : Prop where
  target : ∃ r ∈ a.rows .authorizationRequests, c.targets r = true
  claims : ∃ mid, Claims c.claimRow c.commandRow a mid ∧
    b.rows .idempotencyKeys = mid.rows .idempotencyKeys
  requests : b.rows .authorizationRequests = (a.rows .authorizationRequests).map fun r =>
    if r.requestId = c.requestId then (c.record .rejected note r).scrubbed else r
  audits : b.rows .auditEvents = a.rows .auditEvents ++ [c.auditRow .reject auditId]

/-- A rejection is lost or takes effect. -/
theorem rejectionBatch_outcome {c : ReviewCommand} {note auditUuid : String}
    {a b : MarketplaceDb} (hconsistent : Consistent a) (htenant : c.reviewerTenantId ≠ "platform")
    (hnew : c.claimRow.isHeld a = false)
    (hrun : runBatch a (rejectionBatch c note auditUuid) = some b) :
    b = a ∨ Rejected c note ("audit-" ++ auditUuid) a b := by
  simp only [rejectionBatch, runBatch_cons_eq_some, runBatch_nil, Option.some.injEq] at hrun
  obtain ⟨d₁, h₁, d₂, h₂, d₃, h₃, d₄, h₄, rfl⟩ := hrun
  rcases claimed_or_lost c.claimRow c.commandRow htenant hnew h₁ h₂ with
    rfl | ⟨htarget, hclaims⟩
  · left
    have hsame : d₃ = d₂ := Statement.update_eq_self h₃ fun r _ => c.decides_of_lost hnew r
    subst hsame
    exact Statement.insert_nil h₄ (by
      rw [if_neg]
      intro hguard
      rw [Bool.and_eq_true] at hguard
      exact Bool.false_ne_true (hnew.symm.trans hguard.2))
  · right
    obtain ⟨target, hmem, hsel⟩ := List.any_eq_true.mp htarget
    have hsel' := hsel
    simp only [ReviewCommand.targets, Bool.and_eq_true, beq_iff_eq] at hsel'
    have hrequests : d₃.rows .authorizationRequests = (a.rows .authorizationRequests).map fun r =>
        if r.requestId = c.requestId then (c.record .rejected note r).scrubbed else r := by
      rw [Statement.update_rows h₃, hclaims.rows_of_ne MarketplaceTable.noConfusion]
      refine List.map_congr_left fun r hr => ?_
      rw [c.decides_iff hconsistent hmem hsel hclaims.holdsClaim hclaims.holdsCommand hr]
      simp only [decide_eq_true_eq]
    have hkeys : d₃.rows .idempotencyKeys = d₂.rows .idempotencyKeys :=
      Statement.apply_rows_of_ne h₃ MarketplaceTable.noConfusion
    have hdecided : (d₃.rows .authorizationRequests).any (c.decided .rejected) = true := by
      rw [hrequests]
      refine List.any_eq_true.mpr ⟨_, List.mem_map_of_mem hmem, ?_⟩
      rw [if_pos hsel'.1.1.1]
      simp [ReviewCommand.decided, ReviewCommand.record, AuthorizationRow.scrubbed,
        hsel'.1.1.1]
    have hheld : c.holdsClaim d₃ = true := (c.holdsClaim_congr hkeys).trans hclaims.holdsClaim
    obtain ⟨-, hd₄⟩ := Statement.insert_singleton h₄ (if_pos (by
      rw [Bool.and_eq_true]
      exact ⟨hdecided, hheld⟩))
    have haudits : d₃.rows .auditEvents = a.rows .auditEvents :=
      (Statement.apply_rows_of_ne h₃ MarketplaceTable.noConfusion).trans
        (hclaims.rows_of_ne MarketplaceTable.noConfusion)
    refine ⟨⟨target, hmem, hsel⟩, ⟨d₂, hclaims, ?_⟩, ?_, ?_⟩
    · rw [hd₄, Database.withRows_rows_ne _ _ MarketplaceTable.noConfusion, hkeys]
    · rw [hd₄, Database.withRows_rows_ne _ _ MarketplaceTable.noConfusion, hrequests]
    · rw [hd₄, Database.withRows_rows, haudits]

/-! ## Approvals -/

/-- The supplier row an approval leaves behind. -/
def SupplierRow.activated (s : SupplierRow) (version now : Nat) : SupplierRow :=
  { s with status := .active, version := version, updatedAt := now }

/-- The approval took effect. -/
structure Approved (c : ReviewCommand) (note supplierId tenantId : String)
    (events : List SupplierEvent) (expected version : Nat) (auditId : String)
    (a b : MarketplaceDb) : Prop where
  target : ∃ r ∈ a.rows .authorizationRequests, c.targets r = true
  supplier : ∃ s ∈ a.rows .suppliers, s.standsAt supplierId tenantId expected = true
  claims : ∃ mid, Claims c.claimRow c.commandRow a mid ∧
    b.rows .idempotencyKeys = mid.rows .idempotencyKeys
  requests : b.rows .authorizationRequests = (a.rows .authorizationRequests).map fun r =>
    if r.requestId = c.requestId then c.record .approved note r else r
  suppliers : b.rows .suppliers = (a.rows .suppliers).map fun s =>
    if s.standsAt supplierId tenantId expected then s.activated version c.now else s
  events : b.rows .marketplaceEvents =
    a.rows .marketplaceEvents ++ events.map EventRow.ofSupplierEvent
  audits : b.rows .auditEvents = a.rows .auditEvents ++ [c.auditRow .approve auditId]

/-- Events of a review without a decision are not written. -/
theorem reviewEvents_skipped {c : ReviewCommand} {version : Nat} {events : List SupplierEvent}
    {a b : MarketplaceDb}
    (hnone : (a.rows .authorizationRequests).any (c.decided .approved) = false ∨
      c.holdsClaim a = false)
    (hrun : runBatch a (events.map fun event => guardedReviewEventInsert c event version) =
      some b) : b = a := by
  refine runBatch_induction (P := fun d => d = a) hrun rfl ?_
  intro s hs x y hx hy
  obtain ⟨event, -, rfl⟩ := List.mem_map.mp hs
  subst hx
  refine Statement.insert_nil hy ?_
  rw [if_neg]
  intro hguard
  simp only [Bool.and_eq_true] at hguard
  rcases hnone with hdecided | hclaim
  · exact Bool.false_ne_true (hdecided.symm.trans hguard.1.1)
  · exact Bool.false_ne_true (hclaim.symm.trans hguard.2)

/-- Events of a decided review are appended in order. -/
theorem reviewEvents_inserted {c : ReviewCommand} {version : Nat} {events : List SupplierEvent}
    {a b : MarketplaceDb}
    (hdecided : (a.rows .authorizationRequests).any (c.decided .approved) = true)
    (hclaim : c.holdsClaim a = true)
    (hactive : ∀ event ∈ events, (a.rows .suppliers).any (fun s =>
      s.standsAt event.aggregateId event.tenantId version && s.status == .active) = true)
    (hrun : runBatch a (events.map fun event => guardedReviewEventInsert c event version) =
      some b) :
    b = a.withRows .marketplaceEvents
      (a.rows .marketplaceEvents ++ events.map EventRow.ofSupplierEvent) := by
  induction events generalizing a with
  | nil =>
      have hsame : a = b := by simpa using hrun
      simp [← hsame]
  | cons event events ih =>
      rw [List.map_cons] at hrun
      obtain ⟨mid, hmid, hrest⟩ := runBatch_cons_eq_some.mp hrun
      have hguard : ((a.rows .authorizationRequests).any (c.decided .approved) &&
          (a.rows .suppliers).any (fun s =>
            s.standsAt event.aggregateId event.tenantId version && s.status == .active) &&
          c.holdsClaim a) = true := by
        rw [hdecided, hactive event (by simp), hclaim]
        rfl
      have hrequests : mid.rows .authorizationRequests = a.rows .authorizationRequests :=
        Statement.apply_rows_of_ne hmid MarketplaceTable.noConfusion
      have hsuppliers : mid.rows .suppliers = a.rows .suppliers :=
        Statement.apply_rows_of_ne hmid MarketplaceTable.noConfusion
      have hkeys : mid.rows .idempotencyKeys = a.rows .idempotencyKeys :=
        Statement.apply_rows_of_ne hmid MarketplaceTable.noConfusion
      have hlast := ih (by rw [hrequests]; exact hdecided)
        ((c.holdsClaim_congr hkeys).trans hclaim)
        (fun other hother => by
          rw [hsuppliers]
          exact hactive other (List.mem_cons_of_mem _ hother)) hrest
      rw [hlast, (Statement.insert_singleton hmid (if_pos hguard)).2, Database.withRows_rows,
        List.map_cons, List.append_assoc]
      simp [Database.withRows]

/-- How an approval may end. -/
inductive ApprovalOutcome (c : ReviewCommand) (note supplierId tenantId : String)
    (events : List SupplierEvent) (expected version : Nat) (auditId : String)
    (a b : MarketplaceDb) : Prop
  | lost (h : b = a)
  /-- The claim is stored, but the supplier has moved and nothing else happens. -/
  | orphaned (htarget : ∃ r ∈ a.rows .authorizationRequests, c.targets r = true)
      (hmoved : ∀ s ∈ a.rows .suppliers, s.standsAt supplierId tenantId expected = false)
      (hclaims : Claims c.claimRow c.commandRow a b)
  | approved (h : Approved c note supplierId tenantId events expected version auditId a b)

/-- An approval is lost, orphaned or takes effect. -/
theorem approvalBatch_outcome {c : ReviewCommand} {note supplierId tenantId : String}
    {lookup : TokenLookup} {events : List SupplierEvent} {expected version : Nat}
    {auditUuid : String} {a b : MarketplaceDb} (hconsistent : Consistent a)
    (htenant : c.reviewerTenantId ≠ "platform") (hnew : c.claimRow.isHeld a = false)
    (hevents : (∃ s ∈ a.rows .suppliers, s.standsAt supplierId tenantId expected = true) →
      ∀ event ∈ events, event.aggregateId = supplierId ∧ event.tenantId = tenantId)
    (hrun : runBatch a (approvalBatch c note supplierId tenantId lookup events expected version
      auditUuid) = some b) :
    ApprovalOutcome c note supplierId tenantId events expected version ("audit-" ++ auditUuid)
      a b := by
  simp only [approvalBatch, List.cons_append, List.nil_append,
    runBatch_cons_eq_some, runBatch_append_eq_some, runBatch_nil, Option.some.injEq] at hrun
  obtain ⟨d₁, h₁, d₂, h₂, d₃, h₃, d₄, h₄, d₅, h₅, d₆, h₆, rfl⟩ := hrun
  rcases claimed_or_lost c.claimRow c.commandRow htenant hnew h₁ h₂ with
    rfl | ⟨hguard, hclaims⟩
  · have hd₃ : d₃ = d₂ := Statement.update_eq_self h₃ fun r _ => by
      rw [c.decides_of_lost hnew r, Bool.false_and]
    subst hd₃
    have hlost : c.holdsClaim d₃ = false := hnew
    have hd₄ : d₄ = d₃ := Statement.update_eq_self h₄ fun s _ => by
      rw [hlost, Bool.and_false]
    subst hd₄
    have hd₅ : d₅ = d₄ := reviewEvents_skipped (Or.inr hlost) h₅
    subst hd₅
    refine .lost (Statement.insert_nil h₆ ?_)
    rw [hlost, Bool.and_false]
    rfl
  · rw [Bool.and_eq_true] at hguard
    obtain ⟨target, hmem, hsel⟩ := List.any_eq_true.mp hguard.1
    have hsel' := hsel
    simp only [ReviewCommand.targets, Bool.and_eq_true, beq_iff_eq] at hsel'
    have hrequests₂ : d₂.rows .authorizationRequests = a.rows .authorizationRequests :=
      hclaims.rows_of_ne MarketplaceTable.noConfusion
    have hsuppliers₂ : d₂.rows .suppliers = a.rows .suppliers :=
      hclaims.rows_of_ne MarketplaceTable.noConfusion
    have hselects : ∀ r ∈ a.rows .authorizationRequests,
        c.decides d₂ r = decide (r.requestId = c.requestId) := fun r hr =>
      c.decides_iff hconsistent hmem hsel hclaims.holdsClaim hclaims.holdsCommand hr
    have hkeys₃ : d₃.rows .idempotencyKeys = d₂.rows .idempotencyKeys :=
      Statement.apply_rows_of_ne h₃ MarketplaceTable.noConfusion
    have hsuppliers₃ : d₃.rows .suppliers = a.rows .suppliers :=
      (Statement.apply_rows_of_ne h₃ MarketplaceTable.noConfusion).trans hsuppliers₂
    by_cases hstands : ∃ s ∈ a.rows .suppliers, s.standsAt supplierId tenantId expected = true
    · have hany : (d₂.rows .suppliers).any
          (fun s => s.standsAt supplierId tenantId expected) = true := by
        rw [hsuppliers₂]
        exact List.any_eq_true.mpr hstands
      have hrequests₃ : d₃.rows .authorizationRequests =
          (a.rows .authorizationRequests).map fun r =>
            if r.requestId = c.requestId then c.record .approved note r else r := by
        rw [Statement.update_rows h₃, hrequests₂]
        refine List.map_congr_left fun r hr => ?_
        rw [hselects r hr, hany, Bool.and_true]
        simp only [decide_eq_true_eq]
      have hdecided₃ : (d₃.rows .authorizationRequests).any (c.decided .approved) = true := by
        rw [hrequests₃]
        refine List.any_eq_true.mpr ⟨_, List.mem_map_of_mem hmem, ?_⟩
        rw [if_pos hsel'.1.1.1]
        simp [ReviewCommand.decided, ReviewCommand.record, hsel'.1.1.1]
      have hheld₃ : c.holdsClaim d₃ = true := (c.holdsClaim_congr hkeys₃).trans hclaims.holdsClaim
      have hsuppliers₄ : d₄.rows .suppliers = (a.rows .suppliers).map fun s =>
          if s.standsAt supplierId tenantId expected then s.activated version c.now else s := by
        rw [Statement.update_rows h₄, hsuppliers₃]
        refine List.map_congr_left fun s _ => ?_
        rw [hdecided₃, hheld₃, Bool.and_true, Bool.and_true]
        rfl
      have hrequests₄ : d₄.rows .authorizationRequests = d₃.rows .authorizationRequests :=
        Statement.apply_rows_of_ne h₄ MarketplaceTable.noConfusion
      have hkeys₄ : d₄.rows .idempotencyKeys = d₃.rows .idempotencyKeys :=
        Statement.apply_rows_of_ne h₄ MarketplaceTable.noConfusion
      have hactive : ∀ event ∈ events, (d₄.rows .suppliers).any (fun s =>
          s.standsAt event.aggregateId event.tenantId version && s.status == .active) = true := by
        intro event hevent
        have hidentity := hevents hstands event hevent
        obtain ⟨s, hs, hat⟩ := hstands
        rw [hsuppliers₄]
        refine List.any_eq_true.mpr ⟨_, List.mem_map_of_mem hs, ?_⟩
        rw [if_pos hat, hidentity.1, hidentity.2]
        simp only [SupplierRow.standsAt, Bool.and_eq_true, beq_iff_eq] at hat
        simp [SupplierRow.standsAt, SupplierRow.activated, hat]
      have hdecided₄ : (d₄.rows .authorizationRequests).any (c.decided .approved) = true := by
        rw [hrequests₄]
        exact hdecided₃
      have hheld₄ : c.holdsClaim d₄ = true := (c.holdsClaim_congr hkeys₄).trans hheld₃
      have hd₅ := reviewEvents_inserted hdecided₄ hheld₄ hactive h₅
      have hframe₅ : ∀ t, t ≠ .marketplaceEvents → d₅.rows t = d₄.rows t := by
        intro t ht
        rw [hd₅]
        exact Database.withRows_rows_ne _ _ ht
      have hguard₅ : ((d₅.rows .authorizationRequests).any (c.decided .approved) &&
          c.holdsClaim d₅) = true := by
        rw [c.holdsClaim_congr (hframe₅ .idempotencyKeys MarketplaceTable.noConfusion), hheld₄,
          hframe₅ .authorizationRequests MarketplaceTable.noConfusion, hdecided₄]
        rfl
      have hd₆ := (Statement.insert_singleton h₆ (if_pos hguard₅)).2
      have hframe₆ : ∀ t, t ≠ .auditEvents → d₆.rows t = d₅.rows t := by
        intro t ht
        rw [hd₆]
        exact Database.withRows_rows_ne _ _ ht
      refine .approved
        { target := ⟨target, hmem, hsel⟩
          supplier := hstands
          claims := ⟨d₂, hclaims, ?_⟩
          requests := ?_
          suppliers := ?_
          events := ?_
          audits := ?_ }
      · rw [hframe₆ .idempotencyKeys MarketplaceTable.noConfusion,
          hframe₅ .idempotencyKeys MarketplaceTable.noConfusion, hkeys₄, hkeys₃]
      · rw [hframe₆ .authorizationRequests MarketplaceTable.noConfusion,
          hframe₅ .authorizationRequests MarketplaceTable.noConfusion, hrequests₄, hrequests₃]
      · rw [hframe₆ .suppliers MarketplaceTable.noConfusion,
          hframe₅ .suppliers MarketplaceTable.noConfusion, hsuppliers₄]
      · have hevents₄ : d₄.rows .marketplaceEvents = a.rows .marketplaceEvents :=
          ((Statement.apply_rows_of_ne h₄ MarketplaceTable.noConfusion).trans
            (Statement.apply_rows_of_ne h₃ MarketplaceTable.noConfusion)).trans
              (hclaims.rows_of_ne MarketplaceTable.noConfusion)
        rw [hframe₆ .marketplaceEvents MarketplaceTable.noConfusion, hd₅, Database.withRows_rows,
          hevents₄]
      · have haudits₄ : d₄.rows .auditEvents = a.rows .auditEvents :=
          ((Statement.apply_rows_of_ne h₄ MarketplaceTable.noConfusion).trans
            (Statement.apply_rows_of_ne h₃ MarketplaceTable.noConfusion)).trans
              (hclaims.rows_of_ne MarketplaceTable.noConfusion)
        rw [hd₆, Database.withRows_rows, hframe₅ .auditEvents MarketplaceTable.noConfusion,
          haudits₄]
    · -- the supplier moved: no row is approved, so every later guard fails
      have hmoved : ∀ s ∈ a.rows .suppliers, s.standsAt supplierId tenantId expected = false :=
        fun s hs => Bool.eq_false_iff.mpr fun hat => hstands ⟨s, hs, hat⟩
      have hany : (d₂.rows .suppliers).any
          (fun s => s.standsAt supplierId tenantId expected) = false := by
        rw [hsuppliers₂]
        exact List.any_eq_false.mpr fun s hs => by rw [hmoved s hs]; exact Bool.false_ne_true
      have hd₃ : d₃ = d₂ := Statement.update_eq_self h₃ fun r _ => by rw [hany, Bool.and_false]
      subst hd₃
      have hd₄ : d₄ = d₃ := Statement.update_eq_self h₄ fun s hs => by
        rw [hsuppliers₂] at hs
        rw [hmoved s hs, Bool.false_and, Bool.false_and]
      subst hd₄
      have hundecided : (d₄.rows .authorizationRequests).any (c.decided .approved) = false := by
        rw [hrequests₂]
        refine List.any_eq_false.mpr fun r hr hdecided => ?_
        simp only [ReviewCommand.decided, Bool.and_eq_true, beq_iff_eq] at hdecided
        have hsame : r = target :=
          request_unique hconsistent hr hmem (hdecided.1.1.trans hsel'.1.1.1.symm)
        rw [hsame, hsel'.1.2] at hdecided
        exact AuthorizationStatus.noConfusion hdecided.1.2
      have hd₅ : d₅ = d₄ := reviewEvents_skipped (Or.inl hundecided) h₅
      subst hd₅
      have hd₆ : d₆ = d₅ := Statement.insert_nil h₆ (by
        rw [show (d₅.rows .authorizationRequests).any (c.decided ReviewDecision.approve.status) =
          false from hundecided, Bool.false_and]
        rfl)
      subst hd₆
      exact .orphaned ⟨target, hmem, hsel⟩ hmoved hclaims

end Server
end TokenStreaming
