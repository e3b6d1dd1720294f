import TokenStreaming.Server.Reachability

/-!
# Control plane - Claims of reviews and lifecycle commands

Reviews and lifecycle commands open their batch with two inserts: one claims the
target under a fresh operation token, the other binds the command when the claim
is held.  No statement aborts the batch, so all later guards have to follow from
these two.

Main results:

- Theorem {lit}`claimed_or_lost`: the two inserts together store the claim with
  a bound command, or store nothing.
- Theorem {lit}`Reachable.claimsAreDrawn`: claims carry drawn operation tokens, so
  the claim of a new command is not stored yet.
-/

namespace TokenStreaming
namespace Server

open Relational Domain TransitionSystem

/-! ## Rows -/

/-- The columns of the unique index. -/
def IdempotencyRow.scope (k : IdempotencyRow) : String × String × String :=
  (k.tenantId, k.operation, k.idempotencyKey)

/-- The row's resource is bound to its scope. -/
def IdempotencyRow.isHeld (k : IdempotencyRow) (db : MarketplaceDb) : Bool :=
  hasBinding db k.tenantId k.operation k.idempotencyKey k.resourceId

/-- Another resource is bound to the row's scope. -/
def IdempotencyRow.isBoundElsewhere (k : IdempotencyRow) (db : MarketplaceDb) : Bool :=
  boundElsewhere db k.tenantId k.operation k.idempotencyKey k.resourceId

/-- The row that binds a review command. -/
def ReviewCommand.commandRow (c : ReviewCommand) : IdempotencyRow where
  tenantId := c.reviewerTenantId
  operation := "authorization.review"
  idempotencyKey := c.commandId
  resourceId := c.resourceBinding
  createdAt := c.now

/-- The row that binds a lifecycle command. -/
def LifecycleCommand.commandRow (c : LifecycleCommand) : IdempotencyRow where
  tenantId := c.tenantId
  operation := c.operation
  idempotencyKey := c.commandId
  resourceId := c.binding
  createdAt := c.now

theorem IdempotencyRow.isHeld_iff {k : IdempotencyRow} {db : MarketplaceDb} :
    k.isHeld db = true ↔
      ∃ old ∈ db.rows .idempotencyKeys, old.scope = k.scope ∧ old.resourceId = k.resourceId := by
  simp [IdempotencyRow.isHeld, hasBinding, IdempotencyRow.binds, IdempotencyRow.scope, and_assoc]

theorem IdempotencyRow.isBoundElsewhere_iff {k : IdempotencyRow} {db : MarketplaceDb} :
    k.isBoundElsewhere db = true ↔
      ∃ old ∈ db.rows .idempotencyKeys, old.scope = k.scope ∧ old.resourceId ≠ k.resourceId := by
  simp [IdempotencyRow.isBoundElsewhere, boundElsewhere, IdempotencyRow.scope, and_assoc]

theorem IdempotencyRow.clashes_eq_true {a b : IdempotencyRow} :
    clashes (S := marketplaceSchema) .idempotencyKeys a b = true ↔ a.scope = b.scope := by
  rw [Relational.clashes_eq_true]
  simp [marketplaceKeys, IdempotencyRow.scope]

/-- Rows of one scope are one row. -/
theorem key_unique {db : MarketplaceDb} (h : Consistent db) {a b : IdempotencyRow}
    (ha : a ∈ db.rows .idempotencyKeys) (hb : b ∈ db.rows .idempotencyKeys)
    (hscope : a.scope = b.scope) : a = b := by
  simp only [IdempotencyRow.scope, Prod.mk.injEq] at hscope
  exact (h .idempotencyKeys).eq_of_mem ha hb
    (k := .byScope a.tenantId a.operation a.idempotencyKey) (by simp [marketplaceKeys])
    (by simp [marketplaceKeys, hscope])

/-! ## The two inserts -/

/-- The claim is stored, and its command is bound to it or was bound before. -/
structure Claims (claim command : IdempotencyRow) (a b : MarketplaceDb) : Prop where
  unclaimed : ∀ k ∈ a.rows .idempotencyKeys, k.scope ≠ claim.scope
  stored : ∃ bound, b = a.withRows .idempotencyKeys (a.rows .idempotencyKeys ++ claim :: bound) ∧
    (bound = [command] ∨ bound = [] ∧ command.isHeld a = true)

section Claims

variable {claim command : IdempotencyRow} {a b : MarketplaceDb}

theorem Claims.holdsClaim (h : Claims claim command a b) : claim.isHeld b = true := by
  obtain ⟨bound, rfl, -⟩ := h.stored
  refine IdempotencyRow.isHeld_iff.mpr ⟨claim, ?_, rfl, rfl⟩
  rw [Database.withRows_rows]
  simp

theorem Claims.holdsCommand (h : Claims claim command a b) : command.isHeld b = true := by
  obtain ⟨bound, rfl, hbound⟩ := h.stored
  rw [IdempotencyRow.isHeld_iff, Database.withRows_rows]
  rcases hbound with rfl | ⟨rfl, hheld⟩
  · exact ⟨command, by simp, rfl, rfl⟩
  · obtain ⟨old, hold, hsame⟩ := IdempotencyRow.isHeld_iff.mp hheld
    exact ⟨old, List.mem_append_left _ hold, hsame⟩

/-- No other table changes. -/
theorem Claims.rows_of_ne (h : Claims claim command a b) {t : MarketplaceTable}
    (ht : t ≠ .idempotencyKeys) : b.rows t = a.rows t := by
  obtain ⟨bound, rfl, -⟩ := h.stored
  exact Database.withRows_rows_ne _ _ ht

/-- An insert of the claim that depends on a guard, and one of the command that depends on it. -/
theorem claimed_or_lost (claim command : IdempotencyRow) {guard : MarketplaceDb → Bool}
    {a mid b : MarketplaceDb}
    (htenant : command.tenantId ≠ claim.tenantId) (hnew : claim.isHeld a = false)
    (hclaim : (Statement.insertOrIgnore (S := marketplaceSchema) .idempotencyKeys fun db =>
      if guard db && !command.isBoundElsewhere db then [claim] else []).apply a = some mid)
    (hbind : (Statement.insertOrIgnore (S := marketplaceSchema) .idempotencyKeys fun db =>
      if claim.isHeld db then [command] else []).apply mid = some b) :
    b = a ∨ guard a = true ∧ Claims claim command a b := by
  rcases Statement.insertOrIgnore_cases hclaim rfl with rfl | ⟨hguard, hunclaimed, rfl⟩
  · -- the claim was refused, so its command is not bound either
    left
    exact Statement.insertOrIgnore_nil hbind (by rw [if_neg (by simp [hnew])])
  · right
    rw [Bool.and_eq_true, Bool.not_eq_true'] at hguard
    refine ⟨hguard.1, fun k hk hscope => ?_, ?_⟩
    · have hclash := IdempotencyRow.clashes_eq_true.mpr hscope.symm
      rw [hunclaimed k hk] at hclash
      cases hclash
    · have hheld : claim.isHeld
          (a.withRows .idempotencyKeys (a.rows .idempotencyKeys ++ [claim])) = true := by
        refine IdempotencyRow.isHeld_iff.mpr ⟨claim, ?_, rfl, rfl⟩
        rw [Database.withRows_rows]
        simp
      rcases Statement.insertOrIgnore_singleton hbind (if_pos hheld) with
        ⟨-, hb⟩ | ⟨⟨old, hold, hclash⟩, hb⟩
      · refine ⟨[command], ?_, Or.inl rfl⟩
        rw [hb, Database.withRows_rows, List.append_assoc]
        simp [Database.withRows]
      · -- the scope is taken by the same command
        refine ⟨[], hb, Or.inr ⟨rfl, ?_⟩⟩
        have hscope := IdempotencyRow.clashes_eq_true.mp hclash
        rw [Database.withRows_rows] at hold
        rcases List.mem_append.mp hold with hold | hold
        · refine IdempotencyRow.isHeld_iff.mpr ⟨old, hold, hscope.symm, ?_⟩
          by_contra hother
          have helse : command.isBoundElsewhere a = true :=
            IdempotencyRow.isBoundElsewhere_iff.mpr ⟨old, hold, hscope.symm, hother⟩
          rw [hguard.2] at helse
          cases helse
        · obtain rfl := List.mem_singleton.mp hold
          exact absurd (congrArg Prod.fst hscope) htenant

end Claims

/-! ## Operation tokens -/

/-- The texts operation tokens begin with. -/
def operationPrefixes : List String :=
  ["review-op-", "authorization-withdraw-op-", "authorization-revoke-op-",
    "authorization-rotate-op-"]

/-- An operation token determines its kind and the value drawn for it. -/
theorem operationToken_inj {p q a b : String} (hp : p ∈ operationPrefixes)
    (hq : q ∈ operationPrefixes) (h : p ++ a = q ++ b) : p = q ∧ a = b := by
  have hdistinct : ∀ p ∈ operationPrefixes, ∀ q ∈ operationPrefixes,
      p.toList <+: q.toList → p = q := by
    decide
  have hlists : p.toList ++ a.toList = q.toList ++ b.toList := by
    rw [← String.toList_append, ← String.toList_append, h]
  have hsame : p = q := by
    have hleft : p.toList <+: q.toList ++ b.toList := hlists ▸ List.prefix_append _ _
    rcases List.prefix_or_prefix_of_prefix hleft (List.prefix_append q.toList b.toList) with
      hpq | hqp
    · exact hdistinct p hp q hq hpq
    · exact (hdistinct q hq p hp hqp).symm
  subst hsame
  exact ⟨rfl, String.ext (List.append_cancel_left hlists)⟩

/-- The rows a call may add to the keys. -/
inductive NewKey (w : World) (call : Call) (k : IdempotencyRow) : Prop
  | tenant (h : k.tenantId ≠ "platform")
  | claim (p uuid : String) (hp : p ∈ operationPrefixes) (h : Draws w call uuid)
      (htoken : k.resourceId = p ++ uuid)

/-- A batch that opens with a claim and a bound command and writes no other keys. -/
theorem claim_keys_respect {w : World} {call : Call} {claim command : IdempotencyRow}
    {p uuid : String} {rest : Batch} (guard : MarketplaceDb → Bool) (hp : p ∈ operationPrefixes)
    (h : Draws w call uuid) (htoken : claim.resourceId = p ++ uuid)
    (htenant : command.tenantId ≠ "platform")
    (hrest : ∀ s ∈ rest, MarketplaceTable.idempotencyKeys ≠ s.table) :
    ∀ s ∈ (Statement.insertOrIgnore (S := marketplaceSchema) .idempotencyKeys fun db =>
          if guard db then [claim] else []) ::
        (Statement.insertOrIgnore (S := marketplaceSchema) .idempotencyKeys fun db =>
          if claim.isHeld db then [command] else []) :: rest,
      ∀ db, s.Respects db .idempotencyKeys (· = ·) (NewKey w call) := by
  intro s hs db
  rcases List.mem_cons.mp hs with rfl | hs
  · refine Statement.insertOrIgnore_respects (fun _ => rfl) fun k hk => ?_
    split at hk
    · rw [List.mem_singleton.mp hk]
      exact .claim p uuid hp h htoken
    · simp at hk
  · rcases List.mem_cons.mp hs with rfl | hs
    · refine Statement.insertOrIgnore_respects (fun _ => rfl) fun k hk => ?_
      split at hk
      · rw [List.mem_singleton.mp hk]
        exact .tenant htenant
      · simp at hk
    · exact Statement.respects_of_ne (fun _ => rfl) (hrest s hs)

/-- Routine keys belong to tenants. -/
theorem Routine.keys_respect {w : World} {call : Call} {s : MarketplaceStatement}
    (h : Routine w .idempotencyKeys s) (db : MarketplaceDb) :
    s.Respects db .idempotencyKeys (· = ·) (NewKey w call) := by
  cases h with
  | free _ hfree => simp [freeTables] at hfree
  | tenantKey values h =>
      exact Statement.insert_respects (fun _ => rfl) fun k hk => .tenant (h db k hk).1
  | tenantKeyOrIgnore values h =>
      exact Statement.insertOrIgnore_respects (fun _ => rfl) fun k hk => .tenant (h db k hk).1

/-- A command adds keys of tenants and claims with drawn tokens. -/
theorem Command.keys_respect {w : World} {call : Call} {batch : Batch}
    (h : Command w call batch) :
    ∀ s ∈ batch, ∀ db, s.Respects db .idempotencyKeys (· = ·) (NewKey w call) := by
  have hother : ∀ s : MarketplaceStatement, MarketplaceTable.idempotencyKeys ≠ s.table → ∀ db,
      s.Respects db .idempotencyKeys (· = ·) (NewKey w call) :=
    fun s hs db => Statement.respects_of_ne (fun _ => rfl) hs
  cases h with
  | routine h =>
      intro s hs db
      by_cases ht : MarketplaceTable.idempotencyKeys = s.table
      · have hroutine := h s hs
        rw [← ht] at hroutine
        exact hroutine.keys_respect db
      · exact hother s ht db
  | registration identity input supplierUuid eventUuid auditUuid now event _ _ =>
      simp only [registerSupplierBatch, List.forall_mem_cons, forall_mem_nil_iff, and_true]
      refine ⟨hother _ MarketplaceTable.noConfusion, hother _ MarketplaceTable.noConfusion,
        hother _ MarketplaceTable.noConfusion, fun db => ?_⟩
      refine Statement.insert_respects (fun _ => rfl) fun k hk => ?_
      rw [List.mem_singleton.mp hk]
      exact .tenant identity.tenantId_ne_platform
  | rejection identity requestId commandId note operationUuid auditUuid now hdraws =>
      refine claim_keys_respect _ (p := "review-op-") (by decide) hdraws rfl
        identity.tenantId_ne_platform ?_
      simp only [List.forall_mem_cons, forall_mem_nil_iff, and_true]
      exact ⟨MarketplaceTable.noConfusion, MarketplaceTable.noConfusion⟩
  | approval ages identity commandId reviewNote operationUuid auditUuid eventUuids request token
      events state hdraws _ =>
      simp only [approvalBatch, List.cons_append, List.nil_append]
      refine claim_keys_respect _ (p := "review-op-") (by decide) hdraws rfl
        identity.tenantId_ne_platform ?_
      simp only [List.forall_mem_append, List.forall_mem_cons, List.forall_mem_map,
        forall_mem_nil_iff, and_true]
      exact ⟨MarketplaceTable.noConfusion, MarketplaceTable.noConfusion,
        fun _ _ => MarketplaceTable.noConfusion, MarketplaceTable.noConfusion⟩
  | withdrawal identity supplier request commandId reasonCode operationUuid now h _ =>
      refine claim_keys_respect _ (p := "authorization-withdraw-op-") (by decide) h.operation rfl
        identity.tenantId_ne_platform ?_
      simp only [List.forall_mem_cons, forall_mem_nil_iff, and_true]
      exact ⟨MarketplaceTable.noConfusion, MarketplaceTable.noConfusion⟩
  | revocation identity supplier request commandId reasonCode operationUuid eventUuid now
      snap state event h _ _ _ _ _ _ =>
      refine claim_keys_respect _ (p := "authorization-revoke-op-") (by decide) h.operation rfl
        identity.tenantId_ne_platform ?_
      simp only [List.forall_mem_cons, forall_mem_nil_iff, and_true]
      exact ⟨MarketplaceTable.noConfusion, MarketplaceTable.noConfusion,
        MarketplaceTable.noConfusion, MarketplaceTable.noConfusion, MarketplaceTable.noConfusion,
        MarketplaceTable.noConfusion, MarketplaceTable.noConfusion, MarketplaceTable.noConfusion⟩
  | rotation identity supplier request commandId reasonCode operationUuid token iv now h _ _ _ =>
      refine claim_keys_respect _ (p := "authorization-rotate-op-") (by decide) h.operation rfl
        identity.tenantId_ne_platform ?_
      simp only [List.forall_mem_cons, forall_mem_nil_iff, and_true]
      exact ⟨MarketplaceTable.noConfusion, MarketplaceTable.noConfusion,
        MarketplaceTable.noConfusion, MarketplaceTable.noConfusion⟩
  | claim ages identity input leaseToken c candidate _ _ =>
      simp only [List.forall_mem_cons, forall_mem_nil_iff, and_true]
      exact hother _ MarketplaceTable.noConfusion
  | checkpoint ages identity input checkpointUuid c row _ _ _ =>
      simp only [checkpointBatch, List.forall_mem_cons, forall_mem_nil_iff, and_true]
      exact ⟨hother _ MarketplaceTable.noConfusion, hother _ MarketplaceTable.noConfusion⟩

/-- The same for every batch; completions write no keys. -/
theorem Sent.keys_respect {w : World} {call : Call} {batch : Batch} (h : Sent w call batch) :
    ∀ s ∈ batch, ∀ db, s.Respects db .idempotencyKeys (· = ·) (NewKey w call) := by
  have hother : ∀ s : MarketplaceStatement, MarketplaceTable.idempotencyKeys ≠ s.table → ∀ db,
      s.Respects db .idempotencyKeys (· = ·) (NewKey w call) :=
    fun s hs db => Statement.respects_of_ne (fun _ => rfl) hs
  cases h with
  | command h => exact h.keys_respect
  | inferenceCompletion ages index run result outputIv s uuids _ _ _ =>
      intro s hs
      refine hother s ?_
      simp only [completionBatch, List.mem_append, List.mem_cons, List.not_mem_nil, or_false] at hs
      rcases hs with (rfl | rfl | rfl | rfl | rfl | rfl) | hfee
      all_goals try exact MarketplaceTable.noConfusion
      split at hfee
      · simp at hfee
      · rw [List.mem_singleton.mp hfee]
        exact MarketplaceTable.noConfusion
  | artifactCompletion s uuids totalTokens price platformFeeBps _ _ _ _ _ _ =>
      intro s hs
      refine hother s ?_
      simp only [artifactCompletionBatch, List.mem_append, List.mem_cons, List.not_mem_nil,
        or_false] at hs
      rcases hs with (rfl | rfl | rfl | rfl | rfl | rfl | rfl) | hfee
      all_goals try exact MarketplaceTable.noConfusion
      split at hfee
      · simp at hfee
      · rw [List.mem_singleton.mp hfee]
        exact MarketplaceTable.noConfusion

/-- The keys a step adds. -/
theorem Stepped.keys {w w' : World} {call : Call} (h : Stepped w call w') :
    Evolves (· = ·) (NewKey w call) (w.db.rows .idempotencyKeys) (w'.db.rows .idempotencyKeys) := by
  cases h with
  | idle hdb _ =>
      rw [hdb]
      exact Evolves.refl (fun _ => rfl) _
  | clock instant _ hdb _ =>
      rw [hdb]
      exact Evolves.refl (fun _ => rfl) _
  | sent batch hsent hrun _ _ =>
      refine runBatch_induction
        (P := fun d : MarketplaceDb => Evolves (· = ·) (NewKey w call)
          (w.db.rows .idempotencyKeys) (d.rows .idempotencyKeys)) hrun (Evolves.refl (fun _ => rfl) _) ?_
      intro s hs a b ha hb
      refine Evolves.trans (fun _ _ _ h₁ h₂ => h₁.trans h₂) (fun _ _ h heq => heq ▸ h) ha ?_
      exact hsent.keys_respect s hs a b hb

/-- A step draws its values or does nothing. -/
theorem step_drawn (w : World) (call : Call) :
    (step w call).drawn = call.uuids ++ w.drawn ∨ step w call = w := by
  unfold step
  by_cases hfresh : w.isFresh call.uuids = true
  · rw [if_pos hfresh]
    left
    have happly : (w.apply call).drawn = w.drawn := by
      cases call with
      | setClock instant => rfl
      | deploy deployment =>
          simp only [World.apply]
          split <;> rfl
      | service ages request =>
          simp only [World.apply, World.perform]
          split
          · exact World.send_drawn _ _
          · rfl
      | reserveInference ages identity input idempotencyKey jobUuid =>
          simp only [World.apply, World.reserve]
          split
          · split
            · split <;> rfl
            · rfl
          · rfl
      | dispatchInference index =>
          simp only [World.apply, World.dispatch]
          split
          · exact World.send_drawn _ _
          · rfl
      | settleInference ages index result outputIv uuids =>
          simp only [World.apply, World.settle]
          split
          · split
            · exact World.send_drawn _ _
            · rfl
          · rfl
      | failInference ages index code =>
          simp only [World.apply, World.failInference]
          split
          · split
            · exact World.send_drawn _ _
            · rfl
          · rfl
      | authenticateAgent ages request =>
          simp only [World.apply, World.authenticate]
          split <;> rfl
      | advanceAgent index =>
          simp only [World.apply, World.advanceAgent]
          split
          · rfl
          · split <;> rfl
    simp [World.draw, happly]
  · rw [if_neg hfresh]
    exact Or.inr rfl

/-- Claims carry drawn operation tokens. -/
theorem Reachable.claimsAreDrawn {w : World} (h : Reachable w) :
    ∀ k ∈ w.db.rows .idempotencyKeys, k.tenantId = "platform" →
      ∃ p ∈ operationPrefixes, ∃ uuid ∈ w.drawn, k.resourceId = p ++ uuid := by
  refine h.induction
    (P := fun w => ∀ k ∈ w.db.rows .idempotencyKeys, k.tenantId = "platform" →
      ∃ p ∈ operationPrefixes, ∃ uuid ∈ w.drawn, k.resourceId = p ++ uuid) ?_ ?_
  · intro clock deployment k hk
    simp [World.start, MarketplaceDb.empty] at hk
  · intro w call hw ih k hk hplatform
    rcases step_drawn w call with hdrawn | hsame
    · rw [hdrawn]
      rcases (hw.stepped call).keys.of_mem_new hk with ⟨old, hold, rfl⟩ | hnew
      · obtain ⟨p, hp, uuid, huuid, htoken⟩ := ih old hold hplatform
        exact ⟨p, hp, uuid, List.mem_append_right _ huuid, htoken⟩
      · cases hnew with
        | tenant hne => exact absurd hplatform hne
        | claim p uuid hp hdraws htoken =>
            exact ⟨p, hp, uuid, List.mem_append_left _ hdraws.isDrawn, htoken⟩
    · rw [hsame] at hk ⊢
      exact ih k hk hplatform

/-- The claim of a new command is not stored yet. -/
theorem Reachable.claim_isNew {w : World} (h : Reachable w) {call : Call}
    {claim : IdempotencyRow} {p uuid : String} (hplatform : claim.tenantId = "platform")
    (hp : p ∈ operationPrefixes) (hdraws : Draws w call uuid)
    (htoken : claim.resourceId = p ++ uuid) : claim.isHeld w.db = false := by
  by_contra hheld
  rw [Bool.not_eq_false] at hheld
  obtain ⟨old, hold, hscope, hresource⟩ := IdempotencyRow.isHeld_iff.mp hheld
  have htenant : old.tenantId = "platform" := (congrArg Prod.fst hscope).trans hplatform
  obtain ⟨q, hq, drawn, hdrawn, hold'⟩ := h.claimsAreDrawn old hold htenant
  have hsame := (operationToken_inj hq hp (hold'.symm.trans (hresource.trans htoken))).2
  exact hdraws.isNew (hsame ▸ hdrawn)

end Server
end TokenStreaming
