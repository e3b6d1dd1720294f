import TokenStreaming.Server.LifecyclePlans
import TokenStreaming.Server.Runs
import TokenStreaming.Server.Footprints

/-!
# Control plane - Revisions of authorization requests

Every lifecycle command claims the revision it leaves.  A request at revision
{lit}`n` was left {lit}`n - 1` times, and each time the claim of the revision names the
command that did it.

Main results:

- Theorem {lit}`Reachable.revisionStep`: a step leaves all revisions alone or is one departure.
- Theorem {lit}`Reachable.revisionLedger`: claims and revisions agree in every reachable state.
- Theorem {lit}`authorization_revision_left_once`: a revision is claimed if and only if it was
  left, by the transition the claim names; of two commands on one revision at most one
  reports success, and one whose claim was refused changes nothing.
-/

namespace TokenStreaming
namespace Server

open Relational Domain TransitionSystem

/-! ## Keys of revisions -/

/-- The scope of the claim of a revision. -/
def revisionScope (requestId : String) (revision : Nat) : String × String × String :=
  ("platform", "authorization.lifecycle-target", requestId ++ ":" ++ toString revision)

/-- The operations of lifecycle commands. -/
def lifecycleOperations : List String :=
  ["authorization.withdraw", "authorization.revoke", "authorization.rotate-credential"]

/-- The revision is claimed. -/
def IsClaimed (db : MarketplaceDb) (requestId : String) (revision : Nat) : Prop :=
  ∃ k ∈ db.rows .idempotencyKeys, k.scope = revisionScope requestId revision

/-- The row claims a revision. -/
def IdempotencyRow.IsRevisionClaim (k : IdempotencyRow) : Prop :=
  k.tenantId = "platform" ∧ k.operation = "authorization.lifecycle-target"

theorem LifecycleCommand.claimRow_scope (c : LifecycleCommand) :
    c.claimRow.scope = revisionScope c.requestId c.authorizationRevision :=
  rfl

theorem LifecycleKind.operation_mem (kind : LifecycleKind) :
    kind.operation ∈ lifecycleOperations := by
  cases kind <;> simp [operation, lifecycleOperations]

theorem lifecycleOperations_subset {operation : String} (h : operation ∈ lifecycleOperations) :
    operation ∈ authorizationOperations :=
  List.mem_cons_of_mem _ h

/-- Texts are equal in front of their first colon and behind it. -/
theorem append_colon_inj {a b x y : List Char} (ha : ':' ∉ a) (hb : ':' ∉ b)
    (h : a ++ ':' :: x = b ++ ':' :: y) : a = b ∧ x = y := by
  induction a generalizing b with
  | nil =>
      cases b with
      | nil => simpa using h
      | cons c b =>
          simp only [List.nil_append, List.cons_append, List.cons.injEq] at h
          exact absurd (h.1 ▸ List.mem_cons_self) hb
  | cons c a ih =>
      cases b with
      | nil =>
          simp only [List.nil_append, List.cons_append, List.cons.injEq] at h
          exact absurd (h.1 ▸ List.mem_cons_self) ha
      | cons d b =>
          simp only [List.cons_append, List.cons.injEq] at h
          have ha' : ':' ∉ a := fun hmem => ha (List.mem_cons_of_mem _ hmem)
          have hb' : ':' ∉ b := fun hmem => hb (List.mem_cons_of_mem _ hmem)
          rcases ih ha' hb' h.2 with ⟨rfl, hxy⟩
          exact ⟨by rw [h.1], hxy⟩

/-- A plain id can be read off a text that begins with it and a colon. -/
theorem plain_prefix_inj {a b x y : String} (ha : isPlain a = true) (hb : isPlain b = true)
    (h : a ++ ":" ++ x = b ++ ":" ++ y) : a = b ∧ x = y := by
  have hlists : a.toList ++ ':' :: x.toList = b.toList ++ ':' :: y.toList := by
    have htexts := congrArg String.toList h
    simpa [String.toList_append] using htexts
  simp only [isPlain, Bool.not_eq_true', List.contains_eq_mem, decide_eq_false_iff_not] at ha hb
  rcases append_colon_inj ha hb hlists with ⟨hid, hrest⟩
  exact ⟨String.ext hid, String.ext hrest⟩

/-- The scope of a claim determines the request and the revision. -/
theorem revisionScope_inj {a b : String} {m n : Nat} (ha : isPlain a = true)
    (hb : isPlain b = true) (h : revisionScope a m = revisionScope b n) : a = b ∧ m = n := by
  simp only [revisionScope, Prod.mk.injEq, true_and] at h
  rcases plain_prefix_inj ha hb h with ⟨hid, hrevision⟩
  exact ⟨hid, toString_inj hrevision⟩

theorem isPlain_append {a b : String} (ha : isPlain a = true) (hb : isPlain b = true) :
    isPlain (a ++ b) = true := by
  simp only [isPlain, Bool.not_eq_true', List.contains_eq_mem, decide_eq_false_iff_not,
    String.toList_append, List.mem_append, not_or] at ha hb ⊢
  exact ⟨ha, hb⟩

/-! ## Statements that leave the revisions alone -/

/-- The request keeps its id and its revision. -/
structure SameRevision (a b : AuthorizationRow) : Prop where
  requestId : b.requestId = a.requestId
  revision : b.authorizationRevision = a.authorizationRevision

/-- A request that was not left yet, under an id that no revision can be part of. -/
structure FirstRevision (r : AuthorizationRow) : Prop where
  revision : r.authorizationRevision = 1
  plain : isPlain r.requestId = true

/-- A key that neither claims a revision nor binds a lifecycle command. -/
structure IdempotencyRow.IsUnrelated (k : IdempotencyRow) : Prop where
  claim : ¬ k.IsRevisionClaim
  command : k.operation ∉ lifecycleOperations

/-- No request is left and no key of a lifecycle command is stored. -/
structure LeavesRevisions (a b : MarketplaceDb) : Prop where
  requests : Evolves SameRevision FirstRevision (a.rows .authorizationRequests)
    (b.rows .authorizationRequests)
  keys : Evolves (· = ·) IdempotencyRow.IsUnrelated (a.rows .idempotencyKeys)
    (b.rows .idempotencyKeys)

theorem SameRevision.refl (r : AuthorizationRow) : SameRevision r r :=
  ⟨rfl, rfl⟩

theorem SameRevision.trans {a b c : AuthorizationRow} (hab : SameRevision a b)
    (hbc : SameRevision b c) : SameRevision a c where
  requestId := hbc.requestId.trans hab.requestId
  revision := hbc.revision.trans hab.revision

theorem LeavesRevisions.of_rows {a b : MarketplaceDb}
    (hrequests : b.rows .authorizationRequests = a.rows .authorizationRequests)
    (hkeys : b.rows .idempotencyKeys = a.rows .idempotencyKeys) : LeavesRevisions a b where
  requests := by
    rw [hrequests]
    exact Evolves.refl SameRevision.refl _
  keys := by
    rw [hkeys]
    exact Evolves.refl (fun _ => rfl) _

theorem LeavesRevisions.trans {a b c : MarketplaceDb} (hab : LeavesRevisions a b)
    (hbc : LeavesRevisions b c) : LeavesRevisions a c where
  requests := by
    refine Evolves.trans ?_ ?_ hab.requests hbc.requests
    · intro x y z hxy hyz
      exact hxy.trans hyz
    · intro x y hnew hxy
      exact ⟨hxy.revision.trans hnew.revision, hxy.requestId ▸ hnew.plain⟩
  keys := by
    refine Evolves.trans ?_ ?_ hab.keys hbc.keys
    · intro x y z hxy hyz
      exact hxy.trans hyz
    · intro x y hnew hxy
      exact hxy ▸ hnew

/-- A statement that leaves the revisions alone. -/
def RevisionFree (s : MarketplaceStatement) : Prop :=
  ∀ a b, s.apply a = some b → LeavesRevisions a b

/-- A statement on another table. -/
theorem RevisionFree.of_table {s : MarketplaceStatement}
    (hrequests : MarketplaceTable.authorizationRequests ≠ s.table)
    (hkeys : MarketplaceTable.idempotencyKeys ≠ s.table) : RevisionFree s :=
  fun _ _ hs => .of_rows (Statement.apply_rows_of_ne hs hrequests)
    (Statement.apply_rows_of_ne hs hkeys)

/-- A statement on requests. -/
theorem RevisionFree.of_requests {s : MarketplaceStatement}
    (htable : s.table = .authorizationRequests)
    (h : ∀ db, s.Respects db .authorizationRequests SameRevision FirstRevision) :
    RevisionFree s := by
  intro a b hs
  refine { requests := h a b hs, keys := ?_ }
  rw [Statement.apply_rows_of_ne hs (by rw [htable]; exact MarketplaceTable.noConfusion)]
  exact Evolves.refl (fun _ => rfl) _

/-- A statement on keys. -/
theorem RevisionFree.of_keys {s : MarketplaceStatement} (htable : s.table = .idempotencyKeys)
    (h : ∀ db, s.Respects db .idempotencyKeys (· = ·) IdempotencyRow.IsUnrelated) :
    RevisionFree s := by
  intro a b hs
  refine { requests := ?_, keys := h a b hs }
  rw [Statement.apply_rows_of_ne hs (by rw [htable]; exact MarketplaceTable.noConfusion)]
  exact Evolves.refl SameRevision.refl _

theorem leavesRevisions_of_free {batch : Batch} {a b : MarketplaceDb}
    (h : ∀ s ∈ batch, RevisionFree s) (hrun : runBatch a batch = some b) : LeavesRevisions a b :=
  runBatch_induction (P := LeavesRevisions a) hrun (.of_rows rfl rfl)
    fun s hs _ _ ha happly => ha.trans (h s hs _ _ happly)

/-- Updates that keep id and revision. -/
theorem revisionFree_update {selects : MarketplaceDb → AuthorizationRow → Bool}
    {assign : MarketplaceDb → AuthorizationRow → AuthorizationRow}
    (h : ∀ db r, SameRevision r (assign db r)) :
    RevisionFree (.update .authorizationRequests selects assign) :=
  .of_requests rfl fun db => Statement.update_respects SameRevision.refl fun r _ _ => h db r

theorem IdempotencyRow.isUnrelated_of_tenant {k : IdempotencyRow} (htenant : k.tenantId ≠ "platform")
    (hoperation : k.operation ∉ authorizationOperations) : k.IsUnrelated where
  claim := fun h => htenant h.1
  command := fun h => hoperation (lifecycleOperations_subset h)

/-- Routine statements leave the revisions alone. -/
theorem Routine.revisionFree {w : World} {s : MarketplaceStatement} (h : Routine w s.table s) :
    RevisionFree s := by
  by_cases hrequests : s.table = .authorizationRequests
  · rw [hrequests] at h
    cases h with
    | free _ hfree => simp [freeTables] at hfree
    | submit row h =>
        refine .of_requests rfl fun db => Statement.insert_respects SameRevision.refl fun r hr => ?_
        rw [List.mem_singleton.mp hr]
        rcases h.isNew with ⟨uuid, -, hplain, hid⟩
        refine ⟨h.revision, ?_⟩
        rw [hid]
        exact isPlain_append (by decide) hplain
    | rewrap requestId generation encrypted now _ _ => exact revisionFree_update fun _ _ => ⟨rfl, rfl⟩
    | expirePending now cutoff => exact revisionFree_update fun _ _ => ⟨rfl, rfl⟩
    | scrubExpired now _ => exact revisionFree_update fun _ _ => ⟨rfl, rfl⟩
    | scrubTerminated now => exact revisionFree_update fun _ _ => ⟨rfl, rfl⟩
    | migrateRow call _ stale _ => exact revisionFree_update fun _ _ => ⟨rfl, rfl⟩
    | migrateAll call _ => exact revisionFree_update fun _ _ => ⟨rfl, rfl⟩
  · by_cases hkeys : s.table = .idempotencyKeys
    · rw [hkeys] at h
      cases h with
      | free _ hfree => simp [freeTables] at hfree
      | tenantKey values h =>
          refine .of_keys rfl fun db => Statement.insert_respects (fun _ => rfl) fun k hk => ?_
          exact IdempotencyRow.isUnrelated_of_tenant (h db k hk).1 (h db k hk).2
      | tenantKeyOrIgnore values h =>
          refine .of_keys rfl fun db =>
            Statement.insertOrIgnore_respects (fun _ => rfl) fun k hk => ?_
          exact IdempotencyRow.isUnrelated_of_tenant (h db k hk).1 (h db k hk).2
    · exact .of_table (Ne.symm hrequests) (Ne.symm hkeys)

/-- The rows a review adds to the keys. -/
theorem reviewKey_free {key : IdempotencyRow} {guard : MarketplaceDb → Bool}
    (h : key.operation = "authorization.review-target" ∨ key.operation = "authorization.review") :
    RevisionFree (.insertOrIgnore .idempotencyKeys fun db => if guard db then [key] else []) := by
  have hclaim : key.operation ≠ "authorization.lifecycle-target" := by
    rcases h with h | h <;> simp [h]
  have hcommand : key.operation ∉ lifecycleOperations := by
    rcases h with h | h <;> simp [h, lifecycleOperations]
  refine .of_keys rfl fun db => Statement.insertOrIgnore_respects (fun _ => rfl) fun k hk => ?_
  split at hk
  · rw [List.mem_singleton.mp hk]
    exact ⟨fun hclaims => hclaim hclaims.2, hcommand⟩
  · simp at hk

/-- A command leaves the revisions alone or is a lifecycle command. -/
theorem Command.revisionFree_or {w : World} {call : Call} {batch : Batch}
    (h : Command w call batch) :
    (∀ s ∈ batch, RevisionFree s) ∨ ∃ kind c, LifecycleRun w call kind c batch := by
  have hother : ∀ s : MarketplaceStatement, MarketplaceTable.authorizationRequests ≠ s.table →
      MarketplaceTable.idempotencyKeys ≠ s.table → RevisionFree s := fun s => .of_table
  cases h with
  | routine h => exact Or.inl fun s hs => (h s hs).revisionFree
  | registration identity input supplierUuid eventUuid auditUuid now event _ _ =>
      left
      simp only [registerSupplierBatch, List.forall_mem_cons, forall_mem_nil_iff, and_true]
      refine ⟨hother _ MarketplaceTable.noConfusion MarketplaceTable.noConfusion,
        hother _ MarketplaceTable.noConfusion MarketplaceTable.noConfusion,
        hother _ MarketplaceTable.noConfusion MarketplaceTable.noConfusion, ?_⟩
      refine .of_keys rfl fun db => Statement.insert_respects (fun _ => rfl) fun k hk => ?_
      rw [List.mem_singleton.mp hk]
      exact IdempotencyRow.isUnrelated_of_tenant identity.tenantId_ne_platform
        (by simp [authorizationOperations])
  | rejection identity requestId commandId note operationUuid auditUuid now _ =>
      left
      simp only [rejectionBatch, List.forall_mem_cons, forall_mem_nil_iff, and_true]
      refine ⟨reviewKey_free (.inl ?_), reviewKey_free (.inr ?_),
        revisionFree_update fun _ _ => ⟨rfl, rfl⟩,
        hother _ MarketplaceTable.noConfusion MarketplaceTable.noConfusion⟩ <;> rfl
  | approval ages identity commandId reviewNote operationUuid auditUuid eventUuids request token
      events state _ _ =>
      left
      simp only [approvalBatch, List.forall_mem_append, List.forall_mem_cons, List.forall_mem_map,
        forall_mem_nil_iff, and_true]
      refine ⟨⟨⟨reviewKey_free (.inl ?_), reviewKey_free (.inr ?_),
        revisionFree_update fun _ _ => ⟨rfl, rfl⟩,
        hother _ MarketplaceTable.noConfusion MarketplaceTable.noConfusion⟩,
        fun _ _ => hother _ MarketplaceTable.noConfusion MarketplaceTable.noConfusion⟩,
        hother _ MarketplaceTable.noConfusion MarketplaceTable.noConfusion⟩ <;> rfl
  | withdrawal identity supplier request commandId reasonCode operationUuid now h hpending =>
      exact Or.inr ⟨_, _, .withdrawal identity supplier request commandId reasonCode
        operationUuid now h hpending⟩
  | revocation identity supplier request commandId reasonCode operationUuid eventUuid now snap
      state event h hsnap happroved hstate hversion hevent hvalid =>
      exact Or.inr ⟨_, _, .revocation identity supplier request commandId reasonCode
        operationUuid eventUuid now snap state event h hsnap happroved hstate hversion hevent
        hvalid⟩
  | rotation identity supplier request commandId reasonCode operationUuid token iv now h _ _ _ =>
      exact Or.inr ⟨_, _, .rotation identity supplier request commandId reasonCode operationUuid
        token _ _ _ now h⟩
  | claim ages identity input leaseToken c candidate _ _ =>
      left
      simp only [List.forall_mem_cons, forall_mem_nil_iff, and_true]
      exact hother _ MarketplaceTable.noConfusion MarketplaceTable.noConfusion
  | checkpoint ages identity input checkpointUuid c row _ _ _ =>
      left
      simp only [checkpointBatch, List.forall_mem_cons, forall_mem_nil_iff, and_true]
      exact ⟨hother _ MarketplaceTable.noConfusion MarketplaceTable.noConfusion,
        hother _ MarketplaceTable.noConfusion MarketplaceTable.noConfusion⟩

/-- The same for every batch; completions touch neither table. -/
theorem Sent.revisionFree_or {w : World} {call : Call} {batch : Batch} (h : Sent w call batch) :
    (∀ s ∈ batch, RevisionFree s) ∨ ∃ kind c, LifecycleRun w call kind c batch := by
  cases h with
  | command h => exact h.revisionFree_or
  | inferenceCompletion ages index run result outputIv s uuids _ _ _ =>
      left
      simp only [completionBatch, List.forall_mem_append, List.forall_mem_cons,
        forall_mem_nil_iff, and_true]
      refine ⟨⟨.of_table ?_ ?_, .of_table ?_ ?_, .of_table ?_ ?_, .of_table ?_ ?_,
        .of_table ?_ ?_, .of_table ?_ ?_⟩, fun t ht => ?_⟩
      all_goals try exact MarketplaceTable.noConfusion
      split at ht
      · simp at ht
      · rw [List.mem_singleton.mp ht]
        exact .of_table MarketplaceTable.noConfusion MarketplaceTable.noConfusion
  | artifactCompletion s uuids totalTokens price platformFeeBps _ _ _ _ _ _ =>
      left
      simp only [artifactCompletionBatch, List.forall_mem_append, List.forall_mem_cons,
        forall_mem_nil_iff, and_true]
      refine ⟨⟨.of_table ?_ ?_, .of_table ?_ ?_, .of_table ?_ ?_, .of_table ?_ ?_,
        .of_table ?_ ?_, .of_table ?_ ?_, .of_table ?_ ?_⟩, fun t ht => ?_⟩
      all_goals try exact MarketplaceTable.noConfusion
      split at ht
      · simp at ht
      · rw [List.mem_singleton.mp ht]
        exact .of_table MarketplaceTable.noConfusion MarketplaceTable.noConfusion

/-- What a sent batch does to the revisions. -/
theorem Sent.revisionStep {w : World} (hw : Reachable w) {call : Call} {batch : Batch}
    {db : MarketplaceDb} (h : Sent w call batch) (hrun : runBatch w.db batch = some db) :
    LeavesRevisions w.db db ∨ ∃ kind c, Departure w call kind c db := by
  rcases h.revisionFree_or with hfree | ⟨kind, c, hsent⟩
  · exact Or.inl (leavesRevisions_of_free hfree hrun)
  · rcases hsent.outcome hw hrun with hlost | hdeparture
    · left
      exact .of_rows (hlost.rows _ MarketplaceTable.noConfusion MarketplaceTable.noConfusion)
        (hlost.rows _ MarketplaceTable.noConfusion MarketplaceTable.noConfusion)
    · exact Or.inr ⟨kind, c, hdeparture⟩

/-- A step leaves all revisions alone or is one departure. -/
theorem Reachable.revisionStep {w : World} (hw : Reachable w) (call : Call) :
    LeavesRevisions w.db (Server.step w call).db ∨
      ∃ kind c, Departure w call kind c (Server.step w call).db := by
  cases hw.stepped call with
  | idle hdb _ =>
      left
      rw [hdb]
      exact .of_rows rfl rfl
  | clock instant _ hdb _ =>
      left
      rw [hdb]
      exact .of_rows rfl rfl
  | sent batch hsent hrun _ _ => exact hsent.revisionStep hw hrun

/-! ## The ledger of revisions -/

/-- A departure turns its target into the row of the next revision. -/
theorem Departure.target {w : World} {call : Call} {kind : LifecycleKind} {c : LifecycleCommand}
    {db : MarketplaceDb} (h : Departure w call kind c db) :
    ∃ r ∈ w.db.rows .authorizationRequests, ∃ r' ∈ db.rows .authorizationRequests,
      r.requestId = c.requestId ∧ r'.requestId = c.requestId ∧ r.status = kind.source ∧
        r'.status = kind.target ∧ r.authorizationRevision = c.authorizationRevision ∧
        r'.authorizationRevision = c.authorizationRevision + 1 := by
  obtain ⟨assign, heffect, hassign⟩ := h.effect
  obtain ⟨r, hr, htarget⟩ := heffect.target
  simp only [LifecycleCommand.targets, LifecycleCommand.owns, Bool.and_eq_true,
    beq_iff_eq] at htarget
  obtain ⟨⟨⟨⟨hid, -⟩, -⟩, hstatus⟩, hrevision⟩ := htarget
  obtain ⟨hid', hstatus', hrevision'⟩ := hassign r hstatus
  refine ⟨r, hr, assign r, ?_, hid, hid'.trans hid, hstatus, hstatus', hrevision, ?_⟩
  · rw [heffect.requests]
    refine List.mem_map.mpr ⟨r, hr, ?_⟩
    rw [if_pos hid]
  · rw [hrevision', hrevision]

/-- No other request changes. -/
theorem Departure.of_mem {w : World} {call : Call} {kind : LifecycleKind} {c : LifecycleCommand}
    {db : MarketplaceDb} (h : Departure w call kind c db) (hconsistent : Consistent w.db)
    {r' : AuthorizationRow} (hr' : r' ∈ db.rows .authorizationRequests) :
    ∃ r ∈ w.db.rows .authorizationRequests, r'.requestId = r.requestId ∧
      (r'.requestId ≠ c.requestId ∧ r' = r ∨
        r'.requestId = c.requestId ∧ r.authorizationRevision = c.authorizationRevision ∧
          r'.authorizationRevision = c.authorizationRevision + 1) := by
  obtain ⟨assign, heffect, hassign⟩ := h.effect
  obtain ⟨target, htarget, hsel⟩ := heffect.target
  have hsel' := hsel
  simp only [LifecycleCommand.targets, LifecycleCommand.owns, Bool.and_eq_true,
    beq_iff_eq] at hsel'
  rw [heffect.requests] at hr'
  obtain ⟨r, hr, rfl⟩ := List.mem_map.mp hr'
  by_cases hid : r.requestId = c.requestId
  · have hsame := c.eq_target hconsistent htarget hsel hr hid
    subst hsame
    obtain ⟨hid', -, hrevision'⟩ := hassign r hsel'.1.2
    rw [if_pos hid]
    refine ⟨r, hr, hid', Or.inr ⟨hid'.trans hid, hsel'.2, ?_⟩⟩
    rw [hrevision', hsel'.2]
  · rw [if_neg hid]
    exact ⟨r, hr, rfl, Or.inl ⟨hid, rfl⟩⟩

/-- The keys a departure adds: the claim, and the command unless it was bound before. -/
theorem Departure.keys {w : World} {call : Call} {kind : LifecycleKind} {c : LifecycleCommand}
    {db : MarketplaceDb} (h : Departure w call kind c db) :
    (∀ k ∈ w.db.rows .idempotencyKeys, k.scope ≠ c.claimRow.scope) ∧
      ∃ bound, db.rows .idempotencyKeys =
          w.db.rows .idempotencyKeys ++ c.claimRow :: bound ∧
        (bound = [c.commandRow] ∨ bound = []) := by
  obtain ⟨assign, heffect, -⟩ := h.effect
  obtain ⟨mid, hclaims, hkeys⟩ := heffect.claims
  refine ⟨hclaims.unclaimed, ?_⟩
  obtain ⟨bound, hmid, hbound⟩ := hclaims.stored
  refine ⟨bound, ?_, hbound.imp id And.left⟩
  rw [hkeys, hmid, Database.withRows_rows]

/-- What claims, revisions and audit rows say of each other. -/
structure RevisionLedger (db : MarketplaceDb) : Prop where
  plain : ∀ r ∈ db.rows .authorizationRequests, isPlain r.requestId = true
  started : ∀ r ∈ db.rows .authorizationRequests, 1 ≤ r.authorizationRevision
  claimed : ∀ r ∈ db.rows .authorizationRequests, ∀ revision, 1 ≤ revision →
    revision < r.authorizationRevision → IsClaimed db r.requestId revision
  named : ∀ k ∈ db.rows .idempotencyKeys, k.IsRevisionClaim →
    ∃ r ∈ db.rows .authorizationRequests, ∃ revision,
      k.scope = revisionScope r.requestId revision ∧ 1 ≤ revision ∧
        revision < r.authorizationRevision
  audited : ∀ k ∈ db.rows .idempotencyKeys, k.operation ∈ lifecycleOperations →
    ∃ row ∈ db.rows .auditEvents, row.auditId =
      "audit-authorization-lifecycle-" ++ k.tenantId ++ "-" ++ k.operation ++ "-" ++
        k.idempotencyKey

/-- A revision is claimed if and only if it was left. -/
theorem RevisionLedger.claimed_iff {db : MarketplaceDb} (h : RevisionLedger db)
    (hconsistent : Consistent db) {r : AuthorizationRow}
    (hr : r ∈ db.rows .authorizationRequests) (revision : Nat) :
    IsClaimed db r.requestId revision ↔ 1 ≤ revision ∧ revision < r.authorizationRevision := by
  constructor
  · rintro ⟨k, hk, hscope⟩
    have hclaims : k.IsRevisionClaim := by
      simp only [IdempotencyRow.scope, revisionScope, Prod.mk.injEq] at hscope
      exact ⟨hscope.1, hscope.2.1⟩
    obtain ⟨owner, howner, left, hleft, hone, hlt⟩ := h.named k hk hclaims
    have hinj := revisionScope_inj (h.plain r hr) (h.plain owner howner)
      (hscope.symm.trans hleft)
    have hsame : r = owner := request_unique hconsistent hr howner hinj.1
    rw [hsame, hinj.2]
    exact ⟨hone, hlt⟩
  · rintro ⟨hone, hlt⟩
    exact h.claimed r hr revision hone hlt

theorem IsClaimed.mono {a b : MarketplaceDb} (h : Follows a b) {requestId : String}
    {revision : Nat} (hclaimed : IsClaimed a requestId revision) :
    IsClaimed b requestId revision := by
  obtain ⟨k, hk, hscope⟩ := hclaimed
  exact ⟨k, h.mem (by decide) hk, hscope⟩

/-- The ledger survives steps that leave the revisions alone. -/
theorem RevisionLedger.of_leaves {a b : MarketplaceDb} (h : RevisionLedger a)
    (hleaves : LeavesRevisions a b) (hfollows : Follows a b) : RevisionLedger b := by
  refine { plain := ?_, started := ?_, claimed := ?_, named := ?_, audited := ?_ }
  · intro r hr
    rcases hleaves.requests.of_mem_new hr with ⟨old, hold, hsame⟩ | hnew
    · rw [hsame.requestId]
      exact h.plain old hold
    · exact hnew.plain
  · intro r hr
    rcases hleaves.requests.of_mem_new hr with ⟨old, hold, hsame⟩ | hnew
    · rw [hsame.revision]
      exact h.started old hold
    · exact hnew.revision.ge
  · intro r hr revision hone hlt
    rcases hleaves.requests.of_mem_new hr with ⟨old, hold, hsame⟩ | hnew
    · rw [hsame.requestId]
      rw [hsame.revision] at hlt
      exact (h.claimed old hold revision hone hlt).mono hfollows
    · have hfirst := hnew.revision
      omega
  · intro k hk hclaims
    rcases hleaves.keys.of_mem_new hk with ⟨old, hold, rfl⟩ | hnew
    · obtain ⟨owner, howner, revision, hscope, hone, hlt⟩ := h.named old hold hclaims
      obtain ⟨owner', howner', hsame⟩ := hleaves.requests.of_mem_old howner
      refine ⟨owner', howner', revision, ?_, hone, ?_⟩
      · rw [hsame.requestId]
        exact hscope
      · rw [hsame.revision]
        exact hlt
    · exact absurd hclaims hnew.claim
  · intro k hk hoperation
    rcases hleaves.keys.of_mem_new hk with ⟨old, hold, rfl⟩ | hnew
    · obtain ⟨row, hrow, hid⟩ := h.audited old hold hoperation
      exact ⟨row, hfollows.mem (by decide) hrow, hid⟩
    · exact absurd hoperation hnew.command

/-- A departure enters one revision and claims the one before it. -/
theorem RevisionLedger.of_departure {w : World} {call : Call} {kind : LifecycleKind}
    {c : LifecycleCommand} {b : MarketplaceDb} (h : RevisionLedger w.db)
    (hconsistent : Consistent w.db) (hdeparture : Departure w call kind c b)
    (hfollows : Follows w.db b) : RevisionLedger b := by
  obtain ⟨target, htarget, target', htarget', hid, hid', -, -, hrevision, hrevision'⟩ :=
    hdeparture.target
  obtain ⟨-, bound, hkeys, hbound⟩ := hdeparture.keys
  have hclaimed : IsClaimed b c.requestId c.authorizationRevision := by
    refine ⟨c.claimRow, ?_, c.claimRow_scope⟩
    rw [hkeys]
    simp
  -- a key of the new state is old, the claim or the command
  have hcases : ∀ k ∈ b.rows .idempotencyKeys, k ∈ w.db.rows .idempotencyKeys ∨
      k = c.claimRow ∨ k = c.commandRow := by
    intro k hk
    rw [hkeys] at hk
    rcases List.mem_append.mp hk with hold | hnew
    · exact Or.inl hold
    · rcases List.mem_cons.mp hnew with hclaim | hrest
      · exact Or.inr (Or.inl hclaim)
      · rcases hbound with rfl | rfl
        · exact Or.inr (Or.inr (List.mem_singleton.mp hrest))
        · simp at hrest
  refine { plain := ?_, started := ?_, claimed := ?_, named := ?_, audited := ?_ }
  · intro r hr
    obtain ⟨old, hold, hsame, -⟩ := hdeparture.of_mem hconsistent hr
    rw [hsame]
    exact h.plain old hold
  · intro r hr
    obtain ⟨old, hold, -, ⟨-, rfl⟩ | ⟨-, -, hnext⟩⟩ := hdeparture.of_mem hconsistent hr
    · exact h.started r hold
    · omega
  · intro r hr revision hone hlt
    obtain ⟨old, hold, hsame, ⟨-, rfl⟩ | ⟨hmoved, hfrom, hnext⟩⟩ :=
      hdeparture.of_mem hconsistent hr
    · exact (h.claimed r hold revision hone hlt).mono hfollows
    · by_cases hlast : revision = c.authorizationRevision
      · rw [hmoved, hlast]
        exact hclaimed
      · rw [hsame]
        exact (h.claimed old hold revision hone (by omega)).mono hfollows
  · intro k hk hclaims
    rcases hcases k hk with hold | rfl | rfl
    · obtain ⟨owner, howner, revision, hscope, hone, hlt⟩ := h.named k hold hclaims
      obtain ⟨owner', howner', hmove⟩ := hfollows.requests.of_mem_old howner
      have hsame : owner'.requestId = owner.requestId :=
        congrArg RequestTerms.requestId hmove.terms
      refine ⟨owner', howner', revision, ?_, hone, lt_of_lt_of_le hlt hmove.revision⟩
      rw [hsame]
      exact hscope
    · have hone := h.started target htarget
      refine ⟨target', htarget', c.authorizationRevision, ?_, by omega, by omega⟩
      rw [hid']
      exact c.claimRow_scope
    · exact absurd hclaims.1 hdeparture.tenant
  · intro k hk hoperation
    rcases hcases k hk with hold | rfl | rfl
    · obtain ⟨row, hrow, haudit⟩ := h.audited k hold hoperation
      exact ⟨row, hfollows.mem (by decide) hrow, haudit⟩
    · simp [LifecycleCommand.claimRow, lifecycleOperations] at hoperation
    · obtain ⟨assign, heffect, -⟩ := hdeparture.effect
      exact heffect.audited

/-- Claims and revisions agree in every state a request can have observed. -/
theorem Reachable.revisionLedger {w : World} (h : Reachable w) :
    ∀ snap ∈ w.snapshots, RevisionLedger snap := by
  refine h.snapshots (P := RevisionLedger) ?_ ?_ ?_
  · intro clock
    refine { plain := ?_, started := ?_, claimed := ?_, named := ?_, audited := ?_ } <;>
      simp [MarketplaceDb.empty]
  · intro db instant hdb
    exact hdb.of_leaves (.of_rows rfl rfl) (Follows.setClock db instant)
  · intro w call batch db hw hold hsent hrun _
    have hledger := hold w.db w.db_mem
    have hfollows := runBatch_follows hsent.issued hrun
    rcases hsent.revisionStep hw hrun with hleaves | ⟨kind, c, hdeparture⟩
    · exact hledger.of_leaves hleaves hfollows
    · exact hledger.of_departure hw.consistent hdeparture hfollows

/-! ## Commands that report success -/

/-- A request was read no later than its command was looked up, as the source awaits them. -/
def ReadsInOrder (w : World) (ages : List Nat) : Prop :=
  ages.getD 1 0 < w.snapshots.length ∧ ages.getD 2 0 ≤ ages.getD 1 0 ∧
    ages.getD 3 0 ≤ ages.getD 1 0

/--
A call of the run carried the plan out, and its last read, at a later position,
confirmed the transition.
-/
def ReportsSuccess (clock : Nat) (deployment : Deployment) (calls : List Call)
    (plan : LifecyclePlan) : Prop :=
  ∃ sent report ages request, sent < report ∧
    calls[sent]? = some (.service ages request) ∧
    (World.along clock deployment calls sent).isFresh request.uuids = true ∧
    request.lifecyclePlan (World.along clock deployment calls sent).deployment
      ((World.along clock deployment calls sent).reads ages) = .ok (some plan) ∧
    ReadsInOrder (World.along clock deployment calls sent) ages ∧
    plan.confirms (World.along clock deployment calls report).db = true

theorem ReadsInOrder.replayRead {w : World} {ages : List Nat} (h : ReadsInOrder w ages)
    (kind : LifecycleKind) : ages.getD kind.replayRead 0 ≤ ages.getD 1 0 := by
  cases kind with
  | withdraw => exact h.2.1
  | revoke => exact h.2.2
  | rotateCredential => exact h.2.1

/-- A request that reads the newest state reads in order. -/
theorem ReadsInOrder.newest (w : World) : ReadsInOrder w [] :=
  ⟨Nat.succ_pos w.past.length, le_rfl, le_rfl⟩

section Run

variable {clock : Nat} {deployment : Deployment} {calls : List Call}

/-- The call at the position bound the plan's command and left the plan's revision. -/
structure StoredAt (clock : Nat) (deployment : Deployment) (calls : List Call)
    (plan : LifecyclePlan) (n : Nat) : Prop where
  unbound : ∀ k ∈ (World.along clock deployment calls n).db.rows .idempotencyKeys,
    k.scope ≠ plan.command.commandRow.scope
  bound : ∃ k ∈ (World.along clock deployment calls (n + 1)).db.rows .idempotencyKeys,
    k.scope = plan.command.commandRow.scope
  tenant : plan.command.tenantId ≠ "platform"
  departure : ∃ call kind c,
    Departure (World.along clock deployment calls n) call kind c
        (World.along clock deployment calls (n + 1)).db ∧
      c.requestId = plan.command.requestId ∧
      c.authorizationRevision = plan.command.authorizationRevision ∧
      c.commandRow.scope = plan.command.commandRow.scope

/-- A key that a step adds in a tenant's name for a lifecycle command is a departure's. -/
theorem Reachable.stored_departure {w : World} (hw : Reachable w) {call : Call}
    {k : IdempotencyRow} (hk : k ∈ (Server.step w call).db.rows .idempotencyKeys)
    (hnew : k ∉ w.db.rows .idempotencyKeys) (htenant : k.tenantId ≠ "platform")
    (hoperation : k.operation ∈ lifecycleOperations) :
    ∃ kind c, Departure w call kind c (Server.step w call).db ∧ k = c.commandRow := by
  rcases hw.revisionStep call with hleaves | ⟨kind, c, hdeparture⟩
  · rcases hleaves.keys.of_mem_new hk with ⟨old, hold, rfl⟩ | hunrelated
    · exact absurd hold hnew
    · exact absurd hoperation hunrelated.command
  · refine ⟨kind, c, hdeparture, ?_⟩
    obtain ⟨-, bound, hkeys, hbound⟩ := hdeparture.keys
    rw [hkeys] at hk
    rcases List.mem_append.mp hk with hold | hadded
    · exact absurd hold hnew
    · rcases List.mem_cons.mp hadded with rfl | hrest
      · exact absurd rfl htenant
      · rcases hbound with rfl | rfl
        · exact List.mem_singleton.mp hrest
        · simp at hrest

/-- A confirmed command was bound at some call, which left the revision the command names. -/
theorem ReportsSuccess.stored {plan : LifecyclePlan}
    (h : ReportsSuccess clock deployment calls plan) :
    ∃ n, StoredAt clock deployment calls plan n := by
  obtain ⟨sent, report, ages, request, hlater, hcall, hfresh, hplan, horder, hconfirms⟩ := h
  have hsent : Reachable (World.along clock deployment calls sent) := World.along_reachable sent
  have hreport : Reachable (World.along clock deployment calls report) := World.along_reachable report
  have hmade := ServiceRequest.lifecyclePlan_made hplan hfresh
  have hconfirmed := hmade.confirmed _ hconfirms
  have hkind := hmade.run.hasKind
  obtain ⟨held, hheld, hscope, hresource⟩ := IdempotencyRow.isHeld_iff.mp
    (show plan.command.commandRow.isHeld _ = true from hconfirmed.command)
  -- the call that binds the command
  obtain ⟨n, call, hn, hat, hbefore, hafter⟩ := World.exists_change
    (P := fun w => ∃ k ∈ w.db.rows .idempotencyKeys, k.scope = plan.command.commandRow.scope)
    (by simp [World.start, MarketplaceDb.empty]) ⟨held, hheld, hscope⟩
  have hunbound : ∀ k ∈ (World.along clock deployment calls n).db.rows .idempotencyKeys,
      k.scope ≠ plan.command.commandRow.scope := fun k hk hsame => hbefore ⟨k, hk, hsame⟩
  obtain ⟨k, hk, hkscope⟩ := hafter
  have hnow : Reachable (World.along clock deployment calls n) := World.along_reachable n
  have hscopes := hkscope
  simp only [IdempotencyRow.scope, LifecycleCommand.commandRow, Prod.mk.injEq] at hscopes
  obtain ⟨htenant, hoperation, -⟩ := hscopes
  rw [World.along_succ hat] at hk
  obtain ⟨kind, c, hdeparture, rfl⟩ := hnow.stored_departure hk
    (fun hold => hunbound k hold hkscope)
    (htenant ▸ hkind.tenant) (by rw [hoperation, hkind.operation]; exact plan.kind.operation_mem)
  rw [← World.along_succ hat] at hdeparture hk
  -- it is bound to the same request
  have hlast : Follows (World.along clock deployment calls (n + 1)).db
      (World.along clock deployment calls report).db := World.along_follows hn
  have hbinding : c.binding = plan.command.binding := by
    have hsame := key_unique hreport.consistent (hlast.mem (by decide) hk) hheld
      (hkscope.trans hscope.symm)
    rw [← show held.resourceId = plan.command.binding from hresource, ← hsame]
    rfl
  obtain ⟨target, htarget, target', htarget', hid, hid', -, -, hrevision, hrevision'⟩ :=
    hdeparture.target
  obtain ⟨seen, hseen, hseenId, hseenRevision⟩ := hmade.request
  have hledgerNow := hnow.revisionLedger _ (World.db_mem _)
  have hledgerSeen := hsent.revisionLedger _ (World.reads_mem _ ages 1)
  have hrequest : c.requestId = plan.command.requestId := by
    obtain ⟨rest, hrest⟩ := hdeparture.binding
    obtain ⟨rest', hrest'⟩ := hkind.binding
    refine (plain_prefix_inj ?_ ?_ (hrest.symm.trans (hbinding.trans hrest'))).1
    · rw [← hid]
      exact hledgerNow.plain target htarget
    · rw [← hseenId]
      exact hledgerSeen.plain seen hseen
  -- the revision is not behind the one the report found
  have hupper : c.authorizationRevision ≤ plan.command.authorizationRevision := by
    obtain ⟨found, hfound, hfoundId, hfoundRevision⟩ := hconfirmed.request
    obtain ⟨later, hmem, hmove⟩ := hlast.requests.of_mem_old htarget'
    have hsame : later = found := by
      refine request_unique hreport.consistent hmem hfound ?_
      have hkept : later.requestId = target'.requestId :=
        congrArg RequestTerms.requestId hmove.terms
      rw [hkept, hfoundId]
      exact hid'.trans hrequest
    have hle := hmove.revision
    rw [hsame, hfoundRevision, hrevision', LifecycleCommand.nextRevision] at hle
    omega
  -- nor before the one the request was read at
  have hlower : ¬ c.authorizationRevision < plan.command.authorizationRevision := by
    intro hlt
    have hclaimed : IsClaimed ((World.along clock deployment calls sent).reads ages 1)
        c.requestId c.authorizationRevision := by
      rw [hrequest, ← hseenId]
      refine hledgerSeen.claimed seen hseen _ ?_ ?_
      · rw [← hrevision]
        exact hledgerNow.started target htarget
      · rw [hseenRevision]
        exact hlt
    have hlookup := hsent.reads_follow (horder.replayRead plan.kind) horder.1
    have hclaimedLookup := hclaimed.mono hlookup
    have hnotOlder : (World.along clock deployment calls sent).reads ages plan.kind.replayRead ∉
        (World.along clock deployment calls n).snapshots := by
      intro hmem
      obtain ⟨k', hk', hsame⟩ := hclaimedLookup.mono (hnow.sound.follows _ hmem)
      exact hdeparture.keys.1 k' hk' (hsame.trans c.claimRow_scope.symm)
    have hmemLookup := World.reads_mem (World.along clock deployment calls sent) ages
      plan.kind.replayRead
    have hfollows := World.follows_of_unobserved hmemLookup hnotOlder
    exact hmade.unbound c.commandRow (hfollows.mem (by decide) hk) hkscope
  exact ⟨n,
    { unbound := hunbound
      bound := ⟨_, hk, hkscope⟩
      tenant := hkind.tenant
      departure := ⟨call, kind, c, hdeparture, hrequest, by omega, hkscope⟩ }⟩

/-- Two commands on one revision were bound by one call. -/
theorem StoredAt.position_unique {first second : LifecyclePlan} {m n : Nat}
    (hfirst : StoredAt clock deployment calls first m)
    (hsecond : StoredAt clock deployment calls second n)
    (hrequest : first.command.requestId = second.command.requestId)
    (hrevision : first.command.authorizationRevision = second.command.authorizationRevision) :
    ¬ m < n := by
  intro hlt
  obtain ⟨_, _, c, hc, hcRequest, hcRevision, -⟩ := hfirst.departure
  obtain ⟨_, _, d, hd, hdRequest, hdRevision, -⟩ := hsecond.departure
  have hclaimed : IsClaimed (World.along clock deployment calls (m + 1)).db d.requestId
      d.authorizationRevision := by
    obtain ⟨-, bound, hkeys, -⟩ := hc.keys
    refine ⟨c.claimRow, ?_, ?_⟩
    · rw [hkeys]
      simp
    · rw [c.claimRow_scope, hcRequest, hcRevision, hrequest, hrevision, hdRequest, hdRevision]
  obtain ⟨k, hk, hscope⟩ := hclaimed.mono (World.along_follows (show m + 1 ≤ n from hlt))
  exact hd.keys.1 k hk (hscope.trans d.claimRow_scope.symm)

/-- Of two commands on one revision at most one reports success. -/
theorem ReportsSuccess.command_unique {first second : LifecyclePlan}
    (hfirst : ReportsSuccess clock deployment calls first)
    (hsecond : ReportsSuccess clock deployment calls second)
    (hrequest : first.command.requestId = second.command.requestId)
    (hrevision : first.command.authorizationRevision = second.command.authorizationRevision) :
    first.command.commandRow.scope = second.command.commandRow.scope := by
  obtain ⟨m, hm⟩ := hfirst.stored
  obtain ⟨n, hn⟩ := hsecond.stored
  have hsame : m = n := by
    have hle := hm.position_unique hn hrequest hrevision
    have hge := hn.position_unique hm hrequest.symm hrevision.symm
    omega
  subst hsame
  obtain ⟨k, hk, hscope⟩ := hm.bound
  obtain ⟨_, _, d, hd, -, -, hdScope⟩ := hn.departure
  -- the row of the first command is the one the departure of the second bound
  obtain ⟨-, bound, hkeys, hbound⟩ := hd.keys
  rw [hkeys] at hk
  rcases List.mem_append.mp hk with hold | hadded
  · exact absurd hscope (hm.unbound k hold)
  · rcases List.mem_cons.mp hadded with rfl | hrest
    · have htenant := congrArg Prod.fst hscope
      exact absurd htenant.symm hm.tenant
    · rcases hbound with rfl | rfl
      · rw [← hscope, List.mem_singleton.mp hrest]
        exact hdScope
      · simp at hrest

end Run

/-! ## Lost commands -/

/-- A command whose claim is not stored changes nothing but worker heartbeats. -/
theorem lost_command_frame {w : World} (hw : Reachable w) {ages : List Nat}
    {request : ServiceRequest} {plan : LifecyclePlan}
    (hplan : request.lifecyclePlan w.deployment (w.reads ages) = .ok (some plan))
    (hlost : plan.command.claimRow.isHeld (step w (.service ages request)).db = false)
    {t : MarketplaceTable} (ht : t ≠ .supplierArtifactWorkers) :
    (step w (.service ages request)).db.rows t = w.db.rows t := by
  rcases step_service w ages request with hsame | ⟨batch, hfresh, hbatch, hrun⟩
  · rw [hsame]
  · have hmade := ServiceRequest.lifecyclePlan_made hplan hfresh
    rw [ServiceRequest.batch_of_lifecyclePlan hplan] at hbatch
    cases hbatch
    rcases hmade.run.outcome hw hrun with hframe | hdeparture
    · by_cases haudit : t = .auditEvents
      · subst haudit
        refine hframe.audits fun hcommand => ?_
        obtain ⟨k, hk, hscope, -⟩ := IdempotencyRow.isHeld_iff.mp
          (show plan.command.commandRow.isHeld w.db = true from hcommand)
        simp only [IdempotencyRow.scope, LifecycleCommand.commandRow, Prod.mk.injEq] at hscope
        obtain ⟨htenant, hoperation, hid⟩ := hscope
        have hmember : k.operation ∈ lifecycleOperations := by
          rw [hoperation, hmade.run.hasKind.operation]
          exact plan.kind.operation_mem
        obtain ⟨row, hrow, haudit⟩ := (hw.revisionLedger w.db w.db_mem).audited k hk hmember
        refine ⟨row, hrow, ?_⟩
        rw [haudit, htenant, hoperation, hid]
        rfl
      · exact hframe.rows t ht haudit
    · obtain ⟨-, bound, hkeys, -⟩ := hdeparture.keys
      have hheld : plan.command.claimRow.isHeld (step w (.service ages request)).db = true := by
        refine IdempotencyRow.isHeld_iff.mpr ⟨plan.command.claimRow, ?_, rfl, rfl⟩
        rw [hkeys]
        simp
      rw [hlost] at hheld
      cases hheld

/-! ## The claim of a revision -/

/-- The step moves the request off the revision, by a transition of the kind. -/
def LeavesRevision (a b : MarketplaceDb) (kind : LifecycleKind) (requestId : String)
    (revision : Nat) : Prop :=
  ∃ r ∈ a.rows .authorizationRequests, ∃ r' ∈ b.rows .authorizationRequests,
    r.requestId = requestId ∧ r'.requestId = requestId ∧ r.status = kind.source ∧
      r'.status = kind.target ∧ r.authorizationRevision = revision ∧
      r'.authorizationRevision = revision + 1

section Run

variable {clock : Nat} {deployment : Deployment} {calls : List Call}

/-- A revision is left at one position only. -/
theorem LeavesRevision.position_unique {kind other : LifecycleKind} {requestId : String}
    {revision m n : Nat}
    (hm : LeavesRevision (World.along clock deployment calls m).db
      (World.along clock deployment calls (m + 1)).db kind requestId revision)
    (hn : LeavesRevision (World.along clock deployment calls n).db
      (World.along clock deployment calls (n + 1)).db other requestId revision) : ¬ m < n := by
  intro hlt
  obtain ⟨-, -, r, hr, -, hid, -, -, -, hrevision⟩ := hm
  obtain ⟨q, hq, -, -, hqid, -, -, -, hqrevision, -⟩ := hn
  have hfollows : Follows (World.along clock deployment calls (m + 1)).db
      (World.along clock deployment calls n).db := World.along_follows hlt
  obtain ⟨later, hlater, hmove⟩ := hfollows.requests.of_mem_old hr
  have hkept : later.requestId = r.requestId := congrArg RequestTerms.requestId hmove.terms
  have hsame : later = q := request_unique (World.along_reachable n).consistent hlater hq
    (hkept.trans (hid.trans hqid.symm))
  have hle := hmove.revision
  rw [hsame, hqrevision, hrevision] at hle
  omega

/-- The claim of a revision names the call that left it and its kind. -/
theorem claim_names_transition {n : Nat} {k : IdempotencyRow} {requestId : String}
    {revision : Nat} (hplain : isPlain requestId = true)
    (hk : k ∈ (World.along clock deployment calls n).db.rows .idempotencyKeys)
    (hscope : k.scope = revisionScope requestId revision) :
    ∃ m call kind uuid, m < n ∧ calls[m]? = some call ∧ uuid ∈ call.uuids ∧
      k.resourceId = kind.tokenPrefix ++ uuid ∧
      LeavesRevision (World.along clock deployment calls m).db
        (World.along clock deployment calls (m + 1)).db kind requestId revision := by
  obtain ⟨m, call, hm, hat, hbefore, hafter⟩ := World.exists_change
    (P := fun w => IsClaimed w.db requestId revision)
    (by simp [IsClaimed, World.start, MarketplaceDb.empty]) ⟨k, hk, hscope⟩
  have hnow : Reachable (World.along clock deployment calls m) := World.along_reachable m
  obtain ⟨stored, hstored, hsame⟩ := hafter
  have hkept : stored = k := by
    have hfollows : Follows (World.along clock deployment calls (m + 1)).db
        (World.along clock deployment calls n).db := World.along_follows hm
    exact key_unique (World.along_reachable n).consistent (hfollows.mem (by decide) hstored) hk
      (hsame.trans hscope.symm)
  subst hkept
  have hnew : stored ∉ (World.along clock deployment calls m).db.rows .idempotencyKeys :=
    fun hold => hbefore ⟨stored, hold, hscope⟩
  have hclaims : stored.IsRevisionClaim := by
    simp only [IdempotencyRow.scope, revisionScope, Prod.mk.injEq] at hscope
    exact ⟨hscope.1, hscope.2.1⟩
  have hstep := hnow.revisionStep call
  rw [← World.along_succ hat] at hstep
  rcases hstep with hleaves | ⟨kind, c, hdeparture⟩
  · rcases hleaves.keys.of_mem_new hstored with ⟨old, hold, rfl⟩ | hunrelated
    · exact absurd hold hnew
    · exact absurd hclaims hunrelated.claim
  · obtain ⟨-, bound, hkeys, hbound⟩ := hdeparture.keys
    have hclaim : stored = c.claimRow := by
      rw [hkeys] at hstored
      rcases List.mem_append.mp hstored with hold | hadded
      · exact absurd hold hnew
      · rcases List.mem_cons.mp hadded with heq | hrest
        · exact heq
        · rcases hbound with rfl | rfl
          · rw [List.mem_singleton.mp hrest] at hclaims
            exact absurd hclaims.1 hdeparture.tenant
          · simp at hrest
    obtain ⟨uuid, hdraws, htoken⟩ := hdeparture.token
    obtain ⟨r, hr, r', hr', hid, hid', hsource, htarget, hrevision, hrevision'⟩ :=
      hdeparture.target
    have hnamed : c.requestId = requestId ∧ c.authorizationRevision = revision := by
      refine revisionScope_inj ?_ hplain ?_
      · rw [← hid]
        exact (hnow.revisionLedger _ (World.db_mem _)).plain r hr
      · rw [← c.claimRow_scope, ← hclaim]
        exact hscope
    refine ⟨m, call, kind, uuid, hm, hat, hdraws.isDrawn, ?_, r, hr, r', hr', ?_⟩
    · rw [hclaim]
      exact htoken
    · rw [← hnamed.1, ← hnamed.2]
      exact ⟨hid, hid', hsource, htarget, hrevision, hrevision'⟩

end Run

/--
Each revision is left exactly once.  In every run, a revision of a request is
claimed if and only if the request has advanced past it; the claim names the one
call that took the request off the revision and the kind of its transition; two
commands that both report success from one revision are the same command; and a
command whose claim was refused leaves every table but the worker heartbeats as
it was.
-/
theorem authorization_revision_left_once (clock : Nat) (deployment : Deployment)
    (calls : List Call) :
    (∀ n, ∀ r ∈ (World.along clock deployment calls n).db.rows .authorizationRequests,
      ∀ revision,
        (IsClaimed (World.along clock deployment calls n).db r.requestId revision ↔
          1 ≤ revision ∧ revision < r.authorizationRevision) ∧
        ∀ k ∈ (World.along clock deployment calls n).db.rows .idempotencyKeys,
          k.scope = revisionScope r.requestId revision →
          ∃ m call kind uuid, m < n ∧ calls[m]? = some call ∧ uuid ∈ call.uuids ∧
            k.resourceId = kind.tokenPrefix ++ uuid ∧
            LeavesRevision (World.along clock deployment calls m).db
              (World.along clock deployment calls (m + 1)).db kind r.requestId revision ∧
            ∀ other otherKind,
              LeavesRevision (World.along clock deployment calls other).db
                (World.along clock deployment calls (other + 1)).db otherKind r.requestId
                revision → other = m) ∧
    (∀ first second, ReportsSuccess clock deployment calls first →
      ReportsSuccess clock deployment calls second →
      first.command.requestId = second.command.requestId →
      first.command.authorizationRevision = second.command.authorizationRevision →
      (first.command.tenantId, first.command.operation, first.command.commandId) =
        (second.command.tenantId, second.command.operation, second.command.commandId)) ∧
    ∀ n ages request plan,
      request.lifecyclePlan (World.along clock deployment calls n).deployment
        ((World.along clock deployment calls n).reads ages) = .ok (some plan) →
      plan.command.claimRow.isHeld
        (step (World.along clock deployment calls n) (.service ages request)).db = false →
      ∀ t, t ≠ .supplierArtifactWorkers →
        (step (World.along clock deployment calls n) (.service ages request)).db.rows t =
          (World.along clock deployment calls n).db.rows t := by
  refine ⟨fun n r hr revision => ⟨?_, fun k hk hscope => ?_⟩, ?_, ?_⟩
  · have hnow : Reachable (World.along clock deployment calls n) := World.along_reachable n
    exact (hnow.revisionLedger _ (World.db_mem _)).claimed_iff hnow.consistent hr revision
  · have hplain := ((World.along_reachable n).revisionLedger _ (World.db_mem _)).plain r hr
    obtain ⟨m, call, kind, uuid, hm, hat, hdrawn, htoken, hleaves⟩ :=
      claim_names_transition hplain hk hscope
    refine ⟨m, call, kind, uuid, hm, hat, hdrawn, htoken, hleaves, ?_⟩
    intro other otherKind hother
    have hle := hother.position_unique hleaves
    have hge := hleaves.position_unique hother
    omega
  · intro first second hfirst hsecond hrequest hrevision
    exact hfirst.command_unique hsecond hrequest hrevision
  · intro n ages request plan hplan hlost t ht
    exact lost_command_frame (World.along_reachable n) hplan hlost ht

/-- The sample supplier revokes its approved authorization. -/
def revokedCalls : List Call :=
  sampleCalls.take 3 ++
    [.service [] (.revokeAuthorization sampleSupplier "authorization-request-a1" "revoke-1"
      "SUPPLIER_REQUEST" "r2" "e9")]

def confirmedRevocation : ServiceRequest :=
  .revokeAuthorization sampleSupplier "authorization-request-a1" "revoke-1" "SUPPLIER_REQUEST"
    "r2" "e9"

theorem revokedCalls_three :
    World.along 1000 sampleDeployment revokedCalls 3 = approvedWorld := by
  have htake : revokedCalls.take 3 = sampleCalls.take 3 := rfl
  rw [World.along, stateAt, htake]
  exact sampleWorld_three

theorem revokedCalls_four :
    World.along 1000 sampleDeployment revokedCalls 4 =
      step approvedWorld (.service [] confirmedRevocation) := by
  rw [← revokedCalls_three]
  exact World.along_succ rfl

/-- The revocation, evaluated from the state after the approval. -/
theorem confirmedRevocation_confirmed :
    (∃ r ∈ (step approvedWorld (.service [] confirmedRevocation)).db.rows .authorizationRequests,
      1 < r.authorizationRevision) ∧
    (confirmedRevocation.lifecyclePlan approvedWorld.deployment
      (approvedWorld.reads [])).toOption.join.any fun plan =>
        plan.confirms (step approvedWorld (.service [] confirmedRevocation)).db := by
  decide +kernel

theorem confirmedRevocation_isFresh : approvedWorld.isFresh confirmedRevocation.uuids = true := by
  decide +kernel

/-- The revocation reports success, and its claim is the one of the first revision. -/
theorem authorization_revision_left_once_sample :
    (∃ plan, ReportsSuccess 1000 sampleDeployment revokedCalls plan) ∧
      ∃ r ∈ (World.along 1000 sampleDeployment revokedCalls 4).db.rows .authorizationRequests,
        IsClaimed (World.along 1000 sampleDeployment revokedCalls 4).db r.requestId 1 := by
  have hsent : revokedCalls[3]? = some (.service [] confirmedRevocation) := rfl
  constructor
  · have hplan := confirmedRevocation_confirmed.2
    rw [Option.any_eq_true] at hplan
    rcases hplan with ⟨plan, hsome, hconfirms⟩
    have hmade : confirmedRevocation.lifecyclePlan approvedWorld.deployment
        (approvedWorld.reads []) = .ok (some plan) := by
      cases hresult : confirmedRevocation.lifecyclePlan approvedWorld.deployment
          (approvedWorld.reads []) with
      | error e =>
          rw [hresult] at hsome
          cases hsome
      | ok plan? =>
          rw [hresult] at hsome
          cases plan? with
          | none => cases hsome
          | some made =>
              simp only [Except.toOption, Option.join_some, Option.some.injEq] at hsome
              rw [hsome]
    refine ⟨plan, 3, 4, [], confirmedRevocation, Nat.lt_succ_self 3, hsent, ?_⟩
    rw [revokedCalls_three, revokedCalls_four]
    exact ⟨confirmedRevocation_isFresh, hmade, ReadsInOrder.newest _, hconfirms⟩
  · have hleft := confirmedRevocation_confirmed.1
    rw [← revokedCalls_four] at hleft
    rcases hleft with ⟨r, hr, hlater⟩
    refine ⟨r, hr, ?_⟩
    have hclaimed := (authorization_revision_left_once 1000 sampleDeployment revokedCalls).1
    exact (hclaimed 4 r hr 1).1.mpr ⟨le_rfl, hlater⟩

end Server
end TokenStreaming
