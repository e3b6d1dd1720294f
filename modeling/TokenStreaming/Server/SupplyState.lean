import TokenStreaming.Server.LifecyclePlans
import TokenStreaming.Server.Runs
import TokenStreaming.Server.Footprints

/-!
# Control plane - The supply switch

What a call of {lit}`setSupplyState` returns and what it stores.  The batch
guards the flag by a live authorization and its two records by the flag that
results; a switch of a flag that is already on may therefore be refused and
leave its records behind.

Main results:

- Theorem {lit}`SupplyCommand.outcome`: the four ways a call that reaches its batch ends.
- Theorem {lit}`setSupplyState_atomic_iff`: when a call that throws stores nothing and one
  that switches supply on finds an unexpired authorization.
-/

namespace TokenStreaming
namespace Server

open Relational TransitionSystem

/-! ## Replies -/

/-- How a call of {lit}`setSupplyState` ends. -/
inductive SupplyReply where
  /-- The command was applied before; the dashboard is returned. -/
  | replayed
  /-- The batch set the flag; the dashboard is returned. -/
  | switched
  | refused (error : ApiError)
  /-- The database aborted the batch, and its error is thrown on. -/
  | aborted
deriving DecidableEq

/-- The call throws. -/
def SupplyReply.throws : SupplyReply → Bool
  | .replayed => false
  | .switched => false
  | .refused _ => true
  | .aborted => true

/-- A command of the supply switch. -/
structure SupplyCommand where
  identity : RequestIdentity
  commandId : String
  enabled : Bool
  auditUuid : String

def SupplyCommand.request (c : SupplyCommand) : ServiceRequest :=
  .setSupplyState c.identity c.commandId c.enabled c.auditUuid

def authorizationRequired : ApiError where
  code := "AUTHORIZATION_REQUIRED"
  message := "至少需要一条当前有效授权才能开启供应。"
  status := 409

/-- What {lit}`setSupplyState` makes of the change counts of its batch. -/
def SupplyCommand.reply (c : SupplyCommand) (w : World) (ages : List Nat) : SupplyReply :=
  match c.request.batch w.deployment (w.reads ages) with
  | .error e => .refused e
  | .ok [] => .replayed
  | .ok (s :: batch) =>
      match w.result (s :: batch) with
      | none => .aborted
      | some _ =>
          if (batchChanges w.db (s :: batch)).headD 0 = 1 then .switched
          else .refused authorizationRequired

/-! ## The batch -/

/-- The audit record of the command. -/
def SupplyCommand.auditRow (c : SupplyCommand) (supplierId : String) (now : Nat) : AuditEventRow :=
  Server.auditRow c.identity c.auditUuid
    (if c.enabled then "supply.enabled" else "supply.disabled") "supplier" supplierId now

/-- The idempotency record of the command. -/
def SupplyCommand.keyRow (c : SupplyCommand) (supplierId : String) (now : Nat) :
    IdempotencyRow where
  tenantId := c.identity.tenantId
  operation := "supply.set"
  idempotencyKey := c.commandId
  resourceId := supplierId
  createdAt := now

def SupplyCommand.batch (c : SupplyCommand) (supplierId : String) (now : Nat) : Batch :=
  supplyBatch c.identity supplierId c.commandId c.auditUuid c.enabled now

/-- The guard of the flag: supply may be set as the command asks. -/
def SupplyCommand.isAllowed (c : SupplyCommand) (db : MarketplaceDb) (supplierId : String)
    (now : Nat) : Bool :=
  !c.enabled || hasLiveAuthorization db c.identity.tenantId supplierId now

/-- The records of the command are stored nowhere yet. -/
structure SupplyCommand.Unrecorded (c : SupplyCommand) (db : MarketplaceDb) : Prop where
  unbound : readIdempotency db c.identity.tenantId "supply.set" c.commandId = none
  unaudited : ∀ a ∈ db.rows .auditEvents, a.auditId ≠ "audit-" ++ c.auditUuid

/-- The supplier rows after the first statement of the batch. -/
def SupplyCommand.suppliers (c : SupplyCommand) (db : MarketplaceDb) (supplierId : String)
    (now : Nat) : List SupplierRow :=
  (db.rows .suppliers).map fun s =>
    if s.supplierId == supplierId && s.tenantId == c.identity.tenantId &&
        c.isAllowed db supplierId now then
      { s with supplyEnabled := c.enabled, updatedAt := now }
    else s

section Batch

variable {c : SupplyCommand} {db : MarketplaceDb} {s : SupplierRow} {supplierId : String}
  {now : Nat}

/-- The first statement never aborts: it keeps every key. -/
theorem SupplyCommand.setSupplySql_apply (hdb : Consistent db) :
    (setSupplySql supplierId c.identity.tenantId c.enabled now).apply db =
      some (db.withRows .suppliers (c.suppliers db supplierId now)) := by
  refine Statement.update_apply (hdb .suppliers) fun r _ => ?_
  rfl

/-- A flag that may not be set stays as it is. -/
theorem SupplyCommand.suppliers_eq_self
    (hrefused : c.isAllowed db supplierId now = false) :
    c.suppliers db supplierId now = db.rows .suppliers := by
  simp [SupplyCommand.suppliers, hrefused]

/-- After the first statement the flag stands as asked when it was set or stood so before. -/
theorem SupplyCommand.supplyStandsAt_suppliers (hs : s ∈ db.rows .suppliers)
    (htenant : s.tenantId = c.identity.tenantId) (now : Nat) :
    supplyStandsAt (db.withRows .suppliers (c.suppliers db s.supplierId now)) s.supplierId
        c.identity.tenantId c.enabled =
      (c.isAllowed db s.supplierId now ||
        supplyStandsAt db s.supplierId c.identity.tenantId c.enabled) := by
  cases hallowed : c.isAllowed db s.supplierId now with
  | false =>
      rw [SupplyCommand.suppliers_eq_self hallowed, Bool.false_or]
      simp [supplyStandsAt]
  | true =>
      rw [Bool.true_or]
      simp only [supplyStandsAt, Database.withRows_rows, List.any_eq_true]
      refine ⟨{ s with supplyEnabled := c.enabled, updatedAt := now }, ?_, by simp [htenant]⟩
      refine List.mem_map.mpr ⟨s, hs, ?_⟩
      simp [htenant, hallowed]

/-- The count of the first statement tells whether the flag might be set. -/
theorem SupplyCommand.batchChanges_headD (hdb : Consistent db) (hs : s ∈ db.rows .suppliers)
    (htenant : s.tenantId = c.identity.tenantId) :
    (batchChanges db (c.batch s.supplierId now)).headD 0 =
      if c.isAllowed db s.supplierId now = true then 1 else 0 := by
  have hhead : (batchChanges db (c.batch s.supplierId now)).headD 0 =
      (db.rows .suppliers).countP fun r =>
        r.supplierId == s.supplierId && r.tenantId == c.identity.tenantId &&
          c.isAllowed db s.supplierId now := rfl
  rw [hhead]
  cases c.isAllowed db s.supplierId now with
  | false => simp
  | true =>
      have hle := (hdb .suppliers).countP_le_one (k := .primaryKey s.supplierId)
        (p := fun r => r.supplierId == s.supplierId && r.tenantId == c.identity.tenantId && true)
        fun r _ hr => by
          simp only [Bool.and_eq_true, beq_iff_eq] at hr
          simp [marketplaceKeys, hr.1.1]
      have hpos := List.countP_pos_iff.mpr
        (⟨s, hs, by simp [htenant]⟩ : ∃ r ∈ db.rows .suppliers, (fun r : SupplierRow =>
          r.supplierId == s.supplierId && r.tenantId == c.identity.tenantId && true) r = true)
      simp only [if_true]
      exact Nat.le_antisymm hle hpos

/-- What the batch stores when the flag comes to stand as asked. -/
def SupplyCommand.stored (c : SupplyCommand) (db : MarketplaceDb) (supplierId : String)
    (now : Nat) : MarketplaceDb :=
  ((db.withRows .suppliers (c.suppliers db supplierId now)).withRows .auditEvents
    (db.rows .auditEvents ++ [c.auditRow supplierId now])).withRows .idempotencyKeys
      (db.rows .idempotencyKeys ++ [c.keyRow supplierId now])

/-- An unrecorded command shares no key with a stored audit record. -/
theorem SupplyCommand.Unrecorded.audit (hnew : c.Unrecorded db)
    {old : AuditEventRow} (hold : old ∈ db.rows .auditEvents) :
    clashes (S := marketplaceSchema) .auditEvents old (c.auditRow supplierId now) = false := by
  have hid := hnew.unaudited old hold
  simpa [clashes, marketplaceSchema, marketplaceKeys, SupplyCommand.auditRow, Server.auditRow]
    using hid

/-- Nor with a stored idempotency record. -/
theorem SupplyCommand.Unrecorded.key (hnew : c.Unrecorded db)
    {old : IdempotencyRow} (hold : old ∈ db.rows .idempotencyKeys) :
    clashes (S := marketplaceSchema) .idempotencyKeys old (c.keyRow supplierId now) = false := by
  have hscope := readIdempotency_eq_none hnew.unbound hold
  simpa [clashes, marketplaceSchema, marketplaceKeys, SupplyCommand.keyRow,
    IdempotencyRow.scope] using hscope

/-- The statements of the batch one after another. -/
theorem SupplyCommand.batch_eq :
    c.batch supplierId now =
      [setSupplySql supplierId c.identity.tenantId c.enabled now,
        guardedSupplyAuditInsert (c.auditRow supplierId now) supplierId c.enabled,
        guardedSupplyIdempotencyInsert c.identity.tenantId c.commandId supplierId c.enabled
          now] :=
  rfl

/-- A switch that neither may set the flag nor finds it standing as asked stores nothing. -/
theorem SupplyCommand.runBatch_unmarked (hdb : Consistent db)
    (hrefused : c.isAllowed db s.supplierId now = false)
    (hflag : supplyStandsAt db s.supplierId c.identity.tenantId c.enabled = false) :
    runBatch db (c.batch s.supplierId now) = some db := by
  have hfirst : (setSupplySql s.supplierId c.identity.tenantId c.enabled now).apply db =
      some db := by
    rw [SupplyCommand.setSupplySql_apply hdb, SupplyCommand.suppliers_eq_self hrefused,
      Database.withRows_self]
  have hsecond : (guardedSupplyAuditInsert (c.auditRow s.supplierId now) s.supplierId
      c.enabled).apply db = some db :=
    Statement.insert_nil_apply (hdb .auditEvents)
      (if_neg (show ¬ supplyStandsAt db s.supplierId c.identity.tenantId c.enabled = true by
        simp [hflag]))
  have hthird : (guardedSupplyIdempotencyInsert c.identity.tenantId c.commandId s.supplierId
      c.enabled now).apply db = some db :=
    Statement.insert_nil_apply (hdb .idempotencyKeys) (if_neg (by simp [hflag]))
  rw [SupplyCommand.batch_eq, runBatch_cons, hfirst, Option.bind_some, runBatch_cons, hsecond,
    Option.bind_some, runBatch_cons, hthird, Option.bind_some, runBatch_nil]

/-- A switch under which the flag comes to stand as asked stores its records. -/
theorem SupplyCommand.runBatch_marked (hdb : Consistent db) (hs : s ∈ db.rows .suppliers)
    (htenant : s.tenantId = c.identity.tenantId)
    (hstands : (c.isAllowed db s.supplierId now ||
      supplyStandsAt db s.supplierId c.identity.tenantId c.enabled) = true)
    (hnew : c.Unrecorded db) :
    runBatch db (c.batch s.supplierId now) = some (c.stored db s.supplierId now) := by
  have hflag := (SupplyCommand.supplyStandsAt_suppliers hs htenant now).trans hstands
  have hsecond : (guardedSupplyAuditInsert (c.auditRow s.supplierId now) s.supplierId
      c.enabled).apply (db.withRows .suppliers (c.suppliers db s.supplierId now)) = _ :=
    Statement.insert_apply (hdb .auditEvents) (if_pos hflag) fun old hold => hnew.audit hold
  have hthird : (guardedSupplyIdempotencyInsert c.identity.tenantId c.commandId s.supplierId
      c.enabled now).apply ((db.withRows .suppliers
        (c.suppliers db s.supplierId now)).withRows .auditEvents
        (db.rows .auditEvents ++ [c.auditRow s.supplierId now])) = _ :=
    Statement.insert_apply (hdb .idempotencyKeys) (if_pos hflag) fun old hold => hnew.key hold
  rw [SupplyCommand.batch_eq, runBatch_cons, SupplyCommand.setSupplySql_apply hdb,
    Option.bind_some, runBatch_cons, hsecond, Option.bind_some, runBatch_cons]
  exact congrArg (fun r => Option.bind r fun db' => runBatch db' []) hthird

/-- A batch that stores the records finds none of them stored. -/
theorem SupplyCommand.unrecorded_of_runBatch {db' : MarketplaceDb}
    (hs : s ∈ db.rows .suppliers) (htenant : s.tenantId = c.identity.tenantId)
    (hstands : (c.isAllowed db s.supplierId now ||
      supplyStandsAt db s.supplierId c.identity.tenantId c.enabled) = true)
    (hrun : runBatch db (c.batch s.supplierId now) = some db') : c.Unrecorded db := by
  rw [SupplyCommand.batch_eq] at hrun
  obtain ⟨mid, hfirst, hrun⟩ := runBatch_cons_eq_some.mp hrun
  obtain ⟨last, hsecond, hrun⟩ := runBatch_cons_eq_some.mp hrun
  obtain ⟨done, hthird, -⟩ := runBatch_cons_eq_some.mp hrun
  have hflag : supplyStandsAt mid s.supplierId c.identity.tenantId c.enabled = true := by
    rw [Statement.update_eq_some hfirst]
    exact (SupplyCommand.supplyStandsAt_suppliers hs htenant now).trans hstands
  have hsuppliers : last.rows .suppliers = mid.rows .suppliers :=
    Statement.apply_rows_of_ne hsecond
      (show MarketplaceTable.suppliers ≠ .auditEvents by decide)
  have hkept : supplyStandsAt last s.supplierId c.identity.tenantId c.enabled = true := by
    rw [← hflag]
    simp only [supplyStandsAt, hsuppliers]
  constructor
  · have hkeys : last.rows .idempotencyKeys = db.rows .idempotencyKeys :=
      (Statement.apply_rows_of_ne hsecond
        (show MarketplaceTable.idempotencyKeys ≠ .auditEvents by decide)).trans
        (Statement.apply_rows_of_ne hfirst
          (show MarketplaceTable.idempotencyKeys ≠ .suppliers by decide))
    have hclash := (Statement.insert_singleton hthird (if_pos hkept)).1
    simp only [readIdempotency, Option.map_eq_none_iff, List.find?_eq_none]
    intro k hk hsame
    rw [← hkeys] at hk
    have hfree := hclash k hk
    simp only [Bool.and_eq_true, beq_iff_eq] at hsame
    simp [clashes, marketplaceSchema, marketplaceKeys, hsame] at hfree
  · have haudits : mid.rows .auditEvents = db.rows .auditEvents :=
      Statement.apply_rows_of_ne hfirst
        (show MarketplaceTable.auditEvents ≠ .suppliers by decide)
    have hclash := (Statement.insert_singleton hsecond (if_pos hflag)).1
    intro a ha hsame
    rw [← haudits] at ha
    have hfree := hclash a ha
    simp [clashes, marketplaceSchema, marketplaceKeys, hsame, SupplyCommand.auditRow,
      Server.auditRow] at hfree

end Batch

/-! ## Calls -/

/-- The tables a switch writes: the flag, the audit log and the idempotency records. -/
def supplyTables : List MarketplaceTable :=
  [.suppliers, .auditEvents, .idempotencyKeys]

/-- An approved authorization of the supplier has not expired. -/
def HasUnexpiredAuthorization (db : MarketplaceDb) (tenantId supplierId : String) (now : Nat) :
    Prop :=
  ∃ r ∈ db.rows .authorizationRequests,
    r.tenantId = tenantId ∧ r.supplierId = supplierId ∧ r.status = .approved ∧
      r.isValidAfter now = true

/-- A call is atomic on error, and where it switches supply on, it does so for a supplier
with an unexpired authorization. -/
structure SupplyCommand.IsAtomic (c : SupplyCommand) (w w' : World) (ages : List Nat) : Prop where
  unchanged : (c.reply w ages).throws = true → ∀ t ∈ supplyTables, w'.db.rows t = w.db.rows t
  live : c.reply w ages = .switched → c.enabled = true →
    ∃ supplier, requireSupplierRow (w.reads ages 1) c.identity = .ok supplier ∧
      HasUnexpiredAuthorization w.db c.identity.tenantId supplier.supplierId w.db.clock

/-- The command asks to switch supply on and can be recorded. -/
structure SupplyCommand.SwitchesOn (c : SupplyCommand) (w : World) (ages : List Nat)
    (supplier : SupplierRow) : Prop where
  enabled : c.enabled = true
  observed : requireSupplierRow (w.reads ages 1) c.identity = .ok supplier
  active : supplier.status = .active
  unrecorded : c.Unrecorded w.db

/-- Where the command finds a live authorization, one has not expired at the commit; where it
finds none, the flag is off. -/
structure SupplyCommand.FlagIsBacked (c : SupplyCommand) (w : World) (ages : List Nat) :
    Prop where
  backed : ∀ supplier, c.SwitchesOn w ages supplier →
    if hasLiveAuthorization w.db c.identity.tenantId supplier.supplierId
        (w.reads ages 2).clock = true then
      HasUnexpiredAuthorization w.db c.identity.tenantId supplier.supplierId w.db.clock
    else supplyStandsAt w.db supplier.supplierId c.identity.tenantId true = false

section Calls

variable {c : SupplyCommand} {w : World} {ages : List Nat}

/-- A command reaches its batch, is a replay or is refused before it. -/
theorem SupplyCommand.request_cases (c : SupplyCommand) (w : World) (ages : List Nat) :
    ((readIdempotency (w.reads ages 0) c.identity.tenantId "supply.set" c.commandId).isSome =
        true ∧ c.request.batch w.deployment (w.reads ages) = .ok []) ∨
      (∃ e, c.request.batch w.deployment (w.reads ages) = .error e ∧
        ∀ supplier, ¬ c.SwitchesOn w ages supplier) ∨
      ∃ supplier, requireSupplierRow (w.reads ages 1) c.identity = .ok supplier ∧
        (c.enabled = true → supplier.status = .active) ∧
        c.request.batch w.deployment (w.reads ages) =
          .ok (c.batch supplier.supplierId (w.reads ages 2).clock) := by
  have hbatch : c.request.batch w.deployment (w.reads ages) =
      setSupplyState (w.reads ages) c.identity c.commandId c.enabled c.auditUuid := rfl
  by_cases hreplay : (readIdempotency (w.reads ages 0) c.identity.tenantId "supply.set"
      c.commandId).isSome = true
  · left
    refine ⟨hreplay, ?_⟩
    rw [hbatch, setSupplyState, if_pos hreplay]
  · right
    rw [hbatch, setSupplyState, if_neg hreplay]
    cases hsupplier : requireSupplierRow (w.reads ages 1) c.identity with
    | error e =>
        left
        refine ⟨e, rfl, fun supplier h => ?_⟩
        have hfound := h.observed
        rw [hsupplier] at hfound
        cases hfound
    | ok supplier =>
        cases hinactive : c.enabled && supplier.status != .active with
        | true =>
            left
            simp only [Bool.and_eq_true, bne_iff_ne] at hinactive
            refine ⟨⟨"SUPPLIER_NOT_ACTIVE", "审核通过后才能开启供应。", 409, false⟩,
              by simp [demand, hinactive, Bind.bind, Except.bind], fun other h => ?_⟩
            have hfound := h.observed
            rw [hsupplier] at hfound
            cases hfound
            exact hinactive.2 h.active
        | false =>
            right
            refine ⟨supplier, rfl, fun henabled => ?_, ?_⟩
            · simpa [henabled] using hinactive
            · simp [demand, hinactive, Bind.bind, Except.bind, Pure.pure, Except.pure,
                SupplyCommand.batch]

/-- The batch of a switch writes no events. -/
theorem SupplyCommand.result_eq (hw : Reachable w) (supplierId : String) (now : Nat) :
    w.result (c.batch supplierId now) = runBatch w.db (c.batch supplierId now) := by
  cases hrun : runBatch w.db (c.batch supplierId now) with
  | none => simp [World.result, hrun]
  | some db =>
      refine World.result_eq_some.mpr ⟨hrun, ?_⟩
      have hevents : db.rows .marketplaceEvents = w.db.rows .marketplaceEvents := by
        refine runBatch_rows_of_ne hrun ?_
        simp only [SupplyCommand.batch_eq, List.forall_mem_cons, List.not_mem_nil,
          false_implies, implies_true, and_true]
        exact ⟨show MarketplaceTable.marketplaceEvents ≠ .suppliers by decide,
          show MarketplaceTable.marketplaceEvents ≠ .auditEvents by decide,
          show MarketplaceTable.marketplaceEvents ≠ .idempotencyKeys by decide⟩
      rw [hevents]
      exact hw.sound.bounded _ w.db_mem

/-- The supplier that a call observed is still stored under its id. -/
theorem SupplyCommand.supplier_stored (hw : Reachable w) {supplier : SupplierRow}
    (h : requireSupplierRow (w.reads ages 1) c.identity = .ok supplier) :
    ∃ s ∈ w.db.rows .suppliers, s.supplierId = supplier.supplierId ∧
      s.tenantId = c.identity.tenantId := by
  obtain ⟨hmem, htenant⟩ := requireSupplierRow_eq_ok h
  obtain ⟨s, hs, hmove⟩ :=
    (hw.sound.follows _ (w.reads_mem ages 1)).suppliers.of_mem_old hmem
  exact ⟨s, hs, hmove.supplierId, hmove.tenantId.trans htenant⟩

/-- A command that is stored nowhere was observed nowhere. -/
theorem SupplyCommand.Unrecorded.observed (hw : Reachable w) (h : c.Unrecorded w.db) (k : Nat) :
    readIdempotency (w.reads ages k) c.identity.tenantId "supply.set" c.commandId = none := by
  simp only [readIdempotency, Option.map_eq_none_iff, List.find?_eq_none]
  intro key hkey hsame
  have hstored := (hw.sound.follows _ (w.reads_mem ages k)).mem (t := .idempotencyKeys)
    (by decide) hkey
  simp only [Bool.and_eq_true, beq_iff_eq] at hsame
  refine readIdempotency_eq_none h.unbound hstored ?_
  simp [IdempotencyRow.scope, hsame]

section Sent

variable {s : SupplierRow} {now : Nat}

/-- An aborted batch. -/
theorem SupplyCommand.reply_of_abort
    (hbatch : c.request.batch w.deployment (w.reads ages) = .ok (c.batch s.supplierId now))
    (hresult : w.result (c.batch s.supplierId now) = none) : c.reply w ages = .aborted := by
  rw [SupplyCommand.batch_eq] at *
  simp only [SupplyCommand.reply, hbatch, hresult]

/-- A committed batch switches when the flag might be set. -/
theorem SupplyCommand.reply_of_commit (hdb : Consistent w.db) (hs : s ∈ w.db.rows .suppliers)
    (htenant : s.tenantId = c.identity.tenantId)
    (hbatch : c.request.batch w.deployment (w.reads ages) = .ok (c.batch s.supplierId now))
    {db : MarketplaceDb} (hresult : w.result (c.batch s.supplierId now) = some db) :
    c.reply w ages =
      if c.isAllowed w.db s.supplierId now = true then .switched
      else .refused authorizationRequired := by
  have hcount : (batchChanges w.db (c.batch s.supplierId now)).headD 0 =
      if c.isAllowed w.db s.supplierId now = true then 1 else 0 :=
    SupplyCommand.batchChanges_headD hdb hs htenant
  rw [SupplyCommand.batch_eq] at *
  simp only [SupplyCommand.reply, hbatch, hresult, hcount]
  split <;> simp

/-- Stored records are a change. -/
theorem SupplyCommand.stored_ne (db : MarketplaceDb) :
    (c.stored db s.supplierId now).rows .auditEvents ≠ db.rows .auditEvents := by
  have hrows : (c.stored db s.supplierId now).rows .auditEvents =
      db.rows .auditEvents ++ [c.auditRow s.supplierId now] := rfl
  rw [hrows]
  simp

end Sent

/-- How a call that reaches its batch ends. -/
inductive SupplyCommand.Outcome (c : SupplyCommand) (w w' : World) (ages : List Nat)
    (supplierId : String) (now : Nat) : Prop where
  /-- Nothing is stored, and the flag is off. -/
  | unmarked (refused : c.isAllowed w.db supplierId now = false)
      (flag : supplyStandsAt w.db supplierId c.identity.tenantId c.enabled = false)
      (reply : c.reply w ages = .refused authorizationRequired) (same : w'.db = w.db)
  | switched (allowed : c.isAllowed w.db supplierId now = true) (new : c.Unrecorded w.db)
      (reply : c.reply w ages = .switched) (stored : w'.db = c.stored w.db supplierId now)
  /-- The call is refused, and its records are stored all the same. -/
  | recorded (refused : c.isAllowed w.db supplierId now = false)
      (flag : supplyStandsAt w.db supplierId c.identity.tenantId c.enabled = true)
      (new : c.Unrecorded w.db) (reply : c.reply w ages = .refused authorizationRequired)
      (stored : w'.db = c.stored w.db supplierId now)
  | aborted (old : ¬ c.Unrecorded w.db) (reply : c.reply w ages = .aborted)
      (same : w'.db = w.db)

theorem SupplyCommand.outcome (hw : Reachable w) (hfresh : w.isFresh [c.auditUuid] = true)
    {s : SupplierRow} (hs : s ∈ w.db.rows .suppliers) (htenant : s.tenantId = c.identity.tenantId)
    {now : Nat}
    (hbatch : c.request.batch w.deployment (w.reads ages) = .ok (c.batch s.supplierId now)) :
    c.Outcome w (step w (.service ages c.request)) ages s.supplierId now := by
  have hdb : (step w (.service ages c.request)).db =
      (w.result (c.batch s.supplierId now)).getD w.db := step_service_ok hfresh hbatch
  rw [SupplyCommand.result_eq hw] at hdb
  cases hstands : c.isAllowed w.db s.supplierId now ||
      supplyStandsAt w.db s.supplierId c.identity.tenantId c.enabled with
  | false =>
      obtain ⟨hrefused, hflag⟩ := Bool.or_eq_false_iff.mp hstands
      have hrun := SupplyCommand.runBatch_unmarked hw.consistent hrefused hflag
      have hreply := SupplyCommand.reply_of_commit hw.consistent hs htenant hbatch
        ((SupplyCommand.result_eq hw _ _).trans hrun)
      rw [hrefused, if_neg Bool.false_ne_true] at hreply
      rw [hrun, Option.getD_some] at hdb
      exact .unmarked hrefused hflag hreply hdb
  | true =>
      by_cases hnew : c.Unrecorded w.db
      · have hrun := SupplyCommand.runBatch_marked hw.consistent hs htenant hstands hnew
        have hreply := SupplyCommand.reply_of_commit hw.consistent hs htenant hbatch
          ((SupplyCommand.result_eq hw _ _).trans hrun)
        rw [hrun, Option.getD_some] at hdb
        cases hallowed : c.isAllowed w.db s.supplierId now with
        | true =>
            rw [hallowed, if_pos rfl] at hreply
            exact .switched hallowed hnew hreply hdb
        | false =>
            rw [hallowed, if_neg Bool.false_ne_true] at hreply
            rw [hallowed, Bool.false_or] at hstands
            exact .recorded hallowed hstands hnew hreply hdb
      · have hrun : runBatch w.db (c.batch s.supplierId now) = none := by
          cases hrun : runBatch w.db (c.batch s.supplierId now) with
          | none => rfl
          | some db =>
              exact absurd (SupplyCommand.unrecorded_of_runBatch hs htenant hstands hrun) hnew
        have hreply := SupplyCommand.reply_of_abort hbatch
          ((SupplyCommand.result_eq hw _ _).trans hrun)
        rw [hrun, Option.getD_none] at hdb
        exact .aborted hnew hreply hdb

/-- A command may not set the flag only where it asks for supply that nothing backs. -/
theorem SupplyCommand.isAllowed_eq_false {db : MarketplaceDb} {supplierId : String} {now : Nat}
    (h : c.isAllowed db supplierId now = false) :
    c.enabled = true ∧ hasLiveAuthorization db c.identity.tenantId supplierId now = false := by
  simpa [SupplyCommand.isAllowed] using h

/-- A call that reaches its batch is atomic exactly when the flag is backed. -/
theorem SupplyCommand.isAtomic_iff_of_batch (hw : Reachable w)
    (hfresh : w.isFresh [c.auditUuid] = true) {supplier : SupplierRow}
    (hobserved : requireSupplierRow (w.reads ages 1) c.identity = .ok supplier)
    (hactive : c.enabled = true → supplier.status = .active)
    (hbatch : c.request.batch w.deployment (w.reads ages) =
      .ok (c.batch supplier.supplierId (w.reads ages 2).clock)) :
    c.IsAtomic w (step w (.service ages c.request)) ages ↔ c.FlagIsBacked w ages := by
  obtain ⟨s, hs, hid, htenant⟩ := SupplyCommand.supplier_stored hw hobserved
  have hfound : ∀ other, c.SwitchesOn w ages other → other = supplier := by
    intro other h
    exact Except.ok.inj (h.observed.symm.trans hobserved)
  rw [← hid] at hbatch
  have houtcome := SupplyCommand.outcome hw hfresh hs htenant hbatch
  rw [hid] at houtcome
  cases houtcome with
  | unmarked hrefused hflag hreply hsame =>
      constructor
      · refine fun _ => ⟨fun other h => ?_⟩
        obtain ⟨henabled, hdead⟩ := SupplyCommand.isAllowed_eq_false hrefused
        rw [henabled] at hflag
        rw [hfound other h, if_neg (by simp [hdead])]
        exact hflag
      · intro _
        exact ⟨fun _ t _ => by rw [hsame], fun hswitched => by simp [hreply] at hswitched⟩
  | switched hallowed hnew hreply hstored =>
      have hlive : c.enabled = true → hasLiveAuthorization w.db c.identity.tenantId
          supplier.supplierId (w.reads ages 2).clock = true := by
        intro henabled
        simpa [SupplyCommand.isAllowed, henabled] using hallowed
      constructor
      · refine fun h => ⟨fun other hother => ?_⟩
        obtain ⟨found, hfoundOk, hunexpired⟩ := h.live hreply hother.enabled
        have hsame : found = other := Except.ok.inj (hfoundOk.symm.trans hother.observed)
        rw [hsame] at hunexpired
        rw [hfound other hother] at hunexpired ⊢
        rw [if_pos (hlive hother.enabled)]
        exact hunexpired
      · intro h
        refine ⟨fun hthrows => ?_, fun _ henabled => ?_⟩
        · rw [hreply] at hthrows
          cases hthrows
        · have hbacked := h.backed supplier ⟨henabled, hobserved, hactive henabled, hnew⟩
          rw [if_pos (hlive henabled)] at hbacked
          exact ⟨supplier, hobserved, hbacked⟩
  | recorded hrefused hflag hnew hreply hstored =>
      obtain ⟨henabled, hdead⟩ := SupplyCommand.isAllowed_eq_false hrefused
      constructor
      · intro h
        have hsame := h.unchanged (by rw [hreply]; rfl) .auditEvents (by decide)
        rw [hstored, ← hid] at hsame
        exact absurd hsame (SupplyCommand.stored_ne w.db)
      · intro h
        have hbacked := h.backed supplier ⟨henabled, hobserved, hactive henabled, hnew⟩
        rw [if_neg (by simp [hdead]), ← henabled, hflag] at hbacked
        cases hbacked
  | aborted hold hreply hsame =>
      constructor
      · refine fun _ => ⟨fun other h => ?_⟩
        exact absurd h.unrecorded hold
      · intro _
        exact ⟨fun _ t _ => by rw [hsame], fun hswitched => by simp [hreply] at hswitched⟩

/-- A call is atomic exactly when the flag is backed. -/
theorem SupplyCommand.isAtomic_iff (hw : Reachable w) (hfresh : w.isFresh [c.auditUuid] = true) :
    c.IsAtomic w (step w (.service ages c.request)) ages ↔ c.FlagIsBacked w ages := by
  rcases c.request_cases w ages with ⟨hreplay, hbatch⟩ | ⟨e, hbatch, hnone⟩ |
      ⟨supplier, hobserved, hactive, hbatch⟩
  · have hreply : c.reply w ages = .replayed := by
      simp only [SupplyCommand.reply, hbatch]
    constructor
    · refine fun _ => ⟨fun supplier h => ?_⟩
      rw [h.unrecorded.observed hw 0] at hreplay
      simp at hreplay
    · intro _
      constructor
      · rw [hreply]
        intro h
        cases h
      · rw [hreply]
        intro h
        cases h
  · constructor
    · refine fun _ => ⟨fun supplier h => ?_⟩
      exact absurd h (hnone supplier)
    · intro _
      have hreply : c.reply w ages = .refused e := by
        simp only [SupplyCommand.reply, hbatch]
      constructor
      · intro _ t _
        rw [step_service_error hbatch]
      · rw [hreply]
        intro h
        cases h
  · exact SupplyCommand.isAtomic_iff_of_batch hw hfresh hobserved hactive hbatch

end Calls

/--
A call of the supply switch that throws leaves the flag, the audit log and the
idempotency records as they were, and one that switches supply on finds an
unexpired authorization at its commit, exactly when the flag is backed: for an
active supplier and an unrecorded command, some authorization is unexpired at the
commit if one was live at the time of the call, and the flag is off if none was.
-/
theorem setSupplyState_atomic_iff (clock : Nat) (deployment : Deployment) (calls : List Call)
    (n : Nat) (ages : List Nat) (c : SupplyCommand)
    (hcall : calls[n]? = some (.service ages c.request))
    (hfresh : (World.along clock deployment calls n).isFresh [c.auditUuid] = true) :
    c.IsAtomic (World.along clock deployment calls n) (World.along clock deployment calls (n + 1))
        ages ↔
      c.FlagIsBacked (World.along clock deployment calls n) ages := by
  rw [World.along_succ hcall]
  exact SupplyCommand.isAtomic_iff (World.along_reachable n) hfresh

/-- An authorization that is live has not expired. -/
theorem HasUnexpiredAuthorization.of_live {db : MarketplaceDb} {tenantId supplierId : String}
    {now : Nat} (h : hasLiveAuthorization db tenantId supplierId now = true) :
    HasUnexpiredAuthorization db tenantId supplierId now := by
  simp only [hasLiveAuthorization, List.any_eq_true, Bool.and_eq_true, beq_iff_eq] at h
  obtain ⟨r, hr, ⟨⟨⟨htenant, hsupplier⟩, hstatus⟩, hvalid⟩, -⟩ := h
  exact ⟨r, hr, htenant, hsupplier, hstatus, hvalid⟩

/-- A flag that is off is backed where every read observes the state of the commit. -/
theorem SupplyCommand.flagIsBacked_of_off {c : SupplyCommand} {w : World}
    (hoff : ∀ s ∈ w.db.rows .suppliers, s.supplyEnabled = false) : c.FlagIsBacked w [] := by
  refine ⟨fun supplier _ => ?_⟩
  have hclock : (w.reads [] 2).clock = w.db.clock := rfl
  split
  · rename_i hlive
    rw [hclock] at hlive
    exact .of_live hlive
  · simp only [supplyStandsAt, List.any_eq_false, Bool.and_eq_true, beq_iff_eq, not_and]
    intro s hs _ henabled
    rw [hoff s hs] at henabled
    cases henabled

/-- The sample supplier switches supply on. -/
def sampleSwitch : SupplyCommand where
  identity := sampleSupplier
  commandId := "supply-1"
  enabled := true
  auditUuid := "u5"

/-- The first switch of the sample run is atomic: the flag was off before it. -/
theorem setSupplyState_atomic_iff_sample :
    sampleSwitch.IsAtomic (World.along 1000 sampleDeployment sampleCalls 4)
      (World.along 1000 sampleDeployment sampleCalls 5) [] := by
  have hfacts : (World.along 1000 sampleDeployment sampleCalls 4).isFresh ["u5"] = true ∧
      ∀ s ∈ (World.along 1000 sampleDeployment sampleCalls 4).db.rows .suppliers,
        s.supplyEnabled = false := by
    rw [show World.along 1000 sampleDeployment sampleCalls 4 = _ from sampleWorld_four]
    decide +kernel
  have hbacked : sampleSwitch.FlagIsBacked (World.along 1000 sampleDeployment sampleCalls 4)
      [] := by
    generalize World.along 1000 sampleDeployment sampleCalls 4 = w at *
    exact SupplyCommand.flagIsBacked_of_off hfacts.2
  exact (setSupplyState_atomic_iff 1000 sampleDeployment sampleCalls 4 [] sampleSwitch rfl
    hfacts.1).mpr hbacked

/-- The sample supplier asks for supply once more after its authorization has expired. -/
def lateSwitch : SupplyCommand where
  identity := sampleSupplier
  commandId := "supply-2"
  enabled := true
  auditUuid := "u9"

def lateCalls : List Call :=
  sampleCalls.take 5 ++ [.setClock 86400001, .service [] lateSwitch.request]

/-- The call throws and stores an audit record. -/
theorem lateSwitch_not_atomic :
    ¬ lateSwitch.IsAtomic (World.along 1000 sampleDeployment lateCalls 6)
      (World.along 1000 sampleDeployment lateCalls 7) [] := by
  intro h
  have hfacts :
      (lateSwitch.reply (World.along 1000 sampleDeployment lateCalls 6) []).throws = true ∧
        ((World.along 1000 sampleDeployment lateCalls 7).db.rows .auditEvents).length ≠
          ((World.along 1000 sampleDeployment lateCalls 6).db.rows .auditEvents).length := by
    rw [show World.along 1000 sampleDeployment lateCalls 6 = _ from
        run_published ((lateCalls.drop 4).take 2),
      show World.along 1000 sampleDeployment lateCalls 7 = _ from run_published (lateCalls.drop 4)]
    decide +kernel
  exact hfacts.2 (congrArg List.length (h.unchanged hfacts.1 .auditEvents (by decide)))

end Server
end TokenStreaming
