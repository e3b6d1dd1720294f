import Mathlib.Data.List.Nodup
import Mathlib.Data.List.Infix
import Mathlib.Data.List.Pairwise
import Mathlib.Algebra.BigOperators.Group.List.Basic
import Mathlib.Algebra.Order.BigOperators.Group.List
import Mathlib.Algebra.Order.Ring.Nat
import Mathlib.Logic.Function.Basic

/-!
# Foundation - A keyed relational store with atomic batches

A small library for programs whose state is a set of SQL tables.  A store is a
finite list of rows for every table; a statement inserts, updates or deletes
rows of one table and may read every table; a batch runs its statements in
order and commits all of them or none.

Main results:

- Theorem {lit}`runBatch_induction`: what every statement of a batch preserves,
  the committed batch preserves.
- Theorem {lit}`Consistent.runBatch`: no committed batch leaves two rows of a
  table with a common unique key.
- Theorem {lit}`Statement.Respects.evolves`: how the rows of a table may change
  across one statement, in terms of a relation between old and new rows.
- Theorem {lit}`Evolves.trans`: row evolutions compose along a batch.

The store does not model partial failures of single statements inside a batch:
a statement either applies or aborts the batch.
-/

namespace TokenStreaming
namespace Relational

/-! ## Schemas, stores and statements -/

/-- The tables of a store, the rows of each table and the unique-index entries of a row. -/
structure Schema where
  Table : Type
  Row : Table → Type
  Key : Table → Type
  keys : (t : Table) → Row t → List (Key t)
  tableDecEq : DecidableEq Table
  keyDecEq : (t : Table) → DecidableEq (Key t)

attribute [instance] Schema.tableDecEq Schema.keyDecEq

variable {S : Schema}

/-- Contents of every table together with the clock that statements may read. -/
structure Database (S : Schema) where
  rows : (t : S.Table) → List (S.Row t)
  clock : Nat

/-- Replace the rows of one table. -/
def Database.withRows (db : Database S) (t : S.Table) (rs : List (S.Row t)) : Database S where
  rows := Function.update db.rows t rs
  clock := db.clock

@[simp]
theorem Database.withRows_rows (db : Database S) (t : S.Table) (rs : List (S.Row t)) :
    (db.withRows t rs).rows t = rs := by
  simp [Database.withRows]

@[simp]
theorem Database.withRows_rows_ne (db : Database S) {t u : S.Table} (rs : List (S.Row t))
    (h : u ≠ t) : (db.withRows t rs).rows u = db.rows u := by
  simp [Database.withRows, h]

@[simp]
theorem Database.withRows_clock (db : Database S) (t : S.Table) (rs : List (S.Row t)) :
    (db.withRows t rs).clock = db.clock :=
  rfl

/-- Two rows occupy a common entry of some unique index. -/
def clashes (t : S.Table) (a b : S.Row t) : Bool :=
  (S.keys t a).any fun k => decide (k ∈ S.keys t b)

/-- No two rows of the list clash. -/
def UniqueKeys (t : S.Table) (rs : List (S.Row t)) : Prop :=
  rs.Pairwise fun a b => clashes t a b = false

instance (t : S.Table) (rs : List (S.Row t)) : Decidable (UniqueKeys t rs) :=
  inferInstanceAs (Decidable (List.Pairwise _ rs))

/-- Every table satisfies its unique indexes. -/
def Consistent (db : Database S) : Prop :=
  ∀ t, UniqueKeys t (db.rows t)

/-- Write a whole table, aborting when a unique index is violated. -/
def Database.commitRows (db : Database S) (t : S.Table) (rs : List (S.Row t)) :
    Option (Database S) :=
  if UniqueKeys t rs then some (db.withRows t rs) else none

/-- `INSERT OR IGNORE` of one row. -/
def appendFresh (t : S.Table) (rs : List (S.Row t)) (r : S.Row t) : List (S.Row t) :=
  if rs.any (clashes t r) then rs else rs ++ [r]

/-- `INSERT ... ON CONFLICT DO UPDATE` of one row. -/
def upsertRow (t : S.Table) (merge : S.Row t → S.Row t → S.Row t) (rs : List (S.Row t))
    (r : S.Row t) : List (S.Row t) :=
  if rs.any (clashes t r) then rs.map fun old => if clashes t r old then merge old r else old
  else rs ++ [r]

/-- One SQL write.  Selections and assignments may read the whole store. -/
inductive Statement (S : Schema) where
  /-- `INSERT`: a violated unique index aborts. -/
  | insert (t : S.Table) (values : Database S → List (S.Row t))
  /-- `INSERT OR IGNORE`: a row that violates a unique index is skipped. -/
  | insertOrIgnore (t : S.Table) (values : Database S → List (S.Row t))
  /-- `INSERT ... ON CONFLICT DO UPDATE`. -/
  | upsert (t : S.Table) (merge : S.Row t → S.Row t → S.Row t)
      (values : Database S → List (S.Row t))
  /-- `UPDATE ... SET ... WHERE`. -/
  | update (t : S.Table) (selects : Database S → S.Row t → Bool)
      (assign : Database S → S.Row t → S.Row t)
  /-- `DELETE ... WHERE`. -/
  | delete (t : S.Table) (selects : Database S → S.Row t → Bool)

/-- The table a statement writes. -/
def Statement.table : Statement S → S.Table
  | .insert t _ => t
  | .insertOrIgnore t _ => t
  | .upsert t _ _ => t
  | .update t _ _ => t
  | .delete t _ => t

/-- The rows of an `UPDATE`'s table after it. -/
def updatedRows (t : S.Table) (selects : Database S → S.Row t → Bool)
    (assign : Database S → S.Row t → S.Row t) (db : Database S) : List (S.Row t) :=
  (db.rows t).map fun r => if selects db r then assign db r else r

/-- Run one statement; `none` is an abort. -/
def Statement.apply (db : Database S) : Statement S → Option (Database S)
  | .insert t values => db.commitRows t (db.rows t ++ values db)
  | .insertOrIgnore t values =>
      some (db.withRows t ((values db).foldl (appendFresh t) (db.rows t)))
  | .upsert t merge values =>
      db.commitRows t ((values db).foldl (upsertRow t merge) (db.rows t))
  | .update t selects assign => db.commitRows t (updatedRows t selects assign db)
  | .delete t selects => some (db.withRows t ((db.rows t).filter fun r => !selects db r))

/-- The number of rows a statement inserts, updates or deletes. -/
def Statement.changes (db : Database S) : Statement S → Nat
  | .insert _ values => (values db).length
  | .insertOrIgnore t values =>
      ((values db).foldl (appendFresh t) (db.rows t)).length - (db.rows t).length
  | .upsert _ _ values => (values db).length
  | .update t selects _ => (db.rows t).countP (selects db)
  | .delete t selects => (db.rows t).countP (selects db)

/-- Run a batch: all statements commit or none does. -/
def runBatch (db : Database S) : List (Statement S) → Option (Database S)
  | [] => some db
  | s :: batch => (s.apply db).bind fun db' => runBatch db' batch

/-- The change counts a committed batch reports, one for every statement. -/
def batchChanges (db : Database S) : List (Statement S) → List Nat
  | [] => []
  | s :: batch =>
      s.changes db ::
        match s.apply db with
        | some db' => batchChanges db' batch
        | none => []

@[simp]
theorem runBatch_nil (db : Database S) : runBatch db [] = some db :=
  rfl

theorem batchChanges_singleton {db db' : Database S} {s : Statement S} (h : s.apply db = some db') :
    batchChanges db [s] = [s.changes db] := by
  simp [batchChanges, h]

theorem runBatch_cons (db : Database S) (s : Statement S) (batch : List (Statement S)) :
    runBatch db (s :: batch) = (s.apply db).bind fun db' => runBatch db' batch :=
  rfl

theorem runBatch_cons_eq_some {db db' : Database S} {s : Statement S}
    {batch : List (Statement S)} :
    runBatch db (s :: batch) = some db' ↔
      ∃ mid, s.apply db = some mid ∧ runBatch mid batch = some db' := by
  rw [runBatch_cons, Option.bind_eq_some_iff]

theorem runBatch_append_eq_some {db db' : Database S} {first second : List (Statement S)} :
    runBatch db (first ++ second) = some db' ↔
      ∃ mid, runBatch db first = some mid ∧ runBatch mid second = some db' := by
  induction first generalizing db with
  | nil => simp
  | cons s first ih =>
      simp only [List.cons_append, runBatch_cons_eq_some, ih]
      constructor
      · rintro ⟨a, ha, b, hb, hc⟩
        exact ⟨b, ⟨a, ha, hb⟩, hc⟩
      · rintro ⟨b, ⟨a, ha, hb⟩, hc⟩
        exact ⟨a, ha, b, hb, hc⟩

/-- The induction rule of batches: what every statement preserves, a commit preserves. -/
theorem runBatch_induction {P : Database S → Prop} {db db' : Database S}
    {batch : List (Statement S)} (hrun : runBatch db batch = some db') (h0 : P db)
    (hstep : ∀ s ∈ batch, ∀ a b, P a → s.apply a = some b → P b) : P db' := by
  induction batch generalizing db with
  | nil =>
      have : db = db' := by simpa using hrun
      exact this ▸ h0
  | cons s batch ih =>
      rcases runBatch_cons_eq_some.mp hrun with ⟨mid, hs, hrest⟩
      exact ih hrest (hstep s (by simp) db mid h0 hs)
        fun s' hs' => hstep s' (List.mem_cons_of_mem _ hs')

/-! ## Frames -/

theorem Database.commitRows_eq_some {db db' : Database S} {t : S.Table} {rs : List (S.Row t)} :
    db.commitRows t rs = some db' ↔ UniqueKeys t rs ∧ db.withRows t rs = db' := by
  unfold Database.commitRows
  split <;> rename_i h <;> simp [h]

/-- A statement leaves every other table alone. -/
theorem Statement.apply_rows_of_ne {db db' : Database S} {s : Statement S} {t : S.Table}
    (h : s.apply db = some db') (ht : t ≠ s.table) : db'.rows t = db.rows t := by
  cases s with
  | insert u values =>
      rw [← (Database.commitRows_eq_some.mp h).2]
      exact Database.withRows_rows_ne _ _ ht
  | insertOrIgnore u values =>
      rw [← Option.some.inj h]
      exact Database.withRows_rows_ne _ _ ht
  | upsert u merge values =>
      rw [← (Database.commitRows_eq_some.mp h).2]
      exact Database.withRows_rows_ne _ _ ht
  | update u selects assign =>
      rw [← (Database.commitRows_eq_some.mp h).2]
      exact Database.withRows_rows_ne _ _ ht
  | delete u selects =>
      rw [← Option.some.inj h]
      exact Database.withRows_rows_ne _ _ ht

/-- No statement moves the clock. -/
theorem Statement.apply_clock {db db' : Database S} {s : Statement S}
    (h : s.apply db = some db') : db'.clock = db.clock := by
  cases s with
  | insert u values => rw [← (Database.commitRows_eq_some.mp h).2]; rfl
  | insertOrIgnore u values => rw [← Option.some.inj h]; rfl
  | upsert u merge values => rw [← (Database.commitRows_eq_some.mp h).2]; rfl
  | update u selects assign => rw [← (Database.commitRows_eq_some.mp h).2]; rfl
  | delete u selects => rw [← Option.some.inj h]; rfl

theorem runBatch_clock {db db' : Database S} {batch : List (Statement S)}
    (h : runBatch db batch = some db') : db'.clock = db.clock :=
  runBatch_induction (P := fun d => d.clock = db.clock) h rfl
    fun _ _ _ _ ha hs => (Statement.apply_clock hs).trans ha

/-- A batch none of whose statements writes `t` leaves `t` alone. -/
theorem runBatch_rows_of_ne {db db' : Database S} {batch : List (Statement S)} {t : S.Table}
    (h : runBatch db batch = some db') (ht : ∀ s ∈ batch, t ≠ s.table) :
    db'.rows t = db.rows t :=
  runBatch_induction (P := fun d => d.rows t = db.rows t) h rfl
    fun s hs _ _ ha hb => (Statement.apply_rows_of_ne hb (ht s hs)).trans ha

/-! ## Unique indexes -/

theorem clashes_eq_true {t : S.Table} {a b : S.Row t} :
    clashes t a b = true ↔ ∃ k, k ∈ S.keys t a ∧ k ∈ S.keys t b := by
  simp [clashes]

theorem clashes_comm (t : S.Table) (a b : S.Row t) : clashes t a b = clashes t b a := by
  rw [Bool.eq_iff_iff, clashes_eq_true, clashes_eq_true]
  constructor
  · rintro ⟨k, ha, hb⟩
    exact ⟨k, hb, ha⟩
  · rintro ⟨k, hb, ha⟩
    exact ⟨k, ha, hb⟩

theorem UniqueKeys.appendFresh {t : S.Table} {rs : List (S.Row t)} (h : UniqueKeys t rs)
    (r : S.Row t) : UniqueKeys t (appendFresh t rs r) := by
  unfold Relational.appendFresh
  split <;> rename_i hr
  · exact h
  · refine List.pairwise_append.mpr ⟨h, by simp, ?_⟩
    intro a ha b hb
    obtain rfl : b = r := by simpa using hb
    rw [clashes_comm]
    simp only [List.any_eq_true, not_exists, not_and, Bool.not_eq_true] at hr
    exact hr a ha

theorem UniqueKeys.foldl_appendFresh {t : S.Table} {rs : List (S.Row t)} (h : UniqueKeys t rs)
    (values : List (S.Row t)) : UniqueKeys t (values.foldl (Relational.appendFresh t) rs) := by
  induction values generalizing rs with
  | nil => exact h
  | cons r values ih => exact ih (h.appendFresh r)

/-- Rows with a common key are the same row. -/
theorem UniqueKeys.eq_of_mem {t : S.Table} {rs : List (S.Row t)} (h : UniqueKeys t rs)
    {a b : S.Row t} (ha : a ∈ rs) (hb : b ∈ rs) {k : S.Key t} (hka : k ∈ S.keys t a)
    (hkb : k ∈ S.keys t b) : a = b := by
  by_contra hne
  have hclash : clashes t a b = true := clashes_eq_true.mpr ⟨k, hka, hkb⟩
  have hsymm : Std.Symm fun x y : S.Row t => clashes t x y = false :=
    ⟨fun x y hxy => by rw [clashes_comm]; exact hxy⟩
  have hfalse : clashes t a b = false := List.Pairwise.forall h ha hb hne
  simp [hclash] at hfalse

/-- A table that satisfies its unique indexes still does after an update that keeps keys. -/
theorem UniqueKeys.map {t : S.Table} {rs : List (S.Row t)} (h : UniqueKeys t rs)
    {f : S.Row t → S.Row t} (hf : ∀ r ∈ rs, S.keys t (f r) = S.keys t r) :
    UniqueKeys t (rs.map f) := by
  refine List.pairwise_map.mpr (h.imp_of_mem ?_)
  intro a b ha hb hab
  simpa [clashes, hf a ha, hf b hb] using hab

/-- At most one row carries a given key. -/
theorem UniqueKeys.countP_le_one {t : S.Table} {rs : List (S.Row t)} (h : UniqueKeys t rs)
    {p : S.Row t → Bool} {k : S.Key t} (hp : ∀ r ∈ rs, p r = true → k ∈ S.keys t r) :
    rs.countP p ≤ 1 := by
  induction rs with
  | nil => simp
  | cons r rs ih =>
      have hrest := ih h.tail fun a ha => hp a (List.mem_cons_of_mem _ ha)
      rw [List.countP_cons]
      by_cases hr : p r = true
      · have hzero : rs.countP p = 0 := by
          refine List.countP_eq_zero.mpr fun a ha hpa => ?_
          have hclash : clashes t r a = true :=
            clashes_eq_true.mpr ⟨k, hp r (by simp) hr, hp a (List.mem_cons_of_mem _ ha) hpa⟩
          rw [List.rel_of_pairwise_cons h ha] at hclash
          exact Bool.false_ne_true hclash
        simp [hr, hzero]
      · simpa [hr] using hrest

/-- A statement keeps the unique indexes of a table, whatever the other tables hold. -/
theorem UniqueKeys.apply {db db' : Database S} {s : Statement S} {t : S.Table}
    (hdb : UniqueKeys t (db.rows t)) (h : s.apply db = some db') : UniqueKeys t (db'.rows t) := by
  by_cases ht : t = s.table
  · subst ht
    cases s with
    | insert u values =>
        rcases Database.commitRows_eq_some.mp h with ⟨hu, rfl⟩
        simpa [Statement.table] using hu
    | insertOrIgnore u values =>
        rw [← Option.some.inj h]
        simpa [Statement.table] using hdb.foldl_appendFresh (values db)
    | upsert u merge values =>
        rcases Database.commitRows_eq_some.mp h with ⟨hu, rfl⟩
        simpa [Statement.table] using hu
    | update u selects assign =>
        rcases Database.commitRows_eq_some.mp h with ⟨hu, rfl⟩
        simpa [Statement.table] using hu
    | delete u selects =>
        rw [← Option.some.inj h]
        have hsub : UniqueKeys u ((db.rows u).filter fun r => !selects db r) :=
          List.Pairwise.sublist List.filter_sublist hdb
        simpa [Statement.table] using hsub
  · rw [Statement.apply_rows_of_ne h ht]
    exact hdb

theorem UniqueKeys.runBatch {db db' : Database S} {batch : List (Statement S)} {t : S.Table}
    (hdb : UniqueKeys t (db.rows t)) (h : runBatch db batch = some db') :
    UniqueKeys t (db'.rows t) :=
  runBatch_induction (P := fun d => UniqueKeys t (d.rows t)) h hdb
    fun _ _ _ _ ha hs => ha.apply hs

theorem Consistent.apply {db db' : Database S} {s : Statement S} (hdb : Consistent db)
    (h : s.apply db = some db') : Consistent db' :=
  fun t => (hdb t).apply h

/-- No committed batch violates a unique index. -/
theorem Consistent.runBatch {db db' : Database S} {batch : List (Statement S)}
    (hdb : Consistent db) (h : runBatch db batch = some db') : Consistent db' :=
  runBatch_induction h hdb fun _ _ _ _ ha hs => ha.apply hs

/-! ## Effects of single statements -/

section Effects

variable {db db' : Database S} {t : S.Table}

@[simp]
theorem Database.withRows_self (db : Database S) (t : S.Table) :
    db.withRows t (db.rows t) = db := by
  simp [Database.withRows]

theorem Statement.update_eq_some {selects : Database S → S.Row t → Bool}
    {assign : Database S → S.Row t → S.Row t}
    (h : (Statement.update t selects assign).apply db = some db') :
    db' = db.withRows t (updatedRows t selects assign db) :=
  (Database.commitRows_eq_some.mp h).2.symm

theorem Statement.update_rows {selects : Database S → S.Row t → Bool}
    {assign : Database S → S.Row t → S.Row t}
    (h : (Statement.update t selects assign).apply db = some db') :
    db'.rows t = (db.rows t).map fun r => if selects db r then assign db r else r := by
  rw [Statement.update_eq_some h, Database.withRows_rows]
  rfl

/-- An update that keeps every key commits. -/
theorem Statement.update_apply {selects : Database S → S.Row t → Bool}
    {assign : Database S → S.Row t → S.Row t} (hdb : UniqueKeys t (db.rows t))
    (hkeys : ∀ r ∈ db.rows t, S.keys t (assign db r) = S.keys t r) :
    (Statement.update t selects assign).apply db =
      some (db.withRows t (updatedRows t selects assign db)) := by
  refine Database.commitRows_eq_some.mpr ⟨?_, rfl⟩
  refine hdb.map fun r hr => ?_
  split
  · exact hkeys r hr
  · rfl

/-- An update that selects no row changes nothing. -/
theorem Statement.update_eq_self {selects : Database S → S.Row t → Bool}
    {assign : Database S → S.Row t → S.Row t}
    (h : (Statement.update t selects assign).apply db = some db')
    (hnone : ∀ r ∈ db.rows t, selects db r = false) : db' = db := by
  rw [Statement.update_eq_some h]
  have hrows : updatedRows t selects assign db = db.rows t := by
    unfold updatedRows
    conv_rhs => rw [← List.map_id (db.rows t)]
    exact List.map_congr_left fun r hr => by simp [hnone r hr]
  rw [hrows, Database.withRows_self]

/-- An update changes nothing or stores some assigned row. -/
theorem Statement.update_eq_self_or {selects : Database S → S.Row t → Bool}
    {assign : Database S → S.Row t → S.Row t}
    (h : (Statement.update t selects assign).apply db = some db') :
    db' = db ∨ ∃ r ∈ db.rows t, selects db r = true ∧ assign db r ∈ db'.rows t := by
  by_cases hsel : ∃ r ∈ db.rows t, selects db r = true
  · obtain ⟨r, hr, hselected⟩ := hsel
    refine Or.inr ⟨r, hr, hselected, ?_⟩
    rw [Statement.update_rows h]
    exact List.mem_map.mpr ⟨r, hr, if_pos hselected⟩
  · refine Or.inl (Statement.update_eq_self h fun r hr => ?_)
    exact Bool.eq_false_iff.mpr fun hselected => hsel ⟨r, hr, hselected⟩

theorem Statement.insert_eq_some {values : Database S → List (S.Row t)}
    (h : (Statement.insert t values).apply db = some db') :
    UniqueKeys t (db.rows t ++ values db) ∧ db' = db.withRows t (db.rows t ++ values db) := by
  rcases Database.commitRows_eq_some.mp h with ⟨hunique, heq⟩
  exact ⟨hunique, heq.symm⟩

/-- An insert of nothing. -/
theorem Statement.insert_nil {values : Database S → List (S.Row t)}
    (h : (Statement.insert t values).apply db = some db') (hnil : values db = []) : db' = db := by
  rw [(Statement.insert_eq_some h).2, hnil, List.append_nil, Database.withRows_self]

/-- An insert of one row, which shares no key with the rows before it. -/
theorem Statement.insert_singleton {values : Database S → List (S.Row t)} {r : S.Row t}
    (h : (Statement.insert t values).apply db = some db') (hr : values db = [r]) :
    (∀ old ∈ db.rows t, clashes t old r = false) ∧ db' = db.withRows t (db.rows t ++ [r]) := by
  rcases Statement.insert_eq_some h with ⟨hunique, heq⟩
  rw [hr] at hunique heq
  exact ⟨fun old hold => (List.pairwise_append.mp hunique).2.2 old hold r (by simp), heq⟩

/-- An insert of nothing commits. -/
theorem Statement.insert_nil_apply {values : Database S → List (S.Row t)}
    (hdb : UniqueKeys t (db.rows t)) (hnil : values db = []) :
    (Statement.insert t values).apply db = some db := by
  refine Database.commitRows_eq_some.mpr ⟨?_, ?_⟩
  · rw [hnil, List.append_nil]
    exact hdb
  · rw [hnil, List.append_nil, Database.withRows_self]

/-- An insert of one row that shares no key with the rows before it commits. -/
theorem Statement.insert_apply {values : Database S → List (S.Row t)} {r : S.Row t}
    (hdb : UniqueKeys t (db.rows t)) (hr : values db = [r])
    (hnew : ∀ old ∈ db.rows t, clashes t old r = false) :
    (Statement.insert t values).apply db = some (db.withRows t (db.rows t ++ [r])) := by
  refine Database.commitRows_eq_some.mpr ⟨?_, by rw [hr]⟩
  rw [hr]
  refine List.pairwise_append.mpr ⟨hdb, by simp, fun old hold added hadded => ?_⟩
  rw [List.mem_singleton.mp hadded]
  exact hnew old hold

/-- `INSERT OR IGNORE` of nothing. -/
theorem Statement.insertOrIgnore_nil {values : Database S → List (S.Row t)}
    (h : (Statement.insertOrIgnore t values).apply db = some db') (hnil : values db = []) :
    db' = db := by
  rw [← Option.some.inj h, hnil, List.foldl_nil, Database.withRows_self]

/-- `INSERT OR IGNORE` of one row stores it or meets a row with a common key. -/
theorem Statement.insertOrIgnore_singleton {values : Database S → List (S.Row t)} {r : S.Row t}
    (h : (Statement.insertOrIgnore t values).apply db = some db') (hr : values db = [r]) :
    ((∀ old ∈ db.rows t, clashes t r old = false) ∧ db' = db.withRows t (db.rows t ++ [r])) ∨
      ((∃ old ∈ db.rows t, clashes t r old = true) ∧ db' = db) := by
  have heq := Option.some.inj h
  rw [hr, List.foldl_cons, List.foldl_nil, appendFresh] at heq
  by_cases hany : (db.rows t).any (clashes t r) = true
  · rw [if_pos hany, Database.withRows_self] at heq
    exact Or.inr ⟨List.any_eq_true.mp hany, heq.symm⟩
  · rw [if_neg hany] at heq
    refine Or.inl ⟨fun old hold => ?_, heq.symm⟩
    simp only [List.any_eq_true, not_exists, not_and, Bool.not_eq_true] at hany
    exact hany old hold

/-- `INSERT OR IGNORE` of at most one row changes nothing or appends the row. -/
theorem Statement.insertOrIgnore_cases {values : Database S → List (S.Row t)} {r : S.Row t}
    {g : Bool} (h : (Statement.insertOrIgnore t values).apply db = some db')
    (hvalues : values db = if g = true then [r] else []) :
    db' = db ∨ (g = true ∧ (∀ old ∈ db.rows t, clashes t r old = false) ∧
      db' = db.withRows t (db.rows t ++ [r])) := by
  cases g with
  | false => exact Or.inl (Statement.insertOrIgnore_nil h (by simpa using hvalues))
  | true =>
      rcases Statement.insertOrIgnore_singleton h (by simpa using hvalues) with hnew | hold
      · exact Or.inr ⟨rfl, hnew⟩
      · exact Or.inl hold.2

/-- An insert of at most one row changes nothing or appends the row. -/
theorem Statement.insert_cases {values : Database S → List (S.Row t)} {r : S.Row t} {g : Bool}
    (h : (Statement.insert t values).apply db = some db')
    (hvalues : values db = if g = true then [r] else []) :
    (g = false ∧ db' = db) ∨ (g = true ∧ (∀ old ∈ db.rows t, clashes t old r = false) ∧
      db' = db.withRows t (db.rows t ++ [r])) := by
  cases g with
  | false => exact Or.inl ⟨rfl, Statement.insert_nil h (by simpa using hvalues)⟩
  | true => exact Or.inr ⟨rfl, Statement.insert_singleton h (by simpa using hvalues)⟩

/-- An upsert of at most one row. -/
theorem Statement.upsert_cases {merge : S.Row t → S.Row t → S.Row t}
    {values : Database S → List (S.Row t)} {r : S.Row t} {g : Bool}
    (h : (Statement.upsert t merge values).apply db = some db')
    (hvalues : values db = if g = true then [r] else []) :
    (g = false ∧ db' = db) ∨
      (g = true ∧ db' = db.withRows t (upsertRow t merge (db.rows t) r)) := by
  have heq := (Database.commitRows_eq_some.mp h).2
  rw [hvalues] at heq
  cases g with
  | false => exact Or.inl ⟨rfl, by simpa using heq.symm⟩
  | true => exact Or.inr ⟨rfl, by simpa using heq.symm⟩

end Effects

/-! ## Evolution of the rows of one table -/

/--
How a table without deletions may change: every old row is replaced in place by
a row related to it, and new rows are appended at the end.
-/
inductive Evolves {α : Type} (Move : α → α → Prop) (New : α → Prop) :
    List α → List α → Prop
  | grown {added : List α} (hadded : ∀ r ∈ added, New r) : Evolves Move New [] added
  | kept {a b : α} {old new : List α} (hmove : Move a b) (hrest : Evolves Move New old new) :
      Evolves Move New (a :: old) (b :: new)

section Evolves

variable {α : Type} {Move : α → α → Prop} {New : α → Prop} {old new : List α}

theorem Evolves.append (hrefl : ∀ r, Move r r) (rs : List α) {added : List α}
    (hadded : ∀ r ∈ added, New r) : Evolves Move New rs (rs ++ added) := by
  induction rs with
  | nil => exact .grown hadded
  | cons r rs ih => exact .kept (hrefl r) ih

theorem Evolves.refl (hrefl : ∀ r, Move r r) (rs : List α) : Evolves Move New rs rs := by
  have hnone : ∀ r ∈ ([] : List α), New r := by simp
  simpa using Evolves.append hrefl rs hnone

theorem Evolves.map {f : α → α} (hmove : ∀ r ∈ old, Move r (f r)) :
    Evolves Move New old (old.map f) := by
  induction old with
  | nil => exact .grown (by simp)
  | cons r rs ih =>
      exact .kept (hmove r (by simp)) (ih fun a ha => hmove a (List.mem_cons_of_mem _ ha))

/-- Evolutions compose when their moves do and a move leads from a new row to a new row. -/
theorem Evolves.trans (htrans : ∀ a b c, Move a b → Move b c → Move a c)
    (hnew : ∀ a b, New a → Move a b → New b) {newer : List α}
    (h₁ : Evolves Move New old new) (h₂ : Evolves Move New new newer) :
    Evolves Move New old newer := by
  induction h₁ generalizing newer with
  | grown hadded =>
      refine .grown ?_
      induction h₂ with
      | grown hadded' => exact hadded'
      | @kept a b _ _ hmove _ ih =>
          intro r hr
          rcases List.mem_cons.mp hr with rfl | hr
          · exact hnew a r (hadded a (by simp)) hmove
          · exact ih (fun x hx => hadded x (List.mem_cons_of_mem _ hx)) r hr
  | kept hmove _ ih =>
      cases h₂ with
      | kept hmove' hrest' => exact .kept (htrans _ _ _ hmove hmove') (ih hrest')

/-- Every old row survives, up to a move. -/
theorem Evolves.of_mem_old (h : Evolves Move New old new) {r : α} (hr : r ∈ old) :
    ∃ r' ∈ new, Move r r' := by
  induction h with
  | grown _ => simp at hr
  | @kept a b _ _ hmove _ ih =>
      rcases List.mem_cons.mp hr with rfl | hr
      · exact ⟨b, by simp, hmove⟩
      · rcases ih hr with ⟨r', hr', hm⟩
        exact ⟨r', List.mem_cons_of_mem _ hr', hm⟩

/-- Every row afterwards comes from an old row or is new. -/
theorem Evolves.of_mem_new (h : Evolves Move New old new) {r' : α} (hr : r' ∈ new) :
    (∃ r ∈ old, Move r r') ∨ New r' := by
  induction h with
  | grown hadded => exact Or.inr (hadded r' hr)
  | @kept a b _ _ hmove _ ih =>
      rcases List.mem_cons.mp hr with rfl | hr
      · exact Or.inl ⟨a, by simp, hmove⟩
      · rcases ih hr with ⟨r, hmem, hm⟩ | hnew
        · exact Or.inl ⟨r, List.mem_cons_of_mem _ hmem, hm⟩
        · exact Or.inr hnew

theorem Evolves.mono {Move' : α → α → Prop} {New' : α → Prop} (h : Evolves Move New old new)
    (hmove : ∀ a b, a ∈ old → Move a b → Move' a b) (hnew : ∀ r, New r → New' r) :
    Evolves Move' New' old new := by
  induction h with
  | grown hadded => exact .grown fun r hr => hnew r (hadded r hr)
  | kept hm _ ih =>
      exact .kept (hmove _ _ (by simp) hm)
        (ih fun a b ha => hmove a b (List.mem_cons_of_mem _ ha))

/-- A table whose rows are never changed only grows at its end, by new rows. -/
theorem Evolves.eq_append (h : Evolves (· = ·) New old new) :
    ∃ added, new = old ++ added ∧ ∀ r ∈ added, New r := by
  induction h with
  | @grown added hadded => exact ⟨added, rfl, hadded⟩
  | @kept a b old new hm _ ih =>
      rcases ih with ⟨added, hnew, hadded⟩
      exact ⟨added, by rw [hm, hnew, List.cons_append], hadded⟩

/-- Its old rows stay in front. -/
theorem Evolves.isPrefix (h : Evolves (· = ·) New old new) : old <+: new := by
  rcases h.eq_append with ⟨added, hnew, -⟩
  rw [hnew]
  exact List.prefix_append old added

/-- Moves that never enter a counted class do not raise its count. -/
theorem Evolves.countP_le {p : α → Bool} (h : Evolves Move New old new)
    (hmove : ∀ a b, a ∈ old → Move a b → p b = true → p a = true)
    (hnew : ∀ r, New r → p r = false) : new.countP p ≤ old.countP p := by
  induction h with
  | @grown added hadded =>
      have hzero : added.countP p = 0 :=
        List.countP_eq_zero.mpr fun r hr => by simp [hnew r (hadded r hr)]
      exact hzero.le
  | @kept a b _ _ hm _ ih =>
      have hrest := ih fun a b ha => hmove a b (List.mem_cons_of_mem _ ha)
      have hhead := hmove a b (by simp) hm
      simp only [List.countP_cons]
      cases hb : p b
      · simp; omega
      · simp [hhead hb]; omega

/-- An update raises a count by at most the number of rows it lets in. -/
theorem countP_map_le {p entering : α → Bool} {f : α → α} {rs : List α}
    (h : ∀ r ∈ rs, p (f r) = true → p r = true ∨ entering r = true) :
    (rs.map f).countP p ≤ rs.countP p + rs.countP entering := by
  induction rs with
  | nil => simp
  | cons r rs ih =>
      have hrest := ih fun a ha => h a (List.mem_cons_of_mem _ ha)
      have hhead := h r (by simp)
      simp only [List.map_cons, List.countP_cons]
      by_cases hafter : p (f r) = true
      · rcases hhead hafter with hp | he
        · simp only [hafter, hp, if_true]
          omega
        · simp only [hafter, he, if_true]
          omega
      · rw [if_neg hafter]
        omega

/-- Moves that never raise a measure, with new rows of measure zero, do not raise its sum. -/
theorem Evolves.sum_le {f : α → Nat} (h : Evolves Move New old new)
    (hmove : ∀ a b, a ∈ old → Move a b → f b ≤ f a) (hnew : ∀ r, New r → f r = 0) :
    (new.map f).sum ≤ (old.map f).sum := by
  induction h with
  | @grown added hadded =>
      have hzero : (added.map f).sum = 0 :=
        List.sum_eq_zero fun x hx => by
          rcases List.mem_map.mp hx with ⟨r, hr, rfl⟩
          exact hnew r (hadded r hr)
      exact hzero.le
  | kept hm _ ih =>
      have hrest := ih fun a b ha => hmove a b (List.mem_cons_of_mem _ ha)
      have hhead := hmove _ _ (by simp) hm
      simp only [List.map_cons, List.sum_cons]
      omega

/-- Rows of smaller measure, but for one, add no more than that one gains. -/
theorem sum_map_le_add {f g : α → Nat} {p : α → Bool} {rs : List α} {c : Nat}
    (hone : rs.countP p ≤ 1) (hle : ∀ a ∈ rs, p a = false → g a ≤ f a)
    (hc : ∀ a ∈ rs, p a = true → g a ≤ f a + c) : (rs.map g).sum ≤ (rs.map f).sum + c := by
  induction rs with
  | nil => simp
  | cons a rs ih =>
      have htail : ∀ b ∈ rs, p b = false → g b ≤ f b := fun b hb =>
        hle b (List.mem_cons_of_mem _ hb)
      simp only [List.map_cons, List.sum_cons]
      rw [List.countP_cons] at hone
      by_cases hp : p a = true
      · rw [if_pos hp] at hone
        have hnone : ∀ b ∈ rs, p b = false := by
          intro b hb
          have hzero : rs.countP p = 0 := by omega
          exact Bool.eq_false_iff.mpr (List.countP_eq_zero.mp hzero b hb)
        have hhead := hc a List.mem_cons_self hp
        have hrest := List.sum_le_sum (fun b hb => htail b hb (hnone b hb))
        omega
      · have hhead := hle a List.mem_cons_self (Bool.eq_false_iff.mpr hp)
        have hrest := ih (by omega) htail fun b hb => hc b (List.mem_cons_of_mem _ hb)
        omega

/-- Replacing the rows of a list by rows of smaller measure frees what one of them gives up. -/
theorem sum_map_add_le {f g : α → Nat} {rs : List α} {r : α} {c : Nat}
    (hle : ∀ a ∈ rs, g a ≤ f a) (hr : r ∈ rs) (hc : g r + c ≤ f r) :
    (rs.map g).sum + c ≤ (rs.map f).sum := by
  induction rs with
  | nil => simp at hr
  | cons a rs ih =>
      have hhead := hle a (by simp)
      have htail : ∀ b ∈ rs, g b ≤ f b := fun b hb => hle b (List.mem_cons_of_mem _ hb)
      simp only [List.map_cons, List.sum_cons]
      rcases List.mem_cons.mp hr with rfl | hr
      · have hrest := List.sum_le_sum htail
        omega
      · have hrest := ih htail hr
        omega

end Evolves

/-! ## What one statement may do to a table -/

/-- Running the statement in `db` changes the rows of `t` only by the given moves. -/
def Statement.Respects (s : Statement S) (db : Database S) (t : S.Table)
    (Move : S.Row t → S.Row t → Prop) (New : S.Row t → Prop) : Prop :=
  ∀ db', s.apply db = some db' → Evolves Move New (db.rows t) (db'.rows t)

section Respects

variable {db db' : Database S} {t : S.Table} {Move : S.Row t → S.Row t → Prop}
  {New : S.Row t → Prop}

theorem Statement.Respects.evolves {s : Statement S} (h : s.Respects db t Move New)
    (hs : s.apply db = some db') : Evolves Move New (db.rows t) (db'.rows t) :=
  h db' hs

/-- A statement on another table. -/
theorem Statement.respects_of_ne {s : Statement S} (hrefl : ∀ r, Move r r) (h : t ≠ s.table) :
    s.Respects db t Move New := by
  intro db' hs
  rw [Statement.apply_rows_of_ne hs h]
  exact Evolves.refl hrefl _

theorem Statement.insert_respects {values : Database S → List (S.Row t)}
    (hrefl : ∀ r, Move r r) (hnew : ∀ r ∈ values db, New r) :
    (Statement.insert t values).Respects db t Move New := by
  intro db' hs
  rcases Database.commitRows_eq_some.mp hs with ⟨-, rfl⟩
  rw [Database.withRows_rows]
  exact Evolves.append hrefl _ hnew

/-- `INSERT OR IGNORE` appends some of the selected rows. -/
theorem foldl_appendFresh_eq (t : S.Table) (values rs : List (S.Row t)) :
    ∃ added, values.foldl (appendFresh t) rs = rs ++ added ∧ added.Sublist values := by
  induction values generalizing rs with
  | nil => exact ⟨[], by simp, List.Sublist.slnil⟩
  | cons r values ih =>
      by_cases hr : rs.any (clashes t r) = true
      · rcases ih rs with ⟨added, hadded, hsub⟩
        refine ⟨added, ?_, hsub.cons r⟩
        rw [List.foldl_cons, appendFresh, if_pos hr, hadded]
      · rcases ih (rs ++ [r]) with ⟨added, hadded, hsub⟩
        refine ⟨r :: added, ?_, hsub.cons_cons r⟩
        rw [List.foldl_cons, appendFresh, if_neg hr, hadded, List.append_assoc]
        rfl

theorem Statement.insertOrIgnore_respects {values : Database S → List (S.Row t)}
    (hrefl : ∀ r, Move r r) (hnew : ∀ r ∈ values db, New r) :
    (Statement.insertOrIgnore t values).Respects db t Move New := by
  intro db' hs
  rw [← Option.some.inj hs, Database.withRows_rows]
  rcases foldl_appendFresh_eq t (values db) (db.rows t) with ⟨added, hadded, hsub⟩
  rw [hadded]
  exact Evolves.append hrefl _ fun r hr => hnew r (hsub.subset hr)

theorem Statement.update_respects {selects : Database S → S.Row t → Bool}
    {assign : Database S → S.Row t → S.Row t} (hrefl : ∀ r, Move r r)
    (hmove : ∀ r ∈ db.rows t, selects db r = true → Move r (assign db r)) :
    (Statement.update t selects assign).Respects db t Move New := by
  intro db' hs
  rcases Database.commitRows_eq_some.mp hs with ⟨-, rfl⟩
  rw [Database.withRows_rows]
  refine Evolves.map ?_
  intro r hr
  by_cases hsel : selects db r = true
  · simpa [hsel] using hmove r hr hsel
  · simpa [hsel] using hrefl r

end Respects

end Relational
end TokenStreaming
