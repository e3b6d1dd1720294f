import TokenStreaming.Foundation.RelationalStore

/-!
# Foundation - Footprints of batches

A batch need not be known in full to know what it leaves alone: it is enough to list
the tables its statements write, and among them those its statements add rows to.  The
rules below compute such a list along a program that reads, checks and then returns
its batch or an error.

Main results:

- Theorem {lit}`Confined.rows_eq`: a batch leaves the tables outside its footprint.
- Theorem {lit}`Confined.length_le`: nor does it add rows outside the tables it adds to.
- Theorems {lit}`writes_bind` and {lit}`writes_ite`: footprints of programs.
-/

namespace TokenStreaming
namespace Relational

variable {S : Schema}

/-! ## Writes -/

/-- One write of a footprint: a statement that may add rows, or one that changes or removes
stored rows only. -/
inductive TableWrite (Table : Type) where
  | adds (t : Table)
  | changes (t : Table)
deriving DecidableEq

/-- The table of a write. -/
def TableWrite.table {Table : Type} : TableWrite Table → Table
  | .adds t => t
  | .changes t => t

/-- What a statement does to its table. -/
def Statement.write : Statement S → TableWrite S.Table
  | .insert t _ => .adds t
  | .insertOrIgnore t _ => .adds t
  | .upsert t _ _ => .adds t
  | .update t _ _ => .changes t
  | .delete t _ => .changes t

theorem Statement.write_table (s : Statement S) : s.write.table = s.table := by
  cases s <;> rfl

/-- A statement that does not add rows to a table leaves no more of them. -/
theorem Statement.length_le_of_not_adds {s : Statement S} {t : S.Table} (ht : s.write ≠ .adds t)
    {db db' : Database S} (h : s.apply db = some db') :
    (db'.rows t).length ≤ (db.rows t).length := by
  by_cases htable : t = s.table
  · subst htable
    cases s with
    | insert u values => exact absurd rfl ht
    | insertOrIgnore u values => exact absurd rfl ht
    | upsert u merge values => exact absurd rfl ht
    | update u selects assign =>
        rw [← (Database.commitRows_eq_some.mp h).2]
        simp [Statement.table, updatedRows]
    | delete u selects =>
        rw [← Option.some.inj h]
        simp only [Statement.table, Database.withRows_rows]
        exact List.length_filter_le _ _
  · rw [Statement.apply_rows_of_ne h htable]

/-- Rows that moved without growing in number are all old. -/
theorem Evolves.of_length_le {α : Type} {Move : α → α → Prop} {New : α → Prop} {old new : List α}
    (h : Evolves Move New old new) (hlength : new.length ≤ old.length) :
    Evolves Move (fun _ => False) old new := by
  induction h with
  | grown hadded =>
      have hnil : _ = [] := List.eq_nil_of_length_eq_zero (Nat.le_zero.mp hlength)
      subst hnil
      exact .grown (by simp)
  | kept hmove _ ih => exact .kept hmove (ih (Nat.le_of_succ_le_succ hlength))

/-! ## Footprints -/

/-- Every statement of the batch does one of the writes. -/
def Confined (writes : List (TableWrite S.Table)) (batch : List (Statement S)) : Prop :=
  ∀ s ∈ batch, s.write ∈ writes

/-- Whatever batch a program returns is confined to the writes. -/
def Writes {ε : Type} (writes : List (TableWrite S.Table))
    (program : Except ε (List (Statement S))) : Prop :=
  ∀ batch, program = .ok batch → Confined writes batch

section Confined

variable {writes : List (TableWrite S.Table)}

/-- A batch leaves the tables outside of its footprint. -/
theorem Confined.rows_eq {batch : List (Statement S)} (h : Confined writes batch) {t : S.Table}
    (ht : ∀ write ∈ writes, write.table ≠ t) {db db' : Database S}
    (hrun : runBatch db batch = some db') : db'.rows t = db.rows t := by
  refine runBatch_rows_of_ne hrun fun s hs heq => ?_
  exact ht s.write (h s hs) (s.write_table.trans heq.symm)

/-- A batch adds no rows to a table its footprint only changes. -/
theorem Confined.length_le {batch : List (Statement S)} (h : Confined writes batch)
    {t : S.Table} (ht : TableWrite.adds t ∉ writes) {db db' : Database S}
    (hrun : runBatch db batch = some db') : (db'.rows t).length ≤ (db.rows t).length :=
  runBatch_induction (P := fun d => (d.rows t).length ≤ (db.rows t).length) hrun (Nat.le_refl _)
    fun s hs _ _ ha hb =>
      (Statement.length_le_of_not_adds (fun heq => ht (heq ▸ h s hs)) hb).trans ha

theorem Confined.nil : Confined writes [] := by
  simp [Confined]

theorem Confined.append {first second : List (Statement S)} (h : Confined writes first)
    (h' : Confined writes second) : Confined writes (first ++ second) := by
  intro s hs
  rcases List.mem_append.mp hs with hs | hs
  · exact h s hs
  · exact h' s hs

/-- The writes of the statements, read off a batch. -/
theorem Confined.of_map {batch : List (Statement S)} {written : List (TableWrite S.Table)}
    (h : batch.map Statement.write = written)
    (hsubset : (written.all fun write => decide (write ∈ writes)) = true) :
    Confined writes batch := by
  intro s hs
  have hmem : s.write ∈ written := by
    rw [← h]
    exact List.mem_map_of_mem hs
  exact of_decide_eq_true (List.all_eq_true.mp hsubset _ hmem)

theorem Confined.of_forall {α : Type} {statement : α → Statement S} {rows : List α}
    (h : ∀ row, decide ((statement row).write ∈ writes) = true) :
    Confined writes (rows.map statement) := by
  intro s hs
  obtain ⟨row, -, rfl⟩ := List.mem_map.mp hs
  exact of_decide_eq_true (h row)

theorem Confined.flatMap {α : Type} {statements : α → List (Statement S)} {rows : List α}
    (h : ∀ row, Confined writes (statements row)) : Confined writes (rows.flatMap statements) := by
  intro s hs
  obtain ⟨row, -, hs⟩ := List.mem_flatMap.mp hs
  exact h row s hs

end Confined

/-! ## Added rows -/

/-- Every row the statement adds to the table meets a condition. -/
def Statement.AddsOnly (s : Statement S) (t : S.Table) (New : S.Row t → Prop) : Prop :=
  ∀ db db', s.apply db = some db' → ∀ r ∈ db'.rows t, r ∈ db.rows t ∨ New r

theorem Statement.addsOnly_of_ne {s : Statement S} {t : S.Table} {New : S.Row t → Prop}
    (ht : t ≠ s.table) : s.AddsOnly t New := by
  intro db db' h r hr
  rw [Statement.apply_rows_of_ne h ht] at hr
  exact Or.inl hr

/-- An insert of at most one row. -/
theorem Statement.addsOnly_insert {t : S.Table} {New : S.Row t → Prop}
    {values : Database S → List (S.Row t)} {row : S.Row t} (g : Database S → Bool)
    (hvalues : ∀ db, values db = if g db = true then [row] else []) (hnew : New row) :
    (Statement.insert t values).AddsOnly t New := by
  intro db db' h r hr
  rcases Statement.insert_cases h (hvalues db) with ⟨-, rfl⟩ | ⟨-, -, rfl⟩
  · exact Or.inl hr
  · rw [Database.withRows_rows] at hr
    rcases List.mem_append.mp hr with hr | hr
    · exact Or.inl hr
    · exact Or.inr (List.mem_singleton.mp hr ▸ hnew)

theorem Statement.addsOnly_insertOrIgnore {t : S.Table} {New : S.Row t → Prop}
    {values : Database S → List (S.Row t)} {row : S.Row t} (g : Database S → Bool)
    (hvalues : ∀ db, values db = if g db = true then [row] else []) (hnew : New row) :
    (Statement.insertOrIgnore t values).AddsOnly t New := by
  intro db db' h r hr
  rcases Statement.insertOrIgnore_cases h (hvalues db) with rfl | ⟨-, -, rfl⟩
  · exact Or.inl hr
  · rw [Database.withRows_rows] at hr
    rcases List.mem_append.mp hr with hr | hr
    · exact Or.inl hr
    · exact Or.inr (List.mem_singleton.mp hr ▸ hnew)

/-- The rows a batch adds to a table are those its statements add. -/
theorem runBatch_addsOnly {batch : List (Statement S)} {t : S.Table} {New : S.Row t → Prop}
    (h : ∀ s ∈ batch, s.AddsOnly t New) {db db' : Database S} (hrun : runBatch db batch = some db') :
    ∀ r ∈ db'.rows t, r ∈ db.rows t ∨ New r := by
  refine runBatch_induction (P := fun d => ∀ r ∈ d.rows t, r ∈ db.rows t ∨ New r) hrun
    (fun r hr => Or.inl hr) fun s hs a b ha hb r hr => ?_
  rcases h s hs a b hb r hr with hold | hnew
  · exact ha r hold
  · exact Or.inr hnew

/-! ## Conditions on the statements a program sends -/

/-- Every statement of whatever batch a program returns meets a condition. -/
def Each {ε : Type} (P : Statement S → Prop) (program : Except ε (List (Statement S))) : Prop :=
  ∀ batch, program = .ok batch → ∀ s ∈ batch, P s

section Each

variable {P : Statement S → Prop} {ε : Type}

theorem each_ok {batch : List (Statement S)} (h : ∀ s ∈ batch, P s) :
    Each P (.ok batch : Except ε (List (Statement S))) := by
  intro sent hsent
  obtain rfl := Except.ok.inj hsent
  exact h

theorem each_nothing : Each P (.ok [] : Except ε (List (Statement S))) :=
  each_ok (by simp)

/-- Reads and checks before the batch send nothing. -/
theorem each_bind {α : Type} {first : Except ε α} {rest : α → Except ε (List (Statement S))}
    (h : ∀ a, Each P (rest a)) : Each P (first >>= rest) := by
  intro batch hbatch
  cases first with
  | error e => cases hbatch
  | ok a => exact h a batch hbatch

theorem each_ite {p : Prop} [Decidable p] {yes no : Except ε (List (Statement S))}
    (hyes : Each P yes) (hno : Each P no) : Each P (if p then yes else no) := by
  by_cases hp : p
  · rw [if_pos hp]
    exact hyes
  · rw [if_neg hp]
    exact hno

end Each

/-! ## Footprints of programs -/

section Programs

variable {writes : List (TableWrite S.Table)} {ε : Type}

theorem writes_ok {batch : List (Statement S)} (h : Confined writes batch) :
    Writes writes (.ok batch : Except ε (List (Statement S))) :=
  each_ok h

theorem writes_nothing : Writes writes (.ok [] : Except ε (List (Statement S))) :=
  writes_ok .nil

/-- Reads and checks before the batch write nothing. -/
theorem writes_bind {α : Type} {first : Except ε α} {rest : α → Except ε (List (Statement S))}
    (h : ∀ a, Writes writes (rest a)) : Writes writes (first >>= rest) :=
  each_bind h

theorem writes_map {α : Type} {first : Except ε α} {batch : α → List (Statement S)}
    (h : ∀ a, Confined writes (batch a)) : Writes writes (first.map batch) := by
  intro sent hsent
  cases first with
  | error e => cases hsent
  | ok a =>
      obtain rfl := Except.ok.inj hsent
      exact h a

theorem writes_ite {p : Prop} [Decidable p] {yes no : Except ε (List (Statement S))}
    (hyes : Writes writes yes) (hno : Writes writes no) :
    Writes writes (if p then yes else no) :=
  each_ite hyes hno

end Programs

end Relational
end TokenStreaming
