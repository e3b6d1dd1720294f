import Mathlib.Data.List.Nodup

/-!
# Foundation - Maps that keep the order of insertion

A map as the language's standard library has it: entries are enumerated in the
order their keys were first set, and setting a key again replaces its value in
place.  A map carries the proof that its keys differ.

Main results:

- Theorem {lit}`get_set_self`, {lit}`get_set_ne`: reading after setting.
- Theorem {lit}`entries_set_of_get_eq_none`: a new key goes to the end.
- Theorem {lit}`get_eq_some_iff`: what is read is what is stored.
-/

namespace TokenStreaming

/-- A map with its entries in the order of insertion. -/
structure InsertionMap (κ ν : Type) where
  entries : List (κ × ν)
  nodup_keys : (entries.map Prod.fst).Nodup

namespace InsertionMap

variable {κ ν : Type}

@[ext]
theorem ext {m m' : InsertionMap κ ν} (h : m.entries = m'.entries) : m = m' := by
  cases m
  cases m'
  cases h
  rfl

/-- The map without entries. -/
def empty : InsertionMap κ ν where
  entries := []
  nodup_keys := List.nodup_nil

@[simp]
theorem entries_empty : (empty : InsertionMap κ ν).entries = [] :=
  rfl

/-- The number of entries. -/
def size (m : InsertionMap κ ν) : Nat :=
  m.entries.length

/-- Keep the entries that satisfy a test. -/
def filter (p : κ → ν → Bool) (m : InsertionMap κ ν) : InsertionMap κ ν where
  entries := m.entries.filter fun e => p e.1 e.2
  nodup_keys := m.nodup_keys.sublist (List.filter_sublist.map _)

@[simp]
theorem entries_filter (p : κ → ν → Bool) (m : InsertionMap κ ν) :
    (m.filter p).entries = m.entries.filter fun e => p e.1 e.2 :=
  rfl

section Lookup

variable [DecidableEq κ]

/-- The value stored under a key. -/
def get (m : InsertionMap κ ν) (key : κ) : Option ν :=
  m.entries.lookup key

/-- The key has a value. -/
def has (m : InsertionMap κ ν) (key : κ) : Bool :=
  (m.get key).isSome

/-- Replace the value of a key that is present. -/
def replaceEntry (key : κ) (value : ν) (entries : List (κ × ν)) : List (κ × ν) :=
  entries.map fun e => if e.1 = key then (key, value) else e

theorem keys_replaceEntry (key : κ) (value : ν) (entries : List (κ × ν)) :
    (replaceEntry key value entries).map Prod.fst = entries.map Prod.fst := by
  rw [replaceEntry, List.map_map]
  refine List.map_congr_left ?_
  intro e _
  by_cases hkey : e.1 = key
  · simp [hkey]
  · simp [hkey]

/-- Store a value under a key: in place where the key is present, else at the end. -/
def set (m : InsertionMap κ ν) (key : κ) (value : ν) : InsertionMap κ ν where
  entries :=
    if key ∈ m.entries.map Prod.fst then replaceEntry key value m.entries
    else m.entries ++ [(key, value)]
  nodup_keys := by
    split
    · rw [keys_replaceEntry]
      exact m.nodup_keys
    · rename_i hnew
      rw [List.map_append, List.nodup_append]
      refine ⟨m.nodup_keys, List.nodup_singleton _, ?_⟩
      intro k hk k' hk' heq
      rw [List.map_singleton, List.mem_singleton] at hk'
      rw [heq, hk'] at hk
      exact hnew hk

/-- A stored entry is the one its key reads. -/
theorem get_eq_some_iff {m : InsertionMap κ ν} {key : κ} {value : ν} :
    m.get key = some value ↔ (key, value) ∈ m.entries := by
  obtain ⟨entries, hnodup⟩ := m
  unfold get
  simp only
  induction entries with
  | nil => simp
  | cons e entries ih =>
      obtain ⟨k, v⟩ := e
      rw [List.map_cons, List.nodup_cons] at hnodup
      rw [List.lookup_cons, List.mem_cons, Prod.mk.injEq]
      by_cases hkey : key = k
      · have hfresh : (key, value) ∉ entries := by
          intro hmem
          exact hnodup.1 (List.mem_map.mpr ⟨_, hmem, hkey⟩)
        simp [hkey]
        constructor
        · exact fun h => Or.inl h.symm
        · intro h
          rcases h with h | h
          · exact h.symm
          · exact absurd (hkey ▸ h) hfresh
      · have hne : (key == k) = false := beq_eq_false_iff_ne.mpr hkey
        rw [hne]
        simp only [hkey, false_and, false_or]
        exact ih hnodup.2

theorem get_eq_none_iff {m : InsertionMap κ ν} {key : κ} :
    m.get key = none ↔ key ∉ m.entries.map Prod.fst := by
  constructor
  · intro hget hmem
    obtain ⟨e, he, hkey⟩ := List.mem_map.mp hmem
    have hsome : m.get key = some e.2 := get_eq_some_iff.mpr (hkey ▸ he)
    rw [hget] at hsome
    cases hsome
  · intro hnotin
    cases hget : m.get key with
    | none => rfl
    | some value =>
        exact absurd (List.mem_map.mpr ⟨_, get_eq_some_iff.mp hget, rfl⟩) hnotin

@[simp]
theorem get_empty (key : κ) : (empty : InsertionMap κ ν).get key = none :=
  rfl

theorem has_eq_false_iff {m : InsertionMap κ ν} {key : κ} :
    m.has key = false ↔ key ∉ m.entries.map Prod.fst := by
  rw [has, Option.isSome_eq_false_iff, Option.isNone_iff_eq_none, get_eq_none_iff]

/-- A new key goes to the end. -/
theorem entries_set_of_notMem {m : InsertionMap κ ν} {key : κ}
    (h : key ∉ m.entries.map Prod.fst) (value : ν) :
    (m.set key value).entries = m.entries ++ [(key, value)] := by
  exact if_neg h

theorem entries_set_of_mem {m : InsertionMap κ ν} {key : κ}
    (h : key ∈ m.entries.map Prod.fst) (value : ν) :
    (m.set key value).entries = replaceEntry key value m.entries := by
  exact if_pos h

theorem mem_entries_set {m : InsertionMap κ ν} {key : κ} {value : ν} {e : κ × ν} :
    e ∈ (m.set key value).entries ↔ e = (key, value) ∨ (e ∈ m.entries ∧ e.1 ≠ key) := by
  by_cases hmem : key ∈ m.entries.map Prod.fst
  · rw [entries_set_of_mem hmem, replaceEntry, List.mem_map]
    constructor
    · rintro ⟨old, hold, heq⟩
      by_cases hkey : old.1 = key
      · rw [if_pos hkey] at heq
        exact Or.inl heq.symm
      · rw [if_neg hkey] at heq
        exact Or.inr (heq ▸ ⟨hold, hkey⟩)
    · intro h
      rcases h with h | ⟨hold, hkey⟩
      · obtain ⟨old, hold, hkey⟩ := List.mem_map.mp hmem
        exact ⟨old, hold, by rw [if_pos hkey, h]⟩
      · exact ⟨e, hold, if_neg hkey⟩
  · rw [entries_set_of_notMem hmem, List.mem_append, List.mem_singleton]
    constructor
    · intro h
      rcases h with h | h
      · refine Or.inr ⟨h, ?_⟩
        intro hkey
        exact hmem (List.mem_map.mpr ⟨e, h, hkey⟩)
      · exact Or.inl h
    · intro h
      rcases h with h | h
      · exact Or.inr h
      · exact Or.inl h.1

@[simp]
theorem get_set_self (m : InsertionMap κ ν) (key : κ) (value : ν) :
    (m.set key value).get key = some value := by
  rw [get_eq_some_iff, mem_entries_set]
  exact Or.inl rfl

theorem get_set_ne {m : InsertionMap κ ν} {key other : κ} (h : other ≠ key) (value : ν) :
    (m.set key value).get other = m.get other := by
  ext v
  rw [get_eq_some_iff, get_eq_some_iff, mem_entries_set]
  constructor
  · intro hmem
    rcases hmem with hmem | hmem
    · exact absurd (congrArg Prod.fst hmem) h
    · exact hmem.1
  · intro hmem
    exact Or.inr ⟨hmem, h⟩

/-- The second of two values for one key stays. -/
theorem set_set (m : InsertionMap κ ν) (key : κ) (value value' : ν) :
    (m.set key value).set key value' = m.set key value' := by
  apply InsertionMap.ext
  have hmem : key ∈ (m.set key value).entries.map Prod.fst :=
    List.mem_map.mpr ⟨(key, value), mem_entries_set.mpr (Or.inl rfl), rfl⟩
  rw [entries_set_of_mem hmem]
  by_cases hold : key ∈ m.entries.map Prod.fst
  · rw [entries_set_of_mem hold, entries_set_of_mem hold, replaceEntry, replaceEntry, replaceEntry,
      List.map_map]
    refine List.map_congr_left ?_
    intro e _
    by_cases hkey : e.1 = key
    · simp [hkey]
    · simp [hkey]
  · rw [entries_set_of_notMem hold, entries_set_of_notMem hold, replaceEntry, List.map_append]
    have hsame : m.entries.map (fun e => if e.1 = key then (key, value') else e) = m.entries := by
      refine (List.map_congr_left ?_).trans (List.map_id _)
      intro e he
      exact if_neg fun hkey => hold (List.mem_map.mpr ⟨e, he, hkey⟩)
    rw [hsame, List.map_singleton, if_pos rfl]

/-- An entry that passes the test stays readable. -/
theorem get_filter_eq_some_iff {m : InsertionMap κ ν} {p : κ → ν → Bool} {key : κ} {value : ν} :
    (m.filter p).get key = some value ↔ m.get key = some value ∧ p key value = true := by
  rw [get_eq_some_iff, get_eq_some_iff, entries_filter, List.mem_filter]

end Lookup

end InsertionMap
end TokenStreaming
