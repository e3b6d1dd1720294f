import Mathlib.Algebra.BigOperators.Group.List.Basic
import Mathlib.Data.List.Dedup
import Mathlib.Data.List.Induction
import TokenStreaming.Foundation.InsertionMap

/-!
# Foundation - Grouping a list under keys

Items are collected in a map under a key computed from each item.  The first
item of a key starts the group's value, and every item is added to it.

Main results:

- Theorem {lit}`get_group`: the value of a group is the fold of exactly the
  items with its key.
- Theorem {lit}`mem_keys_group`: the keys of the groups are the keys of the items.
- Theorem {lit}`sum_values_group`: what each item adds to its group adds up, over
  all groups, to what all the items add.
-/

namespace TokenStreaming

variable {κ α ν : Type} [DecidableEq κ]

/-- Add an item to the group of its key, which it starts where there is none. -/
def addToGroup (keyOf : α → κ) (start : α → ν) (add : ν → α → ν)
    (groups : InsertionMap κ ν) (item : α) : InsertionMap κ ν :=
  groups.set (keyOf item) (add ((groups.get (keyOf item)).getD (start item)) item)

/-- Collect the items in groups. -/
def group (keyOf : α → κ) (start : α → ν) (add : ν → α → ν) (items : List α) :
    InsertionMap κ ν :=
  items.foldl (addToGroup keyOf start add) InsertionMap.empty

/-- The value of a group: its first item starts it, and all its items are added. -/
def groupValue (start : α → ν) (add : ν → α → ν) : List α → Option ν
  | [] => none
  | first :: rest => some ((first :: rest).foldl add (start first))

variable (keyOf : α → κ) (start : α → ν) (add : ν → α → ν)

@[simp]
theorem group_nil : group keyOf start add [] = InsertionMap.empty :=
  rfl

theorem group_concat (items : List α) (item : α) :
    group keyOf start add (items ++ [item]) =
      addToGroup keyOf start add (group keyOf start add items) item := by
  rw [group, List.foldl_append]
  rfl

/-- One more item at the end of a group. -/
theorem groupValue_concat (items : List α) (item : α) :
    groupValue start add (items ++ [item]) =
      some (add ((groupValue start add items).getD (start item)) item) := by
  cases items with
  | nil => rfl
  | cons first rest =>
      change some ((first :: rest ++ [item]).foldl add (start first)) = _
      rw [List.foldl_append]
      rfl

/-- The value of a group is computed from exactly the items with its key. -/
theorem get_group (items : List α) (key : κ) :
    (group keyOf start add items).get key =
      groupValue start add (items.filter fun item => keyOf item = key) := by
  induction items using List.reverseRecOn with
  | nil => rfl
  | append_singleton items item ih =>
      rw [group_concat, addToGroup, List.filter_append]
      by_cases hkey : keyOf item = key
      · subst hkey
        have hlast : [item].filter (fun other => keyOf other = keyOf item) = [item] := by
          simp
        rw [InsertionMap.get_set_self, hlast, groupValue_concat, ih]
      · have hlast : [item].filter (fun other => keyOf other = key) = [] := by
          simp [hkey]
        rw [InsertionMap.get_set_ne (Ne.symm hkey), hlast, List.append_nil, ih]

/-- The keys of the groups are the keys of the items. -/
theorem mem_keys_group {items : List α} {key : κ} :
    key ∈ (group keyOf start add items).entries.map Prod.fst ↔ key ∈ items.map keyOf := by
  rw [← not_iff_not, ← InsertionMap.get_eq_none_iff, get_group]
  have hnone : ∀ members : List α, groupValue start add members = none ↔ members = [] := by
    intro members
    cases members with
    | nil => simp [groupValue]
    | cons first rest => simp [groupValue]
  rw [hnone, List.filter_eq_nil_iff, List.mem_map]
  simp

/-- Grouping makes one group for each key. -/
theorem keys_group_perm (items : List α) :
    ((group keyOf start add items).entries.map Prod.fst).Perm (items.map keyOf).dedup := by
  rw [List.perm_ext_iff_of_nodup (group keyOf start add items).nodup_keys (List.nodup_dedup _)]
  intro key
  rw [mem_keys_group, List.mem_dedup]

/-- The groups are what their keys' items make of them. -/
theorem entries_group (items : List α) :
    (group keyOf start add items).entries.map some =
      ((group keyOf start add items).entries.map Prod.fst).map fun key =>
        (groupValue start add (items.filter fun item => keyOf item = key)).map (key, ·) := by
  rw [List.map_map]
  refine List.map_congr_left ?_
  intro e he
  have hget : (group keyOf start add items).get e.1 = some e.2 :=
    InsertionMap.get_eq_some_iff.mpr he
  rw [get_group] at hget
  rw [Function.comp_apply, hget]
  rfl

/-- A property of the values that holds when a group starts and is kept by
every item holds of all groups. -/
theorem group_induction {items : List α} {P : ν → Prop} (hstart : ∀ item ∈ items, P (start item))
    (hadd : ∀ v, ∀ item ∈ items, P v → P (add v item)) {e : κ × ν}
    (he : e ∈ (group keyOf start add items).entries) : P e.2 := by
  have hget : (group keyOf start add items).get e.1 = some e.2 :=
    InsertionMap.get_eq_some_iff.mpr he
  rw [get_group] at hget
  have hmem : ∀ item ∈ items.filter (fun item => keyOf item = e.1), item ∈ items := by
    intro item hitem
    exact (List.mem_filter.mp hitem).1
  cases hfilter : items.filter (fun item => keyOf item = e.1) with
  | nil =>
      rw [hfilter] at hget
      cases hget
  | cons first rest =>
      rw [hfilter] at hget hmem
      have hvalue : (first :: rest).foldl add (start first) = e.2 := Option.some.inj hget
      rw [← hvalue]
      have hfold : ∀ (members : List α) (v : ν), (∀ item ∈ members, item ∈ items) → P v →
          P (members.foldl add v) := by
        intro members
        induction members with
        | nil => exact fun v _ hv => hv
        | cons item members ih =>
            intro v hsub hv
            refine ih (add v item) (fun other hother => hsub other (List.mem_cons_of_mem _ hother)) ?_
            exact hadd v item (hsub item List.mem_cons_self) hv
      exact hfold _ _ hmem (hstart first (hmem first List.mem_cons_self))

section Sums

variable {M : Type} [AddCommMonoid M]

/-- Replacing the value of one key changes the sum by the difference. -/
theorem sum_set (m : InsertionMap κ ν) (key : κ) (value : ν) (f : ν → M) (d : M)
    (h : f value = ((m.get key).elim 0 f) + d) :
    ((m.set key value).entries.map fun e => f e.2).sum =
      (m.entries.map fun e => f e.2).sum + d := by
  obtain ⟨entries, hnodup⟩ := m
  by_cases hmem : key ∈ entries.map Prod.fst
  · rw [InsertionMap.entries_set_of_mem hmem]
    unfold InsertionMap.get at h
    simp only at h ⊢
    induction entries with
    | nil => cases hmem
    | cons e entries ih =>
        obtain ⟨k, v⟩ := e
        rw [List.map_cons, List.nodup_cons] at hnodup
        simp only [InsertionMap.replaceEntry, List.map_cons, List.sum_cons]
        by_cases hkey : k = key
        · subst hkey
          have hrest : InsertionMap.replaceEntry k value entries = entries := by
            refine (List.map_congr_left ?_).trans (List.map_id _)
            intro e he
            have hne : e.1 ≠ k := fun heq => hnodup.1 (List.mem_map.mpr ⟨e, he, heq⟩)
            exact if_neg hne
          rw [InsertionMap.replaceEntry] at hrest
          rw [List.lookup_cons_self, Option.elim_some] at h
          rw [if_pos rfl, hrest, h, add_right_comm]
        · have hrest : key ∈ entries.map Prod.fst := by
            rw [List.map_cons, List.mem_cons] at hmem
            rcases hmem with hmem | hmem
            · exact absurd hmem.symm hkey
            · exact hmem
          have hlookup : ((k, v) :: entries).lookup key = entries.lookup key := by
            rw [List.lookup_cons, beq_eq_false_iff_ne.mpr (Ne.symm hkey)]
          rw [hlookup] at h
          have hsum := ih hnodup.2 h hrest
          rw [InsertionMap.replaceEntry] at hsum
          rw [if_neg hkey, hsum, add_assoc]
  · have hget : InsertionMap.get ⟨entries, hnodup⟩ key = none :=
      InsertionMap.get_eq_none_iff.mpr hmem
    rw [InsertionMap.entries_set_of_notMem hmem]
    rw [hget, Option.elim_none, zero_add] at h
    simp [h]

/-- What the items add to their groups adds up over the groups. -/
theorem sum_values_group (items : List α) (f : ν → M) (g : α → M)
    (hstart : ∀ item, f (start item) = 0) (hadd : ∀ v item, f (add v item) = f v + g item) :
    ((group keyOf start add items).entries.map fun e => f e.2).sum = (items.map g).sum := by
  induction items using List.reverseRecOn with
  | nil => rfl
  | append_singleton items item ih =>
      rw [group_concat, addToGroup, List.map_append, List.sum_append, ← ih]
      rw [sum_set _ _ _ f (g item)]
      · simp
      · rw [hadd]
        cases (group keyOf start add items).get (keyOf item) with
        | none => rw [Option.getD_none, hstart, Option.elim_none]
        | some v => rfl

end Sums

end TokenStreaming
