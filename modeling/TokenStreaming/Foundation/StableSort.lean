import Mathlib.Data.List.Nodup

/-!
# Foundation - The first item of a stable sort

A list is sorted by a comparison that may find different items equal; items it
finds equal keep their order.  Which item comes first then depends on the whole
list, and is told by who outranks whom.

Main results:

- Theorem {lit}`not_outranks_first`: nothing outranks the first item.
- Theorem {lit}`first_outranks`: the first item outranks every other.
- Theorem {lit}`first_avoids_iff`: the first item lacks a property if and only if
  every item with the property is outranked.
-/

namespace TokenStreaming

variable {α : Type} (cmp : α → α → Ordering)

/-- {lit}`list.sort(cmp)`. -/
def sortBy (l : List α) : List α :=
  l.mergeSort fun a b => (cmp a b).isLE

/-- An item comes before another: it is smaller, or equal and earlier in the list. -/
def Outranks (l : List α) (a b : α) : Prop :=
  cmp a b = .lt ∨ (cmp a b = .eq ∧ [a, b].Sublist l)

@[simp]
theorem mem_sortBy {l : List α} {a : α} : a ∈ sortBy cmp l ↔ a ∈ l :=
  List.mem_mergeSort

theorem sortBy_eq_nil_iff {l : List α} : sortBy cmp l = [] ↔ l = [] := by
  rw [← List.length_eq_zero_iff, ← List.length_eq_zero_iff, sortBy, List.length_mergeSort]

section Ordered

variable [Std.TransCmp cmp]

theorem isLE_total (a b : α) : ((cmp a b).isLE || (cmp b a).isLE) = true := by
  have hswap : cmp b a = (cmp a b).swap := Std.OrientedCmp.eq_swap
  rw [hswap]
  cases cmp a b with
  | lt => rfl
  | eq => rfl
  | gt => rfl

theorem pairwise_sortBy (l : List α) : (sortBy cmp l).Pairwise fun a b => (cmp a b).isLE = true :=
  List.pairwise_mergeSort (fun _ _ _ => Std.TransCmp.isLE_trans) (isLE_total cmp) l

/-- Items in order stay in order. -/
theorem pair_sublist_sortBy {l : List α} {a b : α} (hle : (cmp a b).isLE = true)
    (h : [a, b].Sublist l) : [a, b].Sublist (sortBy cmp l) :=
  List.pair_sublist_mergeSort (fun _ _ _ => Std.TransCmp.isLE_trans) (isLE_total cmp) hle h

/-- No item comes twice, so nothing comes before the first. -/
theorem not_pair_sublist_of_head {l : List α} (hl : l.Nodup) {a b : α}
    (hhead : l.head? = some b) : ¬[a, b].Sublist l := by
  intro hpair
  cases l with
  | nil => cases hhead
  | cons c l =>
      rw [List.head?_cons, Option.some.injEq] at hhead
      subst hhead
      rw [List.nodup_cons] at hl
      cases hpair with
      | cons _ hrest => exact hl.1 (hrest.subset (by simp))
      | cons_cons _ hrest => exact hl.1 (hrest.subset (by simp))

variable {l : List α}

/-- Nothing outranks the first item. -/
theorem not_outranks_first (hl : l.Nodup) {first : α}
    (hfirst : (sortBy cmp l).head? = some first) {a : α} (ha : a ∈ l) :
    ¬Outranks cmp l a first := by
  have hsorted := pairwise_sortBy cmp l
  have hnodup : (sortBy cmp l).Nodup := (List.mergeSort_perm _ _).nodup_iff.mpr hl
  intro houtranks
  rcases houtranks with hlt | ⟨heq, hpair⟩
  · have hle : (cmp first a).isLE = true := by
      cases hlist : sortBy cmp l with
      | nil =>
          rw [hlist] at hfirst
          cases hfirst
      | cons b rest =>
          rw [hlist, List.head?_cons, Option.some.injEq] at hfirst
          subst hfirst
          have hmem : a ∈ b :: rest := hlist ▸ (mem_sortBy cmp).mpr ha
          rw [hlist, List.pairwise_cons] at hsorted
          rcases List.mem_cons.mp hmem with rfl | hmem
          · have hself : cmp a a = .eq := Std.ReflCmp.compare_self
            rw [hself]
            rfl
          · exact hsorted.1 a hmem
    have hswap : cmp first a = (cmp a first).swap := Std.OrientedCmp.eq_swap
    rw [hswap, hlt] at hle
    cases hle
  · refine not_pair_sublist_of_head hnodup hfirst (pair_sublist_sortBy cmp ?_ hpair)
    rw [heq]
    rfl

/-- Of two different items, one stands before the other. -/
theorem pair_sublist_or {a b : α} (ha : a ∈ l) (hb : b ∈ l) (hne : a ≠ b) :
    [a, b].Sublist l ∨ [b, a].Sublist l := by
  induction l with
  | nil => cases ha
  | cons c l ih =>
      rcases List.mem_cons.mp ha with rfl | ha'
      · rcases List.mem_cons.mp hb with rfl | hb'
        · exact absurd rfl hne
        · exact Or.inl (List.Sublist.cons_cons _ (List.singleton_sublist.mpr hb'))
      · rcases List.mem_cons.mp hb with rfl | hb'
        · exact Or.inr (List.Sublist.cons_cons _ (List.singleton_sublist.mpr ha'))
        · rcases ih ha' hb' with h | h
          · exact Or.inl (h.cons _)
          · exact Or.inr (h.cons _)

/-- Of two different items, one outranks the other. -/
theorem outranks_or {a b : α} (ha : a ∈ l) (hb : b ∈ l) (hne : a ≠ b) :
    Outranks cmp l a b ∨ Outranks cmp l b a := by
  have hswap : cmp b a = (cmp a b).swap := Std.OrientedCmp.eq_swap
  unfold Outranks
  rw [hswap]
  cases cmp a b with
  | lt => exact Or.inl (Or.inl rfl)
  | gt => exact Or.inr (Or.inl rfl)
  | eq =>
      rcases pair_sublist_or ha hb hne with h | h
      · exact Or.inl (Or.inr ⟨rfl, h⟩)
      · exact Or.inr (Or.inr ⟨rfl, h⟩)

/-- The first item outranks every other. -/
theorem first_outranks (hl : l.Nodup) {first : α}
    (hfirst : (sortBy cmp l).head? = some first) {a : α} (ha : a ∈ l) (hne : a ≠ first) :
    Outranks cmp l first a := by
  have hmem : first ∈ l := (mem_sortBy cmp).mp (List.mem_of_head? hfirst)
  rcases outranks_or cmp ha hmem hne with h | h
  · exact absurd h (not_outranks_first cmp hl hfirst ha)
  · exact h

/-- The first item lacks a property if and only if every item with it is outranked. -/
theorem first_avoids_iff (hl : l.Nodup) (p : α → Prop) :
    (∀ first, (sortBy cmp l).head? = some first → ¬p first) ↔
      ∀ a ∈ l, p a → ∃ b ∈ l, Outranks cmp l b a := by
  constructor
  · intro h a ha hp
    cases hhead : (sortBy cmp l).head? with
    | none =>
        rw [List.head?_eq_none_iff, sortBy_eq_nil_iff] at hhead
        rw [hhead] at ha
        cases ha
    | some first =>
        have hmem : first ∈ l := (mem_sortBy cmp).mp (List.mem_of_head? hhead)
        have hne : a ≠ first := by
          intro heq
          exact h first hhead (heq ▸ hp)
        exact ⟨first, hmem, first_outranks cmp hl hhead ha hne⟩
  · intro h first hfirst hp
    have hmem : first ∈ l := (mem_sortBy cmp).mp (List.mem_of_head? hfirst)
    obtain ⟨b, hb, houtranks⟩ := h first hmem hp
    exact not_outranks_first cmp hl hfirst hb houtranks

end Ordered

end TokenStreaming
