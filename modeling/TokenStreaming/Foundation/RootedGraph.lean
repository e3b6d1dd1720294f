import Mathlib.Data.List.Basic
import Mathlib.Data.Set.Card

/-!
# Foundation - Trees in a rooted graph

What is reached from a node along the lists of children, path by path.  A graph is a tree
of its marked nodes if no marked node is reached along two paths.  A search that visits the
children from a stack and refuses a marked node it has seen accepts exactly the trees.

Main results:

- Theorem {lit}`isTree_iff`: a tree, by its root and the trees below it.
- Theorem {lit}`Forest.cons_marked`: what a search does at a marked node.
- Theorem {lit}`reached_cons_marked`: the marked nodes at and below a stack.
-/

namespace TokenStreaming
namespace RootedGraph

variable {α : Type} (children : α → List α) (marked : α → Prop)

/-! ## Paths -/

/-- The node at a path of positions. -/
def nodeAt (a : α) : List Nat → Option α
  | [] => some a
  | i :: path => (children a)[i]?.bind fun child => nodeAt child path

/-- Some path leads from one node to the other. -/
def Reaches (a b : α) : Prop :=
  ∃ path, nodeAt children a path = some b

/-- What holds at each path, with the depth counted from a start. -/
def EachAt (P : Nat → α → Prop) (depth : Nat) (a : α) : Prop :=
  ∀ path b, nodeAt children a path = some b → P (depth + path.length) b

/-- No marked node is reached along two paths. -/
def IsTree (a : α) : Prop :=
  ∀ path path' b, marked b → nodeAt children a path = some b →
    nodeAt children a path' = some b → path = path'

/-- No marked node is reached from both. -/
def Separate (a b : α) : Prop :=
  ∀ c, marked c → Reaches children a c → ¬ Reaches children b c

variable {children marked}

theorem nodeAt_cons {a b : α} {i : Nat} {path : List Nat} :
    nodeAt children a (i :: path) = some b ↔
      ∃ child, (children a)[i]? = some child ∧ nodeAt children child path = some b := by
  simp [nodeAt, Option.bind_eq_some_iff]

theorem Reaches.refl (a : α) : Reaches children a a :=
  ⟨[], rfl⟩

theorem Reaches.of_child {a child b : α} (hchild : child ∈ children a)
    (h : Reaches children child b) : Reaches children a b := by
  rcases List.mem_iff_getElem?.mp hchild with ⟨i, hi⟩
  rcases h with ⟨path, hpath⟩
  exact ⟨i :: path, nodeAt_cons.mpr ⟨child, hi, hpath⟩⟩

/-- What is reached is the node itself or reached from a child. -/
theorem reaches_iff {a b : α} :
    Reaches children a b ↔ b = a ∨ ∃ child ∈ children a, Reaches children child b := by
  constructor
  · rintro ⟨path, hpath⟩
    cases path with
    | nil => exact .inl (Option.some.inj hpath).symm
    | cons i path =>
        rcases nodeAt_cons.mp hpath with ⟨child, hi, hrest⟩
        exact .inr ⟨child, List.mem_of_getElem? hi, path, hrest⟩
  · rintro (rfl | ⟨child, hchild, hreaches⟩)
    · exact .refl b
    · exact .of_child hchild hreaches

theorem eachAt_iff {P : Nat → α → Prop} {depth : Nat} {a : α} :
    EachAt children P depth a ↔
      P depth a ∧ ∀ child ∈ children a, EachAt children P (depth + 1) child := by
  constructor
  · intro h
    refine ⟨h [] a rfl, fun child hchild path b hpath => ?_⟩
    rcases List.mem_iff_getElem?.mp hchild with ⟨i, hi⟩
    have hat := h (i :: path) b (nodeAt_cons.mpr ⟨child, hi, hpath⟩)
    rwa [List.length_cons, Nat.add_comm path.length, ← Nat.add_assoc] at hat
  · rintro ⟨hroot, hchildren⟩ path b hpath
    cases path with
    | nil =>
        rw [← Option.some.inj hpath]
        exact hroot
    | cons i path =>
        rcases nodeAt_cons.mp hpath with ⟨child, hi, hrest⟩
        have hat := hchildren child (List.mem_of_getElem? hi) path b hrest
        rwa [List.length_cons, Nat.add_comm path.length, ← Nat.add_assoc]

theorem Separate.symm {a b : α} (h : Separate children marked a b) :
    Separate children marked b a :=
  fun c hc hb ha => h c hc ha hb

/-! ## Trees -/

/-- The parts of a tree are trees, apart from each other and from their root. -/
theorem IsTree.parts {a : α} (h : IsTree children marked a) :
    (∀ child ∈ children a, IsTree children marked child) ∧
      (children a).Pairwise (Separate children marked) ∧
      (marked a → ∀ child ∈ children a, ¬ Reaches children child a) := by
  refine ⟨fun child hchild path path' b hb hpath hpath' => ?_, ?_, ?_⟩
  · rcases List.mem_iff_getElem?.mp hchild with ⟨i, hi⟩
    have heq := h (i :: path) (i :: path') b hb (nodeAt_cons.mpr ⟨child, hi, hpath⟩)
      (nodeAt_cons.mpr ⟨child, hi, hpath'⟩)
    exact (List.cons.inj heq).2
  · rw [List.pairwise_iff_getElem]
    rintro i j hi hj hlt c hc ⟨path, hpath⟩ ⟨path', hpath'⟩
    have heq := h (i :: path) (j :: path') c hc
      (nodeAt_cons.mpr ⟨_, List.getElem?_eq_getElem hi, hpath⟩)
      (nodeAt_cons.mpr ⟨_, List.getElem?_eq_getElem hj, hpath'⟩)
    have hij : i = j := (List.cons.inj heq).1
    omega
  · rintro ha child hchild ⟨path, hpath⟩
    rcases List.mem_iff_getElem?.mp hchild with ⟨i, hi⟩
    have heq := h [] (i :: path) a ha rfl (nodeAt_cons.mpr ⟨child, hi, hpath⟩)
    exact List.cons_ne_nil _ _ heq.symm

/-- A tree, by its root and the trees below it. -/
theorem isTree_iff {a : α} :
    IsTree children marked a ↔
      (∀ child ∈ children a, IsTree children marked child) ∧
        (children a).Pairwise (Separate children marked) ∧
        (marked a → ∀ child ∈ children a, ¬ Reaches children child a) := by
  refine ⟨IsTree.parts, ?_⟩
  rintro ⟨htrees, hapart, hroot⟩ path path' b hb hpath hpath'
  -- by where the two paths go first
  cases path with
  | nil =>
      cases path' with
      | nil => rfl
      | cons i path' =>
          rcases nodeAt_cons.mp hpath' with ⟨child, hi, hrest⟩
          have hab : a = b := Option.some.inj hpath
          subst hab
          exact absurd ⟨path', hrest⟩ (hroot hb child (List.mem_of_getElem? hi))
  | cons i path =>
      rcases nodeAt_cons.mp hpath with ⟨child, hi, hrest⟩
      cases path' with
      | nil =>
          have hab : a = b := Option.some.inj hpath'
          subst hab
          exact absurd ⟨path, hrest⟩ (hroot hb child (List.mem_of_getElem? hi))
      | cons j path' =>
          rcases nodeAt_cons.mp hpath' with ⟨child', hj, hrest'⟩
          obtain ⟨hilt, higet⟩ := List.getElem?_eq_some_iff.mp hi
          obtain ⟨hjlt, hjget⟩ := List.getElem?_eq_some_iff.mp hj
          have hpairs := List.pairwise_iff_getElem.mp hapart
          rcases Nat.lt_trichotomy i j with hlt | heq | hgt
          · have hsep := hpairs i j hilt hjlt hlt
            rw [higet, hjget] at hsep
            exact absurd ⟨path', hrest'⟩ (hsep b hb ⟨path, hrest⟩)
          · subst heq
            have hsame : child = child' := higet.symm.trans hjget
            subst hsame
            rw [htrees child (List.mem_of_getElem? hi) path path' b hb hrest hrest']
          · have hsep := hpairs j i hjlt hilt hgt
            rw [higet, hjget] at hsep
            exact absurd ⟨path, hrest⟩ (hsep b hb ⟨path', hrest'⟩)

/-! ## Search -/

variable (children marked)

/-- The nodes of a stack are trees, apart from each other and from what has been seen. -/
structure Forest (seen stack : List α) : Prop where
  trees : ∀ a ∈ stack, IsTree children marked a
  apart : stack.Pairwise (Separate children marked)
  unseen : ∀ a ∈ stack, ∀ s ∈ seen, ¬ Reaches children a s

/-- The marked nodes that are reached from a stack. -/
def reached (stack : List α) : Set α :=
  {b | marked b ∧ ∃ a ∈ stack, Reaches children a b}

variable {children marked}

@[simp]
theorem reached_nil : reached children marked [] = ∅ := by
  ext b
  simp [reached]

theorem Forest.nil (seen : List α) : Forest children marked seen [] where
  trees := fun _ ha => absurd ha List.not_mem_nil
  apart := .nil
  unseen := fun _ ha => absurd ha List.not_mem_nil

/-- A tree is a forest before anything has been seen. -/
theorem forest_singleton {a : α} :
    Forest children marked [] [a] ↔ IsTree children marked a := by
  constructor
  · exact fun h => h.trees a (List.mem_singleton_self a)
  · intro h
    constructor
    · intro b hb
      rwa [List.mem_singleton.mp hb]
    · exact List.pairwise_singleton ..
    · exact fun _ _ s hs => absurd hs List.not_mem_nil

/-- A node without children reaches itself only. -/
theorem reaches_leaf {a b : α} (hleaf : children a = []) (h : Reaches children a b) : b = a := by
  rcases reaches_iff.mp h with heq | ⟨child, hchild, _⟩
  · exact heq
  · rw [hleaf] at hchild
    exact absurd hchild List.not_mem_nil

/-- An unmarked leaf changes nothing. -/
theorem Forest.cons_leaf {a : α} (seen stack : List α) (hmark : ¬ marked a)
    (hleaf : children a = []) (hseen : ∀ s ∈ seen, marked s) :
    Forest children marked seen (a :: stack) ↔ Forest children marked seen stack := by
  constructor
  · intro h
    constructor
    · exact fun b hb => h.trees b (List.mem_cons_of_mem a hb)
    · exact (List.pairwise_cons.mp h.apart).2
    · exact fun b hb => h.unseen b (List.mem_cons_of_mem a hb)
  · intro h
    have hunmarked : ∀ c, marked c → ¬ Reaches children a c := by
      intro c hc hreaches
      rw [reaches_leaf hleaf hreaches] at hc
      exact hmark hc
    constructor
    · intro b hb
      rcases List.mem_cons.mp hb with rfl | hb
      · exact fun path path' c hc hpath _ => absurd ⟨path, hpath⟩ (hunmarked c hc)
      · exact h.trees b hb
    · exact List.pairwise_cons.mpr ⟨fun b _ c hc ha => absurd ha (hunmarked c hc), h.apart⟩
    · intro b hb s hs
      rcases List.mem_cons.mp hb with rfl | hb
      · exact hunmarked s (hseen s hs)
      · exact h.unseen b hb s hs

theorem reached_cons_leaf {a : α} (stack : List α) (hmark : ¬ marked a)
    (hleaf : children a = []) :
    reached children marked (a :: stack) = reached children marked stack := by
  ext b
  constructor
  · rintro ⟨hb, c, hc, hreaches⟩
    rcases List.mem_cons.mp hc with rfl | hc
    · rw [reaches_leaf hleaf hreaches] at hb
      exact absurd hb hmark
    · exact ⟨hb, c, hc, hreaches⟩
  · rintro ⟨hb, c, hc, hreaches⟩
    exact ⟨hb, c, List.mem_cons_of_mem a hc, hreaches⟩

/-- A search goes on behind a marked node with its children, in any order, and has seen it. -/
theorem Forest.cons_marked {pushed : List α} {a : α} (seen stack : List α) (hmark : marked a)
    (hpushed : pushed.Perm (children a)) :
    Forest children marked seen (a :: stack) ↔
      a ∉ seen ∧ Forest children marked (a :: seen) (pushed ++ stack) := by
  have hsymm : ∀ {b c : α}, Separate children marked b c → Separate children marked c b :=
    fun h => h.symm
  have hmem : ∀ {b : α}, b ∈ pushed ↔ b ∈ children a := hpushed.mem_iff
  constructor
  · intro h
    obtain ⟨htrees, hapart, hroot⟩ := isTree_iff.mp (h.trees a List.mem_cons_self)
    obtain ⟨hsep, hrest⟩ := List.pairwise_cons.mp h.apart
    refine ⟨fun hin => h.unseen a List.mem_cons_self a hin (.refl a), ?_, ?_, ?_⟩
    · intro b hb
      rcases List.mem_append.mp hb with hb | hb
      · exact htrees b (hmem.mp hb)
      · exact h.trees b (List.mem_cons_of_mem a hb)
    · refine List.pairwise_append.mpr ⟨(hpushed.pairwise_iff hsymm).mpr hapart, hrest, ?_⟩
      intro b hb c hc d hd hbd hcd
      exact hsep c hc d hd (.of_child (hmem.mp hb) hbd) hcd
    · intro b hb s hs
      rcases List.mem_cons.mp hs with rfl | hs
      · rcases List.mem_append.mp hb with hb | hb
        · exact hroot hmark b (hmem.mp hb)
        · exact hsep b hb s hmark (.refl s)
      · rcases List.mem_append.mp hb with hb | hb
        · exact fun hreaches => h.unseen a List.mem_cons_self s hs
            (.of_child (hmem.mp hb) hreaches)
        · exact h.unseen b (List.mem_cons_of_mem a hb) s hs
  · rintro ⟨hnew, h⟩
    obtain ⟨hinner, hrest, hcross⟩ := List.pairwise_append.mp h.apart
    have hbelow : ∀ b ∈ children a, b ∈ pushed ++ stack :=
      fun b hb => List.mem_append_left stack (hmem.mpr hb)
    constructor
    · intro b hb
      rcases List.mem_cons.mp hb with rfl | hb
      · refine isTree_iff.mpr ⟨fun c hc => h.trees c (hbelow c hc),
          (hpushed.pairwise_iff hsymm).mp hinner, fun _ c hc => ?_⟩
        exact h.unseen c (hbelow c hc) b List.mem_cons_self
      · exact h.trees b (List.mem_append_right pushed hb)
    · refine List.pairwise_cons.mpr ⟨fun b hb c hc hac hbc => ?_, hrest⟩
      rcases reaches_iff.mp hac with rfl | ⟨child, hchild, hreaches⟩
      · exact h.unseen b (List.mem_append_right pushed hb) c List.mem_cons_self hbc
      · exact hcross child (hmem.mpr hchild) b hb c hc hreaches hbc
    · intro b hb s hs
      rcases List.mem_cons.mp hb with rfl | hb
      · intro hreaches
        rcases reaches_iff.mp hreaches with rfl | ⟨child, hchild, hreaches⟩
        · exact hnew hs
        · exact h.unseen child (hbelow child hchild) s (List.mem_cons_of_mem _ hs) hreaches
      · exact h.unseen b (List.mem_append_right pushed hb) s (List.mem_cons_of_mem a hs)

theorem reached_cons_marked {pushed : List α} {a : α} (stack : List α) (hmark : marked a)
    (hpushed : pushed.Perm (children a)) :
    reached children marked (a :: stack) =
      insert a (reached children marked (pushed ++ stack)) := by
  have hmem : ∀ {b : α}, b ∈ pushed ↔ b ∈ children a := hpushed.mem_iff
  ext b
  constructor
  · rintro ⟨hb, c, hc, hreaches⟩
    rcases List.mem_cons.mp hc with rfl | hc
    · rcases reaches_iff.mp hreaches with rfl | ⟨child, hchild, hreaches⟩
      · exact .inl rfl
      · exact .inr ⟨hb, child, List.mem_append_left stack (hmem.mpr hchild), hreaches⟩
    · exact .inr ⟨hb, c, List.mem_append_right pushed hc, hreaches⟩
  · rintro (rfl | ⟨hb, c, hc, hreaches⟩)
    · exact ⟨hmark, b, List.mem_cons_self, .refl b⟩
    · rcases List.mem_append.mp hc with hc | hc
      · exact ⟨hb, a, List.mem_cons_self, .of_child (hmem.mp hc) hreaches⟩
      · exact ⟨hb, c, List.mem_cons_of_mem a hc, hreaches⟩

/-- What has been seen is not among what a forest reaches. -/
theorem Forest.notMem_reached {seen stack : List α} {a : α}
    (h : Forest children marked seen stack) (ha : a ∈ seen) :
    a ∉ reached children marked stack := by
  rintro ⟨-, b, hb, hreaches⟩
  exact h.unseen b hb a ha hreaches

end RootedGraph
end TokenStreaming
