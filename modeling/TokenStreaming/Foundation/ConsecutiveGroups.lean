import Mathlib.Data.List.Basic

/-!
# Foundation - Lists cut into consecutive groups

A list that is the concatenation of groups has each of its positions in exactly
one of them.  Groups that are replaced by one item each make a shorter list,
which may be cut again; through any number of such rounds each position leads
along exactly one path.

Main results:

- Theorem {lit}`existsUnique_holdsAt`: a position lies in exactly one group.
- Theorem {lit}`existsUnique_path`: a position leads along exactly one path.
-/

namespace TokenStreaming
namespace ConsecutiveGroups

variable {α : Type}

/-- The group with an index holds a position of the concatenation. -/
def HoldsAt (groups : List (List α)) (position index : Nat) : Prop :=
  index < groups.length ∧ (groups.take index).flatten.length ≤ position ∧
    position < (groups.take (index + 1)).flatten.length

theorem holdsAt_cons_zero {group : List α} {groups : List (List α)} {position : Nat} :
    HoldsAt (group :: groups) position 0 ↔ position < group.length := by
  simp [HoldsAt]

theorem holdsAt_cons_succ {group : List α} {groups : List (List α)} {position index : Nat} :
    HoldsAt (group :: groups) position (index + 1) ↔
      group.length ≤ position ∧ HoldsAt groups (position - group.length) index := by
  simp only [HoldsAt, List.length_cons, List.take_succ_cons, List.flatten_cons,
    List.length_append]
  omega

/-- A position lies in exactly one group. -/
theorem existsUnique_holdsAt {groups : List (List α)} {position : Nat}
    (h : position < groups.flatten.length) : ∃! index, HoldsAt groups position index := by
  induction groups generalizing position with
  | nil => exact absurd h (Nat.not_lt_zero _)
  | cons group groups ih =>
      by_cases hfirst : position < group.length
      · refine ⟨0, holdsAt_cons_zero.mpr hfirst, ?_⟩
        intro index hindex
        cases index with
        | zero => rfl
        | succ index =>
            rw [holdsAt_cons_succ] at hindex
            omega
      · rw [List.flatten_cons, List.length_append] at h
        obtain ⟨index, hindex, hunique⟩ := @ih (position - group.length) (by omega)
        refine ⟨index + 1, holdsAt_cons_succ.mpr ⟨by omega, hindex⟩, ?_⟩
        intro other hother
        cases other with
        | zero => exact absurd (holdsAt_cons_zero.mp hother) hfirst
        | succ other =>
            have hsame := hunique other (holdsAt_cons_succ.mp hother).2
            rw [hsame]

/-- The indices of the groups that a position is in, round by round. -/
def Path : List (List (List α)) → Nat → List Nat → Prop
  | [], _, path => path = []
  | groups :: rounds, position, path =>
      ∃ index rest, path = index :: rest ∧ HoldsAt groups position index ∧
        Path rounds index rest

/-- The groups of each round cut a list with one item for each group of the round before. -/
def Chained : Nat → List (List (List α)) → Prop
  | _, [] => True
  | count, groups :: rounds => groups.flatten.length = count ∧ Chained groups.length rounds

/-- A position leads along exactly one path. -/
theorem existsUnique_path {rounds : List (List (List α))} {count position : Nat}
    (hrounds : Chained count rounds) (h : position < count) :
    ∃! path, Path rounds position path := by
  induction rounds generalizing count position with
  | nil =>
      refine ⟨[], rfl, ?_⟩
      intro path hpath
      exact hpath
  | cons groups rounds ih =>
      obtain ⟨hcount, hrest⟩ := hrounds
      rw [← hcount] at h
      obtain ⟨index, hindex, hindexUnique⟩ := existsUnique_holdsAt h
      obtain ⟨rest, hpath, hpathUnique⟩ := ih hrest hindex.1
      refine ⟨index :: rest, ⟨index, rest, rfl, hindex, hpath⟩, ?_⟩
      intro path hother
      obtain ⟨index', rest', rfl, hindex', hpath'⟩ := hother
      have hsame : index' = index := hindexUnique index' hindex'
      subst hsame
      have hsameRest : rest' = rest := hpathUnique rest' hpath'
      rw [hsameRest]

end ConsecutiveGroups
end TokenStreaming
