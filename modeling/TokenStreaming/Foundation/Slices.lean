import Mathlib.Data.List.Basic
import Mathlib.Tactic.Ring

/-!
# Foundation - Slices of a list

The consecutive slices of a fixed size, by their positions.  A stream that keeps the
unfinished rest of what it has read finds the same slices piece by piece.

Main results:

- Theorem {lit}`fullSlices_append`: the full slices of two pieces.
- Theorem {lit}`slices_eq`: the full slices and the rest are all slices.
- Theorem {lit}`slices_flatten`: slices lose and repeat nothing.
-/

namespace TokenStreaming
namespace Slices

variable {α : Type}

/-- The slice at a position. -/
def slice (n : Nat) (l : List α) (i : Nat) : List α :=
  (l.drop (i * n)).take n

/-- The number of slices of a list, the last of which may be shorter. -/
def sliceCount (n length : Nat) : Nat :=
  (length + n - 1) / n

/-- The consecutive slices, the last of which may be shorter. -/
def slices (n : Nat) (l : List α) : List (List α) :=
  (List.range (sliceCount n l.length)).map (slice n l)

/-- The slices of full size. -/
def fullSlices (n : Nat) (l : List α) : List (List α) :=
  (List.range (l.length / n)).map (slice n l)

/-- What is left behind the full slices. -/
def remainder (n : Nat) (l : List α) : List α :=
  l.drop (l.length / n * n)

/-! ## Pieces -/

@[simp]
theorem fullSlices_nil (n : Nat) : fullSlices n ([] : List α) = [] := by
  simp [fullSlices]

@[simp]
theorem remainder_nil (n : Nat) : remainder n ([] : List α) = [] := by
  simp [remainder]

theorem remainder_length (n : Nat) (l : List α) : (remainder n l).length = l.length % n := by
  have hdiv := Nat.div_add_mod l.length n
  rw [remainder, List.length_drop, Nat.mul_comm]
  omega

/-- A slice of the first piece. -/
theorem slice_append_left {n i : Nat} {a b : List α} (h : i * n + n ≤ a.length) :
    slice n (a ++ b) i = slice n a i := by
  unfold slice
  rw [List.drop_append_of_le_length (by omega), List.take_append_of_le_length]
  rw [List.length_drop]
  omega

/-- A slice behind the full slices of the first piece. -/
theorem slice_append_right {n i : Nat} {a b : List α} :
    slice n (a ++ b) (a.length / n + i) = slice n (remainder n a ++ b) i := by
  have hle : a.length / n * n ≤ a.length := Nat.div_mul_le_self ..
  have hsplit : (a ++ b).drop (a.length / n * n) = remainder n a ++ b :=
    List.drop_append_of_le_length hle
  unfold slice
  rw [← hsplit, List.drop_drop, Nat.add_mul]

/-- How many full slices two pieces have. -/
theorem length_div_append {n : Nat} (hn : 0 < n) (a b : List α) :
    (a ++ b).length / n = a.length / n + (remainder n a ++ b).length / n := by
  have hdiv := Nat.div_add_mod a.length n
  have hsum : (a ++ b).length = (remainder n a ++ b).length + n * (a.length / n) := by
    rw [List.length_append, List.length_append, remainder_length]
    omega
  rw [hsum, Nat.add_mul_div_left _ _ hn, Nat.add_comm]

/-- The full slices of two pieces: those of the first, and those of its rest with the second. -/
theorem fullSlices_append {n : Nat} (hn : 0 < n) (a b : List α) :
    fullSlices n (a ++ b) = fullSlices n a ++ fullSlices n (remainder n a ++ b) := by
  unfold fullSlices
  rw [length_div_append hn, List.range_add, List.map_append, List.map_map]
  congr 1
  · refine List.map_congr_left fun i hi => slice_append_left ?_
    have hlt := List.mem_range.mp hi
    have hle : (i + 1) * n ≤ a.length / n * n := Nat.mul_le_mul_right n hlt
    have hmul := Nat.div_mul_le_self a.length n
    rw [Nat.add_mul] at hle
    omega
  · exact List.map_congr_left fun i _ => slice_append_right

theorem remainder_append {n : Nat} (hn : 0 < n) (a b : List α) :
    remainder n (a ++ b) = remainder n (remainder n a ++ b) := by
  have hle : a.length / n * n ≤ a.length := Nat.div_mul_le_self ..
  have hsplit : (a ++ b).drop (a.length / n * n) = remainder n a ++ b :=
    List.drop_append_of_le_length hle
  rw [remainder, length_div_append hn, Nat.add_mul, ← List.drop_drop, hsplit]
  rfl

/-- One full slice in front. -/
theorem fullSlices_cons {n : Nat} (hn : 0 < n) {l : List α} (h : n ≤ l.length) :
    fullSlices n l = l.take n :: fullSlices n (l.drop n) := by
  have htake : (l.take n).length = n := by
    rw [List.length_take, Nat.min_eq_left h]
  have hone : fullSlices n (l.take n) = [l.take n] := by
    simp [fullSlices, htake, Nat.div_self hn, slice, List.take_take]
  have hrest : remainder n (l.take n) = [] := by
    rw [remainder, htake, Nat.div_self hn]
    simp
  have happend := fullSlices_append hn (l.take n) (l.drop n)
  rwa [List.take_append_drop, hone, hrest, List.nil_append] at happend

theorem remainder_drop {n : Nat} (hn : 0 < n) {l : List α} (h : n ≤ l.length) :
    remainder n (l.drop n) = remainder n l := by
  have htake : (l.take n).length = n := by
    rw [List.length_take, Nat.min_eq_left h]
  have hrest : remainder n (l.take n) = [] := by
    rw [remainder, htake, Nat.div_self hn]
    simp
  have happend := remainder_append hn (l.take n) (l.drop n)
  rw [List.take_append_drop, hrest, List.nil_append] at happend
  exact happend.symm

theorem fullSlices_of_lt {n : Nat} {l : List α} (h : l.length < n) : fullSlices n l = [] := by
  rw [fullSlices, Nat.div_eq_of_lt h]
  rfl

theorem remainder_of_lt {n : Nat} {l : List α} (h : l.length < n) : remainder n l = l := by
  rw [remainder, Nat.div_eq_of_lt h]
  simp

/-! ## All slices -/

/-- The number of slices: the full ones, and one for a rest. -/
theorem sliceCount_eq {n : Nat} (hn : 0 < n) (length : Nat) :
    sliceCount n length = length / n + if length % n = 0 then 0 else 1 := by
  have hdiv := Nat.div_add_mod length n
  have hlt := Nat.mod_lt length hn
  unfold sliceCount
  by_cases hzero : length % n = 0
  · rw [if_pos hzero]
    have hsum : length + n - 1 = (n - 1) + n * (length / n) := by omega
    rw [hsum, Nat.add_mul_div_left _ _ hn, Nat.div_eq_of_lt (by omega)]
    omega
  · rw [if_neg hzero]
    have hsum : length + n - 1 = (length % n - 1) + n * (length / n + 1) := by
      rw [Nat.mul_add]
      omega
    rw [hsum, Nat.add_mul_div_left _ _ hn, Nat.div_eq_of_lt (by omega)]
    omega

/-- All slices: the full ones and the rest. -/
theorem slices_eq {n : Nat} (hn : 0 < n) (l : List α) :
    slices n l = fullSlices n l ++ if remainder n l = [] then [] else [remainder n l] := by
  have hlength := remainder_length n l
  unfold slices fullSlices
  rw [sliceCount_eq hn]
  by_cases hzero : l.length % n = 0
  · have hnil : remainder n l = [] := List.eq_nil_of_length_eq_zero (hlength.trans hzero)
    rw [if_pos hzero, if_pos hnil, List.append_nil, Nat.add_zero]
  · have hne : remainder n l ≠ [] := by
      intro hnil
      rw [hnil] at hlength
      exact hzero hlength.symm
    have hlt : l.length % n < n := Nat.mod_lt _ hn
    have hlast : slice n l (l.length / n) = remainder n l := by
      have htake : (remainder n l).length ≤ n := by omega
      exact List.take_of_length_le htake
    rw [if_neg hzero, if_neg hne, List.range_succ, List.map_append, List.map_cons, List.map_nil,
      hlast]

theorem slice_length {n i : Nat} {l : List α} (h : i * n + n ≤ l.length) :
    (slice n l i).length = n := by
  rw [slice, List.length_take, List.length_drop]
  omega

/-- No slice is empty. -/
theorem slices_ne_nil {n : Nat} (hn : 0 < n) {l s : List α} (h : s ∈ slices n l) : s ≠ [] := by
  rw [slices_eq hn] at h
  rcases List.mem_append.mp h with hfull | hrest
  · rcases List.mem_map.mp hfull with ⟨i, hi, rfl⟩
    have hlt := List.mem_range.mp hi
    have hle : (i + 1) * n ≤ l.length / n * n := Nat.mul_le_mul_right n hlt
    have hmul := Nat.div_mul_le_self l.length n
    rw [Nat.add_mul] at hle
    have hlength : (slice n l i).length = n := slice_length (by omega)
    intro hnil
    rw [hnil] at hlength
    simp at hlength
    omega
  · by_cases hnil : remainder n l = []
    · simp [hnil] at hrest
    · rw [if_neg hnil, List.mem_singleton] at hrest
      rwa [hrest]

/-- Slices lose and repeat nothing. -/
theorem slices_flatten {n : Nat} (hn : 0 < n) (l : List α) : (slices n l).flatten = l := by
  have hfull : ∀ k, k * n ≤ l.length →
      ((List.range k).map (slice n l)).flatten = l.take (k * n) := by
    intro k
    induction k with
    | zero => simp
    | succ k ih =>
        intro hk
        have hle : k * n ≤ l.length := (Nat.mul_le_mul_right n (Nat.le_succ k)).trans hk
        rw [List.range_succ, List.map_append, List.flatten_append, ih hle]
        simp only [List.map_cons, List.map_nil, List.flatten_cons, List.flatten_nil,
          List.append_nil, slice]
        rw [Nat.succ_mul, List.take_add]
  rw [slices_eq hn, List.flatten_append, fullSlices, hfull _ (Nat.div_mul_le_self ..)]
  by_cases hnil : remainder n l = []
  · rw [if_pos hnil, List.flatten_nil, List.append_nil]
    have hdrop : l.drop (l.length / n * n) = [] := hnil
    conv_rhs => rw [← List.take_append_drop (l.length / n * n) l, hdrop, List.append_nil]
  · rw [if_neg hnil]
    simp only [List.flatten_cons, List.flatten_nil, List.append_nil, remainder]
    exact List.take_append_drop ..

theorem slices_length (n : Nat) (l : List α) : (slices n l).length = sliceCount n l.length := by
  simp [slices]

end Slices
end TokenStreaming
