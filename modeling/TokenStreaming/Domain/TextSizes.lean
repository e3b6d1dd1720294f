import TokenStreaming.Foundation.Utf8
import TokenStreaming.Domain.Validation

/-!
# Marketplace domain - Code units and bytes

Lengths of texts are bounded in the code units of the language, and their bytes are what is
sent and charged.

Main results:

- Theorem {lit}`utf8ByteSize_le`: three bytes for a code unit are enough.
-/

namespace TokenStreaming
namespace Domain

/-- The code units {lit}`String.length` counts for a character. -/
def utf16Units (c : Char) : Nat :=
  if c.val > 0xFFFF then 2 else 1

/-- A character takes at most three bytes for each of its code units. -/
theorem utf8Size_le (c : Char) : c.utf8Size ≤ 3 * utf16Units c := by
  have hle := c.utf8Size_le_four
  unfold utf16Units
  by_cases hlarge : c.val > 0xFFFF
  · rw [if_pos hlarge]
    omega
  · have hsmall : c.val ≤ 0xFFFF := UInt32.not_lt.mp hlarge
    rw [if_neg hlarge, Char.utf8Size]
    split
    · omega
    · split
      · omega
      · exact Nat.le_of_eq (if_pos hsmall)

/-- A text takes at most three bytes for each of its code units. -/
theorem utf8ByteSize_le (value : String) : value.utf8ByteSize ≤ 3 * utf16Length value := by
  have hlist : ∀ cs : List Char, (cs.map Char.utf8Size).sum ≤ 3 * (cs.map utf16Units).sum := by
    intro cs
    induction cs with
    | nil => simp
    | cons c cs ih =>
        have hc := utf8Size_le c
        rw [List.map_cons, List.sum_cons, List.map_cons, List.sum_cons]
        omega
  have hvalue := hlist value.toList
  rwa [← Utf8.utf8ByteSize_ofList, String.ofList_toList] at hvalue

end Domain
end TokenStreaming
