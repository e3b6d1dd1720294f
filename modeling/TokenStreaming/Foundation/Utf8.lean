import Mathlib.Data.List.Basic
import Mathlib.Algebra.Order.Ring.Nat
import Mathlib.Tactic.SplitIfs

/-!
# Foundation - Texts and their UTF-8 bytes

The number of bytes of a text, and the decoder of the encoding standard, which takes the bytes
one by one: a character may begin in one piece of a stream and end in the next.

Main results:

- Theorem {lit}`utf8ByteSize_ofList`: the bytes of a text, character by character.
- Theorem {lit}`feed_size`: one byte completes a character that was held, or is held itself.
- Theorem {lit}`TextDecoder.decode_size`: what a piece decodes to is longer than it by no more
  than the bytes held from before.
-/

namespace TokenStreaming
namespace Utf8

/-! ## Sizes -/

theorem utf8ByteSize_singleton (c : Char) : (String.ofList [c]).utf8ByteSize = c.utf8Size :=
  String.utf8ByteSize_singleton

/-- The bytes of a text, character by character. -/
theorem utf8ByteSize_ofList (cs : List Char) :
    (String.ofList cs).utf8ByteSize = (cs.map Char.utf8Size).sum := by
  induction cs with
  | nil => simp
  | cons c cs ih =>
      have hsplit : String.ofList (c :: cs) = String.ofList [c] ++ String.ofList cs := by
        rw [← String.ofList_append]
        rfl
      rw [hsplit, String.utf8ByteSize_append, utf8ByteSize_singleton, ih, List.map_cons,
        List.sum_cons]

/-- Joining texts adds a separator for each but one. -/
theorem utf8ByteSize_intercalate_le (separator : String) (texts : List String) :
    (separator.intercalate texts).utf8ByteSize ≤
      (texts.map fun text => text.utf8ByteSize + separator.utf8ByteSize).sum := by
  induction texts with
  | nil => simp
  | cons text texts ih =>
      cases texts with
      | nil => simp
      | cons next texts =>
          rw [String.intercalate_cons_cons, String.utf8ByteSize_append,
            String.utf8ByteSize_append, List.map_cons, List.sum_cons]
          omega

/-- A number takes a byte for each digit. -/
theorem utf8ByteSize_toString_le {n k : Nat} (hk : 0 < k) (h : n < 10 ^ k) :
    (toString n).utf8ByteSize ≤ k := by
  have hdigits : ∀ c ∈ Nat.toDigits 10 n, c.utf8Size = 1 := by
    intro c hc
    have hdigit := Nat.isDigit_of_mem_toDigits (by decide) (by decide) hc
    simp only [Char.isDigit, Bool.and_eq_true, decide_eq_true_eq] at hdigit
    have hsmall : c.val ≤ 0x7F := UInt32.le_trans hdigit.2 (by decide)
    exact if_pos hsmall
  have hlength : (Nat.toDigits 10 n).length ≤ k :=
    (Nat.length_toDigits_le_iff (by decide) hk).mpr h
  have hsum : ((Nat.toDigits 10 n).map Char.utf8Size).sum = (Nat.toDigits 10 n).length := by
    rw [List.map_congr_left hdigits]
    simp
  show (Nat.repr n).utf8ByteSize ≤ k
  rw [Nat.repr_eq_ofList_toDigits, utf8ByteSize_ofList, hsum]
  exact hlength

/-! ## The decoder -/

/-- The variables of the decoder. -/
structure Utf8State where
  codePoint : Nat
  bytesSeen : Nat
  bytesNeeded : Nat
  lowerBoundary : Nat
  upperBoundary : Nat
deriving DecidableEq

def Utf8State.initial : Utf8State where
  codePoint := 0
  bytesSeen := 0
  bytesNeeded := 0
  lowerBoundary := 0x80
  upperBoundary := 0xBF

/-- The first byte of a character of several bytes. -/
def startCharacter (b : Nat) : Option Utf8State :=
  if 0xC2 ≤ b ∧ b ≤ 0xDF then
    some { Utf8State.initial with bytesNeeded := 1, codePoint := b % 32 }
  else if 0xE0 ≤ b ∧ b ≤ 0xEF then
    some { Utf8State.initial with
      bytesNeeded := 2
      codePoint := b % 16
      lowerBoundary := if b = 0xE0 then 0xA0 else 0x80
      upperBoundary := if b = 0xED then 0x9F else 0xBF }
  else if 0xF0 ≤ b ∧ b ≤ 0xF4 then
    some { Utf8State.initial with
      bytesNeeded := 3
      codePoint := b % 8
      lowerBoundary := if b = 0xF0 then 0x90 else 0x80
      upperBoundary := if b = 0xF4 then 0x8F else 0xBF }
  else none

/-- One byte: the next state and the character it completes, unless the byte is invalid. -/
def feed (s : Utf8State) (byte : UInt8) : Option (Utf8State × List Char) :=
  let b := byte.toNat
  if s.bytesNeeded = 0 then
    if b ≤ 0x7F then some (.initial, [Char.ofNat b])
    else (startCharacter b).map fun s' => (s', [])
  else if b < s.lowerBoundary ∨ s.upperBoundary < b then none
  else
    let codePoint := s.codePoint * 64 + b % 64
    if s.bytesSeen + 1 = s.bytesNeeded then some (.initial, [Char.ofNat codePoint])
    else some ({ Utf8State.initial with
      codePoint := codePoint, bytesSeen := s.bytesSeen + 1, bytesNeeded := s.bytesNeeded }, [])

/-- Some bytes in turn. -/
def feedAll (s : Utf8State) : List UInt8 → Option (Utf8State × List Char)
  | [] => some (s, [])
  | byte :: bytes =>
      match feed s byte with
      | none => none
      | some (s', chars) => (feedAll s' bytes).map fun rest => (rest.1, chars ++ rest.2)

/-- The bytes of an unfinished character. -/
def Utf8State.held (s : Utf8State) : Nat :=
  if s.bytesNeeded = 0 then 0 else s.bytesSeen + 1

/-- The code point so far fits the bytes it is made of. -/
structure Utf8State.Valid (s : Utf8State) : Prop where
  needed : s.bytesNeeded ≤ 3
  seen : s.bytesNeeded ≠ 0 → s.bytesSeen < s.bytesNeeded
  two : s.bytesNeeded = 1 → s.codePoint < 32
  three : s.bytesNeeded = 2 → s.codePoint < 16 * 64 ^ s.bytesSeen

theorem Utf8State.valid_initial : Utf8State.initial.Valid where
  needed := by decide
  seen := fun h => absurd rfl h
  two := fun h => absurd h (by decide)
  three := fun h => absurd h (by decide)

theorem Utf8State.Valid.held_le {s : Utf8State} (h : s.Valid) : s.held ≤ 3 := by
  have hneeded := h.needed
  unfold Utf8State.held
  by_cases hzero : s.bytesNeeded = 0
  · rw [if_pos hzero]
    omega
  · have hseen := h.seen hzero
    rw [if_neg hzero]
    omega

/-- How many bytes a code point takes. -/
theorem utf8Size_ofNat_le (n : Nat) :
    (Char.ofNat n).utf8Size ≤ if n ≤ 0x7F then 1 else if n ≤ 0x7FF then 2
      else if n ≤ 0xFFFF then 3 else 4 := by
  by_cases hvalid : n.isValidChar
  · have hval : (Char.ofNat n).val.toNat = n := by
      rw [Char.ofNat, dif_pos hvalid]
      rfl
    unfold Char.utf8Size
    simp only [UInt32.le_iff_toNat_le, hval]
    exact le_rfl
  · have hzero : (Char.ofNat n).utf8Size = 1 := by
      simp [Char.ofNat, hvalid]
      rfl
    rw [hzero]
    split
    · exact le_rfl
    · split
      · decide
      · split <;> decide

/-- The state behind the first byte of a character. -/
theorem Utf8State.valid_start {codePoint needed lower upper : Nat} (hpositive : 0 < needed)
    (hneeded : needed ≤ 3) (htwo : needed = 1 → codePoint < 32)
    (hthree : needed = 2 → codePoint < 16) :
    Utf8State.Valid ⟨codePoint, 0, needed, lower, upper⟩ ∧
      Utf8State.held ⟨codePoint, 0, needed, lower, upper⟩ = 1 := by
  refine ⟨⟨hneeded, fun _ => hpositive, htwo, fun h => ?_⟩, if_neg (Nat.ne_of_gt hpositive)⟩
  have hlt := hthree h
  simpa using hlt

theorem startCharacter_valid {b : Nat} {s : Utf8State} (h : startCharacter b = some s) :
    s.Valid ∧ s.held = 1 := by
  unfold startCharacter at h
  split at h
  · obtain rfl := Option.some.inj h
    exact Utf8State.valid_start (by omega) (by omega) (fun _ => Nat.mod_lt _ (by omega))
      (fun h => absurd h (by omega))
  · split at h
    · obtain rfl := Option.some.inj h
      exact Utf8State.valid_start (by omega) (by omega) (fun h => absurd h (by omega))
        (fun _ => Nat.mod_lt _ (by omega))
    · split at h
      · obtain rfl := Option.some.inj h
        exact Utf8State.valid_start (by omega) (by omega) (fun h => absurd h (by omega))
          (fun h => absurd h (by omega))
      · cases h

/-- One byte completes a character that was held, or is held itself. -/
theorem feed_size {s s' : Utf8State} {byte : UInt8} {chars : List Char} (h : s.Valid)
    (hfeed : feed s byte = some (s', chars)) :
    s'.Valid ∧ (chars.map Char.utf8Size).sum + s'.held ≤ s.held + 1 := by
  unfold feed at hfeed
  by_cases hzero : s.bytesNeeded = 0
  · rw [if_pos hzero] at hfeed
    by_cases hascii : byte.toNat ≤ 0x7F
    · rw [if_pos hascii] at hfeed
      obtain ⟨rfl, rfl⟩ := Prod.mk.inj (Option.some.inj hfeed)
      have hsize := utf8Size_ofNat_le byte.toNat
      rw [if_pos hascii] at hsize
      refine ⟨Utf8State.valid_initial, ?_⟩
      have hheld : Utf8State.initial.held = 0 := rfl
      simp only [List.map_cons, List.map_nil, List.sum_cons, List.sum_nil, hheld]
      omega
    · rw [if_neg hascii] at hfeed
      rcases Option.map_eq_some_iff.mp hfeed with ⟨start, hstart, heq⟩
      obtain ⟨rfl, rfl⟩ := Prod.mk.inj heq
      obtain ⟨hvalid, hheld⟩ := startCharacter_valid hstart
      refine ⟨hvalid, ?_⟩
      rw [hheld]
      simp
  · have hseen := h.seen hzero
    have hneeded := h.needed
    have hheld : s.held = s.bytesSeen + 1 := if_neg hzero
    rw [if_neg hzero] at hfeed
    split at hfeed
    · cases hfeed
    · have hmod : byte.toNat % 64 < 64 := Nat.mod_lt _ (by decide)
      by_cases hlast : s.bytesSeen + 1 = s.bytesNeeded
      · -- the character is complete; its code point fits the bytes it took
        rw [if_pos hlast] at hfeed
        obtain ⟨rfl, rfl⟩ := Prod.mk.inj (Option.some.inj hfeed)
        have hsize := utf8Size_ofNat_le (s.codePoint * 64 + byte.toNat % 64)
        refine ⟨Utf8State.valid_initial, ?_⟩
        have hinitial : Utf8State.initial.held = 0 := rfl
        simp only [List.map_cons, List.map_nil, List.sum_cons, List.sum_nil, hinitial]
        have hfits : (Char.ofNat (s.codePoint * 64 + byte.toNat % 64)).utf8Size ≤
            s.bytesNeeded + 1 := by
          rcases (by omega : s.bytesNeeded = 1 ∨ s.bytesNeeded = 2 ∨ s.bytesNeeded = 3) with
            hone | htwo | hthree
          · have hpoint := h.two hone
            have hle : s.codePoint * 64 + byte.toNat % 64 ≤ 0x7FF := by omega
            split_ifs at hsize <;> omega
          · have hpoint := h.three htwo
            have hseenOne : s.bytesSeen = 1 := by omega
            rw [hseenOne] at hpoint
            have hle : s.codePoint * 64 + byte.toNat % 64 ≤ 0xFFFF := by omega
            split_ifs at hsize <;> omega
          · have hfour := (Char.ofNat (s.codePoint * 64 + byte.toNat % 64)).utf8Size_le_four
            omega
        omega
      · rw [if_neg hlast] at hfeed
        obtain ⟨rfl, rfl⟩ := Prod.mk.inj (Option.some.inj hfeed)
        refine ⟨⟨hneeded, fun _ => ?_, fun hone => ?_, fun htwo => ?_⟩, ?_⟩
        · show s.bytesSeen + 1 < s.bytesNeeded
          omega
        · have hone' : s.bytesNeeded = 1 := hone
          omega
        · have htwo' : s.bytesNeeded = 2 := htwo
          have hpoint := h.three htwo'
          show s.codePoint * 64 + byte.toNat % 64 < 16 * 64 ^ (s.bytesSeen + 1)
          rw [pow_succ]
          omega
        · have hafter : Utf8State.held { Utf8State.initial with
              codePoint := s.codePoint * 64 + byte.toNat % 64
              bytesSeen := s.bytesSeen + 1
              bytesNeeded := s.bytesNeeded } = s.bytesSeen + 1 + 1 := if_neg hzero
          rw [hafter, hheld]
          simp

theorem feedAll_size {s s' : Utf8State} {bytes : List UInt8} {chars : List Char} (h : s.Valid)
    (hfeed : feedAll s bytes = some (s', chars)) :
    s'.Valid ∧ (chars.map Char.utf8Size).sum + s'.held ≤ s.held + bytes.length := by
  induction bytes generalizing s chars with
  | nil =>
      obtain ⟨rfl, rfl⟩ := Prod.mk.inj (Option.some.inj hfeed)
      exact ⟨h, by simp⟩
  | cons byte bytes ih =>
      unfold feedAll at hfeed
      cases hfirst : feed s byte with
      | none =>
          rw [hfirst] at hfeed
          cases hfeed
      | some step =>
          obtain ⟨middle, first⟩ := step
          rw [hfirst] at hfeed
          rcases Option.map_eq_some_iff.mp hfeed with ⟨⟨last, rest⟩, hrest, heq⟩
          obtain ⟨rfl, rfl⟩ := Prod.mk.inj heq
          obtain ⟨hmiddle, hle⟩ := feed_size h hfirst
          obtain ⟨hvalid, hle'⟩ := ih hmiddle hrest
          refine ⟨hvalid, ?_⟩
          dsimp only at hle' ⊢
          rw [List.map_append, List.sum_append, List.length_cons]
          omega

/-! ## Streams -/

/-- A {lit}`TextDecoder` that is fatal and drops a byte order mark. -/
structure TextDecoder where
  state : Utf8State
  bomSeen : Bool
  doNotFlush : Bool
deriving DecidableEq

namespace TextDecoder

def initial : TextDecoder where
  state := .initial
  bomSeen := false
  doNotFlush := false

/-- The characters without a byte order mark in front of the stream. -/
def serialize (bomSeen : Bool) : List Char → Bool × List Char
  | [] => (bomSeen, [])
  | c :: cs => (true, if bomSeen = false ∧ c = '\uFEFF' then cs else c :: cs)

/-- {lit}`decode(bytes, { stream })`; an invalid text is a {lit}`TypeError`. -/
def decode (decoder : TextDecoder) (bytes : List UInt8) (stream : Bool) :
    Option (TextDecoder × String) :=
  let start := if decoder.doNotFlush then decoder else initial
  match feedAll start.state bytes with
  | none => none
  | some (state, chars) =>
      if stream = false ∧ state.bytesNeeded ≠ 0 then none
      else
        let serialized := serialize start.bomSeen chars
        some ({ state := state, bomSeen := serialized.1, doNotFlush := stream },
          .ofList serialized.2)

theorem serialize_size (bomSeen : Bool) (chars : List Char) :
    ((serialize bomSeen chars).2.map Char.utf8Size).sum ≤ (chars.map Char.utf8Size).sum := by
  cases chars with
  | nil => exact le_rfl
  | cons c cs =>
      unfold serialize
      dsimp only
      split
      · rw [List.map_cons, List.sum_cons]
        exact Nat.le_add_left ..
      · exact le_rfl

/-- What a piece decodes to is longer than it by at most three held bytes. -/
theorem decode_size {decoder decoder' : TextDecoder} {bytes : List UInt8} {stream : Bool}
    {text : String} (h : decoder.state.Valid)
    (hdecode : decoder.decode bytes stream = some (decoder', text)) :
    decoder'.state.Valid ∧ text.utf8ByteSize ≤ bytes.length + 3 := by
  have hstart : (if decoder.doNotFlush then decoder else initial).state.Valid := by
    split
    · exact h
    · exact Utf8State.valid_initial
  unfold decode at hdecode
  generalize (if decoder.doNotFlush then decoder else initial) = start at hstart hdecode
  dsimp only at hdecode
  cases hfeed : feedAll start.state bytes with
  | none =>
      rw [hfeed] at hdecode
      cases hdecode
  | some fed =>
      obtain ⟨state, chars⟩ := fed
      rw [hfeed] at hdecode
      dsimp only at hdecode
      split at hdecode
      · cases hdecode
      · obtain ⟨rfl, rfl⟩ := Prod.mk.inj (Option.some.inj hdecode)
        obtain ⟨hvalid, hle⟩ := feedAll_size hstart hfeed
        refine ⟨hvalid, ?_⟩
        have hheld := hstart.held_le
        have hserialized := serialize_size start.bomSeen chars
        rw [utf8ByteSize_ofList]
        omega

end TextDecoder

end Utf8
end TokenStreaming
