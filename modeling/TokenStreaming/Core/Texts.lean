import Mathlib.Data.List.DropRight
import TokenStreaming.Domain.Validation

/-!
# Core - What the language does with texts

The string functions that several packages use: tests for parts of a text,
the order of texts, trimming, and the lines of a text.

Main results:

- Theorem {lit}`splitLines_join`: lines that are joined are split into the same lines.
- Theorem {lit}`newline_notMem_splitLines`: no line holds a line break.
- Theorem {lit}`trimEnd_append`: trimming stops at a text that is not blank.
-/

namespace TokenStreaming
namespace Core

open Domain

/-- A property of all characters of a list is decided along the list, not over all characters. -/
instance decidableForallMemChar (p : Char → Prop) [DecidablePred p] (cs : List Char) :
    Decidable (∀ c ∈ cs, p c) :=
  List.decidableBAll p cs

/-! ## Parts of a text -/

/-- {lit}`text.startsWith(beginning)`. -/
def startsWith (text beginning : String) : Bool :=
  beginning.toList.isPrefixOf text.toList

/-- {lit}`text.endsWith(ending)`. -/
def endsWith (text ending : String) : Bool :=
  ending.toList.isSuffixOf text.toList

/-- {lit}`text.includes(part)`. -/
def includes (text part : String) : Bool :=
  text.toList.tails.any part.toList.isPrefixOf

/-- The UTF-16 code units of a text. -/
def codeUnits (text : String) : List Nat :=
  text.toList.flatMap fun c =>
    if c.toNat < 0x10000 then [c.toNat]
    else [0xD800 + (c.toNat - 0x10000) / 0x400, 0xDC00 + (c.toNat - 0x10000) % 0x400]

/-- {lit}`left > right` on texts, which compares code units. -/
def textGreater (left right : String) : Bool :=
  decide (codeUnits right < codeUnits left)

/-! ## Trimming -/

/-- {lit}`trimStart`. -/
def trimStart (cs : List Char) : List Char :=
  cs.dropWhile isTrimmable

/-- {lit}`trimEnd`. -/
def trimEnd (cs : List Char) : List Char :=
  cs.rdropWhile isTrimmable

/-- {lit}`trim`. -/
def trimBoth (cs : List Char) : List Char :=
  trimEnd (trimStart cs)

/-- Trimming at the end stops at a text that is not blank. -/
theorem trimEnd_append {front back : List Char} (h : trimEnd back ≠ []) :
    trimEnd (front ++ back) = front ++ trimEnd back := by
  have hrev : back.reverse.dropWhile isTrimmable ≠ [] := by
    intro hnil
    rw [trimEnd, List.rdropWhile, hnil] at h
    exact h rfl
  rw [trimEnd, trimEnd, List.rdropWhile, List.rdropWhile, List.reverse_append,
    List.dropWhile_append, if_neg (by simpa [List.isEmpty_iff] using hrev), List.reverse_append,
    List.reverse_reverse]

/-- What ends in a character that stays is not trimmed. -/
theorem trimEnd_concat {front : List Char} {c : Char} (h : isTrimmable c = false) :
    trimEnd (front ++ [c]) = front ++ [c] := by
  rw [trimEnd, List.rdropWhile_concat_neg _ _ _ (by simp [h])]

theorem trimEnd_idem (cs : List Char) : trimEnd (trimEnd cs) = trimEnd cs := by
  exact List.rdropWhile_idempotent isTrimmable cs

/-- Blanks at the start are nothing but blanks at the end of what follows nothing. -/
theorem trimStart_trimEnd (cs : List Char) : trimStart (trimEnd cs) = trimEnd (trimStart cs) := by
  induction cs with
  | nil => rfl
  | cons c cs ih =>
      by_cases hc : isTrimmable c = true
      · have hstart : trimStart (c :: cs) = trimStart cs := by
          rw [trimStart, List.dropWhile_cons, if_pos hc]
          rfl
        rw [hstart, ← ih]
        by_cases hnil : trimEnd cs = []
        · have hall : trimEnd (c :: cs) = [] := by
            rw [trimEnd, List.rdropWhile_eq_nil_iff] at hnil ⊢
            intro d hd
            rcases List.mem_cons.mp hd with rfl | hd
            · exact hc
            · exact hnil d hd
          rw [hall, hnil]
        · have hcons : trimEnd (c :: cs) = c :: trimEnd cs :=
            @trimEnd_append [c] cs hnil
          rw [hcons, trimStart, List.dropWhile_cons, if_pos hc]
          rfl
      · have hstart : trimStart (c :: cs) = c :: cs := by
          rw [trimStart, List.dropWhile_cons, if_neg hc]
        rw [hstart]
        by_cases hnil : trimEnd cs = []
        · have hone : trimEnd (c :: cs) = [c] := by
            have hall := hnil
            rw [trimEnd, List.rdropWhile_eq_nil_iff] at hall
            rw [trimEnd, List.rdropWhile, List.reverse_cons, List.dropWhile_append]
            have hdrop : cs.reverse.dropWhile isTrimmable = [] := by
              rw [List.dropWhile_eq_nil_iff]
              intro d hd
              exact hall d (List.mem_reverse.mp hd)
            rw [hdrop, List.isEmpty_nil, if_pos rfl, List.dropWhile_cons, if_neg hc]
            rfl
          rw [hone, trimStart, List.dropWhile_cons, if_neg hc]
        · have hcons : trimEnd (c :: cs) = c :: trimEnd cs :=
            @trimEnd_append [c] cs hnil
          rw [hcons, trimStart, List.dropWhile_cons, if_neg hc]

/-- Blanks at the end are trimmed with what stands before them. -/
theorem trimEnd_append_blank {front back : List Char} (h : trimEnd back = []) :
    trimEnd (front ++ back) = trimEnd front := by
  rw [trimEnd, List.rdropWhile_eq_nil_iff] at h
  have hdrop : back.reverse.dropWhile isTrimmable = [] := by
    rw [List.dropWhile_eq_nil_iff]
    exact fun c hc => h c (List.mem_reverse.mp hc)
  rw [trimEnd, trimEnd, List.rdropWhile, List.rdropWhile, List.reverse_append,
    List.dropWhile_append, hdrop, List.isEmpty_nil, if_pos rfl]

/-- What stays after trimming was there before. -/
theorem mem_of_mem_trimBoth {cs : List Char} {c : Char} (h : c ∈ trimBoth cs) : c ∈ cs :=
  (List.dropWhile_suffix _).subset ((List.rdropWhile_prefix _ _).subset h)

/-- The characters from the dash to the small letters are no blanks. -/
theorem not_isTrimmable_of_bounds {c : Char} (h : 45 ≤ c.toNat ∧ c.toNat ≤ 122) :
    isTrimmable c = false := by
  rw [← Bool.not_eq_true]
  intro htrim
  simp only [isTrimmable, Bool.or_eq_true, Bool.and_eq_true, decide_eq_true_eq, List.mem_cons,
    List.not_mem_nil, or_false] at htrim
  rcases htrim with hlist | ⟨hlow, _⟩
  · have hnone : ∀ d ∈ ['\t', '\n', '\x0b', '\x0c', '\r', ' ', '\u00a0', '\u1680', '\u2028',
        '\u2029', '\u202f', '\u205f', '\u3000', '\ufeff'], ¬(45 ≤ d.toNat ∧ d.toNat ≤ 122) := by
      decide
    exact hnone c (by simpa using hlist) h
  · have hquad : '\u2000'.toNat ≤ c.toNat := Char.le_def.mp hlow
    have hvalue : '\u2000'.toNat = 0x2000 := rfl
    omega

/-! ## Lines -/

/-- {lit}`text.split(/\r?\n/)`, where a carriage return belongs to the line break behind it. -/
def splitLines : List Char → List (List Char)
  | [] => [[]]
  | '\r' :: '\n' :: rest => [] :: splitLines rest
  | c :: rest =>
      if c = '\n' then [] :: splitLines rest
      else
        match splitLines rest with
        | [] => [[c]]
        | line :: lines => (c :: line) :: lines

/-- {lit}`firstLine`: the first line that is not empty. -/
def firstLine (value : String) : String :=
  String.ofList (((splitLines value.toList).find? fun line => !line.isEmpty).getD [])

/-- {lit}`lines.join("\n")`. -/
def joinLines (lines : List (List Char)) : List Char :=
  ['\n'].intercalate lines

/-- A character that takes part in no line break goes to the front of the first line. -/
theorem splitLines_cons {c : Char} (hn : c ≠ '\n') (hr : c ≠ '\r') (cs : List Char) :
    splitLines (c :: cs) =
      match splitLines cs with
      | [] => [[c]]
      | line :: lines => (c :: line) :: lines := by
  rw [splitLines]
  · rw [if_neg hn]
  · intro rest hc
    exact absurd hc hr

theorem splitLines_newline (cs : List Char) : splitLines ('\n' :: cs) = [] :: splitLines cs := by
  rw [splitLines]
  · rw [if_pos rfl]
  · intro rest hc
    exact absurd hc (by decide)

/-- No line holds a line break. -/
theorem newline_notMem_splitLines {cs line : List Char} (h : line ∈ splitLines cs) :
    '\n' ∉ line := by
  induction cs using splitLines.induct generalizing line with
  | case1 =>
      rw [splitLines, List.mem_singleton] at h
      simp [h]
  | case2 rest ih =>
      rw [splitLines, List.mem_cons] at h
      rcases h with rfl | h
      · simp
      · exact ih h
  | case3 rest _ ih =>
      rw [splitLines_newline, List.mem_cons] at h
      rcases h with rfl | h
      · simp
      · exact ih h
  | case4 c rest hcrlf hc hempty ih =>
      rw [splitLines, if_neg hc, hempty, List.mem_singleton] at h
      · rw [h, List.mem_singleton]
        exact fun heq => hc heq.symm
      · exact hcrlf
  | case5 c rest hcrlf hc first lines hcons ih =>
      rw [splitLines, if_neg hc, hcons, List.mem_cons] at h
      · rcases h with rfl | h
        · have hfirst := ih (hcons ▸ List.mem_cons_self)
          rw [List.mem_cons]
          rintro (heq | hmem)
          · exact hc heq.symm
          · exact hfirst hmem
        · exact ih (hcons ▸ List.mem_cons_of_mem _ h)
      · exact hcrlf

/-- A line without line breaks is split off whole. -/
theorem splitLines_line {line : List Char} (hn : '\n' ∉ line) (hr : '\r' ∉ line) :
    splitLines line = [line] := by
  induction line with
  | nil => rfl
  | cons c line ih =>
      rw [List.mem_cons, not_or] at hn hr
      rw [splitLines_cons (Ne.symm hn.1) (Ne.symm hr.1), ih hn.2 hr.2]

theorem splitLines_line_newline {line : List Char} (hn : '\n' ∉ line) (hr : '\r' ∉ line)
    (rest : List Char) : splitLines (line ++ '\n' :: rest) = line :: splitLines rest := by
  induction line with
  | nil => exact splitLines_newline rest
  | cons c line ih =>
      rw [List.mem_cons, not_or] at hn hr
      rw [List.cons_append, splitLines_cons (Ne.symm hn.1) (Ne.symm hr.1), ih hn.2 hr.2]

/-- Lines that are joined are split into the same lines. -/
theorem splitLines_join {lines : List (List Char)} (hne : lines ≠ [])
    (h : ∀ line ∈ lines, '\n' ∉ line ∧ '\r' ∉ line) : splitLines (joinLines lines) = lines := by
  induction lines with
  | nil => exact absurd rfl hne
  | cons line lines ih =>
      obtain ⟨hn, hr⟩ := h line List.mem_cons_self
      cases lines with
      | nil =>
          rw [joinLines, List.intercalate_singleton]
          exact splitLines_line hn hr
      | cons next lines =>
          have hrest := ih (List.cons_ne_nil _ _)
            (fun other hother => h other (List.mem_cons_of_mem _ hother))
          rw [joinLines] at hrest ⊢
          rw [List.intercalate_cons_cons, List.append_assoc, List.singleton_append,
            splitLines_line_newline hn hr, hrest]

/-- A line at the end takes part in the text as it is. -/
theorem joinLines_concat (lines : List (List Char)) :
    ∃ front, ∀ line, joinLines (lines ++ [line]) = front ++ line := by
  induction lines with
  | nil =>
      refine ⟨[], fun line => ?_⟩
      rw [List.nil_append, joinLines, List.intercalate_singleton]
      rfl
  | cons first lines ih =>
      obtain ⟨front, hfront⟩ := ih
      refine ⟨first ++ ('\n' :: front), fun line => ?_⟩
      have hne : lines ++ [line] ≠ [] := by simp
      obtain ⟨next, rest, hcons⟩ := List.exists_cons_of_ne_nil hne
      have hjoin := hfront line
      rw [hcons, joinLines] at hjoin
      rw [List.cons_append, hcons, joinLines, List.intercalate_cons_cons, hjoin]
      simp

theorem joinLines_cons {lines : List (List Char)} (hne : lines ≠ []) (line : List Char) :
    joinLines (line :: lines) = line ++ '\n' :: joinLines lines := by
  obtain ⟨next, rest, rfl⟩ := List.exists_cons_of_ne_nil hne
  rw [joinLines, joinLines, List.intercalate_cons_cons]
  simp

theorem joinLines_append {lines lines' : List (List Char)} (hne : lines ≠ []) (hne' : lines' ≠ []) :
    joinLines (lines ++ lines') = joinLines lines ++ '\n' :: joinLines lines' := by
  induction lines with
  | nil => exact absurd rfl hne
  | cons line lines ih =>
      by_cases hlines : lines = []
      · subst hlines
        rw [List.singleton_append, joinLines_cons hne', joinLines, joinLines,
          List.intercalate_singleton]
      · rw [List.cons_append, joinLines_cons (by simp [hlines]), joinLines_cons hlines, ih hlines]
        simp

/-- Texts of several lines each are joined line by line. -/
theorem joinLines_flatten {groups : List (List (List Char))} (h : ∀ group ∈ groups, group ≠ []) :
    joinLines (groups.map joinLines) = joinLines groups.flatten := by
  induction groups with
  | nil => rfl
  | cons group groups ih =>
      have hrest := ih fun other hother => h other (List.mem_cons_of_mem _ hother)
      by_cases hnil : groups = []
      · subst hnil
        rw [List.map_cons, List.map_nil, joinLines, List.intercalate_singleton, List.flatten_cons,
          List.flatten_nil, List.append_nil]
      · have hflat : groups.flatten ≠ [] := by
          obtain ⟨next, rest, rfl⟩ := List.exists_cons_of_ne_nil hnil
          have hnext := h next (List.mem_cons_of_mem _ List.mem_cons_self)
          simp [hnext]
        rw [List.map_cons, joinLines_cons (by simpa using hnil), hrest, List.flatten_cons,
          joinLines_append (h group List.mem_cons_self) hflat]

end Core
end TokenStreaming
