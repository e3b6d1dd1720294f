import Mathlib.Data.List.TakeWhile
import TokenStreaming.Foundation.Json

/-!
# Foundation - Quotes of JSON texts

A scanner that only follows the quotes and backslashes of a JSON text knows at each character
whether it belongs to a string.  A text that parses is scanned to its end, and what lies outside
its strings is punctuation, white space, a number or one of three words.

Main results:

- Theorem {lit}`parse_scan`: a text that parses ends outside its strings.
- Theorem {lit}`structural_of_scan`: a text that can be scanned both from inside and from outside
  a string has no character of its own.
- Theorem {lit}`parse_keys`: without backslashes, a member's name is a part of the text.
-/

namespace TokenStreaming
namespace Json

/-- Where a scanner stands. -/
inductive Place where
  | outside
  | inside
  | escaped
deriving DecidableEq

/-- A character that may stand outside a string. -/
def isStructural (c : Char) : Bool :=
  isSpace c || c.isDigit ||
    c ∈ ['\x7b', '\x7d', '[', ']', ':', ',', '-', '+', '.', 'E', 'a', 'e', 'f', 'l', 'n', 'r', 's',
      't', 'u']

/-- One character; {lit}`none` means that no JSON text has it here. -/
def scanChar (place : Place) (c : Char) : Option Place :=
  match place with
  | .outside =>
      if c = '"' then some .inside else if isStructural c then some .outside else none
  | .inside =>
      if c = '"' then some .outside else if c = '\\' then some .escaped else some .inside
  | .escaped => if c = 'u' ∨ (simpleEscape c).isSome then some .inside else none

def scan (place : Place) : List Char → Option Place
  | [] => some place
  | c :: cs => (scanChar place c).bind fun next => scan next cs

theorem scan_append (place : Place) (a b : List Char) :
    scan place (a ++ b) = (scan place a).bind fun next => scan next b := by
  induction a generalizing place with
  | nil => rfl
  | cons c a ih =>
      simp only [List.cons_append, scan, Option.bind_assoc]
      congr 1
      funext next
      exact ih next

theorem scan_outside_of_structural {cs : List Char} (h : ∀ c ∈ cs, isStructural c = true) :
    scan .outside cs = some .outside := by
  induction cs with
  | nil => rfl
  | cons c cs ih =>
      have hc := h c List.mem_cons_self
      have hquote : c ≠ '"' := by
        rintro rfl
        exact absurd hc (by decide)
      have hone : scanChar .outside c = some .outside := by
        simp only [scanChar, if_neg hquote, hc, if_true]
      rw [scan, hone, Option.bind_some]
      exact ih fun d hd => h d (List.mem_cons_of_mem c hd)

theorem isStructural_of_isSpace {c : Char} (h : isSpace c = true) : isStructural c = true := by
  unfold isStructural
  rw [h, Bool.true_or, Bool.true_or]

theorem isStructural_of_isDigit {c : Char} (h : c.isDigit = true) : isStructural c = true := by
  unfold isStructural
  rw [h, Bool.or_true, Bool.true_or]

theorem scanChar_inside {c : Char} (hquote : c ≠ '"') (hslash : c ≠ '\\') :
    scanChar .inside c = some .inside := by
  simp only [scanChar, if_neg hquote, if_neg hslash]

/-! ## Strings -/

theorem hexValue_ne {c : Char} {n : Nat} (h : hexValue c = some n) : c ≠ '"' ∧ c ≠ '\\' := by
  constructor
  · rintro rfl
    rw [show hexValue '"' = none by decide] at h
    cases h
  · rintro rfl
    rw [show hexValue '\\' = none by decide] at h
    cases h

/-- Four hexadecimal digits inside a string. -/
theorem scan_hexQuad {a b c d : Char} {n : Nat} (h : hexQuad a b c d = some n)
    (rest : List Char) :
    scan .inside (a :: b :: c :: d :: rest) = scan .inside rest := by
  unfold hexQuad at h
  split at h
  · rename_i w x y z ha hb hc hd
    simp only [scan, scanChar_inside (hexValue_ne ha).1 (hexValue_ne ha).2,
      scanChar_inside (hexValue_ne hb).1 (hexValue_ne hb).2,
      scanChar_inside (hexValue_ne hc).1 (hexValue_ne hc).2,
      scanChar_inside (hexValue_ne hd).1 (hexValue_ne hd).2, Option.bind_some]
  · cases h

theorem scan_escaped_u (rest : List Char) :
    scan .inside ('\\' :: 'u' :: rest) = scan .inside rest := by
  rfl

theorem consChar_eq_some {c : Char} {parsed : Option (List Char × List Char)}
    {text rest : List Char} (h : consChar c parsed = some (text, rest)) :
    ∃ tail, parsed = some (tail, rest) ∧ text = c :: tail := by
  cases parsed with
  | none => cases h
  | some p =>
      rcases p with ⟨tail, rest'⟩
      simp only [consChar, Option.map_some, Option.some.injEq, Prod.mk.injEq] at h
      rcases h with ⟨rfl, rfl⟩
      exact ⟨tail, rfl, rfl⟩

/-- What is read of a string, with its closing quote; without escapes it is the text itself. -/
def ReadsString (cs text rest : List Char) : Prop :=
  ∃ used, cs = used ++ rest ∧ scan .inside used = some .outside ∧ ('\\' ∉ used → text ⊆ used)

/-- One escape in front of a string. -/
theorem ReadsString.escape {cs text rest : List Char} (head : List Char) (c : Char)
    (hslash : '\\' ∈ head)
    (hscan : ∀ tail, scan .inside (head ++ tail) = scan .inside tail)
    (h : ReadsString cs text rest) : ReadsString (head ++ cs) (c :: text) rest := by
  rcases h with ⟨used, rfl, hused, -⟩
  refine ⟨head ++ used, ?_, ?_, ?_⟩
  · rw [List.append_assoc]
  · rw [hscan, hused]
  · intro hnone
    exact absurd (List.mem_append_left used hslash) hnone

theorem parseChars_reads {cs text rest : List Char} (h : parseChars cs = some (text, rest)) :
    ReadsString cs text rest := by
  fun_induction parseChars cs generalizing text with
  | case1 => cases h
  | case2 tail =>
      cases h
      exact ⟨['"'], rfl, rfl, fun _ => List.nil_subset _⟩
  | case3 => cases h
  | case4 => cases h
  | case5 a b c d code hcode _ a' b' c' d' tail low hlow _ ih =>
      rcases consChar_eq_some h with ⟨text', htail, rfl⟩
      refine ReadsString.escape ['\\', 'u', a, b, c, d, '\\', 'u', a', b', c', d'] _
        List.mem_cons_self ?_ (ih htail)
      intro rest'
      rw [show ['\\', 'u', a, b, c, d, '\\', 'u', a', b', c', d'] ++ rest' =
        '\\' :: 'u' :: a :: b :: c :: d :: '\\' :: 'u' :: a' :: b' :: c' :: d' :: rest' from rfl,
        scan_escaped_u, scan_hexQuad hcode, scan_escaped_u, scan_hexQuad hlow]
  | case6 => cases h
  | case7 => cases h
  | case8 => cases h
  | case9 a b c d tail code hcode _ _ ih =>
      rcases consChar_eq_some h with ⟨text', htail, rfl⟩
      refine ReadsString.escape ['\\', 'u', a, b, c, d] _ List.mem_cons_self ?_ (ih htail)
      intro rest'
      rw [show ['\\', 'u', a, b, c, d] ++ rest' = '\\' :: 'u' :: a :: b :: c :: d :: rest' from rfl,
        scan_escaped_u, scan_hexQuad hcode]
  | case10 => cases h
  | case11 e tail _ c hc ih =>
      rcases consChar_eq_some h with ⟨text', htail, rfl⟩
      refine ReadsString.escape ['\\', e] _ List.mem_cons_self ?_ (ih htail)
      intro rest'
      have hone : scanChar .escaped e = some .inside := by
        simp [scanChar, hc]
      rw [show ['\\', e] ++ rest' = '\\' :: e :: rest' from rfl, scan,
        show scanChar .inside '\\' = some .escaped from rfl, Option.bind_some, scan, hone,
        Option.bind_some]
  | case12 => cases h
  | case13 c tail hquote _ hslash _ ih =>
      rcases consChar_eq_some h with ⟨text', htail, rfl⟩
      rcases ih htail with ⟨used, rfl, hused, hsub⟩
      have hnotslash : c ≠ '\\' := by
        rintro rfl
        cases used with
        | nil => cases hused
        | cons d used => exact hslash d (used ++ rest) rfl rfl
      refine ⟨c :: used, rfl, ?_, ?_⟩
      · rw [scan, scanChar_inside hquote hnotslash, Option.bind_some, hused]
      · intro hnone
        exact List.cons_subset_cons c (hsub fun hmem => hnone (List.mem_cons_of_mem c hmem))

/-! ## Values -/

/-- What is read of a value stands outside strings at its end. -/
def Reads (cs rest : List Char) : Prop :=
  ∃ used, cs = used ++ rest ∧ scan .outside used = some .outside

theorem Reads.refl (cs : List Char) : Reads cs cs :=
  ⟨[], rfl, rfl⟩

theorem Reads.trans {a b c : List Char} (h : Reads a b) (h' : Reads b c) : Reads a c := by
  rcases h with ⟨used, rfl, hused⟩
  rcases h' with ⟨used', rfl, hused'⟩
  refine ⟨used ++ used', (List.append_assoc ..).symm, ?_⟩
  rw [scan_append, hused, Option.bind_some, hused']

theorem Reads.structural {cs rest : List Char} {c : Char} (hc : isStructural c = true)
    (h : Reads cs rest) : Reads (c :: cs) rest := by
  refine Reads.trans ⟨[c], rfl, ?_⟩ h
  exact scan_outside_of_structural (by simpa using hc)

theorem reads_of_all {u rest : List Char} (h : ∀ c ∈ u, isStructural c = true) :
    Reads (u ++ rest) rest :=
  ⟨u, rfl, scan_outside_of_structural h⟩

theorem reads_skipSpace (cs : List Char) : Reads cs (skipSpace cs) := by
  unfold skipSpace
  conv => arg 1; rw [← List.takeWhile_append_dropWhile (p := isSpace) (l := cs)]
  exact reads_of_all fun c hc => isStructural_of_isSpace (List.mem_takeWhile_imp hc)

theorem reads_spanDigits (cs : List Char) : Reads cs (spanDigits cs).2 := by
  unfold spanDigits
  conv => arg 1; rw [← List.takeWhile_append_dropWhile (p := Char.isDigit) (l := cs)]
  exact reads_of_all fun c hc => isStructural_of_isDigit (List.mem_takeWhile_imp hc)

theorem reads_string {cs text rest : List Char} (h : parseChars cs = some (text, rest)) :
    Reads ('"' :: cs) rest := by
  rcases parseChars_reads h with ⟨used, rfl, hused, -⟩
  exact ⟨'"' :: used, rfl, hused⟩

theorem reads_fraction {cs fraction rest : List Char}
    (h : parseFraction cs = some (fraction, rest)) : Reads cs rest := by
  unfold parseFraction at h
  split at h
  · rename_i tail
    dsimp only at h
    split at h
    · cases h
    · cases h
      exact (reads_spanDigits tail).structural (by decide)
  · cases h
    exact Reads.refl _

theorem reads_exponent {cs exponent rest : List Char}
    (h : parseExponent cs = some (exponent, rest)) : Reads cs rest := by
  unfold parseExponent at h
  split at h
  · rename_i e tail
    split at h
    · rename_i he
      have hestructural : isStructural e = true := by
        rcases he with rfl | rfl <;> decide
      dsimp only at h
      split at h
      · split at h
        · cases h
        · cases h
          exact ((reads_spanDigits _).structural (by decide)).structural hestructural
      · split at h
        · cases h
        · cases h
          exact ((reads_spanDigits _).structural (by decide)).structural hestructural
      · split at h
        · cases h
        · cases h
          exact (reads_spanDigits _).structural hestructural
    · cases h
      exact Reads.refl _
  · cases h
    exact Reads.refl _

theorem reads_unsigned {isNegative : Bool} {cs rest : List Char} {v : JsonValue}
    (h : parseUnsigned isNegative cs = some (v, rest)) : Reads cs rest := by
  unfold parseUnsigned at h
  dsimp only at h
  split at h
  · split at h
    · cases h
    · rename_i fraction tail hfraction
      split at h
      · cases h
      · rename_i exponent tail' hexponent
        have hreads := ((reads_spanDigits cs).trans (reads_fraction hfraction)).trans
          (reads_exponent hexponent)
        split at h
        · cases h
          exact hreads
        · split at h
          · cases h
            exact hreads
          · cases h
            exact hreads
  · cases h

theorem reads_number {cs rest : List Char} {v : JsonValue}
    (h : parseNumber cs = some (v, rest)) : Reads cs rest := by
  unfold parseNumber at h
  split at h
  · exact (reads_unsigned h).structural (by decide)
  · exact reads_unsigned h

theorem parseUnsigned_ne_object (isNegative : Bool) (cs rest : List Char)
    (members : List (String × JsonValue)) :
    parseUnsigned isNegative cs ≠ some (.object members, rest) := by
  intro h
  unfold parseUnsigned at h
  dsimp only at h
  split at h
  · split at h
    · cases h
    · split at h
      · cases h
      · split at h
        · cases h
        · split at h
          · cases h
          · cases h
  · cases h

theorem parseNumber_ne_object (cs rest : List Char) (members : List (String × JsonValue)) :
    parseNumber cs ≠ some (.object members, rest) := by
  unfold parseNumber
  split
  · exact parseUnsigned_ne_object true _ rest members
  · exact parseUnsigned_ne_object false _ rest members

/-- What each of the three parsers with this fuel reads. -/
structure AllRead (fuel : Nat) : Prop where
  value : ∀ {cs rest v}, parseValue fuel cs = some (v, rest) → Reads cs rest
  items : ∀ {cs rest items}, parseItems fuel cs = some (items, rest) → Reads cs rest
  members : ∀ {cs rest members}, parseMembers fuel cs = some (members, rest) → Reads cs rest

/-- A map over what a parser returns that leaves the rest. -/
theorem map_eq_some_rest {α β : Type} {parsed : Option (α × List Char)}
    {f : α × List Char → β × List Char} {b : β} {rest : List Char}
    (h : parsed.map f = some (b, rest)) (hf : ∀ p, (f p).2 = p.2) : ∃ a, parsed = some (a, rest) ∧ (f (a, rest)).1 = b := by
  rcases Option.map_eq_some_iff.mp h with ⟨⟨a, rest'⟩, hparsed, heq⟩
  have hrest := hf (a, rest')
  rw [heq] at hrest
  subst hrest
  exact ⟨a, hparsed, congrArg Prod.fst heq⟩

/-- A text that begins like another after its white space. -/
theorem Reads.of_skipSpace {cs next rest : List Char} (h : skipSpace cs = next)
    (hreads : Reads next rest) : Reads cs rest := by
  subst h
  exact (reads_skipSpace cs).trans hreads

theorem AllRead.step {fuel : Nat} (h : AllRead fuel) : AllRead (fuel + 1) where
  value := by
    intro cs rest v hv
    rw [parseValue] at hv
    split at hv
    · rename_i tail hcs
      cases hv
      refine .of_skipSpace hcs (reads_of_all (u := ['n', 'u', 'l', 'l']) ?_)
      exact List.all_eq_true.mp rfl
    · rename_i tail hcs
      cases hv
      refine .of_skipSpace hcs (reads_of_all (u := ['t', 'r', 'u', 'e']) ?_)
      exact List.all_eq_true.mp rfl
    · rename_i tail hcs
      cases hv
      refine .of_skipSpace hcs (reads_of_all (u := ['f', 'a', 'l', 's', 'e']) ?_)
      exact List.all_eq_true.mp rfl
    · rename_i tail hcs
      rcases map_eq_some_rest hv (fun _ => rfl) with ⟨text, htext, -⟩
      exact .of_skipSpace hcs (reads_string htext)
    · rename_i tail hcs
      refine .of_skipSpace hcs (Reads.structural (by decide) ?_)
      split at hv
      · rename_i inner htail
        cases hv
        exact .of_skipSpace htail ((Reads.refl _).structural (by decide))
      · rcases map_eq_some_rest hv (fun _ => rfl) with ⟨items, hitems, -⟩
        exact .of_skipSpace rfl (h.items hitems)
    · rename_i tail hcs
      refine .of_skipSpace hcs (Reads.structural (by decide) ?_)
      split at hv
      · rename_i inner htail
        cases hv
        exact .of_skipSpace htail ((Reads.refl _).structural (by decide))
      · rcases map_eq_some_rest hv (fun _ => rfl) with ⟨members, hmembers, -⟩
        exact .of_skipSpace rfl (h.members hmembers)
    · exact .of_skipSpace rfl (reads_number hv)
  items := by
    intro cs rest items hitems
    rw [parseItems] at hitems
    split at hitems
    · cases hitems
    · rename_i v tail hv
      refine (h.value hv).trans ?_
      split at hitems
      · rename_i inner htail
        rcases map_eq_some_rest hitems (fun _ => rfl) with ⟨items', hitems', -⟩
        exact .of_skipSpace htail ((h.items hitems').structural (by decide))
      · rename_i inner htail
        cases hitems
        exact .of_skipSpace htail ((Reads.refl _).structural (by decide))
      · cases hitems
  members := by
    intro cs rest members hmembers
    rw [parseMembers] at hmembers
    split at hmembers
    · rename_i tail hcs
      refine .of_skipSpace hcs ?_
      split at hmembers
      · cases hmembers
      · rename_i key afterKey hkey
        refine (reads_string hkey).trans ?_
        split at hmembers
        · rename_i afterColon hcolon
          refine .of_skipSpace hcolon (Reads.structural (by decide) ?_)
          split at hmembers
          · cases hmembers
          · rename_i v afterValue hv
            refine (h.value hv).trans ?_
            split at hmembers
            · rename_i last hlast
              rcases map_eq_some_rest hmembers (fun _ => rfl) with ⟨members', hmembers', -⟩
              exact .of_skipSpace hlast ((h.members hmembers').structural (by decide))
            · rename_i last hlast
              cases hmembers
              exact .of_skipSpace hlast ((Reads.refl _).structural (by decide))
            · cases hmembers
        · cases hmembers
    · cases hmembers

theorem allRead (fuel : Nat) : AllRead fuel := by
  induction fuel with
  | zero =>
      constructor
      · intro cs rest v h
        cases h
      · intro cs rest items h
        cases h
      · intro cs rest members h
        cases h
  | succ fuel ih => exact ih.step

/-- A text that parses ends outside its strings. -/
theorem parse_scan {cs : List Char} {v : JsonValue} (h : parse cs = some v) :
    scan .outside cs = some .outside := by
  unfold parse at h
  split at h
  · rename_i v' rest hvalue
    split at h
    · rename_i hspace
      have hreads := ((allRead _).value hvalue).trans (reads_skipSpace rest)
      rw [hspace] at hreads
      rcases hreads with ⟨used, rfl, hused⟩
      rw [List.append_nil]
      exact hused
    · cases h
  · cases h

/-! ## Texts in a string of another -/

/-- A character of a text that can be scanned both from inside and from outside of a string is
punctuation, or a quote. -/
theorem structural_of_scan {cs : List Char} {a b : Place}
    (hplaces : (a = .outside ∧ b = .inside) ∨ (a = .inside ∧ b = .outside))
    (ha : scan a cs ≠ none) (hb : scan b cs ≠ none) :
    ∀ c ∈ cs, c = '"' ∨ isStructural c = true := by
  induction cs generalizing a b with
  | nil =>
      intro c hc
      exact absurd hc List.not_mem_nil
  | cons d cs ih =>
      by_cases hquote : d = '"'
      · subst hquote
        have hrest : ∀ c ∈ cs, c = '"' ∨ isStructural c = true := by
          rcases hplaces with ⟨rfl, rfl⟩ | ⟨rfl, rfl⟩
          · exact ih (.inr ⟨rfl, rfl⟩) ha hb
          · exact ih (.inl ⟨rfl, rfl⟩) ha hb
        intro c hc
        rcases List.mem_cons.mp hc with rfl | hc
        · exact .inl rfl
        · exact hrest c hc
      · have houtside : scan .outside (d :: cs) ≠ none → isStructural d = true ∧
            scan .outside cs ≠ none := by
          intro hscan
          by_cases hd : isStructural d = true
          · refine ⟨hd, ?_⟩
            simpa [scan, scanChar, hquote, hd] using hscan
          · simp [scan, scanChar, hquote, hd] at hscan
        have hinside : isStructural d = true → scan .inside (d :: cs) ≠ none →
            scan .inside cs ≠ none := by
          intro hd hscan
          have hslash : d ≠ '\\' := by
            rintro rfl
            exact absurd hd (by decide)
          simpa [scan, scanChar, hquote, hslash] using hscan
        have hboth : isStructural d = true ∧ ∀ c ∈ cs, c = '"' ∨ isStructural c = true := by
          rcases hplaces with ⟨rfl, rfl⟩ | ⟨rfl, rfl⟩
          · rcases houtside ha with ⟨hd, ha'⟩
            exact ⟨hd, ih (.inl ⟨rfl, rfl⟩) ha' (hinside hd hb)⟩
          · rcases houtside hb with ⟨hd, hb'⟩
            exact ⟨hd, ih (.inr ⟨rfl, rfl⟩) (hinside hd ha) hb'⟩
        intro c hc
        rcases List.mem_cons.mp hc with rfl | hc
        · exact .inr hboth.1
        · exact hboth.2 c hc

/-! ## Names of members -/

theorem Reads.subset {cs rest : List Char} (h : Reads cs rest) : rest ⊆ cs := by
  rcases h with ⟨used, rfl, -⟩
  exact List.subset_append_right used rest

/-- Without backslashes, the name of a member is a part of the text. -/
theorem parseMembers_keys {fuel : Nat} {cs rest : List Char} {members : List (String × JsonValue)}
    (h : parseMembers fuel cs = some (members, rest)) (hslash : '\\' ∉ cs) :
    ∀ m ∈ members, m.1.toList ⊆ cs := by
  induction fuel generalizing cs members with
  | zero => cases h
  | succ fuel ih =>
      rw [parseMembers] at h
      split at h
      · rename_i tail hcs
        have htail : tail ⊆ cs := by
          have hsub := (reads_skipSpace cs).subset
          rw [hcs] at hsub
          exact List.Subset.trans (List.subset_cons_self _ tail) hsub
        split at h
        · cases h
        · rename_i key afterKey hkey
          rcases parseChars_reads hkey with ⟨used, rfl, -, hsub⟩
          have hused : used ⊆ cs :=
            List.Subset.trans (List.subset_append_left used afterKey) htail
          have hafter : afterKey ⊆ cs :=
            List.Subset.trans (List.subset_append_right used afterKey) htail
          have hone : (String.ofList key).toList ⊆ cs := by
            rw [String.toList_ofList]
            exact List.Subset.trans (hsub fun hmem => hslash (hused hmem)) hused
          split at h
          · rename_i afterColon hcolon
            split at h
            · cases h
            · rename_i v afterValue hv
              have hvalue : afterValue ⊆ cs := by
                have hcolonsub := (reads_skipSpace afterKey).subset
                rw [hcolon] at hcolonsub
                have hread : afterValue ⊆ afterKey :=
                  List.Subset.trans (List.Subset.trans ((allRead fuel).value hv).subset
                    (List.subset_cons_self _ afterColon)) hcolonsub
                exact List.Subset.trans hread hafter
              split at h
              · rename_i last hlast
                rcases map_eq_some_rest h (fun _ => rfl) with ⟨members', hmembers', rfl⟩
                have hlastsub : last ⊆ cs := by
                  have hlastsub := (reads_skipSpace afterValue).subset
                  rw [hlast] at hlastsub
                  exact List.Subset.trans (List.Subset.trans (List.subset_cons_self _ last) hlastsub)
                    hvalue
                intro m hm
                rcases List.mem_cons.mp hm with rfl | hm
                · exact hone
                · exact List.Subset.trans (ih hmembers' (fun hmem => hslash (hlastsub hmem)) m hm)
                    hlastsub
              · cases h
                intro m hm
                rw [List.mem_singleton] at hm
                subst hm
                exact hone
              · cases h
          · cases h
      · cases h

theorem objectOf_keys {members entries : List (String × JsonValue)}
    (h : objectOf members = .object entries) :
    ∀ e ∈ entries, e.1 ∈ members.map Prod.fst := by
  have hfold : ∀ (members : List (String × JsonValue)) (acc : InsertionMap String JsonValue),
      ∀ e ∈ (members.foldl (fun acc m => acc.set m.1 m.2) acc).entries,
        e ∈ acc.entries ∨ e.1 ∈ members.map Prod.fst := by
    intro members
    induction members with
    | nil => exact fun acc e he => .inl he
    | cons m members ih =>
        intro acc e he
        rcases ih (acc.set m.1 m.2) e he with hset | hmem
        · rcases InsertionMap.mem_entries_set.mp hset with rfl | ⟨hold, -⟩
          · exact .inr List.mem_cons_self
          · exact .inl hold
        · exact .inr (List.mem_cons_of_mem _ hmem)
  rw [objectOf, JsonValue.object.injEq] at h
  subst h
  intro e he
  rcases hfold members InsertionMap.empty e he with hempty | hmem
  · exact absurd hempty List.not_mem_nil
  · exact hmem

/-- Without backslashes, the name of a member of an object is a part of its text. -/
theorem parse_keys {cs : List Char} {entries : List (String × JsonValue)}
    (h : parse cs = some (.object entries)) (hslash : '\\' ∉ cs) :
    ∀ e ∈ entries, e.1.toList ⊆ cs := by
  unfold parse at h
  split at h
  · rename_i v rest hvalue
    split at h
    · cases h
      rw [parseValue] at hvalue
      split at hvalue
      · cases hvalue
      · cases hvalue
      · cases hvalue
      · rcases map_eq_some_rest hvalue (fun _ => rfl) with ⟨text, -, hv⟩
        cases hv
      · split at hvalue
        · cases hvalue
        · rcases map_eq_some_rest hvalue (fun _ => rfl) with ⟨items, -, hv⟩
          cases hv
      · rename_i tail hcs
        split at hvalue
        · cases hvalue
          intro e he
          exact absurd he List.not_mem_nil
        · rcases map_eq_some_rest hvalue (fun _ => rfl) with ⟨members, hmembers, hv⟩
          have hsub : skipSpace tail ⊆ cs := by
            have htail := (reads_skipSpace cs).subset
            rw [hcs] at htail
            exact List.Subset.trans (List.Subset.trans (reads_skipSpace tail).subset
              (List.subset_cons_self _ tail)) htail
          intro e he
          rcases List.mem_map.mp (objectOf_keys hv e he) with ⟨m, hm, hkey⟩
          rw [← hkey]
          exact List.Subset.trans (parseMembers_keys hmembers (fun hmem => hslash (hsub hmem)) m hm)
            hsub
      · exact absurd hvalue (parseNumber_ne_object _ _ _)
    · cases h
  · cases h

end Json
end TokenStreaming
