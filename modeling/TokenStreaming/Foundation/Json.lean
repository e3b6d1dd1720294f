import Mathlib.Algebra.Ring.Nat
import TokenStreaming.Foundation.InsertionMap

/-!
# Foundation - JSON texts

JSON values with the compact printer and the parser of the language's standard
library.  Numbers are exact: an integral one is an integer, however it is written, and
any other keeps its text.  Texts are sequences of Unicode scalar values, so an escape
for half of a surrogate pair is refused.

Main results:

- Theorem {lit}`parse_render`: parsing what was printed returns the value.
- Theorem {lit}`newline_notMem_render`: a printed value stays on one line.
-/

namespace TokenStreaming
namespace Json

/-! ## Values -/

/-- A JSON value. -/
inductive JsonValue where
  | null
  | bool (b : Bool)
  | number (n : Int)
  /-- A number that is not an integer. -/
  | decimal (text : List Char)
  | string (text : String)
  | array (items : List JsonValue)
  | object (members : List (String × JsonValue))

/-! ## Printing -/

/-- The digit of a hexadecimal escape. -/
def hexDigit (n : Nat) : Char :=
  Nat.digitChar n

/-- A character inside a JSON string. -/
def escapeChar (c : Char) : List Char :=
  if c = '"' then ['\\', '"']
  else if c = '\\' then ['\\', '\\']
  else if c = '\x08' then ['\\', 'b']
  else if c = '\x0c' then ['\\', 'f']
  else if c = '\n' then ['\\', 'n']
  else if c = '\r' then ['\\', 'r']
  else if c = '\t' then ['\\', 't']
  else if c.toNat < 32 then
    ['\\', 'u', '0', '0', hexDigit (c.toNat / 16), hexDigit (c.toNat % 16)]
  else [c]

/-- A JSON string with its quotes. -/
def renderString (text : String) : List Char :=
  '"' :: (text.toList.flatMap escapeChar ++ ['"'])

/-- An integer. -/
def renderInt : Int → List Char
  | .ofNat n => Nat.toDigits 10 n
  | .negSucc n => '-' :: Nat.toDigits 10 (n + 1)

mutual

/-- The compact text of a value, as {lit}`JSON.stringify` writes it. -/
def render : JsonValue → List Char
  | .null => ['n', 'u', 'l', 'l']
  | .bool true => ['t', 'r', 'u', 'e']
  | .bool false => ['f', 'a', 'l', 's', 'e']
  | .number n => renderInt n
  | .decimal text => text
  | .string text => renderString text
  | .array items => '[' :: renderItems items
  | .object members => '{' :: renderMembers members

/-- The items of an array and its closing bracket. -/
def renderItems : List JsonValue → List Char
  | [] => [']']
  | [v] => render v ++ [']']
  | v :: w :: items => render v ++ ',' :: renderItems (w :: items)

/-- The members of an object and its closing brace. -/
def renderMembers : List (String × JsonValue) → List Char
  | [] => ['}']
  | [(key, v)] => renderString key ++ ':' :: (render v ++ ['}'])
  | (key, v) :: m :: members =>
      renderString key ++ ':' :: (render v ++ ',' :: renderMembers (m :: members))

end

/-! ## Parsing -/

/-- White space between tokens. -/
def isSpace (c : Char) : Bool :=
  c == ' ' || c == '\n' || c == '\r' || c == '\t'

def skipSpace (cs : List Char) : List Char :=
  cs.dropWhile isSpace

/-- The value of a hexadecimal digit. -/
def hexValue (c : Char) : Option Nat :=
  if '0' ≤ c ∧ c ≤ '9' then some (c.toNat - 48)
  else if 'a' ≤ c ∧ c ≤ 'f' then some (c.toNat - 87)
  else if 'A' ≤ c ∧ c ≤ 'F' then some (c.toNat - 55)
  else none

/-- Four hexadecimal digits. -/
def hexQuad (a b c d : Char) : Option Nat :=
  match hexValue a, hexValue b, hexValue c, hexValue d with
  | some a, some b, some c, some d => some (((a * 16 + b) * 16 + c) * 16 + d)
  | _, _, _, _ => none

/-- The character of one escape without digits. -/
def simpleEscape (c : Char) : Option Char :=
  if c = '"' then some '"'
  else if c = '\\' then some '\\'
  else if c = '/' then some '/'
  else if c = 'b' then some '\x08'
  else if c = 'f' then some '\x0c'
  else if c = 'n' then some '\n'
  else if c = 'r' then some '\r'
  else if c = 't' then some '\t'
  else none

/-- Put a character in front of a parsed text. -/
def consChar (c : Char) (parsed : Option (List Char × List Char)) :
    Option (List Char × List Char) :=
  parsed.map fun (text, rest) => (c :: text, rest)

/-- The text after an opening quote, up to its closing quote. -/
def parseChars : List Char → Option (List Char × List Char)
  | [] => none
  | '"' :: rest => some ([], rest)
  | '\\' :: 'u' :: a :: b :: c :: d :: rest =>
      match hexQuad a b c d with
      | none => none
      | some code =>
          if 0xD800 ≤ code ∧ code < 0xDC00 then
            match rest with
            | '\\' :: 'u' :: a :: b :: c :: d :: rest =>
                match hexQuad a b c d with
                | none => none
                | some low =>
                    if 0xDC00 ≤ low ∧ low < 0xE000 then
                      consChar (Char.ofNat (0x10000 + (code - 0xD800) * 0x400 + (low - 0xDC00)))
                        (parseChars rest)
                    else none
            | _ => none
          else if 0xDC00 ≤ code ∧ code < 0xE000 then none
          else consChar (Char.ofNat code) (parseChars rest)
  | '\\' :: c :: rest =>
      match simpleEscape c with
      | none => none
      | some c => consChar c (parseChars rest)
  | c :: rest => if c.toNat < 32 then none else consChar c (parseChars rest)

/-- A run of digits. -/
def spanDigits (cs : List Char) : List Char × List Char :=
  (cs.takeWhile Char.isDigit, cs.dropWhile Char.isDigit)

/-- Digits without a leading zero. -/
def wholeDigits (digits : List Char) : Bool :=
  match digits with
  | [] => false
  | [_] => true
  | d :: _ => d != '0'

/-- The exponent of a number, if there is one. -/
def parseExponent (cs : List Char) : Option (List Char × List Char) :=
  match cs with
  | e :: rest =>
      if e = 'e' ∨ e = 'E' then
        let (sign, rest) := match rest with
          | '+' :: rest => (['+'], rest)
          | '-' :: rest => (['-'], rest)
          | rest => ([], rest)
        let (digits, rest) := spanDigits rest
        if digits = [] then none else some (e :: (sign ++ digits), rest)
      else some ([], cs)
  | [] => some ([], [])

/-- The fraction of a number, if there is one. -/
def parseFraction (cs : List Char) : Option (List Char × List Char) :=
  match cs with
  | '.' :: rest =>
      let (digits, rest) := spanDigits rest
      if digits = [] then none else some ('.' :: digits, rest)
  | cs => some ([], cs)

/-- The integer an exponent's text stands for. -/
def exponentValue : List Char → Int
  | _ :: '-' :: digits => -(Nat.ofDigitChars 10 digits 0 : Int)
  | _ :: '+' :: digits => Nat.ofDigitChars 10 digits 0
  | _ :: digits => Nat.ofDigitChars 10 digits 0
  | [] => 0

/-- The natural number that digits with a fraction and an exponent stand for, if they do. -/
def integralValue (digits fraction exponent : List Char) : Option Nat :=
  let mantissa := Nat.ofDigitChars 10 (digits ++ fraction.drop 1) 0
  let shift := exponentValue exponent - ((fraction.drop 1).length : Int)
  if 0 ≤ shift then some (mantissa * 10 ^ shift.toNat)
  else if 10 ^ (-shift).toNat ∣ mantissa then some (mantissa / 10 ^ (-shift).toNat)
  else none

/-- An integer from its sign and its size. -/
def signed (isNegative : Bool) (n : Nat) : JsonValue :=
  .number (if isNegative then -n else n)

/-- The number after its sign. -/
def parseUnsigned (isNegative : Bool) (cs : List Char) : Option (JsonValue × List Char) :=
  let (digits, rest) := spanDigits cs
  if wholeDigits digits then
    match parseFraction rest with
    | none => none
    | some (fraction, rest) =>
        match parseExponent rest with
        | none => none
        | some (exponent, rest) =>
            if fraction = [] ∧ exponent = [] then
              some (signed isNegative (Nat.ofDigitChars 10 digits 0), rest)
            else
              match integralValue digits fraction exponent with
              | some n => some (signed isNegative n, rest)
              | none =>
                  let sign := if isNegative then ['-'] else []
                  some (.decimal (sign ++ digits ++ fraction ++ exponent), rest)
  else none

def parseNumber : List Char → Option (JsonValue × List Char)
  | '-' :: rest => parseUnsigned true rest
  | cs => parseUnsigned false cs

/-- An object; a member that comes again replaces the earlier one. -/
def objectOf (members : List (String × JsonValue)) : JsonValue :=
  .object (members.foldl (fun acc m => acc.set m.1 m.2) InsertionMap.empty).entries

mutual

/-- One value; the first argument bounds the nesting and the number of items. -/
def parseValue : Nat → List Char → Option (JsonValue × List Char)
  | 0, _ => none
  | fuel + 1, cs =>
      match skipSpace cs with
      | 'n' :: 'u' :: 'l' :: 'l' :: rest => some (.null, rest)
      | 't' :: 'r' :: 'u' :: 'e' :: rest => some (.bool true, rest)
      | 'f' :: 'a' :: 'l' :: 's' :: 'e' :: rest => some (.bool false, rest)
      | '"' :: rest => (parseChars rest).map fun (text, rest) => (.string (.ofList text), rest)
      | '[' :: rest =>
          match skipSpace rest with
          | ']' :: rest => some (.array [], rest)
          | rest => (parseItems fuel rest).map fun (items, rest) => (.array items, rest)
      | '{' :: rest =>
          match skipSpace rest with
          | '}' :: rest => some (.object [], rest)
          | rest => (parseMembers fuel rest).map fun (members, rest) => (objectOf members, rest)
      | cs => parseNumber cs

/-- The items of an array that has some, and its closing bracket. -/
def parseItems : Nat → List Char → Option (List JsonValue × List Char)
  | 0, _ => none
  | fuel + 1, cs =>
      match parseValue fuel cs with
      | none => none
      | some (v, rest) =>
          match skipSpace rest with
          | ',' :: rest => (parseItems fuel rest).map fun (items, rest) => (v :: items, rest)
          | ']' :: rest => some ([v], rest)
          | _ => none

/-- The members of an object that has some, and its closing brace. -/
def parseMembers : Nat → List Char → Option (List (String × JsonValue) × List Char)
  | 0, _ => none
  | fuel + 1, cs =>
      match skipSpace cs with
      | '"' :: rest =>
          match parseChars rest with
          | none => none
          | some (key, rest) =>
              match skipSpace rest with
              | ':' :: rest =>
                  match parseValue fuel rest with
                  | none => none
                  | some (v, rest) =>
                      match skipSpace rest with
                      | ',' :: rest => (parseMembers fuel rest).map fun (members, rest) =>
                          ((String.ofList key, v) :: members, rest)
                      | '}' :: rest => some ([(String.ofList key, v)], rest)
                      | _ => none
              | _ => none
      | _ => none

end

/-- {lit}`JSON.parse` of the characters of a text; {lit}`none` is a thrown error. -/
def parse (cs : List Char) : Option JsonValue :=
  match parseValue (cs.length + 1) cs with
  | some (v, rest) => if skipSpace rest = [] then some v else none
  | none => none

/-! ## Strings -/

theorem hexValue_hexDigit : ∀ n, n < 16 → hexValue (hexDigit n) = some n := by
  decide

theorem parseChars_cons {c : Char} (hquote : c ≠ '"') (hslash : c ≠ '\\')
    (rest : List Char) :
    parseChars (c :: rest) = if c.toNat < 32 then none else consChar c (parseChars rest) := by
  rw [parseChars]
  · exact hquote
  · exact fun _ _ _ _ _ h _ => hslash h
  · exact fun _ _ h _ => hslash h

/-- A character that is escaped by one letter. -/
theorem parseChars_simpleEscape {c e : Char} (h : simpleEscape e = some c) (hne : e ≠ 'u')
    (rest : List Char) : parseChars ('\\' :: e :: rest) = consChar c (parseChars rest) := by
  rw [parseChars]
  · rw [h]
  · intro a b c d rest he _
    exact hne he

/-- A control character. -/
theorem parseChars_control {c : Char} (h : c.toNat < 32) (rest : List Char) :
    parseChars ('\\' :: 'u' :: '0' :: '0' :: hexDigit (c.toNat / 16) ::
      hexDigit (c.toNat % 16) :: rest) = consChar c (parseChars rest) := by
  have hhigh := hexValue_hexDigit (c.toNat / 16) (by omega)
  have hlow := hexValue_hexDigit (c.toNat % 16) (by omega)
  have hzero : hexValue '0' = some 0 := by decide
  have hcode : hexQuad '0' '0' (hexDigit (c.toNat / 16)) (hexDigit (c.toNat % 16)) =
      some c.toNat := by
    simp only [hexQuad, hzero, hhigh, hlow]
    congr 1
    omega
  rw [parseChars.eq_def]
  simp only [hcode]
  rw [if_neg (by omega), if_neg (by omega), Char.ofNat_toNat]

/-- An escaped character is read back. -/
theorem parseChars_escapeChar (c : Char) (rest : List Char) :
    parseChars (escapeChar c ++ rest) = consChar c (parseChars rest) := by
  unfold escapeChar
  by_cases hquote : c = '"'
  · rw [if_pos hquote, hquote]
    exact parseChars_simpleEscape (by decide) (by decide) rest
  rw [if_neg hquote]
  by_cases hslash : c = '\\'
  · rw [if_pos hslash, hslash]
    exact parseChars_simpleEscape (by decide) (by decide) rest
  rw [if_neg hslash]
  by_cases hback : c = '\x08'
  · rw [if_pos hback, hback]
    exact parseChars_simpleEscape (by decide) (by decide) rest
  rw [if_neg hback]
  by_cases hfeed : c = '\x0c'
  · rw [if_pos hfeed, hfeed]
    exact parseChars_simpleEscape (by decide) (by decide) rest
  rw [if_neg hfeed]
  by_cases hline : c = '\n'
  · rw [if_pos hline, hline]
    exact parseChars_simpleEscape (by decide) (by decide) rest
  rw [if_neg hline]
  by_cases hreturn : c = '\r'
  · rw [if_pos hreturn, hreturn]
    exact parseChars_simpleEscape (by decide) (by decide) rest
  rw [if_neg hreturn]
  by_cases htab : c = '\t'
  · rw [if_pos htab, htab]
    exact parseChars_simpleEscape (by decide) (by decide) rest
  rw [if_neg htab]
  by_cases hcontrol : c.toNat < 32
  · rw [if_pos hcontrol]
    exact parseChars_control hcontrol rest
  · rw [if_neg hcontrol, List.singleton_append, parseChars_cons hquote hslash, if_neg hcontrol]

/-- An escaped text is read back up to its closing quote. -/
theorem parseChars_escape (text rest : List Char) :
    parseChars (text.flatMap escapeChar ++ '"' :: rest) = some (text, rest) := by
  induction text with
  | nil =>
      rw [List.flatMap_nil, List.nil_append, parseChars]
  | cons c text ih =>
      rw [List.flatMap_cons, List.append_assoc, parseChars_escapeChar, ih]
      rfl

/-! ## Numbers -/

/-- The text does not continue a number. -/
def EndsNumber (rest : List Char) : Prop :=
  ∀ c cs, rest = c :: cs → c.isDigit = false ∧ c ≠ '.' ∧ c ≠ 'e' ∧ c ≠ 'E'

theorem endsNumber_nil : EndsNumber [] := by
  intro c cs h
  cases h

theorem endsNumber_cons {c : Char} {cs : List Char}
    (h : c.isDigit = false ∧ c ≠ '.' ∧ c ≠ 'e' ∧ c ≠ 'E') : EndsNumber (c :: cs) := by
  intro d ds heq
  cases heq
  exact h

theorem spanDigits_append {digits rest : List Char} (hdigits : ∀ c ∈ digits, c.isDigit = true)
    (hrest : EndsNumber rest) : spanDigits (digits ++ rest) = (digits, rest) := by
  unfold spanDigits
  rw [List.takeWhile_append_of_pos hdigits, List.dropWhile_append_of_pos hdigits]
  cases rest with
  | nil => simp
  | cons c cs =>
      have hstop := (hrest c cs rfl).1
      simp [hstop]

theorem digitChar_ne_zero : ∀ n, n < 10 → 0 < n → n.digitChar ≠ '0' := by
  decide

/-- The first digit of a positive number is not zero. -/
theorem head_toDigits_ne_zero {n : Nat} (hn : 0 < n) (digits : List Char) :
    Nat.toDigits 10 n ≠ '0' :: digits := by
  induction n using Nat.strongRecOn generalizing digits with
  | ind n ih =>
      by_cases hsmall : n < 10
      · rw [Nat.toDigits_of_lt_base hsmall]
        intro h
        exact digitChar_ne_zero n hsmall hn (List.cons.inj h).1
      · rw [Nat.toDigits_of_base_le (by omega) (by omega)]
        intro h
        cases hinit : Nat.toDigits 10 (n / 10) with
        | nil => exact Nat.toDigits_ne_nil hinit
        | cons d ds =>
            rw [hinit, List.cons_append] at h
            have hd : d = '0' := (List.cons.inj h).1
            rw [hd] at hinit
            exact ih (n / 10) (by omega) (by omega) ds hinit

theorem wholeDigits_toDigits (n : Nat) : wholeDigits (Nat.toDigits 10 n) = true := by
  rcases Nat.eq_zero_or_pos n with rfl | hn
  · rw [Nat.toDigits_zero]
    rfl
  · cases hdigits : Nat.toDigits 10 n with
    | nil => exact absurd hdigits Nat.toDigits_ne_nil
    | cons d ds =>
        have hd : d ≠ '0' := by
          intro h
          rw [h] at hdigits
          exact head_toDigits_ne_zero hn ds hdigits
        cases ds with
        | nil => rfl
        | cons d' ds => simp [wholeDigits, hd]

theorem parseFraction_of_endsNumber {rest : List Char} (h : EndsNumber rest) :
    parseFraction rest = some ([], rest) := by
  cases rest with
  | nil => rfl
  | cons c cs =>
      have hdot := (h c cs rfl).2.1
      unfold parseFraction
      split
      · rename_i heq
        exact absurd (List.cons.inj heq).1 hdot
      · rfl

theorem parseExponent_of_endsNumber {rest : List Char} (h : EndsNumber rest) :
    parseExponent rest = some ([], rest) := by
  cases rest with
  | nil => rfl
  | cons c cs =>
      obtain ⟨-, -, hlower, hupper⟩ := h c cs rfl
      have hnone : ¬(c = 'e' ∨ c = 'E') := by
        intro h
        rcases h with h | h
        · exact hlower h
        · exact hupper h
      simp only [parseExponent, if_neg hnone]

/-- Printed digits are read back with their sign. -/
theorem parseUnsigned_toDigits (isNegative : Bool) (n : Nat) {rest : List Char}
    (h : EndsNumber rest) :
    parseUnsigned isNegative (Nat.toDigits 10 n ++ rest) =
      some (signed isNegative n, rest) := by
  have hdigits : ∀ c ∈ Nat.toDigits 10 n, c.isDigit = true := fun c hc =>
    Nat.isDigit_of_mem_toDigits (by omega) (by omega) hc
  unfold parseUnsigned
  rw [spanDigits_append hdigits h]
  simp only [wholeDigits_toDigits, parseFraction_of_endsNumber h, parseExponent_of_endsNumber h,
    Nat.ofDigitChars_ten_toDigits, and_self, if_true]

/-- A printed integer is read back. -/
theorem parseNumber_renderInt (n : Int) {rest : List Char} (h : EndsNumber rest) :
    parseNumber (renderInt n ++ rest) = some (.number n, rest) := by
  cases n with
  | ofNat n =>
      have hunsigned := parseUnsigned_toDigits false n h
      cases hdigits : Nat.toDigits 10 n with
      | nil => exact absurd hdigits Nat.toDigits_ne_nil
      | cons d ds =>
          have hdigit : d.isDigit = true :=
            Nat.isDigit_of_mem_toDigits (by omega) (by omega) (hdigits ▸ List.mem_cons_self)
          have hd : d ≠ '-' := by
            intro heq
            rw [heq] at hdigit
            exact absurd hdigit (by decide)
          rw [hdigits, List.cons_append] at hunsigned
          simp only [renderInt, hdigits, List.cons_append]
          rw [parseNumber]
          · rw [hunsigned]
            rfl
          · intro rest heq
            exact hd (List.cons.inj heq).1
  | negSucc n =>
      have hunsigned := parseUnsigned_toDigits true (n + 1) h
      simp only [renderInt, List.cons_append, parseNumber, hunsigned]
      rfl

/-! ## Values -/

mutual

/-- The value has no fractional number and no object that names a member twice. -/
def Printable : JsonValue → Prop
  | .decimal _ => False
  | .array items => PrintableItems items
  | .object members => (members.map Prod.fst).Nodup ∧ PrintableMembers members
  | _ => True

def PrintableItems : List JsonValue → Prop
  | [] => True
  | v :: items => Printable v ∧ PrintableItems items

def PrintableMembers : List (String × JsonValue) → Prop
  | [] => True
  | (_, v) :: members => Printable v ∧ PrintableMembers members

end

/-- What the first character of a printed value can be. -/
def StartsValue (c : Char) : Prop :=
  isSpace c = false ∧ c ≠ ']'

/-- The first character of a printed integer. -/
def StartsNumber (c : Char) : Prop :=
  isSpace c = false ∧ c ≠ ']' ∧ c ≠ 'n' ∧ c ≠ 't' ∧ c ≠ 'f' ∧ c ≠ '"' ∧ c ≠ '[' ∧ c ≠ '{'

theorem startsNumber_of_isDigit {c : Char} (h : c.isDigit = true) : StartsNumber c := by
  have hne : ∀ d : Char, d.isDigit = false → c ≠ d := by
    intro d hd heq
    rw [heq, hd] at h
    cases h
  have hspace : isSpace c = false := by
    have hblank := hne ' ' (by decide)
    have hline := hne '\n' (by decide)
    have hreturn := hne '\r' (by decide)
    have htab := hne '\t' (by decide)
    simp [isSpace, hblank, hline, hreturn, htab]
  exact ⟨hspace, hne _ (by decide), hne _ (by decide), hne _ (by decide), hne _ (by decide),
    hne _ (by decide), hne _ (by decide), hne _ (by decide)⟩

theorem renderInt_startsNumber (n : Int) :
    ∃ c cs, renderInt n = c :: cs ∧ StartsNumber c := by
  cases n with
  | ofNat n =>
      cases hdigits : Nat.toDigits 10 n with
      | nil => exact absurd hdigits Nat.toDigits_ne_nil
      | cons d ds =>
          have hdigit : d.isDigit = true :=
            Nat.isDigit_of_mem_toDigits (by omega) (by omega) (hdigits ▸ List.mem_cons_self)
          exact ⟨d, ds, hdigits, startsNumber_of_isDigit hdigit⟩
  | negSucc n => exact ⟨'-', _, rfl, by unfold StartsNumber; decide⟩

/-- A printed value starts with neither a space nor a closing bracket. -/
theorem render_starts {v : JsonValue} (h : Printable v) :
    ∃ c cs, render v = c :: cs ∧ StartsValue c := by
  cases v with
  | null => exact ⟨_, _, by rw [render], by unfold StartsValue; decide⟩
  | bool b => cases b <;> exact ⟨_, _, by rw [render], by unfold StartsValue; decide⟩
  | number n =>
      obtain ⟨c, cs, hrender, hstart⟩ := renderInt_startsNumber n
      exact ⟨c, cs, by rw [render, hrender], hstart.1, hstart.2.1⟩
  | decimal text => exact absurd h (by simp [Printable])
  | string text => exact ⟨_, _, by rw [render, renderString], by unfold StartsValue; decide⟩
  | array items => exact ⟨_, _, by rw [render], by unfold StartsValue; decide⟩
  | object members => exact ⟨_, _, by rw [render], by unfold StartsValue; decide⟩

theorem render_ne_nil {v : JsonValue} (h : Printable v) : render v ≠ [] := by
  obtain ⟨c, cs, hrender, -⟩ := render_starts h
  rw [hrender]
  exact List.cons_ne_nil c cs

/-- The items of an array start with a value. -/
theorem renderItems_starts {v : JsonValue} (items : List JsonValue) (h : Printable v) :
    ∃ c cs, renderItems (v :: items) = c :: cs ∧ StartsValue c := by
  obtain ⟨c, cs, hrender, hstart⟩ := render_starts h
  cases items with
  | nil => exact ⟨c, _, by rw [renderItems, hrender, List.cons_append], hstart⟩
  | cons w items => exact ⟨c, _, by rw [renderItems, hrender, List.cons_append], hstart⟩

/-- The members of an object start with a name. -/
theorem renderMembers_starts (key : String) (v : JsonValue)
    (members : List (String × JsonValue)) :
    ∃ cs, renderMembers ((key, v) :: members) = '"' :: cs := by
  cases members with
  | nil => exact ⟨_, by rw [renderMembers, renderString, List.cons_append]⟩
  | cons m members => exact ⟨_, by rw [renderMembers, renderString, List.cons_append]⟩

theorem skipSpace_cons {c : Char} (h : isSpace c = false) (cs : List Char) :
    skipSpace (c :: cs) = c :: cs := by
  rw [skipSpace, List.dropWhile_cons, h]
  rfl

/-! ## Objects -/

/-- Members with different names are all kept, in their order. -/
theorem entries_foldl_set {members : List (String × JsonValue)}
    {acc : InsertionMap String JsonValue}
    (h : ((acc.entries ++ members).map Prod.fst).Nodup) :
    (members.foldl (fun acc m => acc.set m.1 m.2) acc).entries = acc.entries ++ members := by
  induction members generalizing acc with
  | nil => rw [List.foldl_nil, List.append_nil]
  | cons m members ih =>
      have hnew : m.1 ∉ acc.entries.map Prod.fst := by
        intro hmem
        rw [List.map_append, List.nodup_append] at h
        exact h.2.2 m.1 hmem m.1 (by simp) rfl
      have hset := InsertionMap.entries_set_of_notMem hnew m.2
      have hassoc : (acc.set m.1 m.2).entries ++ members = acc.entries ++ m :: members := by
        rw [hset, List.append_assoc]
        rfl
      rw [List.foldl_cons, ih (by rw [hassoc]; exact h), hassoc]

theorem objectOf_of_nodup {members : List (String × JsonValue)}
    (h : (members.map Prod.fst).Nodup) : objectOf members = .object members := by
  have hentries := @entries_foldl_set members InsertionMap.empty h
  rw [objectOf, hentries, InsertionMap.entries_empty, List.nil_append]

/-! ## Round trip -/

theorem parseValue_number {c : Char} (h : StartsNumber c) (fuel : Nat) (cs : List Char) :
    parseValue (fuel + 1) (c :: cs) = parseNumber (c :: cs) := by
  obtain ⟨hspace, -, hn, ht, hf, hquote, hbracket, hbrace⟩ := h
  rw [parseValue, skipSpace_cons hspace]
  split
  · rename_i heq
    exact absurd (List.cons.inj heq).1 hn
  · rename_i heq
    exact absurd (List.cons.inj heq).1 ht
  · rename_i heq
    exact absurd (List.cons.inj heq).1 hf
  · rename_i heq
    exact absurd (List.cons.inj heq).1 hquote
  · rename_i heq
    exact absurd (List.cons.inj heq).1 hbracket
  · rename_i heq
    exact absurd (List.cons.inj heq).1 hbrace
  · rfl

theorem parseValue_string (text : String) (fuel : Nat) (rest : List Char) :
    parseValue (fuel + 1) (renderString text ++ rest) = some (.string text, rest) := by
  have hchars := parseChars_escape text.toList rest
  rw [parseValue, renderString, List.cons_append, List.append_assoc, List.singleton_append,
    skipSpace_cons (by decide)]
  simp only [hchars, Option.map_some, String.ofList_toList]

theorem parseValue_array {c : Char} (h : StartsValue c) (fuel : Nat) (cs : List Char) :
    parseValue (fuel + 1) ('[' :: c :: cs) =
      (parseItems fuel (c :: cs)).map fun (items, rest) => (.array items, rest) := by
  rw [parseValue, skipSpace_cons (by decide)]
  simp only [skipSpace_cons h.1]
  split
  · rename_i heq
    exact absurd (List.cons.inj heq).1 h.2
  · rfl

theorem parseValue_object (fuel : Nat) (cs : List Char) :
    parseValue (fuel + 1) ('{' :: '"' :: cs) =
      (parseMembers fuel ('"' :: cs)).map fun (members, rest) => (objectOf members, rest) := by
  rw [parseValue, skipSpace_cons (by decide)]
  simp only [skipSpace_cons (c := '"') (by decide)]
  rfl

/-- One member is read up to the character after its value. -/
theorem parseMembers_cons {key : String} {v : JsonValue} {fuel : Nat} {c : Char}
    {cs : List Char} (hv : parseValue fuel (render v ++ c :: cs) = some (v, c :: cs))
    (hspace : isSpace c = false) :
    parseMembers (fuel + 1) (renderString key ++ ':' :: (render v ++ c :: cs)) =
      match c :: cs with
      | ',' :: rest => (parseMembers fuel rest).map fun (members, rest) =>
          ((key, v) :: members, rest)
      | '}' :: rest => some ([(key, v)], rest)
      | _ => none := by
  have hchars := parseChars_escape key.toList (':' :: (render v ++ c :: cs))
  rw [parseMembers, renderString, List.cons_append, List.append_assoc, List.singleton_append,
    skipSpace_cons (by decide)]
  simp only [hchars, skipSpace_cons (c := ':') (by decide), hv, skipSpace_cons hspace,
    String.ofList_toList]

theorem endsNumber_comma (cs : List Char) : EndsNumber (',' :: cs) :=
  endsNumber_cons (by decide)

theorem endsNumber_bracket (cs : List Char) : EndsNumber (']' :: cs) :=
  endsNumber_cons (by decide)

theorem endsNumber_brace (cs : List Char) : EndsNumber ('}' :: cs) :=
  endsNumber_cons (by decide)

mutual

/-- A printed value is read back, whatever follows it. -/
theorem parseValue_render (v : JsonValue) (h : Printable v) (fuel : Nat) (rest : List Char)
    (hfuel : (render v).length ≤ fuel) (hrest : EndsNumber rest) :
    parseValue fuel (render v ++ rest) = some (v, rest) := by
  cases fuel with
  | zero => exact absurd (List.length_eq_zero_iff.mp (Nat.le_zero.mp hfuel)) (render_ne_nil h)
  | succ fuel =>
      cases v with
      | null => rfl
      | bool b => cases b <;> rfl
      | number n =>
          obtain ⟨c, cs, hrender, hstart⟩ := renderInt_startsNumber n
          have hnumber := parseNumber_renderInt n hrest
          rw [render]
          rw [hrender, List.cons_append] at hnumber ⊢
          rw [parseValue_number hstart, hnumber]
      | decimal text => exact absurd h (by simp [Printable])
      | string text =>
          rw [render]
          exact parseValue_string text fuel rest
      | array items =>
          cases items with
          | nil => rfl
          | cons v items =>
              have hitems : PrintableItems (v :: items) := by
                rw [Printable] at h
                exact h
              have hlength : (renderItems (v :: items)).length ≤ fuel := by
                rw [render, List.length_cons] at hfuel
                omega
              have hparsed := parseItems_render v items hitems fuel rest hlength
              obtain ⟨c, cs, hrender, hstart⟩ := renderItems_starts items hitems.1
              rw [render, List.cons_append]
              rw [hrender, List.cons_append] at hparsed ⊢
              rw [parseValue_array hstart, hparsed, Option.map_some]
      | object members =>
          cases members with
          | nil => rfl
          | cons m members =>
              obtain ⟨key, v⟩ := m
              have hmembers : ((((key, v) :: members).map Prod.fst).Nodup) ∧
                  PrintableMembers ((key, v) :: members) := by
                rw [Printable] at h
                exact h
              have hlength : (renderMembers ((key, v) :: members)).length ≤ fuel := by
                rw [render, List.length_cons] at hfuel
                omega
              have hparsed := parseMembers_render key v members hmembers.2 fuel rest hlength
              obtain ⟨cs, hrender⟩ := renderMembers_starts key v members
              rw [render, List.cons_append]
              rw [hrender, List.cons_append] at hparsed ⊢
              rw [parseValue_object, hparsed, Option.map_some]
              simp only [objectOf_of_nodup hmembers.1]
termination_by fuel

theorem parseItems_render (v : JsonValue) (items : List JsonValue)
    (h : PrintableItems (v :: items)) (fuel : Nat) (rest : List Char)
    (hfuel : (renderItems (v :: items)).length ≤ fuel) :
    parseItems fuel (renderItems (v :: items) ++ rest) = some (v :: items, rest) := by
  rw [PrintableItems] at h
  cases fuel with
  | zero =>
      obtain ⟨c, cs, hrender, -⟩ := renderItems_starts items h.1
      rw [hrender, List.length_cons] at hfuel
      omega
  | succ fuel =>
      cases items with
      | nil =>
          rw [renderItems, List.length_append, List.length_singleton] at hfuel
          have hv := parseValue_render v h.1 fuel (']' :: rest) (by omega) (endsNumber_bracket rest)
          rw [renderItems, List.append_assoc, List.singleton_append, parseItems, hv]
          simp only [skipSpace_cons (c := ']') (by decide)]
      | cons w items =>
          rw [renderItems, List.length_append, List.length_cons] at hfuel
          have hv := parseValue_render v h.1 fuel (',' :: (renderItems (w :: items) ++ rest))
            (by omega) (endsNumber_comma _)
          have hitems := parseItems_render w items h.2 fuel rest (by omega)
          rw [renderItems, List.append_assoc, List.cons_append, parseItems, hv]
          simp only [skipSpace_cons (c := ',') (by decide), hitems, Option.map_some]
termination_by fuel

theorem parseMembers_render (key : String) (v : JsonValue) (members : List (String × JsonValue))
    (h : PrintableMembers ((key, v) :: members)) (fuel : Nat) (rest : List Char)
    (hfuel : (renderMembers ((key, v) :: members)).length ≤ fuel) :
    parseMembers fuel (renderMembers ((key, v) :: members) ++ rest) =
      some ((key, v) :: members, rest) := by
  rw [PrintableMembers] at h
  cases fuel with
  | zero =>
      obtain ⟨cs, hrender⟩ := renderMembers_starts key v members
      rw [hrender, List.length_cons] at hfuel
      omega
  | succ fuel =>
      cases members with
      | nil =>
          have hlength : (render v).length ≤ fuel := by
            simp only [renderMembers, List.length_append, List.length_cons] at hfuel
            omega
          have hv := parseValue_render v h.1 fuel ('}' :: rest) hlength (endsNumber_brace rest)
          rw [renderMembers, List.append_assoc, List.cons_append, List.append_assoc,
            List.singleton_append, parseMembers_cons hv (by decide)]
          rfl
      | cons m members =>
          obtain ⟨key', v'⟩ := m
          have hlength : (render v).length ≤ fuel ∧
              (renderMembers ((key', v') :: members)).length ≤ fuel := by
            simp only [renderMembers, List.length_append, List.length_cons] at hfuel
            omega
          have hv := parseValue_render v h.1 fuel
            (',' :: (renderMembers ((key', v') :: members) ++ rest)) hlength.1
            (endsNumber_comma _)
          have hmembers := parseMembers_render key' v' members h.2 fuel rest hlength.2
          rw [renderMembers, List.append_assoc, List.cons_append, List.append_assoc,
            List.cons_append, parseMembers_cons hv (by decide)]
          simp only [hmembers, Option.map_some]
termination_by fuel

end

/-- {lit}`JSON.parse` reads back what {lit}`JSON.stringify` wrote. -/
theorem parse_render (v : JsonValue) (h : Printable v) : parse (render v) = some v := by
  have hparsed := parseValue_render v h ((render v).length + 1) [] (by omega) endsNumber_nil
  rw [List.append_nil] at hparsed
  simp only [parse, hparsed]
  rfl

/-! ## One line -/

theorem newline_notMem_escapeChar (c : Char) : '\n' ∉ escapeChar c := by
  unfold escapeChar
  split
  · decide
  split
  · decide
  split
  · decide
  split
  · decide
  split
  · decide
  split
  · decide
  split
  · decide
  rename_i hline _ _
  split
  · rename_i hcontrol
    have hdigit : ∀ n, n < 16 → '\n' ≠ hexDigit n := by decide
    have hhigh := hdigit (c.toNat / 16) (by omega)
    have hlow := hdigit (c.toNat % 16) (by omega)
    simp [hhigh, hlow]
  · intro h
    exact hline (List.mem_singleton.mp h).symm

theorem newline_notMem_renderString (text : String) : '\n' ∉ renderString text := by
  intro h
  rw [renderString, List.mem_cons, List.mem_append, List.mem_flatMap] at h
  rcases h with h | ⟨c, -, h⟩ | h
  · exact absurd h (by decide)
  · exact newline_notMem_escapeChar c h
  · exact absurd h (by decide)

theorem newline_notMem_renderInt (n : Int) : '\n' ∉ renderInt n := by
  have hdigits : ∀ n, '\n' ∉ Nat.toDigits 10 n := by
    intro n h
    exact absurd (Nat.isDigit_of_mem_toDigits (by omega) (by omega) h) (by decide)
  cases n with
  | ofNat n => exact hdigits n
  | negSucc n =>
      intro h
      rcases List.mem_cons.mp h with h | h
      · exact absurd h (by decide)
      · exact hdigits (n + 1) h

mutual

/-- A printed value has no line break. -/
theorem newline_notMem_render (v : JsonValue) (h : Printable v) : '\n' ∉ render v := by
  cases v with
  | null => decide
  | bool b => cases b <;> decide
  | number n => exact newline_notMem_renderInt n
  | decimal text => exact absurd h (by simp [Printable])
  | string text => exact newline_notMem_renderString text
  | array items =>
      rw [Printable] at h
      rw [render, List.mem_cons]
      intro hmem
      rcases hmem with hmem | hmem
      · exact absurd hmem (by decide)
      · exact newline_notMem_renderItems items h hmem
  | object members =>
      rw [Printable] at h
      rw [render, List.mem_cons]
      intro hmem
      rcases hmem with hmem | hmem
      · exact absurd hmem (by decide)
      · exact newline_notMem_renderMembers members h.2 hmem

theorem newline_notMem_renderItems (items : List JsonValue) (h : PrintableItems items) :
    '\n' ∉ renderItems items := by
  cases items with
  | nil => decide
  | cons v items =>
      rw [PrintableItems] at h
      have hv := newline_notMem_render v h.1
      have hitems := newline_notMem_renderItems items h.2
      cases items with
      | nil => simp [renderItems, hv]
      | cons w items => simp [renderItems, hv, hitems]

theorem newline_notMem_renderMembers (members : List (String × JsonValue))
    (h : PrintableMembers members) : '\n' ∉ renderMembers members := by
  cases members with
  | nil => decide
  | cons m members =>
      obtain ⟨key, v⟩ := m
      rw [PrintableMembers] at h
      have hkey := newline_notMem_renderString key
      have hv := newline_notMem_render v h.1
      have hmembers := newline_notMem_renderMembers members h.2
      cases members with
      | nil => simp [renderMembers, hkey, hv]
      | cons m members => simp [renderMembers, hkey, hv, hmembers]

end

end Json
end TokenStreaming
