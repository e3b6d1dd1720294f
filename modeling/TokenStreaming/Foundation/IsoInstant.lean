import Mathlib.Data.String.Basic

/-!
# Foundation - Instants rendered as ISO-8601 texts

JavaScript's {lit}`toISOString` and SQLite's
{lit}`strftime('%Y-%m-%dT%H:%M:%fZ')` render a number of milliseconds since the
epoch as a text of fixed width.  Programs that store such texts compare them as
strings; this module shows that the comparison is the one of the instants, as
long as the year has four digits.

Main results:

- Theorem {lit}`civilDate_strictMono`: the civil calendar never goes back.
- Theorem {lit}`toISOString_lt`: an earlier instant has a smaller text.
- Theorem {lit}`toISOString_le`: texts never decrease with time.
- Theorem {lit}`fourDigitYear_of_lt`: instants of fourteen digits have such years.

The rendering of years from 10000 on, which both languages treat differently,
is outside this module.
-/

namespace TokenStreaming
namespace IsoInstant

/-! ## The civil calendar -/

/-- A day of the proleptic Gregorian calendar. -/
structure CivilDate where
  year : Nat
  month : Nat
  day : Nat
deriving DecidableEq

/-- Gregorian leap years. -/
def isLeapYear (year : Nat) : Bool :=
  year % 4 == 0 && (year % 100 != 0 || year % 400 == 0)

/-- Length of a month. -/
def daysInMonth (year month : Nat) : Nat :=
  if month = 2 then (if isLeapYear year then 29 else 28)
  else if month = 4 ∨ month = 6 ∨ month = 9 ∨ month = 11 then 30
  else 31

/-- The following day. -/
def CivilDate.next (d : CivilDate) : CivilDate :=
  if d.day < daysInMonth d.year d.month then { d with day := d.day + 1 }
  else if d.month < 12 then { d with month := d.month + 1, day := 1 }
  else { year := d.year + 1, month := 1, day := 1 }

/-- The date {lit}`days` days after 1970-01-01. -/
def civilDate : Nat → CivilDate
  | 0 => { year := 1970, month := 1, day := 1 }
  | days + 1 => (civilDate days).next

/-- Calendar order. -/
def CivilDate.Before (a b : CivilDate) : Prop :=
  a.year < b.year ∨ a.year = b.year ∧ (a.month < b.month ∨ a.month = b.month ∧ a.day < b.day)

theorem CivilDate.Before.trans {a b c : CivilDate} (hab : a.Before b) (hbc : b.Before c) :
    a.Before c := by
  unfold CivilDate.Before at *
  omega

theorem CivilDate.before_next (d : CivilDate) : d.Before d.next := by
  unfold CivilDate.next CivilDate.Before
  split
  · simp
  · split <;> simp

/-- The calendar is strictly increasing. -/
theorem civilDate_strictMono {m n : Nat} (h : m < n) : (civilDate m).Before (civilDate n) := by
  induction n with
  | zero => omega
  | succ n ih =>
      by_cases hmn : m = n
      · subst hmn
        exact CivilDate.before_next _
      · exact (ih (by omega)).trans (CivilDate.before_next _)

/-- Months and days keep to two digits. -/
structure CivilDate.InRange (d : CivilDate) : Prop where
  month_le : d.month ≤ 12
  day_le : d.day ≤ 31

theorem daysInMonth_le (year month : Nat) : daysInMonth year month ≤ 31 := by
  unfold daysInMonth
  split
  · split <;> omega
  · split <;> omega

theorem civilDate_inRange (days : Nat) : (civilDate days).InRange := by
  induction days with
  | zero => exact ⟨by decide, by decide⟩
  | succ days ih =>
      have hbound := daysInMonth_le (civilDate days).year (civilDate days).month
      have hmonth := ih.month_le
      have hday := ih.day_le
      simp only [civilDate, CivilDate.next]
      split
      · exact ⟨by simpa using hmonth, by simp; omega⟩
      · split
        · exact ⟨by simp; omega, by simp⟩
        · exact ⟨by simp, by simp⟩

/-! ## Padded decimals -/

/-- The decimal digit of a number below ten. -/
def digit (n : Nat) : Char :=
  Char.ofNat (48 + n)

/-- The last {lit}`width` decimal digits of a number. -/
def padded : Nat → Nat → List Char
  | 0, _ => []
  | width + 1, n => padded width (n / 10) ++ [digit (n % 10)]

@[simp]
theorem padded_length (width n : Nat) : (padded width n).length = width := by
  induction width generalizing n with
  | zero => rfl
  | succ width ih => simp [padded, ih]

theorem digit_lt {m n : Nat} (h : m < n) (hn : n < 10) : digit m < digit n := by
  have hdigits : ∀ n < 10, ∀ m < n, digit m < digit n := by decide
  exact hdigits n hn m h

/-- Extending two texts of one length keeps a strict order between them. -/
theorem append_lt_append {a b : List Char} (h : a < b) (hlen : a.length = b.length)
    (x y : List Char) : a ++ x < b ++ y := by
  induction a generalizing b with
  | nil =>
      obtain rfl : b = [] := List.eq_nil_of_length_eq_zero hlen.symm
      exact absurd h (List.lt_irrefl [])
  | cons c a ih =>
      cases b with
      | nil => simp at hlen
      | cons d b =>
          rw [List.cons_append, List.cons_append]
          rcases List.cons_lt_cons_iff.mp h with hcd | ⟨rfl, hab⟩
          · exact List.cons_lt_cons_iff.mpr (Or.inl hcd)
          · exact List.cons_lt_cons_iff.mpr
              (Or.inr ⟨rfl, ih hab (by simpa using hlen)⟩)

theorem append_left_lt (p : List Char) {a b : List Char} (h : a < b) : p ++ a < p ++ b := by
  induction p with
  | nil => exact h
  | cons c p ih => exact List.cons_lt_cons_iff.mpr (Or.inr ⟨rfl, ih⟩)

/-- Padded decimals of one width are ordered as their numbers. -/
theorem padded_lt {width m n : Nat} (h : m < n) (hn : n < 10 ^ width) :
    padded width m < padded width n := by
  induction width generalizing m n with
  | zero => simp at hn; omega
  | succ width ih =>
      simp only [padded]
      rcases Nat.lt_or_ge (m / 10) (n / 10) with hdiv | hdiv
      · have hbound : n / 10 < 10 ^ width := by
          rw [Nat.pow_succ] at hn
          omega
        exact append_lt_append (ih hdiv hbound) (by simp) _ _
      · have heq : m / 10 = n / 10 := by omega
        rw [heq]
        refine append_left_lt _ (List.cons_lt_cons_iff.mpr (Or.inl ?_))
        exact digit_lt (by omega) (by omega)

/-! ## The rendered text -/

/-- Milliseconds of a day. -/
def dayMs : Nat := 86400000

/-- The calendar part {lit}`YYYY-MM-DD`. -/
def dateChars (d : CivilDate) : List Char :=
  padded 4 d.year ++ '-' :: (padded 2 d.month ++ '-' :: padded 2 d.day)

/-- The clock part {lit}`THH:MM:SS.mmmZ`. -/
def timeChars (ms : Nat) : List Char :=
  'T' :: (padded 2 (ms / 3600000) ++ ':' :: (padded 2 (ms / 60000 % 60) ++
    ':' :: (padded 2 (ms / 1000 % 60) ++ '.' :: (padded 3 (ms % 1000) ++ ['Z']))))

/-- The characters of {lit}`new Date(t).toISOString()`. -/
def isoChars (t : Nat) : List Char :=
  dateChars (civilDate (t / dayMs)) ++ timeChars (t % dayMs)

/-- The text of {lit}`new Date(t).toISOString()` for years of four digits. -/
def toISOString (t : Nat) : String :=
  String.ofList (isoChars t)

/-- The instants whose year has four digits. -/
def FourDigitYear (t : Nat) : Prop :=
  (civilDate (t / dayMs)).year < 10000

instance (t : Nat) : Decidable (FourDigitYear t) :=
  inferInstanceAs (Decidable (_ < _))

theorem daysInMonth_ge (year month : Nat) : 28 ≤ daysInMonth year month := by
  unfold daysInMonth
  split
  · split <;> omega
  · split <;> omega

/-- A year takes 336 days at least, counting every month as its first 28. -/
theorem civilDate_year_le (days : Nat) :
    1970 ≤ (civilDate days).year ∧ 1 ≤ (civilDate days).month ∧ 1 ≤ (civilDate days).day ∧
      336 * ((civilDate days).year - 1970) + 28 * ((civilDate days).month - 1) +
        ((civilDate days).day - 1) ≤ days := by
  induction days with
  | zero => decide
  | succ days ih =>
      have hlength := daysInMonth_ge (civilDate days).year (civilDate days).month
      rcases ih with ⟨hyear, hmonth, hday, hbound⟩
      simp only [civilDate, CivilDate.next]
      split
      · simp only
        omega
      · split
        · simp only
          omega
        · have hlast := (civilDate_inRange days).month_le
          have hdecember : (civilDate days).month = 12 := by omega
          have hdays : daysInMonth (civilDate days).year 12 = 31 := rfl
          rw [hdecember, hdays] at *
          simp only
          omega

/-- The instants of fourteen digits have years of four. -/
theorem fourDigitYear_of_lt {t : Nat} (h : t < 100000000000000) : FourDigitYear t := by
  rcases civilDate_year_le (t / dayMs) with ⟨hyear, -, -, hbound⟩
  unfold FourDigitYear
  unfold dayMs at hbound hyear ⊢
  omega

@[simp]
theorem dateChars_length (d : CivilDate) : (dateChars d).length = 10 := by
  simp [dateChars]

/-- Dates are rendered in calendar order. -/
theorem dateChars_lt {a b : CivilDate} (h : a.Before b) (hb : b.InRange) (hy : b.year < 10000) :
    dateChars a < dateChars b := by
  unfold dateChars
  rcases h with hyear | ⟨hyear, hmonth | ⟨hmonth, hday⟩⟩
  · exact append_lt_append (padded_lt hyear (by simpa using hy)) (by simp) _ _
  · rw [hyear]
    refine append_left_lt _ (List.cons_lt_cons_iff.mpr (Or.inr ⟨rfl, ?_⟩))
    have := hb.month_le
    exact append_lt_append (padded_lt hmonth (by omega)) (by simp) _ _
  · rw [hyear, hmonth]
    refine append_left_lt _ (List.cons_lt_cons_iff.mpr (Or.inr ⟨rfl, ?_⟩))
    refine append_left_lt _ (List.cons_lt_cons_iff.mpr (Or.inr ⟨rfl, ?_⟩))
    have := hb.day_le
    exact padded_lt hday (by omega)

/-- Times of one day are rendered in their order. -/
theorem timeChars_lt {m n : Nat} (h : m < n) (hn : n < dayMs) : timeChars m < timeChars n := by
  unfold dayMs at hn
  have hcases : m / 3600000 < n / 3600000 ∨ m / 3600000 = n / 3600000 ∧
      (m / 60000 % 60 < n / 60000 % 60 ∨ m / 60000 % 60 = n / 60000 % 60 ∧
        (m / 1000 % 60 < n / 1000 % 60 ∨ m / 1000 % 60 = n / 1000 % 60 ∧
          m % 1000 < n % 1000)) := by
    omega
  have hcons : ∀ {c : Char} {a b : List Char}, a < b → c :: a < c :: b := fun hab =>
    List.cons_lt_cons_iff.mpr (Or.inr ⟨rfl, hab⟩)
  unfold timeChars
  refine hcons ?_
  rcases hcases with hh | ⟨hh, hm | ⟨hm, hs | ⟨hs, hms⟩⟩⟩
  · exact append_lt_append (padded_lt hh (by omega)) (by simp) _ _
  · rw [hh]
    refine append_left_lt _ (hcons ?_)
    exact append_lt_append (padded_lt hm (by omega)) (by simp) _ _
  · rw [hh, hm]
    refine append_left_lt _ (hcons (append_left_lt _ (hcons ?_)))
    exact append_lt_append (padded_lt hs (by omega)) (by simp) _ _
  · rw [hh, hm, hs]
    refine append_left_lt _ (hcons (append_left_lt _ (hcons (append_left_lt _ (hcons ?_)))))
    exact append_lt_append (padded_lt hms (by omega)) (by simp) _ _

/-- An earlier instant has a smaller text. -/
theorem toISOString_lt {s t : Nat} (h : s < t) (ht : FourDigitYear t) :
    toISOString s < toISOString t := by
  have hchars : isoChars s < isoChars t := by
    unfold isoChars
    rcases Nat.lt_or_ge (s / dayMs) (t / dayMs) with hday | hday
    · exact append_lt_append
        (dateChars_lt (civilDate_strictMono hday) (civilDate_inRange _) ht) (by simp) _ _
    · have heq : s / dayMs = t / dayMs := by
        unfold dayMs at *
        omega
      rw [heq]
      refine append_left_lt _ (timeChars_lt ?_ (Nat.mod_lt _ (by decide)))
      unfold dayMs at *
      omega
  change (String.ofList (isoChars s)).toList < (String.ofList (isoChars t)).toList
  rw [String.toList_ofList, String.toList_ofList]
  exact hchars

/-- Earlier instants have years of four digits as well. -/
theorem FourDigitYear.of_le {s t : Nat} (h : s ≤ t) (ht : FourDigitYear t) : FourDigitYear s := by
  unfold FourDigitYear at *
  rcases Nat.lt_or_eq_of_le (Nat.div_le_div_right h : s / dayMs ≤ t / dayMs) with hlt | heq
  · have hbefore := civilDate_strictMono hlt
    unfold CivilDate.Before at hbefore
    omega
  · rw [heq]
    exact ht

/-- Texts never decrease with time. -/
theorem toISOString_le {s t : Nat} (h : s ≤ t) (ht : FourDigitYear t) :
    toISOString s ≤ toISOString t := by
  rcases Nat.lt_or_eq_of_le h with hlt | rfl
  · exact le_of_lt (toISOString_lt hlt ht)
  · exact le_rfl

end IsoInstant
end TokenStreaming
