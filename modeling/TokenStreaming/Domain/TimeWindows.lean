import TokenStreaming.Domain.SupplierEligibility

/-!
# Marketplace domain - Windows in time

When a verification is current and an authorization is active, stated over the
instants their timestamp texts denote.  The checks of the source read texts as they
go and throw at the first one that is no UTC timestamp; the statements here say
exactly when they answer, and what.

Main results:

- Theorem {lit}`isAuthorizationActive_eq_true`: active means the status and the
  half-open window.
- Theorem {lit}`hasCurrentVerification_eq_true`: current means verified and not expired.
- Theorems {lit}`isAuthorizationActive_answers` and {lit}`hasCurrentVerification_answers`:
  when the two checks do not throw.
-/

namespace TokenStreaming
namespace Domain

/-! ## Readable timestamps -/

/-- The text is a UTC timestamp of this instant. -/
def TimestampText.Reads (value : TimestampText) (t : Int) : Prop :=
  value.text.toList.getLast? = some 'Z' ∧ value.instant = some t

/-- The text is a UTC timestamp. -/
def TimestampText.Readable (value : TimestampText) : Prop :=
  ∃ t, value.Reads t

theorem assertTimestamp_reads {value : TimestampText} {label : String} {t : Int} :
    assertTimestamp value label = .ok t ↔ value.Reads t :=
  assertTimestamp_eq_ok

theorem TimestampText.Reads.unique {value : TimestampText} {s t : Int} (hs : value.Reads s)
    (ht : value.Reads t) : s = t :=
  Option.some.inj (hs.2.symm.trans ht.2)

theorem TimestampText.reads_ofInstant (t : Nat) : (TimestampText.ofInstant t).Reads t :=
  assertTimestamp_reads.mp (assertTimestamp_ofInstant t "instant")

/-- A check answers when it does not throw. -/
def Answers {α : Type} (check : Checked α) : Prop :=
  ∃ a, check = .ok a

theorem answers_bind {α β : Type} {x : Checked α} {f : α → Checked β} :
    Answers (x >>= f) ↔ ∃ a, x = .ok a ∧ Answers (f a) := by
  cases x with
  | error e => simp [Answers, bind, Except.bind]
  | ok a => simp [Answers, bind, Except.bind]

theorem answers_pure {α : Type} (a : α) : Answers (pure a : Checked α) :=
  ⟨a, rfl⟩

theorem assertTimestamp_answers {value : TimestampText} {label : String} :
    Answers (assertTimestamp value label) ↔ value.Readable :=
  exists_congr fun _ => assertTimestamp_reads

/-! ## Authorizations -/

/-- The authorization is active and the instant lies in its half-open window. -/
def ProviderAuthorization.OpenAt (authorization : ProviderAuthorization) (t : Int) : Prop :=
  authorization.status = .active ∧
    ∃ start stop, authorization.validFrom.Reads start ∧ authorization.validUntil.Reads stop ∧
      start ≤ t ∧ t < stop

/-- The bounds of an active authorization's window that are looked at can be read. -/
def ProviderAuthorization.WindowReadable (authorization : ProviderAuthorization) (t : Int) :
    Prop :=
  authorization.status = .active →
    ∃ start, authorization.validFrom.Reads start ∧
      (start ≤ t → authorization.validUntil.Readable)

theorem isActiveAt_eq_ok {validFrom validUntil instant : TimestampText} {t : Int}
    (hinstant : instant.Reads t) {active : Bool} :
    isActiveAt validFrom validUntil instant = .ok active ↔
      ∃ start, validFrom.Reads start ∧
        ((start ≤ t ∧ ∃ stop, validUntil.Reads stop ∧ decide (t < stop) = active) ∨
          (¬ start ≤ t ∧ active = false)) := by
  unfold isActiveAt
  simp only [Except.bind_eq_ok, assertTimestamp_reads]
  constructor
  · rintro ⟨u, hu, start, hstart, hwindow⟩
    obtain rfl := hu.unique hinstant
    refine ⟨start, hstart, ?_⟩
    by_cases hle : start ≤ u
    · rw [if_pos hle] at hwindow
      simp only [Except.bind_eq_ok, Except.pure_eq_ok, assertTimestamp_reads] at hwindow
      exact Or.inl ⟨hle, hwindow⟩
    · rw [if_neg hle, Except.pure_eq_ok] at hwindow
      exact Or.inr ⟨hle, hwindow.symm⟩
  · rintro ⟨start, hstart, hcases⟩
    refine ⟨t, hinstant, start, hstart, ?_⟩
    rcases hcases with ⟨hle, hstop⟩ | ⟨hle, rfl⟩
    · rw [if_pos hle]
      simp only [Except.bind_eq_ok, Except.pure_eq_ok, assertTimestamp_reads]
      exact hstop
    · rw [if_neg hle]
      rfl

/-- Active means the status and the half-open window. -/
theorem isAuthorizationActive_eq_true {authorization : ProviderAuthorization}
    {instant : TimestampText} {t : Int} (hinstant : instant.Reads t) :
    isAuthorizationActive authorization instant = .ok true ↔ authorization.OpenAt t := by
  unfold isAuthorizationActive ProviderAuthorization.OpenAt
  by_cases hstatus : authorization.status = .active
  · rw [if_pos hstatus, isActiveAt_eq_ok hinstant]
    constructor
    · rintro ⟨start, hstart, ⟨hle, stop, hstop, hlt⟩ | ⟨-, hfalse⟩⟩
      · exact ⟨hstatus, start, stop, hstart, hstop, hle, of_decide_eq_true hlt⟩
      · cases hfalse
    · rintro ⟨-, start, stop, hstart, hstop, hle, hlt⟩
      exact ⟨start, hstart, Or.inl ⟨hle, stop, hstop, decide_eq_true hlt⟩⟩
  · rw [if_neg hstatus]
    constructor
    · intro h
      cases h
    · rintro ⟨hactive, -⟩
      exact absurd hactive hstatus

/-- The check answers when the bounds it looks at can be read. -/
theorem isAuthorizationActive_answers {authorization : ProviderAuthorization}
    {instant : TimestampText} {t : Int} (hinstant : instant.Reads t) :
    Answers (isAuthorizationActive authorization instant) ↔ authorization.WindowReadable t := by
  unfold isAuthorizationActive ProviderAuthorization.WindowReadable
  by_cases hstatus : authorization.status = .active
  · rw [if_pos hstatus]
    constructor
    · rintro ⟨active, h⟩ -
      rcases (isActiveAt_eq_ok hinstant).mp h with ⟨start, hstart, ⟨-, stop, hstop, -⟩ | ⟨hle, -⟩⟩
      · exact ⟨start, hstart, fun _ => ⟨stop, hstop⟩⟩
      · exact ⟨start, hstart, fun hstarted => absurd hstarted hle⟩
    · intro h
      rcases h hstatus with ⟨start, hstart, huntil⟩
      by_cases hle : start ≤ t
      · rcases huntil hle with ⟨stop, hstop⟩
        exact ⟨decide (t < stop),
          (isActiveAt_eq_ok hinstant).mpr ⟨start, hstart, Or.inl ⟨hle, stop, hstop, rfl⟩⟩⟩
      · exact ⟨false, (isActiveAt_eq_ok hinstant).mpr ⟨start, hstart, Or.inr ⟨hle, rfl⟩⟩⟩
  · rw [if_neg hstatus]
    exact ⟨fun _ hactive => absurd hactive hstatus, fun _ => ⟨false, rfl⟩⟩

/-! ## Verifications -/

/-- The verification has no expiry, or expires behind the instant. -/
def SupplierVerification.CurrentAt (verification : SupplierVerification) (t : Int) : Prop :=
  ∀ expiresAt, verification.expiresAt = some expiresAt →
    expiresAt.text = "" ∨ ∃ expiry, expiresAt.Reads expiry ∧ t < expiry

/-- The verification has no expiry, or one that can be read. -/
def SupplierVerification.ExpiryReadable (verification : SupplierVerification) : Prop :=
  ∀ expiresAt, verification.expiresAt = some expiresAt →
    expiresAt.text = "" ∨ expiresAt.Readable

/-- The check's answer about the verification it found. -/
theorem hasCurrentVerification_eq_ok {state : SupplierState} {kind : SupplierVerificationKind}
    {verification : SupplierVerification} (hfound : state.verified kind = some verification)
    {instant : TimestampText} {t : Int} (hinstant : instant.Reads t) {current : Bool} :
    hasCurrentVerification state kind instant = .ok current ↔
      verification.ExpiryReadable ∧ (current = true ↔ verification.CurrentAt t) := by
  unfold SupplierState.verified at hfound
  unfold hasCurrentVerification SupplierVerification.ExpiryReadable SupplierVerification.CurrentAt
  rw [hfound]
  cases hexpires : verification.expiresAt with
  | none =>
      simp only [hexpires, reduceCtorEq, false_imp_iff, implies_true, true_and, iff_true]
      rw [Except.ok.injEq, eq_comm]
  | some expiresAt =>
      simp only [hexpires, Option.some.injEq, forall_eq']
      by_cases hempty : expiresAt.text = ""
      · simp only [hempty, if_true, true_or, true_and, iff_true, Except.ok.injEq]
        exact eq_comm
      · simp only [hempty, if_false, false_or, Except.bind_eq_ok, Except.pure_eq_ok,
          assertTimestamp_reads]
        constructor
        · rintro ⟨expiry, hexpiry, u, hu, rfl⟩
          obtain rfl := hu.unique hinstant
          refine ⟨⟨expiry, hexpiry⟩, ?_⟩
          rw [decide_eq_true_eq]
          constructor
          · intro hlt
            exact ⟨expiry, hexpiry, hlt⟩
          · rintro ⟨other, hother, hlt⟩
            rwa [hexpiry.unique hother]
        · rintro ⟨⟨expiry, hexpiry⟩, hcurrent⟩
          refine ⟨expiry, hexpiry, t, hinstant, ?_⟩
          rw [Bool.eq_iff_iff, decide_eq_true_eq, hcurrent]
          constructor
          · intro hlt
            exact ⟨expiry, hexpiry, hlt⟩
          · rintro ⟨other, hother, hlt⟩
            rwa [hexpiry.unique hother]

theorem SupplierVerification.CurrentAt.readable {verification : SupplierVerification} {t : Int}
    (h : verification.CurrentAt t) : verification.ExpiryReadable := by
  intro expiresAt hexpires
  rcases h expiresAt hexpires with hempty | ⟨expiry, hexpiry, -⟩
  · exact Or.inl hempty
  · exact Or.inr ⟨expiry, hexpiry⟩

/-- Current means verified and not expired. -/
theorem hasCurrentVerification_eq_true {state : SupplierState} {kind : SupplierVerificationKind}
    {instant : TimestampText} {t : Int} (hinstant : instant.Reads t) :
    hasCurrentVerification state kind instant = .ok true ↔
      ∃ verification, state.verified kind = some verification ∧ verification.CurrentAt t := by
  cases hfound : state.verified kind with
  | none =>
      rw [hasCurrentVerification_none hfound]
      simp
  | some verification =>
      rw [hasCurrentVerification_eq_ok hfound hinstant]
      constructor
      · rintro ⟨-, hcurrent⟩
        exact ⟨verification, rfl, hcurrent.mp rfl⟩
      · rintro ⟨other, hsame, hcurrent⟩
        obtain rfl := Option.some.inj hsame
        exact ⟨hcurrent.readable, fun _ => hcurrent, fun _ => rfl⟩

/-- The check answers when the expiry it looks at can be read. -/
theorem hasCurrentVerification_answers {state : SupplierState} {kind : SupplierVerificationKind}
    {instant : TimestampText} {t : Int} (hinstant : instant.Reads t) :
    Answers (hasCurrentVerification state kind instant) ↔
      ∀ verification, state.verified kind = some verification → verification.ExpiryReadable := by
  cases hfound : state.verified kind with
  | none =>
      rw [hasCurrentVerification_none hfound]
      refine ⟨?_, fun _ => ⟨false, rfl⟩⟩
      intro _ verification hsome
      cases hsome
  | some verification =>
      constructor
      · rintro ⟨current, h⟩ other hsame
        obtain rfl := Option.some.inj hsame
        exact ((hasCurrentVerification_eq_ok hfound hinstant).mp h).1
      · intro h
        classical
        refine ⟨decide (verification.CurrentAt t),
          (hasCurrentVerification_eq_ok hfound hinstant).mpr ⟨h verification rfl, ?_⟩⟩
        exact decide_eq_true_iff

end Domain
end TokenStreaming
