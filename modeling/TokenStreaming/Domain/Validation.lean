import TokenStreaming.Foundation.IsoInstant
import Mathlib.Algebra.Order.Ring.Nat

/-!
# Marketplace domain - Validation

The error type and the field checks shared by the marketplace commands.  Every
check returns the value it computes or the error it throws, with the text and
details of the source.

Main results:

- Theorem {lit}`Except.bind_eq_ok`: a chain of checks succeeds exactly when
  every check does.
- Theorem {lit}`assertTimestamp_eq_ok`: the instants a timestamp check accepts.
- Theorem {lit}`assertTimestamp_ofInstant`: server-rendered instants pass it.

A timestamp text carries the verdict of {lit}`Date.parse`, whose treatment of
texts outside the ISO format is left to the engine.  The commands are typed here, so
{lit}`assertExactKeys` holds of them; {lit}`assertSafeInput` on untyped values has a module of
its own.
-/

namespace TokenStreaming
namespace Domain

open IsoInstant

/-! ## Errors -/

/-- {lit}`MarketplaceDomainErrorCode`. -/
inductive MarketplaceDomainErrorCode where
  | invalidArgument
  | credentialMaterialRejected
  | tenantMismatch
  | invalidEventHistory
  | invalidSupplierState
  | verificationIncomplete
  | authorizationRequired
  | authorizationScopeMismatch
  | gatewayAttestationMismatch
  | serviceEvidenceMismatch
  | privacyAcknowledgementRequired
  | invalidArtifactTaskState
  | duplicateRecord
  | unsupportedDataClass
deriving DecidableEq

/-- One entry of an error's details. -/
inductive ErrorDetail where
  | text (value : String)
  | texts (values : List String)
  | flag (value : Bool)
deriving DecidableEq

/-- {lit}`MarketplaceDomainError`. -/
structure MarketplaceDomainError where
  code : MarketplaceDomainErrorCode
  message : String
  details : List (String × ErrorDetail) := []
deriving DecidableEq

/-- The result of a domain command or check. -/
abbrev Checked (α : Type) := Except MarketplaceDomainError α

/-- Throw unless the condition holds. -/
def ensure (condition : Bool) (error : MarketplaceDomainError) : Checked Unit :=
  if condition then .ok () else .error error

@[simp]
theorem ensure_eq_ok {condition : Bool} {error : MarketplaceDomainError} {u : Unit} :
    ensure condition error = .ok u ↔ condition = true := by
  unfold ensure
  split <;> simp_all

theorem Except.bind_eq_ok {α β ε : Type} {x : Except ε α} {f : α → Except ε β} {b : β} :
    (x >>= f) = .ok b ↔ ∃ a, x = .ok a ∧ f a = .ok b := by
  cases x with
  | error e => simp [bind, Except.bind]
  | ok a => simp [bind, Except.bind]

/-- A check that returns nothing has one possible result. -/
@[simp]
theorem exists_unit {p : Unit → Prop} : (∃ u, p u) ↔ p () :=
  ⟨fun ⟨_, h⟩ => h, fun h => ⟨(), h⟩⟩

@[simp]
theorem Except.pure_eq_ok {α ε : Type} {a b : α} :
    (pure a : Except ε α) = .ok b ↔ a = b := by
  simp [pure, Except.pure]

/-! ## Texts -/

/-- {lit}`String.length` counts UTF-16 code units. -/
def utf16Length (value : String) : Nat :=
  (value.toList.map fun c => if c.val > 0xFFFF then 2 else 1).sum

/-- The white space removed by {lit}`String.trim`. -/
def isTrimmable (c : Char) : Bool :=
  c ∈ ['\t', '\n', '\x0b', '\x0c', '\r', ' ', '\u00a0', '\u1680', '\u2028', '\u2029', '\u202f',
    '\u205f', '\u3000', '\ufeff'] || ('\u2000' ≤ c && c ≤ '\u200a')

/-- {lit}`value.trim().length === 0`. -/
def isBlank (value : String) : Bool :=
  value.toList.all isTrimmable

/-- {lit}`[A-Za-z0-9]`. -/
def isAsciiAlphanumeric (c : Char) : Bool :=
  ('A' ≤ c && c ≤ 'Z') || ('a' ≤ c && c ≤ 'z') || ('0' ≤ c && c ≤ '9')

/-- {lit}`IDENTIFIER_PATTERN`. -/
def matchesIdentifierPattern (value : String) : Bool :=
  match value.toList with
  | [] => false
  | first :: rest =>
      isAsciiAlphanumeric first && 2 ≤ rest.length && rest.length ≤ 127 &&
        rest.all fun c => isAsciiAlphanumeric c || c ∈ ['.', '_', ':', '-']

/-- {lit}`/^[A-Z]+$/` of a given length: country and currency codes. -/
def isUppercaseCode (length : Nat) (value : String) : Bool :=
  value.toList.length == length && value.toList.all fun c => 'A' ≤ c && c ≤ 'Z'

def assertIdentifier (value label : String) : Checked Unit :=
  ensure (matchesIdentifierPattern value)
    { code := .invalidArgument
      message := label ++ " must be a stable 3-128 character identifier."
      details := [("label", .text label)] }

def assertText (value label : String) (maximumLength : Nat) : Checked Unit :=
  ensure (!isBlank value && utf16Length value ≤ maximumLength)
    { code := .invalidArgument
      message := label ++ " must contain 1-" ++ toString maximumLength ++ " characters."
      details := [("label", .text label)] }

def assertAllowedValue (value label : String) (allowed : List String) : Checked Unit :=
  ensure (value ∈ allowed)
    { code := .invalidArgument
      message := label ++ " must be one of: " ++ String.intercalate ", " allowed ++ "."
      details := [("label", .text label)] }

def assertCountryCode (value label : String) (allowWildcard : Bool := false) : Checked Unit :=
  ensure ((allowWildcard && value == "*") || isUppercaseCode 2 value)
    { code := .invalidArgument
      message := label ++ " must be an uppercase ISO 3166-1 alpha-2 code" ++
        (if allowWildcard then " or *" else "") ++ "."
      details := [("label", .text label)] }

def assertCurrency (value : String) : Checked Unit :=
  ensure (isUppercaseCode 3 value)
    { code := .invalidArgument
      message := "currency must be an uppercase ISO 4217 code." }

/-! ## Numbers -/

/-- {lit}`Number.MAX_SAFE_INTEGER`. -/
def maxSafeInteger : Nat := 9007199254740991

def assertPositiveSafeInteger (value : Nat) (label : String) (maximum : Nat) : Checked Unit :=
  ensure (0 < value && value ≤ maxSafeInteger && value ≤ maximum)
    { code := .invalidArgument
      message := label ++ " must be a positive safe integer no greater than " ++
        toString maximum ++ "."
      details := [("label", .text label)] }

/-- {lit}`/^[1-9][0-9]*$/` with at most {lit}`maximumDigits` digits. -/
def isPositiveDecimal (maximumDigits : Nat) (value : String) : Bool :=
  match value.toList with
  | [] => false
  | first :: rest =>
      '1' ≤ first && first ≤ '9' && rest.length < maximumDigits &&
        rest.all fun c => '0' ≤ c && c ≤ '9'

def assertPositiveDecimalInteger (value label : String) : Checked Unit :=
  ensure (isPositiveDecimal 30 value)
    { code := .invalidArgument
      message := label ++ " must be a positive integer string of at most 30 digits."
      details := [("label", .text label)] }

/-- Numbers are determined by their digits. -/
theorem toString_inj {m n : Nat} (h : toString m = toString n) : m = n := by
  have hdigits : Nat.toDigits 10 m = Nat.toDigits 10 n := by
    have hrepr : Nat.repr m = Nat.repr n := h
    simpa [Nat.repr] using congrArg String.toList hrepr
  have hvalues := congrArg (fun digits => Nat.ofDigitChars 10 digits 0) hdigits
  simpa [Nat.ofDigitChars_ten_toDigits] using hvalues

/-! ## Lists of texts -/

/-- The loop of {lit}`assertUniqueStrings`, with the values seen so far. -/
def assertUniqueFrom (label : String) (validate : String → Checked Unit) :
    List String → List String → Checked Unit
  | _, [] => .ok ()
  | seen, value :: values => do
      validate value
      ensure (!decide (value ∈ seen))
        { code := .duplicateRecord
          message := label ++ " contains duplicate value " ++ value ++ "."
          details := [("label", .text label), ("value", .text value)] }
      assertUniqueFrom label validate (value :: seen) values

def assertUniqueStrings (values : List String) (label : String)
    (validate : String → Checked Unit) : Checked Unit := do
  ensure (values.length != 0 && values.length ≤ 100)
    { code := .invalidArgument
      message := label ++ " must contain 1-100 entries."
      details := [("label", .text label)] }
  assertUniqueFrom label validate [] values

/-! ## Timestamps -/

/-- A stored timestamp text together with what {lit}`Date.parse` makes of it. -/
structure TimestampText where
  text : String
  instant : Option Int
deriving DecidableEq

/-- The text {lit}`new Date(t).toISOString()`. -/
def TimestampText.ofInstant (t : Nat) : TimestampText where
  text := toISOString t
  instant := some t

def assertTimestamp (value : TimestampText) (label : String) : Checked Int :=
  match value.text.toList.getLast? == some 'Z', value.instant with
  | true, some timestamp => .ok timestamp
  | _, _ => .error
      { code := .invalidArgument
        message := label ++ " must be an ISO-8601 UTC timestamp."
        details := [("label", .text label)] }

theorem assertTimestamp_eq_ok {value : TimestampText} {label : String} {t : Int} :
    assertTimestamp value label = .ok t ↔
      value.text.toList.getLast? = some 'Z' ∧ value.instant = some t := by
  unfold assertTimestamp
  split <;> simp_all

/-- The label only names the field in the error. -/
theorem assertTimestamp_label {value : TimestampText} {label : String} {t : Int}
    (h : assertTimestamp value label = .ok t) (other : String) :
    assertTimestamp value other = .ok t :=
  assertTimestamp_eq_ok.mpr (assertTimestamp_eq_ok.mp h)

@[simp]
theorem assertTimestamp_ofInstant (t : Nat) (label : String) :
    assertTimestamp (TimestampText.ofInstant t) label = .ok (t : Int) := by
  refine assertTimestamp_eq_ok.mpr ⟨?_, rfl⟩
  simp only [TimestampText.ofInstant, toISOString, String.toList_ofList, isoChars, timeChars,
    List.getLast?_append, ← List.cons_append, ← List.append_assoc]
  simp

/-- {lit}`isActiveAt`: the half-open window test. -/
def isActiveAt (validFrom validUntil instant : TimestampText) : Checked Bool := do
  let at' ← assertTimestamp instant "instant"
  let start ← assertTimestamp validFrom "validFrom"
  if start ≤ at' then do
    let stop ← assertTimestamp validUntil "validUntil"
    pure (decide (at' < stop))
  else pure false

/-! ## Command contexts -/

/-- {lit}`MarketplaceCommandContext`. -/
structure MarketplaceCommandContext where
  tenantId : String
  actorId : String
  commandId : String
  eventId : String
  occurredAt : TimestampText
deriving DecidableEq

def assertContext (context : MarketplaceCommandContext) : Checked Unit := do
  assertIdentifier context.tenantId "tenantId"
  assertIdentifier context.actorId "actorId"
  assertIdentifier context.commandId "commandId"
  assertIdentifier context.eventId "eventId"
  let _ ← assertTimestamp context.occurredAt "occurredAt"
  pure ()

def assertTenant (tenantId : String) (context : MarketplaceCommandContext) : Checked Unit :=
  ensure (tenantId == context.tenantId)
    { code := .tenantMismatch
      message := "The command tenant does not own this supplier."
      details := [("expectedTenantId", .text tenantId),
        ("actualTenantId", .text context.tenantId)] }

def assertCommandNotBefore (aggregateUpdatedAt : TimestampText)
    (context : MarketplaceCommandContext) : Checked Unit := do
  let occurredAt ← assertTimestamp context.occurredAt "occurredAt"
  let updatedAt ← assertTimestamp aggregateUpdatedAt "aggregateUpdatedAt"
  ensure (decide (updatedAt ≤ occurredAt))
    { code := .invalidArgument
      message := "Command timestamp cannot precede the aggregate timestamp." }

/-- The identifiers a context check has accepted. -/
structure ContextAccepted (context : MarketplaceCommandContext) : Prop where
  tenantId : matchesIdentifierPattern context.tenantId = true
  actorId : matchesIdentifierPattern context.actorId = true
  commandId : matchesIdentifierPattern context.commandId = true
  eventId : matchesIdentifierPattern context.eventId = true
  occurredAt : ∃ t, assertTimestamp context.occurredAt "occurredAt" = .ok t

theorem assertContext_eq_ok {context : MarketplaceCommandContext} :
    assertContext context = .ok () ↔ ContextAccepted context := by
  constructor
  · intro h
    simp only [assertContext, assertIdentifier, Except.bind_eq_ok, ensure_eq_ok, exists_unit,
      Except.pure_eq_ok] at h
    rcases h with ⟨ht, ha, hc, he, t, ho, -⟩
    exact ⟨ht, ha, hc, he, t, ho⟩
  · rintro ⟨ht, ha, hc, he, t, ho⟩
    simp only [assertContext, assertIdentifier, Except.bind_eq_ok, ensure_eq_ok, exists_unit,
      Except.pure_eq_ok]
    exact ⟨ht, ha, hc, he, t, ho, trivial⟩

end Domain
end TokenStreaming
