import TokenStreaming.Server.Requests

/-!
# Control plane - Intake of authorization requests

The checks of {lit}`validateAuthorizationInput`, with those of
{lit}`sensitive-reference.ts`: a supplier describes an authorization in texts that later go
into events and into the comparisons of many statements.

Main results:

- Theorem {lit}`validateAuthorizationInput_eq_ok`: what every accepted request satisfies.

The endpoint of the gateway is checked apart from the other members and has no part in what
follows; {lit}`regionCode` stands for the code after {lit}`toUpperCase`.
-/

namespace TokenStreaming
namespace Server

open Domain Relational

/-- {lit}`CreateAuthorizationRequest`. -/
structure CreateAuthorizationRequest where
  commandId : String
  providerId : String
  sourceType : CapacitySourceType
  meteringMode : CapacityMeteringMode
  evidenceRef : String
  modelPattern : String
  regionCode : String
  dataClasses : List MarketplaceDataClass
  limits : CapacityLimits
  validUntil : TimestampText
  gatewayEndpoint : String
  gatewayBearerToken : String

/-- The error of a request that is not well formed. -/
def malformed (message : String) : ApiError where
  code := "INVALID_REQUEST"
  message := message
  status := 400

/-! ## Texts -/

/-- {lit}`assertIdentifier` of the service. -/
def assertRequestIdentifier (value label : String) : Request Unit :=
  demand (matchesIdentifierPattern value) (malformed (label ++ " 必须是稳定标识符。"))

/-- {lit}`assertText` of the service. -/
def assertRequestText (value label : String) (maximum : Nat) : Request Unit :=
  demand (!isBlank value && utf16Length value ≤ maximum)
    (malformed (label ++ " 长度必须在 1 到 " ++ toString maximum ++ " 字符之间。"))

/-- {lit}`[A-Za-z0-9_-]`. -/
def isBase64Url (c : Char) : Bool :=
  isAsciiAlphanumeric c || c == '_' || c == '-'

/-- The size of {lit}`new Set(value)`. -/
def distinctCharacters (value : String) : Nat :=
  value.toList.eraseDups.length

/-- The text begins with one of the given ones, in upper or lower case. -/
def beginsWithOneOf (beginnings : List String) (value : String) : Bool :=
  beginnings.any fun beginning => beginning.toList.isPrefixOf (value.toList.map Char.toLower)

/-- {lit}`[._:-]`. -/
def separators : List String :=
  [".", "_", ":", "-"]

/-- {lit}`KNOWN_SECRET_PREFIX`, alternative by alternative. -/
def knownSecretBeginnings : List String :=
  ["sk-", "rk-", "pk-", "sess-"] ++
  (["token", "bearer", "apikey", "api_key", "api-key"].flatMap fun word =>
    separators.map fun separator => word ++ separator) ++
  ["ghp_", "gho_", "ghu_", "ghs_", "ghr_", "github_pat_", "xoxb-", "xoxa-", "xoxp-", "xoxr-",
    "xoxs-", "akia", "asia", "aiza"]

/-- {lit}`OPAQUE_EVIDENCE_PREFIX`, alternative by alternative. -/
def opaqueEvidenceBeginnings : List String :=
  ["contract", "license", "evidence", "receipt", "agreement", "verification",
    "attestation"].flatMap fun word => separators.map fun separator => word ++ separator

/-- {lit}`JWT_SHAPE`. -/
def hasJwtShape (value : String) : Bool :=
  match value.toList.splitOn '.' with
  | [header, payload, signature] =>
      ['e', 'y', 'J'].isPrefixOf header && decide (11 ≤ header.length) &&
        decide (8 ≤ payload.length) && decide (8 ≤ signature.length) &&
        header.all isBase64Url && payload.all isBase64Url && signature.all isBase64Url
  | _ => false

def isLikelySecretEvidenceReference (value : String) : Bool :=
  beginsWithOneOf knownSecretBeginnings value || hasJwtShape value ||
    decide (43 ≤ utf16Length value) && value.toList.all isBase64Url &&
      decide (16 ≤ distinctCharacters value) && !beginsWithOneOf opaqueEvidenceBeginnings value

/-! ## Members -/

def assertDataClasses (value : List MarketplaceDataClass) : Request Unit := do
  demand (!value.isEmpty && value.all fun item => item == .p0 || item == .p1)
    (malformed "dataClasses 只能包含 P0 或 P1。")
  demand (decide value.Nodup) (malformed "dataClasses 不能重复。")

/-- One member of {lit}`assertLimits`. -/
def assertLimit (key : String) (item maximum : Nat) : Request Unit :=
  demand (decide (1 ≤ item) && decide (item ≤ maximum))
    (malformed (key ++ " 必须是 1 到 " ++ toString maximum ++ " 的整数。"))

def assertLimits (value : CapacityLimits) : Request Unit := do
  assertLimit "requestsPerMinute" value.requestsPerMinute 100000
  assertLimit "tokensPerMinute" value.tokensPerMinute 1000000000
  assertLimit "concurrency" value.concurrency 10000
  assertLimit "maxOutputTokens" value.maxOutputTokens 1000000

/-- {lit}`AUTHORIZATION_MAX_VALIDITY_MILLISECONDS`. -/
def authorizationMaxValidityMilliseconds : Nat := 90 * 24 * 60 * 60000

/-- {lit}`isAuthorizationValidityAllowed`. -/
def isAuthorizationValidityAllowed (value : TimestampText) (now : Nat) : Bool :=
  value.text.toList.getLast? == some 'Z' &&
    value.instant.any fun timestamp =>
      decide ((now : Int) + 60000 < timestamp) &&
        decide (timestamp ≤ (now : Int) + authorizationMaxValidityMilliseconds)

/-- {lit}`assertFutureTimestamp`; the text it normalizes denotes the same instant. -/
def assertFutureTimestamp (value : TimestampText) (label : String) (now : Nat) :
    Request Unit := do
  demand (value.text.toList.getLast? == some 'Z') (malformed (label ++ " 必须是 UTC 时间。"))
  demand value.instant.isSome (malformed (label ++ " 必须是有效的 UTC 时间。"))
  demand (isAuthorizationValidityAllowed value now)
    (malformed (label ++ " 必须晚于当前时间一分钟且不超过 90 天。"))

def validateGatewayBearerToken (value : String) : Request Unit :=
  demand (decide (43 ≤ value.toList.length) && decide (value.toList.length ≤ 512) &&
      value.toList.all isBase64Url && decide (16 ≤ distinctCharacters value))
    (malformed "gatewayBearerToken 必须是至少 256 bit 的高熵 base64url 令牌。")

def validateAuthorizationInput (input : CreateAuthorizationRequest) (now : Nat) :
    Request Unit := do
  assertRequestIdentifier input.commandId "commandId"
  assertRequestIdentifier input.providerId "providerId"
  assertRequestIdentifier input.evidenceRef "evidenceRef"
  demand (!isLikelySecretEvidenceReference input.evidenceRef)
    (malformed "evidenceRef 只能填写合同、许可或证明编号，不能包含 API Key、令牌或 JWT。")
  assertRequestText input.modelPattern "modelPattern" 120
  demand (isUppercaseCode 2 input.regionCode) (malformed "regionCode 必须是两位地区代码。")
  assertDataClasses input.dataClasses
  assertLimits input.limits
  assertFutureTimestamp input.validUntil "validUntil" now
  validateGatewayBearerToken input.gatewayBearerToken

/-! ## Accepted requests -/

/-- Every limit lies between one and its maximum. -/
structure LimitsAccepted (limits : CapacityLimits) : Prop where
  requestsPerMinute : 1 ≤ limits.requestsPerMinute ∧ limits.requestsPerMinute ≤ 100000
  tokensPerMinute : 1 ≤ limits.tokensPerMinute ∧ limits.tokensPerMinute ≤ 1000000000
  concurrency : 1 ≤ limits.concurrency ∧ limits.concurrency ≤ 10000
  maxOutputTokens : 1 ≤ limits.maxOutputTokens ∧ limits.maxOutputTokens ≤ 1000000

/-- What the intake knows of the columns of a request. -/
structure IntakeAccepted (input : CreateAuthorizationRequest) (now : Nat) : Prop where
  providerId : matchesIdentifierPattern input.providerId = true
  evidenceRef : matchesIdentifierPattern input.evidenceRef = true
  modelPattern : isBlank input.modelPattern = false ∧ utf16Length input.modelPattern ≤ 120
  regionCode : isUppercaseCode 2 input.regionCode = true
  dataClasses : input.dataClasses ≠ [] ∧ (∀ c ∈ input.dataClasses, c = .p0 ∨ c = .p1) ∧
    input.dataClasses.Nodup
  limits : LimitsAccepted input.limits
  validUntil : isAuthorizationValidityAllowed input.validUntil now = true

theorem assertLimits_eq_ok {value : CapacityLimits} {u : Unit} (h : assertLimits value = .ok u) :
    LimitsAccepted value := by
  simp only [assertLimits, assertLimit, Except.bind_eq_ok, exists_unit, demand_eq_ok,
    Bool.and_eq_true, decide_eq_true_eq] at h
  obtain ⟨hrequests, htokens, hconcurrency, houtput⟩ := h
  exact ⟨hrequests, htokens, hconcurrency, houtput⟩

theorem assertDataClasses_eq_ok {value : List MarketplaceDataClass} {u : Unit}
    (h : assertDataClasses value = .ok u) :
    value ≠ [] ∧ (∀ c ∈ value, c = .p0 ∨ c = .p1) ∧ value.Nodup := by
  simp only [assertDataClasses, Except.bind_eq_ok, exists_unit, demand_eq_ok, Bool.and_eq_true,
    decide_eq_true_eq, List.all_eq_true, Bool.or_eq_true, beq_iff_eq, Bool.not_eq_true',
    List.isEmpty_eq_false_iff] at h
  obtain ⟨⟨hnonempty, hclasses⟩, hnodup⟩ := h
  exact ⟨hnonempty, hclasses, hnodup⟩

theorem validateAuthorizationInput_eq_ok {input : CreateAuthorizationRequest} {now : Nat}
    {u : Unit} (h : validateAuthorizationInput input now = .ok u) : IntakeAccepted input now := by
  simp only [validateAuthorizationInput, assertRequestIdentifier, assertRequestText,
    assertFutureTimestamp, Except.bind_eq_ok, exists_unit, demand_eq_ok, Bool.and_eq_true,
    Bool.not_eq_true', decide_eq_true_eq] at h
  obtain ⟨-, hprovider, hevidence, -, hmodel, hregion, hclasses, hlimits, hvalid, -⟩ := h
  exact
    { providerId := hprovider
      evidenceRef := hevidence
      modelPattern := hmodel
      regionCode := hregion
      dataClasses := assertDataClasses_eq_ok hclasses
      limits := assertLimits_eq_ok hlimits
      validUntil := hvalid.2.2 }

/-- An accepted validity text ends in Z and denotes an instant in the allowed window. -/
theorem isAuthorizationValidityAllowed_eq_true {value : TimestampText} {now : Nat}
    (h : isAuthorizationValidityAllowed value now = true) :
    value.text.toList.getLast? = some 'Z' ∧ ∃ t : Nat, value.instant = some (t : Int) ∧
      now + 60000 < t ∧ t ≤ now + authorizationMaxValidityMilliseconds := by
  simp only [isAuthorizationValidityAllowed, Bool.and_eq_true, beq_iff_eq, Option.any_eq_true,
    decide_eq_true_eq] at h
  obtain ⟨hsuffix, timestamp, hinstant, hlower, hupper⟩ := h
  refine ⟨hsuffix, timestamp.toNat, ?_, by omega, by omega⟩
  rw [Int.toNat_of_nonneg (by omega)]
  exact hinstant

end Server
end TokenStreaming
