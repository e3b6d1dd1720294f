import TokenStreaming.Domain.Validation
import TokenStreaming.Foundation.Json

/-!
# Supplier agent - The profile

{lit}`createSupplierAgentProfile` checks what the supplier entered and stamps it with a version
and two times.  The stored profile is read again by {lit}`validateSupplierAgentProfile` at every
later start.

URLs are parsed by the platform; so is the question whether a text is a date.

Main results:

- Theorem {lit}`parse_render_toJson`: a profile survives its JSON text.
- Theorem {lit}`saved_profile_never_reopens`: the reader refuses every profile that was created.
-/

namespace TokenStreaming
namespace SupplierAgent
namespace Profile

open Domain Json

/-- {lit}`SUPPLIER_AGENT_PROFILE_VERSION`. -/
def SUPPLIER_AGENT_PROFILE_VERSION : Nat := 2

/-! ## Profiles -/

inductive UpstreamProtocol where
  | responses
  | chatCompletions
deriving DecidableEq

def UpstreamProtocol.text : UpstreamProtocol → String
  | .responses => "responses"
  | .chatCompletions => "chat-completions"

inductive DataClass where
  | P0
  | P1
deriving DecidableEq

def DataClass.text : DataClass → String
  | .P0 => "P0"
  | .P1 => "P1"

structure Limits where
  requestsPerMinute : Nat
  tokensPerMinute : Nat
  concurrency : Nat
  maxOutputTokens : Nat
  maxInputBytes : Nat
  maxArtifactBytes : Nat
  artifactSegmentBytes : Nat
deriving DecidableEq

structure SupplierAgentProfileInput where
  providerId : String
  allowedModels : List String
  allowedDataClasses : List DataClass
  publicGatewayEndpoint : String
  controlPlaneBaseUrl : String
  gatewayPort : Nat
  upstreamProtocol : UpstreamProtocol
  upstreamBaseUrl : String
  upstreamHostAllowlist : List String
  limits : Limits
deriving DecidableEq

structure SupplierAgentProfile extends SupplierAgentProfileInput where
  createdAt : String
  updatedAt : String
deriving DecidableEq

/-- {lit}`SupplierAgentError`; the code of every error here is {lit}`INVALID_INPUT`. -/
structure InvalidInput where
  message : String
deriving DecidableEq

abbrev Checked (α : Type) := Except InvalidInput α

def invalid {α : Type} (message : String) : Checked α :=
  .error { message }

/-- Throw unless the condition holds. -/
def require (condition : Bool) (message : String) : Checked Unit :=
  if condition then .ok () else invalid message

/-! ## The platform -/

/-- What a parsed URL shows. -/
structure Url where
  protocol : String
  username : String
  password : String
  hostname : String
  port : String
  pathname : String
  search : String
  hash : String
deriving DecidableEq

/-- The platform's URLs and dates. -/
structure Platform where
  /-- {lit}`new URL(value)`; {lit}`none` is a thrown error. -/
  parseUrl : String → Option Url
  /-- {lit}`url.toString()`. -/
  href : Url → String
  origin : Url → String
  /-- The URL after an assignment to its {lit}`pathname`. -/
  setPathname : Url → String → Url
  /-- {lit}`Number.isFinite(Date.parse(value))`. -/
  isDate : String → Bool

/-! ## Texts -/

def endsWith (text suffix : String) : Bool :=
  suffix.toList.isSuffixOf text.toList

def isModelName (value : String) : Bool :=
  match value.toList with
  | [] => false
  | first :: rest =>
      isAsciiAlphanumeric first && rest.length ≤ 119 &&
        rest.all fun c => isAsciiAlphanumeric c || c ∈ ['.', '_', ':', '/', '-']

def isHostPattern (value : String) : Bool :=
  1 ≤ value.toList.length && value.toList.length ≤ 253 &&
    value.toList.all fun c => isAsciiAlphanumeric c || c ∈ ['.', '-']

def isIdentifier (value : String) : Bool :=
  match value.toList with
  | [] => false
  | first :: rest =>
      isAsciiAlphanumeric first && 1 ≤ rest.length && rest.length ≤ 127 &&
        rest.all fun c => isAsciiAlphanumeric c || c ∈ ['.', '_', ':', '-']

/-- Host names are ASCII. -/
def toLowerCase (value : String) : String :=
  .ofList (value.toList.map Char.toLower)

/-- Four groups of one to three digits between dots. -/
def isDottedQuad (chars : List Char) : Bool :=
  let groups := chars.splitOn '.'
  groups.length == 4 &&
    groups.all fun group => 1 ≤ group.length && group.length ≤ 3 && group.all Char.isDigit

def isIpLiteral (hostname : String) : Bool :=
  hostname.toList.contains ':' || isDottedQuad hostname.toList

def isBlockedHostname (hostname : String) : Bool :=
  hostname == "localhost" || endsWith hostname ".localhost" || endsWith hostname ".local" ||
    endsWith hostname ".internal"

/-- {lit}`value.replace(/\/+$/, "")`. -/
def withoutTrailingSlashes (value : String) : String :=
  .ofList (value.toList.reverse.dropWhile (· == '/')).reverse

/-! ## Fields -/

def requireRecord (value : Option JsonValue) (label : String) :
    Checked (List (String × JsonValue)) :=
  match value with
  | some (.object members) => .ok members
  | _ => invalid (label ++ " 必须是对象。")

def assertExactKeys (record : List (String × JsonValue)) (allowed : List String)
    (label : String) : Checked Unit :=
  require (record.length == allowed.length && record.all fun m => m.1 ∈ allowed)
    (label ++ " 字段不完整或包含未知字段。")

def identifier (value : Option JsonValue) (label : String) : Checked String :=
  match value with
  | some (.string text) => do
      require (isIdentifier text) (label ++ " 无效。")
      return text
  | _ => invalid (label ++ " 无效。")

def integer (value : Option JsonValue) (label : String) (minimum maximum : Nat) :
    Checked Nat := do
  let message := label ++ " 必须是 " ++ toString minimum ++ " 到 " ++ toString maximum ++ " 的整数。"
  match value with
  | some (.number n) =>
      require (n ≤ maxSafeInteger && (minimum : Int) ≤ n && n ≤ (maximum : Int)) message
      return n.toNat
  | _ => invalid message

/-- One item of a list of texts. -/
def matchingText (pattern : String → Bool) (label : String) : JsonValue → Checked String
  | .string text => do
      require (pattern text) (label ++ " 包含无效值。")
      return text
  | _ => invalid (label ++ " 包含无效值。")

def uniqueStrings (value : Option JsonValue) (label : String) (maximum : Nat)
    (pattern : String → Bool) : Checked (List String) :=
  match value with
  | some (.array items) => do
      require (1 ≤ items.length && items.length ≤ maximum) (label ++ " 数量无效。")
      let result ← items.mapM (matchingText pattern label)
      require (result.dedup.length == result.length) (label ++ " 不能包含重复值。")
      return result
  | _ => invalid (label ++ " 数量无效。")

def dataClass : JsonValue → Checked DataClass
  | .string "P0" => .ok .P0
  | .string "P1" => .ok .P1
  | _ => invalid "allowedDataClasses 只能包含 P0 或 P1。"

/-- The distinct items in the order of their first occurrences. -/
def distinct {α : Type} [DecidableEq α] (items : List α) : List α :=
  items.foldl (fun seen item => if item ∈ seen then seen else seen ++ [item]) []

def dataClasses (value : Option JsonValue) : Checked (List DataClass) :=
  match value with
  | some (.array items) => do
      require (1 ≤ items.length && items.length ≤ 2) "allowedDataClasses 只能包含 P0 或 P1。"
      let classes ← items.mapM dataClass
      return distinct classes
  | _ => invalid "allowedDataClasses 只能包含 P0 或 P1。"

def upstreamProtocol (value : Option JsonValue) : Checked UpstreamProtocol :=
  match value with
  | some (.string "responses") => .ok .responses
  | some (.string "chat-completions") => .ok .chatCompletions
  | _ => invalid "upstreamProtocol 必须是 responses 或 chat-completions。"

variable (platform : Platform)

def timestamp (value : Option JsonValue) (label : String) : Checked String :=
  match value with
  | some (.string text) => do
      require (endsWith text "Z" && platform.isDate text) (label ++ " 无效。")
      return text
  | _ => invalid (label ++ " 无效。")

/-- The URL of a text. -/
def urlOf (value : Option JsonValue) (label : String) : Checked Url :=
  match value with
  | some (.string text) =>
      match platform.parseUrl text with
      | some url => .ok url
      | none => invalid (label ++ " 必须是公网 HTTPS 地址。")
  | _ => invalid (label ++ " 必须是公网 HTTPS 地址。")

def publicHttpsUrl (value : Option JsonValue) (label : String) : Checked String := do
  let url ← urlOf platform value label
  let hostname := toLowerCase url.hostname
  require (url.protocol == "https:" && url.username.isEmpty && url.password.isEmpty &&
      url.search.isEmpty && url.hash.isEmpty && (url.port.isEmpty || url.port == "443") &&
      !isIpLiteral hostname && !isBlockedHostname hostname)
    (label ++ " 必须是公网 HTTPS 地址且不能包含凭据、查询参数或私网主机。")
  return platform.href (platform.setPathname url (withoutTrailingSlashes url.pathname))

/-- {lit}`new URL(normalized)` of a text that {lit}`publicHttpsUrl` returned. -/
def normalizedUrl (normalized label : String) : Checked Url :=
  urlOf platform (some (.string normalized)) label

def publicEndpoint (value : Option JsonValue) : Checked String := do
  let normalized ← publicHttpsUrl platform value "publicGatewayEndpoint"
  let url ← normalizedUrl platform normalized "publicGatewayEndpoint"
  require (url.pathname == "/v3/inference") "公网节点地址必须以 /v3/inference 结尾。"
  return platform.href url

def controlPlaneUrl (value : Option JsonValue) : Checked String := do
  let normalized ← publicHttpsUrl platform value "controlPlaneBaseUrl"
  let url ← normalizedUrl platform normalized "controlPlaneBaseUrl"
  require (url.pathname == "/") "平台地址必须是 HTTPS 站点根地址。"
  return platform.origin url

/-! ## Validation -/

def PROFILE_KEYS : List String :=
  ["providerId", "allowedModels", "allowedDataClasses", "publicGatewayEndpoint",
    "controlPlaneBaseUrl", "gatewayPort", "upstreamProtocol", "upstreamBaseUrl",
    "upstreamHostAllowlist", "limits"]

def LIMIT_KEYS : List String :=
  ["requestsPerMinute", "tokensPerMinute", "concurrency", "maxOutputTokens", "maxInputBytes",
    "maxArtifactBytes", "artifactSegmentBytes"]

def validateLimits (value : Option JsonValue) : Checked Limits := do
  let record ← requireRecord value "limits"
  assertExactKeys record LIMIT_KEYS "limits"
  let maxInputBytes ← integer (record.lookup "maxInputBytes") "maxInputBytes" 1 1000000
  let maxArtifactBytes ← integer (record.lookup "maxArtifactBytes") "maxArtifactBytes" 0 268435456
  let artifactSegmentBytes ←
    integer (record.lookup "artifactSegmentBytes") "artifactSegmentBytes" 1 524288
  require (maxArtifactBytes == 0 || (20480 ≤ maxInputBytes && 16384 ≤ artifactSegmentBytes &&
      artifactSegmentBytes + 4096 ≤ maxInputBytes))
    "启用文件任务时，分段大小必须至少 16384 字节，并为任务说明保留 4096 字节输入空间。"
  let requestsPerMinute ←
    integer (record.lookup "requestsPerMinute") "requestsPerMinute" 1 10000
  let tokensPerMinute ← integer (record.lookup "tokensPerMinute") "tokensPerMinute" 1 100000000
  let concurrency ← integer (record.lookup "concurrency") "concurrency" 1 1000
  let maxOutputTokens ← integer (record.lookup "maxOutputTokens") "maxOutputTokens" 1 32768
  return { requestsPerMinute, tokensPerMinute, concurrency, maxOutputTokens, maxInputBytes,
           maxArtifactBytes, artifactSegmentBytes }

/-- The host of the upstream is one of the hosts, or below one. -/
def isAllowedHost (upstreamHost : String) (hosts : List String) : Bool :=
  hosts.any fun host => upstreamHost == host || endsWith upstreamHost ("." ++ host)

def validateSupplierAgentProfileInput (value : Option JsonValue) :
    Checked SupplierAgentProfileInput := do
  let record ← requireRecord value "profile"
  assertExactKeys record PROFILE_KEYS "profile"
  let providerId ← identifier (record.lookup "providerId") "providerId"
  let allowedModels ← uniqueStrings (record.lookup "allowedModels") "allowedModels" 100 isModelName
  let allowedDataClasses ← dataClasses (record.lookup "allowedDataClasses")
  let publicGatewayEndpoint ← publicEndpoint platform (record.lookup "publicGatewayEndpoint")
  let controlPlaneBaseUrl ← controlPlaneUrl platform (record.lookup "controlPlaneBaseUrl")
  let gatewayPort ← integer (record.lookup "gatewayPort") "gatewayPort" 1 65535
  let upstreamProtocol ← upstreamProtocol (record.lookup "upstreamProtocol")
  let upstreamBaseUrl ←
    publicHttpsUrl platform (record.lookup "upstreamBaseUrl") "upstreamBaseUrl"
  let hosts ← uniqueStrings (record.lookup "upstreamHostAllowlist") "upstreamHostAllowlist" 100
    isHostPattern
  let upstreamHostAllowlist := hosts.map toLowerCase
  let url ← normalizedUrl platform upstreamBaseUrl "upstreamBaseUrl"
  require (isAllowedHost (toLowerCase url.hostname) upstreamHostAllowlist)
    "上游地址不在主机白名单中。"
  let limits ← validateLimits (record.lookup "limits")
  return { providerId, allowedModels, allowedDataClasses, publicGatewayEndpoint,
           controlPlaneBaseUrl, gatewayPort, upstreamProtocol, upstreamBaseUrl,
           upstreamHostAllowlist, limits }

def createSupplierAgentProfile (input : JsonValue) (prior : Option SupplierAgentProfile)
    (now : String) : Checked SupplierAgentProfile := do
  let validated ← validateSupplierAgentProfileInput platform (some input)
  return { toSupplierAgentProfileInput := validated
           createdAt := (prior.map SupplierAgentProfile.createdAt).getD now
           updatedAt := now }

/-- The members of an object after those of an update, as a spread writes them. -/
def withMembers (record update : List (String × JsonValue)) : List (String × JsonValue) :=
  (update.foldl (fun members m => members.set m.1 m.2)
    (record.foldl (fun members m => members.set m.1 m.2) InsertionMap.empty)).entries

/-- A field of a record, as a member of another; a field that is missing is left out. -/
def copied (record : List (String × JsonValue)) (key : String) : List (String × JsonValue) :=
  ((record.lookup key).map fun value => (key, value)).toList

def migrateLegacyProfile (record : List (String × JsonValue)) :
    Checked SupplierAgentProfileInput := do
  let legacyKeys := PROFILE_KEYS.filter (· ≠ "controlPlaneBaseUrl")
  assertExactKeys record (["profileVersion"] ++ legacyKeys ++ ["createdAt", "updatedAt"]) "profile"
  let legacyLimits ← requireRecord (record.lookup "limits") "limits"
  let maxInputBytes ← integer (legacyLimits.lookup "maxInputBytes") "maxInputBytes" 1 1000000
  let artifactLimits : List (String × JsonValue) :=
    [("maxArtifactBytes", .number (if 20480 ≤ maxInputBytes then 268435456 else 0)),
      ("artifactSegmentBytes",
        .number (if 20480 ≤ maxInputBytes then min 262144 (maxInputBytes - 4096) else 1))]
  validateSupplierAgentProfileInput platform (some (.object
    ((PROFILE_KEYS.take 4).flatMap (copied record) ++
      ("controlPlaneBaseUrl", .string "https://gongsuanyun-market.wenzaiyin.chatgpt.site") ::
      ((PROFILE_KEYS.drop 5).take 4).flatMap (copied record) ++
      [("limits", .object (withMembers legacyLimits artifactLimits))])))

/-- The branches of {lit}`validateSupplierAgentProfile`. -/
def readProfileInput (record : List (String × JsonValue)) : Checked SupplierAgentProfileInput :=
  match record.lookup "profileVersion" with
  | some (.number 1) => migrateLegacyProfile platform record
  | version => do
      assertExactKeys record (["profileVersion"] ++ PROFILE_KEYS ++ ["createdAt", "updatedAt"])
        "profile"
      match version with
      | some (.number 2) => validateSupplierAgentProfileInput platform (some (.object record))
      | _ => invalid "不支持的供应客户端配置版本。"

def validateSupplierAgentProfile (value : JsonValue) : Checked SupplierAgentProfile := do
  let record ← requireRecord (some value) "profile"
  let input ← readProfileInput platform record
  let createdAt ← timestamp platform (record.lookup "createdAt") "createdAt"
  let updatedAt ← timestamp platform (record.lookup "updatedAt") "updatedAt"
  return { toSupplierAgentProfileInput := input, createdAt, updatedAt }

/-! ## The stored profile -/

def Limits.toJson (limits : Limits) : JsonValue :=
  .object
    [("requestsPerMinute", .number limits.requestsPerMinute),
      ("tokensPerMinute", .number limits.tokensPerMinute),
      ("concurrency", .number limits.concurrency),
      ("maxOutputTokens", .number limits.maxOutputTokens),
      ("maxInputBytes", .number limits.maxInputBytes),
      ("maxArtifactBytes", .number limits.maxArtifactBytes),
      ("artifactSegmentBytes", .number limits.artifactSegmentBytes)]

def textList (values : List String) : JsonValue :=
  .array (values.map .string)

/-- The members of the stored object. -/
def SupplierAgentProfile.members (profile : SupplierAgentProfile) : List (String × JsonValue) :=
  [("profileVersion", .number SUPPLIER_AGENT_PROFILE_VERSION),
    ("providerId", .string profile.providerId),
    ("allowedModels", textList profile.allowedModels),
    ("allowedDataClasses", textList (profile.allowedDataClasses.map DataClass.text)),
    ("publicGatewayEndpoint", .string profile.publicGatewayEndpoint),
    ("controlPlaneBaseUrl", .string profile.controlPlaneBaseUrl),
    ("gatewayPort", .number profile.gatewayPort),
    ("upstreamProtocol", .string profile.upstreamProtocol.text),
    ("upstreamBaseUrl", .string profile.upstreamBaseUrl),
    ("upstreamHostAllowlist", textList profile.upstreamHostAllowlist),
    ("limits", profile.limits.toJson),
    ("createdAt", .string profile.createdAt),
    ("updatedAt", .string profile.updatedAt)]

def SupplierAgentProfile.toJson (profile : SupplierAgentProfile) : JsonValue :=
  .object profile.members

theorem printable_textList (values : List String) : Printable (textList values) := by
  have hitems : ∀ items : List String, PrintableItems (items.map .string) := by
    intro items
    induction items with
    | nil => trivial
    | cons value items ih => exact ⟨trivial, ih⟩
  exact hitems values

theorem printable_limits (limits : Limits) : Printable limits.toJson := by
  refine ⟨?_, trivial, trivial, trivial, trivial, trivial, trivial, trivial, trivial⟩
  exact (by decide : ["requestsPerMinute", "tokensPerMinute", "concurrency", "maxOutputTokens",
    "maxInputBytes", "maxArtifactBytes", "artifactSegmentBytes"].Nodup)

theorem printable_toJson (profile : SupplierAgentProfile) : Printable profile.toJson := by
  refine ⟨?_, trivial, trivial, printable_textList _, printable_textList _, trivial, trivial,
    trivial, trivial, trivial, printable_textList _, printable_limits _, trivial, trivial,
    trivial⟩
  exact (by decide +kernel : (["profileVersion"] ++ PROFILE_KEYS ++ ["createdAt", "updatedAt"]).Nodup)

/-- A profile survives its JSON text. -/
theorem parse_render_toJson (profile : SupplierAgentProfile) :
    parse (render profile.toJson) = some profile.toJson :=
  parse_render _ (printable_toJson profile)

/-! ## Reopening -/

/-- The input check refuses a record with another number of members. -/
theorem validateSupplierAgentProfileInput_of_length {record : List (String × JsonValue)}
    (h : record.length ≠ PROFILE_KEYS.length) :
    validateSupplierAgentProfileInput platform (some (.object record)) =
      invalid "profile 字段不完整或包含未知字段。" := by
  have hkeys : assertExactKeys record PROFILE_KEYS "profile" =
      invalid "profile 字段不完整或包含未知字段。" := by
    unfold assertExactKeys require
    rw [beq_false_of_ne h]
    rfl
  unfold validateSupplierAgentProfileInput
  rw [show requireRecord (some (.object record)) "profile" = .ok record from rfl]
  simp only [bind, Except.bind, hkeys]
  rfl

/-- The reader hands the whole record, with the version and the two times, to the check of the
ten fields that the supplier enters. -/
theorem validateSupplierAgentProfile_toJson (profile : SupplierAgentProfile) :
    validateSupplierAgentProfile platform profile.toJson =
      invalid "profile 字段不完整或包含未知字段。" := by
  have hkeys : assertExactKeys profile.members
      (["profileVersion"] ++ PROFILE_KEYS ++ ["createdAt", "updatedAt"]) "profile" = .ok () := by
    rfl
  have hversion : profile.members.lookup "profileVersion" = some (.number 2) := by
    rfl
  have hlength : profile.members.length ≠ PROFILE_KEYS.length :=
    (by decide : 13 ≠ 10)
  have hread : readProfileInput platform profile.members =
      invalid "profile 字段不完整或包含未知字段。" := by
    unfold readProfileInput
    rw [hversion]
    simp only [hkeys, bind, Except.bind]
    exact validateSupplierAgentProfileInput_of_length platform hlength
  unfold validateSupplierAgentProfile
  rw [show requireRecord (some profile.toJson) "profile" = .ok profile.members from rfl]
  simp only [bind, Except.bind, hread]
  rfl

/-- The stored text of the profile is read back to the same profile. -/
def Reopens (profile : SupplierAgentProfile) : Prop :=
  ∃ stored, parse (render profile.toJson) = some stored ∧
    validateSupplierAgentProfile platform stored = .ok profile

/-- No profile that was created can be reopened. -/
theorem saved_profile_never_reopens (input : JsonValue) (prior : Option SupplierAgentProfile)
    (now : String) (profile : SupplierAgentProfile)
    (_ : createSupplierAgentProfile platform input prior now = .ok profile) :
    ¬ Reopens platform profile ∧
      (parse (render profile.toJson)).map (validateSupplierAgentProfile platform) =
        some (.error { message := "profile 字段不完整或包含未知字段。" }) := by
  have hrefused := validateSupplierAgentProfile_toJson platform profile
  rw [parse_render_toJson, Option.map_some, hrefused]
  constructor
  · rintro ⟨stored, hstored, hvalid⟩
    rw [parse_render_toJson] at hstored
    rw [← Option.some.inj hstored, hrefused] at hvalid
    cases hvalid
  · rfl

/-! ## A setup -/

/-- The URLs {lit}`https://host/path` with a lower case host, and the dates of one shape. -/
def plainPlatform : Platform where
  parseUrl text :=
    if "https://".toList.isPrefixOf text.toList then
      let rest := text.toList.drop 8
      some { protocol := "https:", username := "", password := "", port := "", search := "",
             hash := "", hostname := .ofList (rest.takeWhile (· ≠ '/'))
             pathname := if '/' ∈ rest then .ofList (rest.dropWhile (· ≠ '/')) else "/" }
    else none
  href url := "https://" ++ url.hostname ++ url.pathname
  origin url := "https://" ++ url.hostname
  setPathname url pathname := { url with pathname := if pathname.isEmpty then "/" else pathname }
  isDate text := text.toList.length == 24

/-- What a supplier entered. -/
def sampleInput : JsonValue :=
  .object
    [("providerId", .string "provider-test"),
      ("allowedModels", textList ["model-exact-2026-08-25"]),
      ("allowedDataClasses", textList ["P0"]),
      ("publicGatewayEndpoint", .string "https://node.example.com/v3/inference"),
      ("controlPlaneBaseUrl", .string "https://market.example.com"),
      ("gatewayPort", .number 8789),
      ("upstreamProtocol", .string "responses"),
      ("upstreamBaseUrl", .string "https://api.provider.example/v1"),
      ("upstreamHostAllowlist", textList ["provider.example"]),
      ("limits", Limits.toJson
        { requestsPerMinute := 30, tokensPerMinute := 100000, concurrency := 2
          maxOutputTokens := 4096, maxInputBytes := 262144, maxArtifactBytes := 268435456
          artifactSegmentBytes := 131072 })]

/-- The profile that is created for it. -/
def sampleProfile : SupplierAgentProfile where
  providerId := "provider-test"
  allowedModels := ["model-exact-2026-08-25"]
  allowedDataClasses := [.P0]
  publicGatewayEndpoint := "https://node.example.com/v3/inference"
  controlPlaneBaseUrl := "https://market.example.com"
  gatewayPort := 8789
  upstreamProtocol := .responses
  upstreamBaseUrl := "https://api.provider.example/v1"
  upstreamHostAllowlist := ["provider.example"]
  limits :=
    { requestsPerMinute := 30, tokensPerMinute := 100000, concurrency := 2
      maxOutputTokens := 4096, maxInputBytes := 262144, maxArtifactBytes := 268435456
      artifactSegmentBytes := 131072 }
  createdAt := "2026-08-25T00:00:00.000Z"
  updatedAt := "2026-08-25T00:00:00.000Z"

theorem create_sampleInput : createSupplierAgentProfile plainPlatform sampleInput none
    "2026-08-25T00:00:00.000Z" = .ok sampleProfile := by
  decide +kernel

theorem saved_profile_never_reopens_sample :
    createSupplierAgentProfile plainPlatform sampleInput none "2026-08-25T00:00:00.000Z" =
        .ok sampleProfile ∧
      ¬ Reopens plainPlatform sampleProfile :=
  ⟨create_sampleInput, (saved_profile_never_reopens plainPlatform sampleInput none
    "2026-08-25T00:00:00.000Z" sampleProfile create_sampleInput).1⟩

/-- A profile is created from what the supplier entered, and its file is refused. -/
theorem created_profile_is_refused :
    ¬ ∀ (platform : Platform) (input : JsonValue) (prior : Option SupplierAgentProfile)
      (now : String) (profile : SupplierAgentProfile),
      createSupplierAgentProfile platform input prior now = .ok profile →
        Reopens platform profile := by
  intro hreopens
  rcases hreopens plainPlatform sampleInput none "2026-08-25T00:00:00.000Z" sampleProfile
    create_sampleInput with ⟨stored, hstored, hvalid⟩
  rw [parse_render_toJson] at hstored
  rw [← Option.some.inj hstored, validateSupplierAgentProfile_toJson] at hvalid
  cases hvalid

end Profile
end SupplierAgent
end TokenStreaming
