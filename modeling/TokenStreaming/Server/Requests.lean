import TokenStreaming.Server.Schema

/-!
# Control plane - Request plumbing

What every service function of the control plane shares: the errors a request
ends with, the runtime policy, and the reads a request makes before it hands a
batch to the database.

A request reads the database several times before it writes; nothing stops other
requests from committing in between.  A service function therefore takes
{lit}`reads`, which gives each of its reads the database state it observed.  The
checks a request makes on the shape of its own input, the rate limiter and the
gateway calls only refuse requests and are left out: a request here has passed
them.
-/

namespace TokenStreaming
namespace Server

open Relational Domain

/-! ## Errors -/

/-- {lit}`ApiError`. -/
structure ApiError where
  code : String
  message : String
  status : Nat
  retryable : Bool := false
deriving DecidableEq

/-- The outcome of the part of a request that precedes its batch. -/
abbrev Request (α : Type) := Except ApiError α

/-- The statements of one {lit}`db.batch` call; a lone statement is a batch of one. -/
abbrev Batch := List MarketplaceStatement

/-- Throw unless the condition holds. -/
def demand (condition : Bool) (error : ApiError) : Request Unit :=
  if condition then .ok () else .error error

/-- The row a query found, or an error. -/
def found {α : Type} (row : Option α) (error : ApiError) : Request α :=
  match row with
  | some row => .ok row
  | none => .error error

@[simp]
theorem demand_eq_ok {condition : Bool} {error : ApiError} {u : Unit} :
    demand condition error = .ok u ↔ condition = true := by
  unfold demand
  split <;> simp_all

@[simp]
theorem found_eq_ok {α : Type} {row : Option α} {error : ApiError} {a : α} :
    found row error = .ok a ↔ row = some a := by
  unfold found
  split <;> simp

/-- The answer to an error that is no {lit}`ApiError`. -/
def internalError : ApiError where
  code := "INTERNAL_ERROR"
  message := "服务暂时无法完成请求。"
  status := 500
  retryable := true

/-- A domain error that escapes a service function. -/
def uncaught {α : Type} (result : Checked α) : Request α :=
  result.mapError fun _ => internalError

/-- The code {lit}`mapDomainError` answers with. -/
def domainErrorCode (code : MarketplaceDomainErrorCode) : String :=
  match code with
  | .authorizationRequired => "AUTHORIZATION_REQUIRED"
  | .privacyAcknowledgementRequired => "PRIVACY_ACKNOWLEDGEMENT_REQUIRED"
  | .invalidSupplierState | .verificationIncomplete => "SUPPLIER_NOT_ACTIVE"
  | _ => "INVALID_REQUEST"

/-- {lit}`mapDomainError`. -/
def mapDomainError {α : Type} (result : Checked α) : Request α :=
  result.mapError fun error =>
    let code := domainErrorCode error.code
    { code
      message :=
        if code = "PRIVACY_ACKNOWLEDGEMENT_REQUIRED" then
          "提交前必须确认内容会发送给匹配供应节点及其上游 Provider 执行。"
        else error.message
      status :=
        if code = "INVALID_REQUEST" ∨ code = "PRIVACY_ACKNOWLEDGEMENT_REQUIRED" then 400 else 409 }

@[simp]
theorem uncaught_eq_ok {α : Type} {result : Checked α} {a : α} :
    uncaught result = .ok a ↔ result = .ok a := by
  cases result <;> simp [uncaught, Except.mapError]

@[simp]
theorem mapDomainError_eq_ok {α : Type} {result : Checked α} {a : α} :
    mapDomainError result = .ok a ↔ result = .ok a := by
  cases result <;> simp [mapDomainError, Except.mapError]

/-! ## Runtime policy -/

/-- {lit}`MarketplaceRuntimePolicy`, as far as the modelled functions read it. -/
structure MarketplaceRuntimePolicy where
  platformFeeBps : Nat
  welcomeCreditMicros : Nat
  inferenceReservationTimeoutSeconds : Nat
  standardOutputRetentionHours : Nat
  standardArtifactRetentionHours : Nat
  strictOutputRetentionMinutes : Nat
  strictArtifactRetentionMinutes : Nat
  maximumTenantArtifactBytes : Nat
  maximumActiveArtifactTasksPerTenant : Nat
  artifactLeaseMinutes : Nat
  artifactMaximumExecutionMinutes : Nat
  artifactQueueTimeoutMinutes : Nat
  artifactMaximumAttempts : Nat
deriving DecidableEq

/-- The two settings read from the environment, within the bounds it enforces. -/
structure RuntimeSettings where
  platformFeeBps : Nat := 1200
  welcomeCreditMicros : Nat := 100000000
  platformFeeBps_le : platformFeeBps ≤ 5000 := by decide

/-- {lit}`getMarketplaceRuntimePolicy`. -/
def getMarketplaceRuntimePolicy (settings : RuntimeSettings) : MarketplaceRuntimePolicy where
  platformFeeBps := settings.platformFeeBps
  welcomeCreditMicros := settings.welcomeCreditMicros
  inferenceReservationTimeoutSeconds := 120
  standardOutputRetentionHours := 24
  standardArtifactRetentionHours := 48
  strictOutputRetentionMinutes := 60
  strictArtifactRetentionMinutes := 60
  maximumTenantArtifactBytes := 512 * 1024 * 1024
  maximumActiveArtifactTasksPerTenant := 3
  artifactLeaseMinutes := 5
  artifactMaximumExecutionMinutes := 360
  artifactQueueTimeoutMinutes := 30
  artifactMaximumAttempts := 3

/-- {lit}`calculateMarketplacePrivacyRetentionMilliseconds(...).output`. -/
def MarketplaceRuntimePolicy.outputRetention (policy : MarketplaceRuntimePolicy) :
    MarketplacePrivacyMode → Nat
  | .strict => policy.strictOutputRetentionMinutes * 60000
  | .standard => policy.standardOutputRetentionHours * 60 * 60000

/-- {lit}`calculateMarketplacePrivacyRetentionMilliseconds(...).artifact`. -/
def MarketplaceRuntimePolicy.artifactRetention (policy : MarketplaceRuntimePolicy) :
    MarketplacePrivacyMode → Nat
  | .strict => policy.strictArtifactRetentionMinutes * 60000
  | .standard => policy.standardArtifactRetentionHours * 60 * 60000

/-! ## Reads -/

/-- The database states the successive reads of a request observe. -/
abbrev Reads := Nat → MarketplaceDb

/-- {lit}`readIdempotency`. -/
def readIdempotency (db : MarketplaceDb) (tenantId operation key : String) : Option String :=
  ((db.rows .idempotencyKeys).find? fun k =>
    k.tenantId == tenantId && k.operation == operation && k.idempotencyKey == key).map
      IdempotencyRow.resourceId

/-- {lit}`requireSupplierRow`. -/
def requireSupplierRow (db : MarketplaceDb) (identity : RequestIdentity) : Request SupplierRow :=
  found ((db.rows .suppliers).find? fun s =>
      s.tenantId == identity.tenantId && s.userId == identity.userId)
    { code := "SUPPLIER_REQUIRED", message := "请先完成供应商注册。", status := 409 }

/-- The first of the rows that no other row precedes, for {lit}`ORDER BY ... LIMIT 1`. -/
def firstBy {α : Type} (precedes : α → α → Bool) : List α → Option α
  | [] => none
  | row :: rows =>
      match firstBy precedes rows with
      | none => some row
      | some best => if precedes best row then some best else some row

theorem firstBy_mem {α : Type} {precedes : α → α → Bool} {rows : List α} {row : α}
    (h : firstBy precedes rows = some row) : row ∈ rows := by
  induction rows generalizing row with
  | nil => simp [firstBy] at h
  | cons head rows ih =>
      unfold firstBy at h
      split at h
      · simp_all
      · rename_i best hbest
        split at h
        · exact List.mem_cons_of_mem _ (ih (hbest.trans h))
        · simp_all

/-! ## JSON texts and LIKE -/

/-- A character inside a JSON string. -/
def jsonEscape (c : Char) : String :=
  if c = '"' then "\\\""
  else if c = '\\' then "\\\\"
  else if c = '\n' then "\\n"
  else if c = '\r' then "\\r"
  else if c = '\t' then "\\t"
  else if c.val < 32 then
    "\\u00" ++ String.ofList [Nat.digitChar (c.toNat / 16), Nat.digitChar (c.toNat % 16)]
  else String.singleton c

/-- {lit}`JSON.stringify` of a string. -/
def jsonString (value : String) : String :=
  "\"" ++ String.join (value.toList.map jsonEscape) ++ "\""

/-- {lit}`JSON.stringify` of an array whose members are already rendered. -/
def jsonArray (members : List String) : String :=
  "[" ++ String.intercalate "," members ++ "]"

/-- SQLite's {lit}`LIKE` folds ASCII letters only. -/
def foldCase (c : Char) : Char :=
  if 'A' ≤ c && c ≤ 'Z' then Char.ofNat (c.toNat + 32) else c

/-- {lit}`text LIKE pattern` on characters. -/
def likeChars : List Char → List Char → Bool
  | [], text => text.isEmpty
  | c :: pattern, text =>
      if c = '%' then text.tails.any (likeChars pattern)
      else
        match text with
        | [] => false
        | d :: text => (c == '_' || foldCase c == foldCase d) && likeChars pattern text

/-- {lit}`text LIKE pattern`. -/
def sqlLike (text pattern : String) : Bool :=
  likeChars pattern.toList text.toList

/-- {lit}`ORDER BY` price, then age. -/
def cheaperOrOlder (a b : OfferRow) : Bool :=
  decide (a.priceMicrosPerMillionTokens < b.priceMicrosPerMillionTokens) ||
    (a.priceMicrosPerMillionTokens == b.priceMicrosPerMillionTokens &&
      decide (a.createdAt < b.createdAt))

end Server
end TokenStreaming
