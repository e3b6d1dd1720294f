import TokenStreaming.Domain.Supplier
import TokenStreaming.Foundation.IsoInstant
import TokenStreaming.SupplierNode.JournalHistory

/-!
# Supplier node - The runtime

The runtime takes signed inference calls.  Up to its first wait a call runs alone: it is
verified, its body is parsed and checked, a known request id joins the promise of its
first call, and a new one is claimed in the journal and given to the provider.  The
provider answers later.

Main definitions:

- {lit}`parseInferenceRequest`, {lit}`validateProviderResult`: the two validators.
- {lit}`RuntimeWorld.handleInference`, {lit}`RuntimeWorld.settle`: the two parts of a call.
- {lit}`runtimeStep`: everything that can happen to a node.

Current gaps: the log, health and readiness, and the artifact executor, which is present
only through its use of the capacity gate.
-/

namespace TokenStreaming
namespace SupplierNode

open Domain Json LiveClaims

/-! ## Requests and results -/

def SUPPLIER_GATEWAY_PROTOCOL_VERSION : String :=
  "gongsuanyun.gateway.v3"

def SUPPLIER_GATEWAY_EXECUTION_EVIDENCE_VERSION : String :=
  "gongsuanyun.execution-evidence.v1"

structure SupplierGatewayInferenceRequest where
  requestId : String
  model : String
  input : String
  dataClass : MarketplaceDataClass
  maxOutputTokens : Nat
deriving DecidableEq

structure SupplierGatewayUsage where
  inputTokens : Int
  outputTokens : Int
  totalTokens : Int
deriving DecidableEq

structure SupplierProviderResult where
  output : String
  providerRequestId : String
  servedModel : String
  receiptRef : Option String
  usage : SupplierGatewayUsage
deriving DecidableEq

structure SupplierGatewayExecutionEvidence where
  evidenceVersion : String
  requestId : String
  providerId : String
  requestedModel : String
  servedModel : String
  providerRequestId : String
  inputSha256 : String
  outputSha256 : String
  usage : SupplierGatewayUsage
  completedAt : String
  receiptRef : Option String
deriving DecidableEq

structure SupplierGatewayInferenceResponse where
  output : String
  usage : SupplierGatewayUsage
  executionEvidence : SupplierGatewayExecutionEvidence
  executionEvidenceSignature : String
deriving DecidableEq

inductive ResultBody where
  | response (response : SupplierGatewayInferenceResponse)
  | error (error : SupplierNodeError) (requestId : Option String)
deriving DecidableEq

structure SupplierNodeResult where
  status : Nat
  body : ResultBody
deriving DecidableEq

def normalizeSupplierNodeError : Thrown → SupplierNodeError
  | .node error => error
  | .plain _ => ⟨.INTERNAL_ERROR, "供应节点发生内部错误。", 500, true⟩

def errorResult (error : SupplierNodeError) (requestId : Option String) : SupplierNodeResult where
  status := error.status
  body := .error error requestId

/-! ## Configuration -/

structure NodeLimits where
  requestsPerMinute : Nat
  tokensPerMinute : Nat
  concurrency : Nat
  maxOutputTokens : Nat
  maxInputBytes : Nat
deriving DecidableEq

structure SupplierNodeConfig where
  journal : JournalOptions
  providerId : String
  allowedModels : List String
  allowedDataClasses : List MarketplaceDataClass
  limits : NodeLimits

def idempotencyTtlMs : Nat :=
  15 * 60000

def maximumIdempotencyEntries : Nat :=
  1000

/-! ## Requests -/

def requestModel (members : List (String × JsonValue)) : Except Thrown String :=
  match stringMember members "model" with
  | some model =>
      if utf16Length model < 1 ∨ 200 < utf16Length model then .error (invalidRequest "model 无效。")
      else .ok model
  | none => .error (invalidRequest "model 无效。")

def requestInput (members : List (String × JsonValue)) : Except Thrown String :=
  match stringMember members "input" with
  | some input => if utf16Length input < 1 then .error (invalidRequest "input 无效。") else .ok input
  | none => .error (invalidRequest "input 无效。")

def requestDataClass (members : List (String × JsonValue)) : Except Thrown MarketplaceDataClass :=
  match stringMember members "data_class" with
  | some "P0" => .ok .p0
  | some "P1" => .ok .p1
  | _ => .error (invalidRequest "data_class 无效。")

def requestMaxOutputTokens (members : List (String × JsonValue)) : Except Thrown Nat :=
  match instantMember members "max_output_tokens" with
  | some n => if n < 1 then .error (invalidRequest "max_output_tokens 无效。") else .ok n
  | none => .error (invalidRequest "max_output_tokens 无效。")

def isFalse : Option JsonValue → Bool
  | some (.bool false) => true
  | _ => false

def inferenceRequestFields : List String :=
  ["protocol_version", "request_id", "model", "input", "data_class", "max_output_tokens", "stream"]

def parseInferenceRequest (rawBody : String) : Except Thrown SupplierGatewayInferenceRequest :=
  match parse rawBody.toList with
  | none => .error (invalidRequest "请求体不是有效 JSON。")
  | some (.object members) => do
      demand (members.length == inferenceRequestFields.length &&
        members.all fun m => m.1 ∈ inferenceRequestFields)
        (invalidRequest "请求体包含未知或缺失字段。")
      demand (stringMember members "protocol_version" == some SUPPLIER_GATEWAY_PROTOCOL_VERSION)
        (invalidRequest "供应网关协议版本不受支持。")
      let requestId ← requiredPattern (stringMember members "request_id") isJobId
        "request_id 无效。"
      let model ← requestModel members
      let input ← requestInput members
      let dataClass ← requestDataClass members
      let maxOutputTokens ← requestMaxOutputTokens members
      demand (isFalse (members.lookup "stream")) (invalidRequest "当前节点只接受 stream=false。")
      return { requestId, model, input, dataClass, maxOutputTokens }
  | some _ => .error (invalidRequest "请求体必须是 JSON 对象。")

def validateRequestAgainstConfig (config : SupplierNodeConfig)
    (request : SupplierGatewayInferenceRequest) : Except Thrown Unit := do
  demand (request.model ∈ config.allowedModels)
    (.node ⟨.MODEL_NOT_ALLOWED, "请求模型不在节点许可清单中。", 403, false⟩)
  demand (request.dataClass ∈ config.allowedDataClasses)
    (.node ⟨.DATA_CLASS_NOT_ALLOWED, "请求数据等级不在节点许可范围内。", 403, false⟩)
  demand (request.input.utf8ByteSize ≤ config.limits.maxInputBytes)
    (.node ⟨.INVALID_REQUEST, "请求输入超过节点大小限制。", 413, false⟩)
  demand (request.maxOutputTokens ≤ config.limits.maxOutputTokens)
    (.node ⟨.CAPACITY_EXCEEDED, "请求输出上限超过节点许可容量。", 409, false⟩)

/-- The body of a verified call, parsed and checked. -/
def admitRequest (config : SupplierNodeConfig) (rawBody : String) (checked : CheckedCall) :
    Except Thrown SupplierGatewayInferenceRequest := do
  let request ← parseInferenceRequest rawBody
  demand (request.requestId == checked.jobId) (signatureInvalid "请求体任务标识与签名标识不一致。")
  validateRequestAgainstConfig config request
  return request

/-! ## Capacity -/

structure CapacityEntry where
  occurredAt : Nat
  tokens : Nat
deriving DecidableEq

/-- The fields of a {lit}`CapacityGate` that change. -/
structure CapacityGate where
  entries : List CapacityEntry
  active : Nat
deriving DecidableEq

def CapacityGate.prune (gate : CapacityGate) (nowMs : Nat) : CapacityGate :=
  { gate with entries := gate.entries.dropWhile fun entry => entry.occurredAt + 60000 ≤ nowMs }

def CapacityGate.acquire (limits : NodeLimits) (gate : CapacityGate) (estimatedTokens nowMs : Nat) :
    CapacityGate × Except Thrown Unit :=
  let gate := gate.prune nowMs
  if limits.concurrency ≤ gate.active then
    (gate, .error (.node ⟨.CAPACITY_EXCEEDED, "供应节点并发容量已满。", 429, true⟩))
  else
    let usedTokens := (gate.entries.map CapacityEntry.tokens).sum
    if limits.requestsPerMinute ≤ gate.entries.length ∨
        limits.tokensPerMinute < usedTokens + estimatedTokens then
      (gate, .error (.node ⟨.CAPACITY_EXCEEDED, "供应节点分钟容量已用尽。", 429, true⟩))
    else
      ({ entries := gate.entries ++ [⟨nowMs, estimatedTokens⟩], active := gate.active + 1 }, .ok ())

def CapacityGate.release (gate : CapacityGate) : CapacityGate :=
  { gate with active := gate.active - 1 }

/-! ## The provider's result -/

def validateProviderResult (result : SupplierProviderResult) (requestedModel : String)
    (maximumOutputTokens : Nat) : Except Thrown Unit := do
  demand (1 ≤ utf16Length result.output && utf16Length result.output ≤ 200000 &&
      1 ≤ utf16Length result.providerRequestId && utf16Length result.providerRequestId ≤ 256 &&
      1 ≤ utf16Length result.servedModel && utf16Length result.servedModel ≤ 200)
    (.node ⟨.UPSTREAM_RESPONSE_INVALID, "Provider Adapter 返回了无效结果。", 502, false⟩)
  demand (result.servedModel == requestedModel)
    (.node ⟨.UPSTREAM_MODEL_MISMATCH, "Provider Adapter 返回的实际模型与购买模型不一致。", 502, false⟩)
  let usage := result.usage
  demand (1 ≤ usage.inputTokens && usage.inputTokens ≤ MAX_SAFE_INTEGER &&
      0 ≤ usage.outputTokens && usage.outputTokens ≤ MAX_SAFE_INTEGER &&
      usage.outputTokens ≤ maximumOutputTokens &&
      -MAX_SAFE_INTEGER ≤ usage.totalTokens && usage.totalTokens ≤ MAX_SAFE_INTEGER &&
      usage.totalTokens == usage.inputTokens + usage.outputTokens)
    (.node ⟨.UPSTREAM_RESPONSE_INVALID, "Provider Adapter 返回了无效用量。", 502, false⟩)

def createSupplierGatewayExecutionEvidencePayload (evidence : SupplierGatewayExecutionEvidence) :
    String :=
  String.intercalate "\n"
    [evidence.evidenceVersion, evidence.requestId, evidence.providerId, evidence.requestedModel,
      evidence.servedModel, evidence.providerRequestId, evidence.inputSha256,
      evidence.outputSha256, toString evidence.usage.inputTokens,
      toString evidence.usage.outputTokens, toString evidence.usage.totalTokens,
      evidence.completedAt, evidence.receiptRef.getD ""]

/-- The evidence of a completed execution; an empty receipt is left out. -/
def executionEvidence (config : SupplierNodeConfig) (request : SupplierGatewayInferenceRequest)
    (result : SupplierProviderResult) (completedMs : Nat) : SupplierGatewayExecutionEvidence where
  evidenceVersion := SUPPLIER_GATEWAY_EXECUTION_EVIDENCE_VERSION
  requestId := request.requestId
  providerId := config.providerId
  requestedModel := request.model
  servedModel := result.servedModel
  providerRequestId := result.providerRequestId
  inputSha256 := config.journal.hashes.sha256Hex request.input
  outputSha256 := config.journal.hashes.sha256Hex result.output
  usage := result.usage
  completedAt := IsoInstant.toISOString completedMs
  receiptRef := result.receiptRef.filter fun receipt => !receipt.isEmpty

def executionResponse (config : SupplierNodeConfig) (request : SupplierGatewayInferenceRequest)
    (result : SupplierProviderResult) (completedMs : Nat) : SupplierGatewayInferenceResponse :=
  let evidence := executionEvidence config request result completedMs
  { output := result.output
    usage := result.usage
    executionEvidence := evidence
    executionEvidenceSignature := config.journal.hashes.hmacSha256Hex config.journal.gatewayToken
      (createSupplierGatewayExecutionEvidencePayload evidence) }

/-- The part of {lit}`execute` that follows the provider's answer. -/
def completeExecution (config : SupplierNodeConfig) (request : SupplierGatewayInferenceRequest)
    (answer : Except Thrown SupplierProviderResult) (completedMs : Nat) : SupplierNodeResult :=
  match answer with
  | .error error => errorResult (normalizeSupplierNodeError error) (some request.requestId)
  | .ok result =>
      match validateProviderResult result request.model request.maxOutputTokens with
      | .error error => errorResult (normalizeSupplierNodeError error) (some request.requestId)
      | .ok () => ⟨200, .response (executionResponse config request result completedMs)⟩

/-! ## The runtime of one process -/

structure IdempotencyEntry where
  bodySha256 : String
  expiresAt : Nat
  /-- The number of the promise that answers the request. -/
  result : Nat
deriving DecidableEq

/-- A promise of {lit}`execute`. -/
inductive ResultPromise where
  | pending (request : SupplierGatewayInferenceRequest)
  | resolved (result : SupplierNodeResult)
  | rejected (error : Thrown)
deriving DecidableEq

/-- What the first part of a call ends with: it waits for a promise, as the one that made it
or with others, or it has thrown. -/
inductive Reply where
  | started (promise : Nat)
  | joined (promise : Nat)
  | thrown (error : Thrown)
deriving DecidableEq

/-- A verified and admitted call of {lit}`handleInference`. -/
structure CallRecord where
  epoch : Nat
  atMs : Nat
  requestId : String
  bodySha256 : String
  reply : Reply
deriving DecidableEq

/-- A request that was given to the provider. -/
structure Invocation where
  requestId : String
  atMs : Nat
deriving DecidableEq

/-- The node with the runtime of its present process. -/
structure RuntimeWorld where
  journal : JournalWorld
  /-- The number of starts. -/
  epoch : Nat
  idempotency : InsertionMap String IdempotencyEntry
  capacity : CapacityGate
  draining : Bool
  promises : List ResultPromise
  /-- Every invocation of the provider, over all processes. -/
  invocations : List Invocation
  /-- Every call that was verified and admitted, over all processes. -/
  calls : List CallRecord

variable (config : SupplierNodeConfig)

namespace RuntimeWorld

def initial (clock : Nat) : RuntimeWorld where
  journal := .initial clock
  epoch := 0
  idempotency := .empty
  capacity := ⟨[], 0⟩
  draining := false
  promises := []
  invocations := []
  calls := []

def pruneIdempotency (w : RuntimeWorld) (nowMs : Nat) : RuntimeWorld :=
  { w with idempotency := w.idempotency.filter fun _ entry => !(entry.expiresAt < nowMs) }

/-- The call's first part up to {lit}`adapter.invoke`; the gate reads the clock itself. -/
def execute (w : RuntimeWorld) (request : SupplierGatewayInferenceRequest) (acquireMs : Nat) :
    RuntimeWorld :=
  let estimatedTokens := request.input.utf8ByteSize + request.maxOutputTokens
  match w.capacity.acquire config.limits estimatedTokens acquireMs with
  | (capacity, .error error) => { w with capacity, promises := w.promises ++ [.rejected error] }
  | (capacity, .ok ()) =>
      { w with
        capacity
        promises := w.promises ++ [.pending request]
        invocations := w.invocations ++ [⟨request.requestId, w.journal.clock⟩] }

def idempotencyFull : Thrown :=
  .node ⟨.CAPACITY_EXCEEDED, "节点幂等缓存已满，请稍后重试。", 503, true⟩

/-- An admitted call: it joins, is refused, or claims its request and starts. -/
def dispatch (w : RuntimeWorld) (g : ReplayGuard) (request : SupplierGatewayInferenceRequest)
    (bodySha256 : String) (disk : ClaimDisk) (acquireMs : Nat) : RuntimeWorld × Reply :=
  let nowMs := w.journal.clock
  let w := w.pruneIdempotency nowMs
  match w.idempotency.get request.requestId with
  | some existing =>
      if existing.bodySha256 ≠ bodySha256 then (w, .thrown idempotencyConflict)
      else (w, .joined existing.result)
  | none =>
      if maximumIdempotencyEntries ≤ w.idempotency.size then (w, .thrown idempotencyFull)
      else
        let expiresAt := nowMs + idempotencyTtlMs
        let claimed := g.journal.claimRequest config.journal request.requestId bodySha256
          expiresAt nowMs disk
        let journal := w.journal.claimRequest config.journal g request.requestId bodySha256
          expiresAt disk
        let w := { w with journal }
        match claimed.result with
        | .error error => (w, .thrown error)
        | .ok () =>
            let promise := w.promises.length
            let w := w.execute config request acquireMs
            ({ w with
                idempotency := w.idempotency.set request.requestId
                  ⟨bodySha256, expiresAt, promise⟩ }, .started promise)

/-- Remember an admitted call. -/
def record (w : RuntimeWorld) (requestId bodySha256 : String) (reply : Reply) : RuntimeWorld :=
  { w with calls := w.calls ++ [⟨w.epoch, w.journal.clock, requestId, bodySha256, reply⟩] }

/-- The part of {lit}`handleInference` that runs before its first wait, with the error it
throws before the call is admitted. -/
def handleInference (w : RuntimeWorld) (g : ReplayGuard) (call : SignedGatewayCall)
    (nonceDisk requestDisk : ClaimDisk) (acquireMs : Nat) : RuntimeWorld × Reply :=
  if w.draining then
    (w, .thrown (.node ⟨.CAPACITY_EXCEEDED, "供应节点正在安全停机。", 503, true⟩))
  else
    match w.journal.verify config.journal g call nonceDisk with
    | (journal, .error error) => ({ w with journal }, .thrown error)
    | (journal, .ok checked) =>
        let w := { w with journal }
        match admitRequest config call.rawBody checked with
        | .error error => (w, .thrown error)
        | .ok request =>
            match journal.node with
            | .down _ => (w, .thrown replayProtectionUnavailable)
            | .up g =>
                let (w, reply) := w.dispatch config g request checked.bodySha256 requestDisk
                  acquireMs
                (w.record request.requestId checked.bodySha256 reply, reply)

/-- The provider answers a request; its place in the capacity gate is given back. -/
def settle (w : RuntimeWorld) (promise : Nat) (answer : Except Thrown SupplierProviderResult)
    (completedMs : Nat) : RuntimeWorld :=
  match w.promises[promise]? with
  | some (.pending request) =>
      { w with
        promises := w.promises.set promise
          (.resolved (completeExecution config request answer completedMs))
        capacity := w.capacity.release }
  | _ => w

/-- What a call that waits for a promise answers, once the promise is settled. -/
def answer (w : RuntimeWorld) (requestId : String) (promise : Nat) : Option SupplierNodeResult :=
  match w.promises[promise]? with
  | some (.resolved result) => some result
  | some (.rejected error) =>
      some (errorResult (normalizeSupplierNodeError error) (some requestId))
  | _ => none

/-- A new process has an empty runtime. -/
def restart (w : RuntimeWorld) (journal : JournalWorld) : RuntimeWorld :=
  { w with
    journal
    epoch := w.epoch + 1
    idempotency := .empty
    capacity := ⟨[], 0⟩
    draining := false
    promises := [] }

end RuntimeWorld

inductive RuntimeCall where
  | wait (milliseconds : Nat)
  | stop
  | start (rename : DiskCall)
  | handleInference (call : SignedGatewayCall) (nonceDisk requestDisk : ClaimDisk)
      (acquireMs : Nat)
  | handleAttestation (call : SignedGatewayCall) (disk : ClaimDisk)
  | settle (promise : Nat) (answer : Except Thrown SupplierProviderResult) (completedMs : Nat)
  | artifactAcquire (estimatedTokens nowMs : Nat)
  | artifactRelease
  | compactNow (rename : DiskCall)
  | setDraining

/-- One call; a call of a node that is not running does nothing. -/
def runtimeStep (w : RuntimeWorld) (call : RuntimeCall) : RuntimeWorld :=
  match call with
  | .wait milliseconds => { w with journal := w.journal.wait milliseconds }
  | .stop => w.restart w.journal.stop
  | .start rename => w.restart (w.journal.start config.journal rename)
  | .handleInference call nonceDisk requestDisk acquireMs =>
      match w.journal.node with
      | .up g => (w.handleInference config g call nonceDisk requestDisk acquireMs).1
      | .down _ => w
  | .handleAttestation call disk =>
      match w.journal.node with
      | .up g => { w with journal := (w.journal.verify config.journal g call disk).1 }
      | .down _ => w
  | .settle promise answer completedMs => w.settle config promise answer completedMs
  | .artifactAcquire estimatedTokens nowMs =>
      { w with capacity := (w.capacity.acquire config.limits estimatedTokens nowMs).1 }
  | .artifactRelease => { w with capacity := w.capacity.release }
  | .compactNow rename =>
      { w with journal := journalStep config.journal w.journal (.compactNow rename) }
  | .setDraining => { w with draining := true }

end SupplierNode
end TokenStreaming
