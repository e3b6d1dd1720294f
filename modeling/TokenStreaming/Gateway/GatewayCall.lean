import TokenStreaming.Gateway.ExecutionEvidence
import TokenStreaming.Server.InferenceService

/-!
# Gateway - The call of a supplier gateway

{lit}`callGateway` of {lit}`marketplace-service.ts` with {lit}`gateway-signing.ts` and
{lit}`gateway-evidence.ts`: the request the control plane signs and sends for a reserved
inference, and what it demands of the answer before any money moves.

Main definitions:

- {lit}`GatewayCall.signedCall`: the request as it reaches the node.
- {lit}`GatewayCall.readResponse`: the checks on the answer.

The connection itself, its timeout and its redirects are outside the model.
-/

namespace TokenStreaming
namespace Gateway

open Domain Json SupplierNode
open Server (ApiError RunInferenceRequest gatewayFailed)

/-! ## The request -/

/-- The form of {lit}`crypto.randomUUID()`. -/
def isUuid (value : String) : Bool :=
  value.toList.length == 36 &&
    value.toList.all fun c => ('a' ≤ c && c ≤ 'f') || ('0' ≤ c && c ≤ '9') || c == '-'

/-- {lit}`validateInferenceInput`; the fields that are typed here need no check. -/
def validateInferenceInput (input : RunInferenceRequest) : Except ApiError Unit := do
  Server.demand (isBoundedText 120 input.model)
    { code := "INVALID_REQUEST", message := "model 长度必须在 1 到 120 字符之间。", status := 400 }
  Server.demand (0 < utf16Length input.input && utf16Length input.input ≤ 40000)
    { code := "INVALID_REQUEST", message := "input 长度必须在 1 到 40000 字符之间。", status := 400 }
  Server.demand (input.dataClass == .p0 || input.dataClass == .p1)
    { code := "INVALID_REQUEST", message := "试运营仅支持 P0/P1 数据。", status := 400 }
  Server.demand (1 ≤ input.maxOutputTokens && input.maxOutputTokens ≤ 32768)
    { code := "INVALID_REQUEST", message := "maxOutputTokens 必须是 1 到 32768 的整数。", status := 400 }

/-- One call of {lit}`callGateway`, with the instants it reads from its clock. -/
structure GatewayCall where
  hashes : Hashes
  token : String
  jobUuid : String
  providerId : String
  input : RunInferenceRequest
  nonce : String
  requestStartedAt : Nat
  timestampMs : Nat

namespace GatewayCall

def jobId (call : GatewayCall) : String :=
  "job-" ++ call.jobUuid

def requestMembers (call : GatewayCall) : List (String × JsonValue) :=
  [("protocol_version", .string SUPPLIER_GATEWAY_PROTOCOL_VERSION),
    ("request_id", .string call.jobId), ("model", .string call.input.model),
    ("input", .string call.input.input), ("data_class", .string call.input.dataClass.text),
    ("max_output_tokens", .number call.input.maxOutputTokens), ("stream", .bool false)]

def rawBody (call : GatewayCall) : String :=
  String.ofList (render (.object call.requestMembers))

/-- The call with the headers of {lit}`createSignedGatewayHeaders`. -/
def signedCall (call : GatewayCall) : SignedGatewayCall where
  authorization := some ("Bearer " ++ call.token)
  timestamp := some (toString call.timestampMs)
  nonce := some call.nonce
  jobId := some call.jobId
  signature := some (call.hashes.hmacSha256Hex call.token
    (createSupplierGatewaySignaturePayload (toString call.timestampMs) call.nonce call.jobId
      (call.hashes.sha256Hex call.rawBody)))
  rawBody := call.rawBody

end GatewayCall

/-! ## The node's answer -/

/-- The members of a node's response in the order it builds them. -/
def responseMembers (response : SupplierGatewayInferenceResponse) : List (String × JsonValue) :=
  [("output", .string response.output), ("usage", usageJson response.usage),
    ("execution_evidence", evidenceJson response.executionEvidence),
    ("execution_evidence_signature", .string response.executionEvidenceSignature)]

/-- {lit}`sendJson` of a completed inference. -/
def sendJson (response : SupplierGatewayInferenceResponse) : String :=
  String.ofList (render (.object (responseMembers response)))

/-! ## Reading the answer -/

/-- {lit}`VerifiedGatewayServiceEvidence`. -/
structure VerifiedGatewayServiceEvidence where
  verified : VerifiedSupplierExecutionEvidence
  evidenceDigest : String
deriving DecidableEq

/-- What {lit}`callGateway` returns. -/
structure GatewayAnswer where
  output : String
  usage : SupplierGatewayUsage
  evidence : VerifiedGatewayServiceEvidence
deriving DecidableEq

def evidenceFailure (message : String) : ApiError where
  code := "SERVICE_EVIDENCE_FAILED"
  message := message
  status := 502

def maximumGatewayResponseBytes : Nat :=
  2000000

def assertGatewayExactKeys (members : List (String × JsonValue)) (allowed : List String) :
    Except ApiError Unit :=
  Server.demand (members.length == allowed.length && members.all fun m => m.1 ∈ allowed)
    (evidenceFailure "供应节点执行凭证响应字段不完整或包含未约定字段。")

def requiredBoundedString (members : List (String × JsonValue)) (name : String)
    (maximum : Nat) : Except ApiError String :=
  match stringMember members name with
  | some value =>
      if utf16Length value = 0 ∨ maximum < utf16Length value then
        .error (gatewayFailed (name ++ " 长度无效。"))
      else .ok value
  | none => .error (gatewayFailed (name ++ " 长度无效。"))

def requiredEvidenceString (members : List (String × JsonValue)) (name : String)
    (maximum : Nat) : Except ApiError String :=
  match stringMember members name with
  | some value =>
      if utf16Length value = 0 ∨ maximum < utf16Length value then
        .error (evidenceFailure (name ++ " 长度无效。"))
      else .ok value
  | none => .error (evidenceFailure (name ++ " 长度无效。"))

def positiveSafeInteger (members : List (String × JsonValue)) (name label : String)
    (allowZero : Bool) : Except ApiError Int :=
  let minimum : Nat := if allowZero then 0 else 1
  match integerMember members name with
  | some value =>
      if (minimum : Int) ≤ value ∧ value ≤ MAX_SAFE_INTEGER then .ok value
      else .error (gatewayFailed (label ++ " 必须是不小于 " ++ toString minimum ++ " 的安全整数。"))
  | none => .error (gatewayFailed (label ++ " 必须是不小于 " ++ toString minimum ++ " 的安全整数。"))

/-- A member of the signed payload; {lit}`join` writes nothing for a missing one. -/
def payloadText (members : List (String × JsonValue)) (name : String) : String :=
  (stringMember members name).getD ""

def payloadNumber (value : Option JsonValue) (name : String) : String :=
  match value with
  | some (.object members) => ((integerMember members name).map toString).getD ""
  | _ => ""

/-- {lit}`createSupplierGatewayExecutionEvidencePayload` of the evidence that arrived. -/
def remoteEvidencePayload (evidence : JsonValue) : String :=
  match evidence with
  | .object members =>
      String.intercalate "\n"
        [payloadText members "evidence_version", payloadText members "request_id",
          payloadText members "provider_id", payloadText members "requested_model",
          payloadText members "served_model", payloadText members "provider_request_id",
          payloadText members "input_sha256", payloadText members "output_sha256",
          payloadNumber (members.lookup "usage") "input_tokens",
          payloadNumber (members.lookup "usage") "output_tokens",
          payloadNumber (members.lookup "usage") "total_tokens",
          payloadText members "completed_at", payloadText members "receipt_ref"]
  | _ => ""

namespace GatewayCall

/-- What the control plane bought with a call. -/
def expectation (call : GatewayCall) (output : String) (usage : SupplierGatewayUsage)
    (verifiedAt : Nat) : SupplierExecutionEvidenceExpectation where
  requestId := call.jobId
  providerId := call.providerId
  requestedModel := call.input.model
  inputSha256 := call.hashes.sha256Hex call.input.input
  outputSha256 := call.hashes.sha256Hex output
  usage := usage
  requestStartedAt := .ofInstant call.requestStartedAt
  verifiedAt := .ofInstant verifiedAt

def verifyGatewayServiceEvidence (call : GatewayCall) (dates : DateParser) (output : String)
    (usage : SupplierGatewayUsage) (evidence : JsonValue) (evidenceSignature : String)
    (verifiedAt : Nat) : Except ApiError VerifiedGatewayServiceEvidence := do
  Server.demand (isHexDigest evidenceSignature) (evidenceFailure "供应节点执行凭证签名格式无效。")
  let verified ← (verifySupplierExecutionEvidence dates (call.expectation output usage verifiedAt)
    evidence).mapError fun _ =>
      evidenceFailure "供应节点返回的 Provider、模型、内容摘要或用量与订单不一致。"
  let payload := remoteEvidencePayload evidence
  Server.demand (call.hashes.hmacSha256Hex call.token payload == evidenceSignature)
    (evidenceFailure "供应节点执行凭证签名验证失败。")
  pure
    { verified
      evidenceDigest := call.hashes.sha256Hex (payload ++ "\n" ++ evidenceSignature) }

/-- The checks on the members of a parsed answer. -/
def readMembers (call : GatewayCall) (dates : DateParser) (verifiedAt : Nat)
    (members usage : List (String × JsonValue)) : Except ApiError GatewayAnswer := do
  assertGatewayExactKeys members
    ["output", "usage", "execution_evidence", "execution_evidence_signature"]
  assertGatewayExactKeys usage usageFields
  let output ← requiredBoundedString members "output" 200000
  let inputTokens ← positiveSafeInteger usage "input_tokens" "usage.input_tokens" false
  let outputTokens ← positiveSafeInteger usage "output_tokens" "usage.output_tokens" true
  let totalTokens ← positiveSafeInteger usage "total_tokens" "usage.total_tokens" false
  Server.demand (inputTokens + outputTokens == totalTokens)
    (gatewayFailed "供应网关总用量与输入、输出用量不一致。")
  let evidenceSignature ← requiredEvidenceString members "execution_evidence_signature" 256
  let wireUsage : SupplierGatewayUsage := ⟨inputTokens, outputTokens, totalTokens⟩
  let evidence ← call.verifyGatewayServiceEvidence dates output wireUsage
    ((members.lookup "execution_evidence").getD .null) evidenceSignature verifiedAt
  pure { output, usage := wireUsage, evidence }

/-- {lit}`callGateway` from the response on. -/
def readResponse (call : GatewayCall) (dates : DateParser) (verifiedAt status : Nat)
    (raw : String) : Except ApiError GatewayAnswer := do
  Server.demand (byteLength raw.toList ≤ maximumGatewayResponseBytes)
    (gatewayFailed "供应网关响应超过大小限制。")
  Server.demand (200 ≤ status && status < 300)
    { code := "GATEWAY_FAILED"
      message := "供应网关返回 HTTP " ++ toString status ++ "。"
      status := 502
      retryable := 500 ≤ status }
  match parse raw.toList with
  | none => .error (gatewayFailed "供应网关响应不是有效 JSON。")
  | some (.object members) =>
      match members.lookup "usage" with
      | some (.object usage) => call.readMembers dates verifiedAt members usage
      | _ => .error (evidenceFailure "供应节点未返回完整的执行凭证。")
  | some _ => .error (evidenceFailure "供应节点未返回完整的执行凭证。")

end GatewayCall

end Gateway
end TokenStreaming
