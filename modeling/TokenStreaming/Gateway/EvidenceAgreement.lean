import TokenStreaming.Gateway.ResponseSize

/-!
# Gateway - Node and control plane on one inference

The supplier node accepts a provider's result with its own checks, is charged for it and
sends evidence back; the control plane then checks that evidence with its own.  This module
puts the two together over every signed call, every result and every pair of clocks.

Main results:

- Theorem {lit}`request_roundTrip`: the node reads the request the control plane wrote.
- Theorem {lit}`readResponse_eq_ok`: what the control plane accepts of a node's response.
- Theorem {lit}`gateway_accepts_iff`: a result the node accepts passes the control plane
  exactly when its provider request id is not blank and its receipt, if any, is neither
  blank nor longer than 256 units.

Current gaps: a node that answers from its cache, and the transport.
-/

namespace TokenStreaming
namespace Gateway

open Domain Json SupplierNode
open Server (ApiError RunInferenceRequest gatewayFailed)

/-! ## The request -/

theorem printable_request (call : GatewayCall) : Printable (.object call.requestMembers) := by
  simp [GatewayCall.requestMembers, Printable, PrintableMembers]

/-- Every text of the request is found under its name. -/
theorem stringMember_request (call : GatewayCall) :
    stringMember call.requestMembers "request_id" = some call.jobId ∧
      stringMember call.requestMembers "model" = some call.input.model ∧
      stringMember call.requestMembers "input" = some call.input.input := by
  simp [stringMember, GatewayCall.requestMembers, List.lookup_cons]

/-- The node reads the request that the control plane wrote. -/
theorem request_roundTrip {call : GatewayCall} {request : SupplierGatewayInferenceRequest}
    (h : parseInferenceRequest call.rawBody = .ok request) :
    request.requestId = call.jobId ∧ request.model = call.input.model ∧
      request.input = call.input.input := by
  have hparse : parse call.rawBody.toList = some (.object call.requestMembers) := by
    rw [GatewayCall.rawBody, String.toList_ofList]
    exact parse_render _ (printable_request call)
  rcases stringMember_request call with ⟨hid, hmodel, hinput⟩
  simp only [parseInferenceRequest, hparse, Except.bind_eq_ok, exists_unit, Except.pure_eq_ok] at h
  rcases h with ⟨-, -, requestId, hrequestId, model, hrequestModel, input, hrequestInput, _, -, _, -,
    -, rfl⟩
  refine ⟨?_, ?_, ?_⟩
  · rw [hid] at hrequestId
    unfold requiredPattern at hrequestId
    simp only at hrequestId
    split at hrequestId
    · exact (Except.ok.inj hrequestId).symm
    · cases hrequestId
  · unfold requestModel at hrequestModel
    rw [hmodel] at hrequestModel
    simp only at hrequestModel
    split at hrequestModel
    · cases hrequestModel
    · exact (Except.ok.inj hrequestModel).symm
  · unfold requestInput at hrequestInput
    rw [hinput] at hrequestInput
    simp only at hrequestInput
    split at hrequestInput
    · cases hrequestInput
    · exact (Except.ok.inj hrequestInput).symm

/-! ## Admission -/

/-- The node has verified a call, recorded its nonce and admitted its body at an instant of
its own clock. -/
def Admitted (config : SupplierNodeConfig) (call : SignedGatewayCall) (receivedAt : Nat)
    (request : SupplierGatewayInferenceRequest) : Prop :=
  ∃ checked g disk, checkSignedGatewayCall config.journal call = .ok checked ∧
    (ReplayGuard.verifyAndRecord config.journal g checked.nonce checked.timestampMs receivedAt
      disk).result = .ok () ∧
    admitRequest config call.rawBody checked = .ok request

theorem verifyAndRecord_ok_window {options : JournalOptions} {g : ReplayGuard} {nonce : String}
    {timestampMs nowMs : Nat} {disk : ClaimDisk}
    (h : (g.verifyAndRecord options nonce timestampMs nowMs disk).result = .ok ()) :
    nowMs ≤ timestampMs + replayWindowMs ∧ timestampMs ≤ nowMs + replayWindowMs := by
  unfold ReplayGuard.verifyAndRecord at h
  simp only at h
  split at h
  · cases h
  · rename_i hwindow
    omega

/-- The timestamp that is checked is the one that was signed. -/
theorem timestampMs_signed {options : JournalOptions} {call : GatewayCall} {checked : CheckedCall}
    (h : checkSignedGatewayCall options call.signedCall = .ok checked) :
    checked.timestampMs = call.timestampMs := by
  simp only [checkSignedGatewayCall, Except.bind_eq_ok, Except.pure_eq_ok] at h
  rcases h with ⟨bearer, -, -, -, timestamp, htimestamp, nonce, -, jobId, -, signature, -, -, -, -, -,
    rfl⟩
  have htext : toString call.timestampMs = timestamp := by
    simp only [GatewayCall.signedCall, requiredPattern] at htimestamp
    split at htimestamp
    · exact Except.ok.inj htimestamp
    · cases htimestamp
  subst htext
  change Nat.ofDigitChars 10 (toString call.timestampMs).toList 0 = call.timestampMs
  rw [Nat.toString_eq_ofList_toDigits, String.toList_ofList]
  exact Nat.ofDigitChars_ten_toDigits

theorem Admitted.request {config : SupplierNodeConfig} {call : GatewayCall} {receivedAt : Nat}
    {request : SupplierGatewayInferenceRequest}
    (h : Admitted config call.signedCall receivedAt request) :
    request.requestId = call.jobId ∧ request.model = call.input.model ∧
      request.input = call.input.input := by
  rcases h with ⟨checked, g, disk, -, -, hadmit⟩
  simp only [admitRequest, Except.bind_eq_ok, exists_unit, Except.pure_eq_ok] at hadmit
  rcases hadmit with ⟨parsed, hparsed, -, -, rfl⟩
  exact request_roundTrip hparsed

theorem Admitted.window {config : SupplierNodeConfig} {call : GatewayCall} {receivedAt : Nat}
    {request : SupplierGatewayInferenceRequest}
    (h : Admitted config call.signedCall receivedAt request) :
    receivedAt ≤ call.timestampMs + replayWindowMs ∧
      call.timestampMs ≤ receivedAt + replayWindowMs := by
  rcases h with ⟨checked, g, disk, hchecked, hrecorded, -⟩
  rw [← timestampMs_signed hchecked]
  exact verifyAndRecord_ok_window hrecorded

/-- A call that starts an execution was admitted. -/
theorem handleInference_admitted {config : SupplierNodeConfig} {w : RuntimeWorld}
    {g : ReplayGuard} {call : SignedGatewayCall} {nonceDisk requestDisk : ClaimDisk}
    {acquireMs promise : Nat}
    (h : (w.handleInference config g call nonceDisk requestDisk acquireMs).2 = .started promise) :
    ∃ request, Admitted config call w.journal.clock request := by
  unfold RuntimeWorld.handleInference at h
  split at h
  · cases h
  · split at h
    · cases h
    · rename_i journal checked hverify
      split at h
      · cases h
      · rename_i request hadmit
        refine ⟨request, checked, g, nonceDisk, ?_, ?_, hadmit⟩
        · unfold JournalWorld.verify at hverify
          split at hverify
          · cases hverify
          · rename_i checked' hchecked
            rw [hchecked]
            simp only at hverify
            split at hverify
            · cases hverify
              rfl
            · cases hverify
        · unfold JournalWorld.verify at hverify
          split at hverify
          · cases hverify
          · simp only at hverify
            split at hverify
            · rename_i hresult
              cases hverify
              exact hresult
            · cases hverify

/-! ## The response -/

theorem printable_response (response : SupplierGatewayInferenceResponse) :
    Printable (.object (responseMembers response)) := by
  cases hreceipt : response.executionEvidence.receiptRef <;>
    simp [responseMembers, usageJson, usageMembers, evidenceJson, evidenceMembers, receiptMembers, hreceipt,
      Printable, PrintableMembers]

/-- The control plane signs over what the node signed. -/
theorem remoteEvidencePayload_evidenceJson (evidence : SupplierGatewayExecutionEvidence) :
    remoteEvidencePayload (evidenceJson evidence) =
      createSupplierGatewayExecutionEvidencePayload evidence := by
  rcases stringMember_evidence evidence with
    ⟨hversion, hrequest, hprovider, hrequested, hserved, hid, hinput, houtput, hcompleted, husage⟩
  have hreceipt : payloadText (evidenceMembers evidence) "receipt_ref" =
      evidence.receiptRef.getD "" := by
    cases hsome : evidence.receiptRef <;>
      simp [payloadText, stringMember, evidenceMembers, receiptMembers, hsome, List.lookup_cons]
  unfold remoteEvidencePayload evidenceJson
  simp only [hreceipt, husage]
  simp only [payloadText, hversion, hrequest, hprovider, hrequested, hserved, hid, hinput, houtput,
    hcompleted, Option.getD_some]
  simp [payloadNumber, usageJson, usageMembers, integerMember, List.lookup_cons,
    createSupplierGatewayExecutionEvidencePayload]

theorem requiredBoundedString_eq_ok {members : List (String × JsonValue)} {name text value : String}
    {maximum : Nat} (h : stringMember members name = some text) :
    requiredBoundedString members name maximum = .ok value ↔
      (1 ≤ utf16Length text ∧ utf16Length text ≤ maximum) ∧ text = value := by
  unfold requiredBoundedString
  rw [h]
  simp only
  split <;> rename_i hbound
  · constructor
    · intro herror
      cases herror
    · intro hok
      omega
  · simp only [Except.ok.injEq, iff_and_self]
    intro _
    omega

theorem requiredEvidenceString_eq_ok {members : List (String × JsonValue)}
    {name text value : String} {maximum : Nat} (h : stringMember members name = some text) :
    requiredEvidenceString members name maximum = .ok value ↔
      (1 ≤ utf16Length text ∧ utf16Length text ≤ maximum) ∧ text = value := by
  unfold requiredEvidenceString
  rw [h]
  simp only
  split <;> rename_i hbound
  · constructor
    · intro herror
      cases herror
    · intro hok
      omega
  · simp only [Except.ok.injEq, iff_and_self]
    intro _
    omega

theorem positiveSafeInteger_eq_ok {members : List (String × JsonValue)} {name label : String}
    {allowZero : Bool} {n value : Int} (h : integerMember members name = some n) :
    positiveSafeInteger members name label allowZero = .ok value ↔
      ((if allowZero then 0 else 1) ≤ n ∧ n ≤ MAX_SAFE_INTEGER) ∧ n = value := by
  unfold positiveSafeInteger
  rw [h]
  cases allowZero <;> simp only [Bool.false_eq_true, if_false, if_true] <;> split <;> simp_all

/-- Every count of a usage is found under its name. -/
theorem integerMember_usage (usage : SupplierGatewayUsage) :
    integerMember (usageMembers usage) "input_tokens" = some usage.inputTokens ∧
      integerMember (usageMembers usage) "output_tokens" = some usage.outputTokens ∧
      integerMember (usageMembers usage) "total_tokens" = some usage.totalTokens := by
  simp [integerMember, usageMembers, List.lookup_cons]

/-- What the control plane demands of a response and its evidence. -/
structure ResponseChecks (call : GatewayCall) (dates : DateParser) (verifiedAt : Nat)
    (response : SupplierGatewayInferenceResponse) : Prop where
  output : 1 ≤ utf16Length response.output ∧ utf16Length response.output ≤ 200000
  usage : isUsage response.usage = true ∧ 1 ≤ response.usage.totalTokens
  signatureLength : 1 ≤ utf16Length response.executionEvidenceSignature ∧
    utf16Length response.executionEvidenceSignature ≤ 256
  signatureForm : isHexDigest response.executionEvidenceSignature = true
  evidence : ∃ verified, verifySupplierExecutionEvidence dates
    (call.expectation response.output response.usage verifiedAt)
    (evidenceJson response.executionEvidence) = .ok verified
  signature : call.hashes.hmacSha256Hex call.token
    (createSupplierGatewayExecutionEvidencePayload response.executionEvidence) =
      response.executionEvidenceSignature

theorem mapError_eq_ok {α ε ε' : Type} {x : Except ε α} {f : ε → ε'} {a : α} :
    x.mapError f = .ok a ↔ x = .ok a := by
  cases x <;> simp [Except.mapError]

/-- The checks on the members are these checks on the response. -/
theorem readMembers_eq_ok {call : GatewayCall} {dates : DateParser} {verifiedAt : Nat}
    {response : SupplierGatewayInferenceResponse} :
    (∃ answer, call.readMembers dates verifiedAt (responseMembers response)
      (usageMembers response.usage) = .ok answer) ↔
        ResponseChecks call dates verifiedAt response := by
  have hmembers : ((responseMembers response).length ==
      ["output", "usage", "execution_evidence", "execution_evidence_signature"].length &&
        (responseMembers response).all fun m => m.1 ∈
          ["output", "usage", "execution_evidence", "execution_evidence_signature"]) = true := by
    simp [responseMembers]
  have hfields : ((usageMembers response.usage).length == usageFields.length &&
      (usageMembers response.usage).all fun m => m.1 ∈ usageFields) = true := by
    simp [usageMembers, usageFields]
  have houtput : stringMember (responseMembers response) "output" = some response.output := by
    simp [stringMember, responseMembers]
  have hsignature : stringMember (responseMembers response) "execution_evidence_signature" =
      some response.executionEvidenceSignature := by
    simp [stringMember, responseMembers, List.lookup_cons]
  have hevidence : (responseMembers response).lookup "execution_evidence" =
      some (evidenceJson response.executionEvidence) := by
    simp [responseMembers, List.lookup_cons]
  rcases integerMember_usage response.usage with ⟨hinputTokens, houtputTokens, htotalTokens⟩
  simp only [GatewayCall.readMembers, GatewayCall.verifyGatewayServiceEvidence,
    assertGatewayExactKeys, Except.bind_eq_ok, exists_unit, Server.demand_eq_ok, hmembers, hfields,
    true_and, requiredBoundedString_eq_ok houtput, requiredEvidenceString_eq_ok hsignature,
    positiveSafeInteger_eq_ok hinputTokens, positiveSafeInteger_eq_ok houtputTokens,
    positiveSafeInteger_eq_ok htotalTokens, hevidence, Option.getD_some, mapError_eq_ok,
    remoteEvidencePayload_evidenceJson, Except.pure_eq_ok, beq_iff_eq, Bool.false_eq_true, if_false,
    if_true]
  constructor
  · rintro ⟨answer, _, ⟨hout, rfl⟩, _, ⟨⟨hin, hinMax⟩, rfl⟩, _, ⟨⟨hused, husedMax⟩, rfl⟩, _,
      ⟨⟨htotal, htotalMax⟩, rfl⟩, hsum, _, ⟨hlength, rfl⟩, _,
      ⟨hform, verified, hverified, hsigned, -⟩, -⟩
    have husage : isUsage response.usage = true := by
      simp [isUsage, hin, hinMax, hused, husedMax, htotalMax, hsum]
    exact ⟨hout, ⟨husage, htotal⟩, hlength, hform, ⟨verified, hverified⟩, hsigned⟩
  · intro h
    rcases h.evidence with ⟨verified, hverified⟩
    have husage := h.usage.1
    simp only [isUsage, Bool.and_eq_true, decide_eq_true_eq, beq_iff_eq] at husage
    rcases husage with ⟨⟨⟨⟨⟨hin, hinMax⟩, hused⟩, husedMax⟩, htotalMax⟩, hsum⟩
    exact ⟨_, _, ⟨h.output, rfl⟩, _, ⟨⟨hin, hinMax⟩, rfl⟩, _, ⟨⟨hused, husedMax⟩, rfl⟩, _,
      ⟨⟨h.usage.2, htotalMax⟩, rfl⟩, hsum.symm, _, ⟨h.signatureLength, rfl⟩, _,
      ⟨h.signatureForm, verified, hverified, h.signature, rfl⟩, rfl⟩

/-- The control plane accepts a response exactly when it fits and passes the checks. -/
theorem readResponse_eq_ok {call : GatewayCall} {dates : DateParser} {verifiedAt : Nat}
    {response : SupplierGatewayInferenceResponse} :
    (∃ answer, call.readResponse dates verifiedAt 200 (sendJson response) = .ok answer) ↔
      byteLength (sendJson response).toList ≤ maximumGatewayResponseBytes ∧
        ResponseChecks call dates verifiedAt response := by
  have hparse : parse (sendJson response).toList = some (.object (responseMembers response)) := by
    rw [sendJson, String.toList_ofList]
    exact parse_render _ (printable_response response)
  have husage : (responseMembers response).lookup "usage" =
      some (.object (usageMembers response.usage)) := by
    simp [responseMembers, List.lookup_cons, usageJson]
  have hstatus : (decide (200 ≤ 200) && decide (200 < 300)) = true := rfl
  rw [← readMembers_eq_ok]
  simp only [GatewayCall.readResponse, hparse, husage, Except.bind_eq_ok, exists_unit,
    Server.demand_eq_ok, hstatus, true_and, decide_eq_true_eq, exists_and_left]

/-! ## One exchange -/

/-- One inference between the control plane and an honest node.  The two share the token,
the provider id and the digests of their platforms; the node reads its own clock, which may
be off but goes forward and not faster than the control plane's. -/
structure GatewayExchange where
  config : SupplierNodeConfig
  call : GatewayCall
  request : SupplierGatewayInferenceRequest
  result : SupplierProviderResult
  /-- The node's clock when it takes the call, and when the provider has answered. -/
  receivedAt : Nat
  completedAt : Nat
  /-- The control plane's clock when it checks the evidence. -/
  verifiedAt : Nat
  sameHashes : call.hashes = config.journal.hashes
  sameToken : call.token = config.journal.gatewayToken
  sameProvider : call.providerId = config.providerId
  providerId : matchesIdentifierPattern call.providerId = true
  jobUuid : isUuid call.jobUuid = true
  input : validateInferenceInput call.input = .ok ()
  admitted : Admitted config call.signedCall receivedAt request
  accepted : validateProviderResult result request.model request.maxOutputTokens = .ok ()
  started_le_signed : call.requestStartedAt ≤ call.timestampMs
  received_le_completed : receivedAt ≤ completedAt
  samePace : completedAt + call.timestampMs ≤ verifiedAt + receivedAt
  fourDigitYear : IsoInstant.FourDigitYear completedAt

/-- The texts of a result that become evidence: the control plane wants neither blank, and
limits the receipt. -/
structure CarriesEvidence (result : SupplierProviderResult) : Prop where
  providerRequestId : isBlank result.providerRequestId = false
  receipt : ∀ receipt, result.receiptRef = some receipt → receipt ≠ "" →
    isBlank receipt = false ∧ utf16Length receipt ≤ 256

/-! ## Texts of the exchange -/

theorem utf16Length_le (text : String) : utf16Length text ≤ 2 * text.toList.length := by
  unfold utf16Length
  generalize text.toList = cs
  induction cs with
  | nil => exact Nat.le_refl 0
  | cons c cs ih =>
      have hunits : (if c.val > 0xFFFF then 2 else 1) ≤ 2 := by split <;> omega
      rw [List.map_cons, List.sum_cons, List.length_cons]
      omega

theorem utf16Length_digest_le {digest : String} (h : isHexDigest digest = true) :
    1 ≤ utf16Length digest ∧ utf16Length digest ≤ 128 := by
  simp only [isHexDigest, Bool.and_eq_true, beq_iff_eq] at h
  have hlength : digest.toList.length = 64 := by
    rw [String.length_toList]
    exact h.1
  have hle := utf16Length_le digest
  refine ⟨?_, by omega⟩
  unfold utf16Length
  cases hchars : digest.toList with
  | nil =>
      rw [hchars] at hlength
      cases hlength
  | cons c cs =>
      have hunits : 1 ≤ (if c.val > 0xFFFF then 2 else 1) := by split <;> omega
      rw [List.map_cons, List.sum_cons]
      omega

theorem utf16Length_identifier_le {value : String} (h : matchesIdentifierPattern value = true) :
    utf16Length value ≤ 256 := by
  have hle := utf16Length_le value
  unfold matchesIdentifierPattern at h
  split at h
  · cases h
  · rename_i first rest hchars
    simp only [Bool.and_eq_true, decide_eq_true_eq] at h
    rw [hchars, List.length_cons] at hle
    have hrest := h.1.2
    omega

theorem isBlank_eq_false_length {value : String} (h : isBlank value = false) :
    1 ≤ utf16Length value := by
  unfold utf16Length
  cases hchars : value.toList with
  | nil =>
      rw [isBlank, hchars] at h
      cases h
  | cons c cs =>
      have hunits : 1 ≤ (if c.val > 0xFFFF then 2 else 1) := by split <;> omega
      rw [List.map_cons, List.sum_cons]
      omega

theorem isBoundedText_eq_true {maximumLength : Nat} {value : String} :
    isBoundedText maximumLength value = true ↔
      isBlank value = false ∧ utf16Length value ≤ maximumLength := by
  simp only [isBoundedText, Bool.and_eq_true, Bool.not_eq_true', decide_eq_true_eq]

/-- A job id is a stable identifier. -/
theorem matchesIdentifierPattern_jobId {uuid : String} (h : isUuid uuid = true) :
    matchesIdentifierPattern ("job-" ++ uuid) = true := by
  simp only [isUuid, Bool.and_eq_true, beq_iff_eq, List.all_eq_true] at h
  have hchars : ("job-" ++ uuid).toList = 'j' :: (['o', 'b', '-'] ++ uuid.toList) := by
    rw [String.toList_append]
    rfl
  have halphabet : ∀ c ∈ ['o', 'b', '-'] ++ uuid.toList,
      (isAsciiAlphanumeric c || c ∈ ['.', '_', ':', '-']) = true := by
    intro c hc
    rcases List.mem_append.mp hc with hc | hc
    · simp only [List.mem_cons, List.not_mem_nil, or_false] at hc
      rcases hc with rfl | rfl | rfl
      · decide
      · decide
      · decide
    · have hform := h.2 c hc
      simp only [Bool.or_eq_true, Bool.and_eq_true, decide_eq_true_eq, beq_iff_eq] at hform
      rw [Bool.or_eq_true]
      rcases hform with (⟨hlow, hhigh⟩ | hdigit) | hdash
      · left
        have hz : c ≤ 'z' := le_trans hhigh (by decide)
        simp [isAsciiAlphanumeric, hlow, hz]
      · left
        simp [isAsciiAlphanumeric, hdigit]
      · right
        subst hdash
        decide
  unfold matchesIdentifierPattern
  rw [hchars]
  simp only [Bool.and_eq_true, decide_eq_true_eq, List.all_eq_true]
  refine ⟨⟨⟨by decide, ?_⟩, ?_⟩, halphabet⟩
  · rw [List.length_append, h.1]
    decide
  · rw [List.length_append, h.1]
    decide

namespace GatewayExchange

/-- What the node accepts of a provider's result. -/
theorem result_bounds (e : GatewayExchange) :
    (1 ≤ utf16Length e.result.output ∧ utf16Length e.result.output ≤ 200000) ∧
      utf16Length e.result.providerRequestId ≤ 256 ∧
      e.result.servedModel = e.call.input.model ∧ isUsage e.result.usage = true ∧
      1 ≤ e.result.usage.totalTokens := by
  have haccepted := e.accepted
  rw [e.admitted.request.2.1] at haccepted
  simp only [validateProviderResult, Except.bind_eq_ok, exists_unit, SupplierNode.demand_eq_ok,
    Bool.and_eq_true, decide_eq_true_eq, beq_iff_eq] at haccepted
  rcases haccepted with ⟨⟨⟨⟨⟨⟨h1, h2⟩, h3⟩, h4⟩, h5⟩, h6⟩, hmodel,
    ⟨⟨⟨⟨⟨⟨u1, u2⟩, u3⟩, u4⟩, u5⟩, u6⟩, u7⟩, u8⟩
  have husage : isUsage e.result.usage = true := by
    simp only [isUsage, Bool.and_eq_true, decide_eq_true_eq, beq_iff_eq]
    exact ⟨⟨⟨⟨⟨u1, u2⟩, u3⟩, u4⟩, u7⟩, u8⟩
  refine ⟨⟨h1, h2⟩, h4, hmodel, husage, ?_⟩
  omega

/-- The control plane's own request is well formed. -/
theorem model_bounds (e : GatewayExchange) :
    isBlank e.call.input.model = false ∧ utf16Length e.call.input.model ≤ 120 := by
  have hinput := e.input
  simp only [validateInferenceInput, Except.bind_eq_ok, exists_unit, Server.demand_eq_ok] at hinput
  exact isBoundedText_eq_true.mp hinput.1

/-- The node's evidence. -/
def evidence (e : GatewayExchange) : SupplierGatewayExecutionEvidence :=
  executionEvidence e.config e.request e.result e.completedAt

/-- The node's response. -/
def response (e : GatewayExchange) : SupplierGatewayInferenceResponse :=
  executionResponse e.config e.request e.result e.completedAt

/-- The node answers an accepted result with its response. -/
theorem completes (e : GatewayExchange) :
    completeExecution e.config e.request (.ok e.result) e.completedAt =
      ⟨200, .response e.response⟩ := by
  unfold completeExecution
  dsimp only
  rw [e.accepted]
  rfl

theorem receiptRef_eq_some (e : GatewayExchange) {receipt : String} :
    e.evidence.receiptRef = some receipt ↔ e.result.receiptRef = some receipt ∧ receipt ≠ "" := by
  simp only [evidence, executionEvidence, Option.filter_eq_some_iff, Bool.not_eq_true',
    String.isEmpty_eq_false_iff]

/-- The shape of the node's evidence fails on nothing but blank or long texts. -/
theorem evidenceShape_iff (e : GatewayExchange) :
    EvidenceShape e.evidence ↔ CarriesEvidence e.result := by
  rcases e.result_bounds with ⟨-, hid, hserved, husage, -⟩
  have hmodel := e.model_bounds
  have hrequested : isBoundedText 200 e.call.input.model = true :=
    isBoundedText_eq_true.mpr ⟨hmodel.1, by omega⟩
  have hdigest := e.config.journal.hashes.isHexDigest_sha256Hex
  constructor
  · intro h
    refine ⟨(isBoundedText_eq_true.mp h.providerRequestId).1, ?_⟩
    intro receipt hreceipt hne
    exact isBoundedText_eq_true.mp (h.receiptRef receipt (e.receiptRef_eq_some.mpr ⟨hreceipt, hne⟩))
  · intro h
    refine
      { requestId := ?_
        providerId := ?_
        requestedModel := ?_
        servedModel := ?_
        providerRequestId := isBoundedText_eq_true.mpr ⟨h.providerRequestId, hid⟩
        inputSha256 := hdigest _
        outputSha256 := hdigest _
        usage := husage
        receiptRef := ?_ }
    · change matchesIdentifierPattern e.request.requestId = true
      rw [e.admitted.request.1]
      exact matchesIdentifierPattern_jobId e.jobUuid
    · change matchesIdentifierPattern e.config.providerId = true
      rw [← e.sameProvider]
      exact e.providerId
    · change isBoundedText 200 e.request.model = true
      rw [e.admitted.request.2.1]
      exact hrequested
    · change isBoundedText 200 e.result.servedModel = true
      rw [hserved]
      exact hrequested
    · intro receipt hreceipt
      rcases e.receiptRef_eq_some.mp hreceipt with ⟨hsome, hne⟩
      exact isBoundedText_eq_true.mpr (h.receipt receipt hsome hne)

/-- The node's instants lie in the control plane's window, whatever the skew it was admitted
with. -/
theorem withinClockWindow_exchange (e : GatewayExchange) :
    withinClockWindow e.completedAt e.call.requestStartedAt e.verifiedAt = true := by
  have hwindow := e.admitted.window
  have hstarted := e.started_le_signed
  have hworked := e.received_le_completed
  have hpace := e.samePace
  have hlimit : clockWindowMs = 300000 := rfl
  unfold replayWindowMs at hwindow
  refine Bool.and_eq_true_iff.mpr ⟨decide_eq_true ?_, decide_eq_true ?_⟩
  · rw [hlimit]
    omega
  · rw [hlimit]
    omega

/-- The node's evidence is about what was bought. -/
theorem evidenceMatches (e : GatewayExchange) (dates : DateParser) :
    EvidenceMatches dates (e.call.expectation e.response.output e.response.usage e.verifiedAt)
      e.evidence := by
  rcases e.admitted.request with ⟨hid, hmodel, hinput⟩
  have hcompleted : assertTimestamp (dates.timestamp (some (IsoInstant.toISOString e.completedAt)))
      "" = .ok (e.completedAt : Int) := by
    have hends := assertTimestamp_eq_ok.mp (assertTimestamp_ofInstant e.completedAt "")
    exact assertTimestamp_eq_ok.mpr ⟨hends.1, dates.parse_toISOString _ e.fourDigitYear⟩
  exact
    { version := rfl
      request := hid
      provider := e.sameProvider.symm
      requestedModel := hmodel
      servedModel := e.result_bounds.2.2.1
      inputDigest := by
        change e.config.journal.hashes.sha256Hex e.request.input =
          e.call.hashes.sha256Hex e.call.input.input
        rw [hinput, e.sameHashes]
      outputDigest := by
        change e.config.journal.hashes.sha256Hex e.result.output =
          e.call.hashes.sha256Hex e.result.output
        rw [e.sameHashes]
      usage := rfl
      clock := ⟨e.completedAt, e.call.requestStartedAt, e.verifiedAt, "", hcompleted,
        assertTimestamp_ofInstant _ _, assertTimestamp_ofInstant _ _,
        e.withinClockWindow_exchange⟩ }

/-- What the control plane expects is itself valid. -/
theorem validateExpectation_exchange (e : GatewayExchange) :
    validateExpectation (e.call.expectation e.response.output e.response.usage e.verifiedAt) =
      .ok () := by
  have hmodel := e.model_bounds
  have hdigest := e.call.hashes.isHexDigest_sha256Hex
  simp only [validateExpectation, assertIdentifier, assertText, assertSha256, Except.bind_eq_ok,
    exists_unit, ensure_eq_ok, Bool.and_eq_true, Bool.not_eq_true', decide_eq_true_eq]
  exact ⟨matchesIdentifierPattern_jobId e.jobUuid, e.providerId,
    ⟨hmodel.1, le_trans hmodel.2 (by decide)⟩, hdigest _, hdigest _, e.result_bounds.2.2.2.1⟩

/-- Nothing else can fail: the control plane's checks come down to the evidence's texts. -/
theorem responseChecks_iff (e : GatewayExchange) (dates : DateParser) :
    ResponseChecks e.call dates e.verifiedAt e.response ↔ CarriesEvidence e.result := by
  rcases e.result_bounds with ⟨houtput, -, -, husage, htotal⟩
  have hsigned := e.config.journal.hashes.isHexDigest_hmacSha256Hex e.config.journal.gatewayToken
    (createSupplierGatewayExecutionEvidencePayload e.evidence)
  have hlength := utf16Length_digest_le hsigned
  constructor
  · intro h
    exact e.evidenceShape_iff.mp (verifySupplierExecutionEvidence_eq_ok.mp h.evidence).2.1
  · intro h
    exact
      { output := houtput
        usage := ⟨husage, htotal⟩
        signatureLength := ⟨hlength.1, le_trans hlength.2 (by decide)⟩
        signatureForm := hsigned
        evidence := verifySupplierExecutionEvidence_eq_ok.mpr
          ⟨e.validateExpectation_exchange, e.evidenceShape_iff.mpr h, e.evidenceMatches dates⟩
        signature := by
          rw [e.sameHashes, e.sameToken]
          rfl }

/-- A response that carries evidence fits into what the control plane reads. -/
theorem response_fits (e : GatewayExchange) (h : CarriesEvidence e.result) :
    byteLength (sendJson e.response).toList ≤ maximumGatewayResponseBytes := by
  rcases e.result_bounds with ⟨houtput, hid, hserved, husage, -⟩
  have hmodel := e.model_bounds.2
  have hdigest := fun value => (utf16Length_digest_le
    (e.config.journal.hashes.isHexDigest_sha256Hex value)).2
  have hsigned := (utf16Length_digest_le (e.config.journal.hashes.isHexDigest_hmacSha256Hex
    e.config.journal.gatewayToken (createSupplierGatewayExecutionEvidencePayload e.evidence))).2
  have hjob := utf16Length_identifier_le (matchesIdentifierPattern_jobId e.jobUuid)
  have hprovider := utf16Length_identifier_le e.providerId
  have hsafe : SafeUsage e.result.usage := by
    simp only [isUsage, Bool.and_eq_true, decide_eq_true_eq, beq_iff_eq] at husage
    rcases husage with ⟨⟨⟨⟨⟨u1, u2⟩, u3⟩, u4⟩, u5⟩, u6⟩
    exact ⟨⟨by omega, u2⟩, ⟨u3, u4⟩, ⟨by omega, u5⟩⟩
  refine sendJson_fits houtput.2 hsafe ?_ (le_trans hsigned (by decide))
  exact
    { version := by
        have hversion : utf16Length SUPPLIER_GATEWAY_EXECUTION_EVIDENCE_VERSION ≤ 300 := by decide
        exact hversion
      request := by
        change utf16Length e.request.requestId ≤ 300
        rw [e.admitted.request.1]
        exact le_trans hjob (by decide)
      provider := by
        change utf16Length e.config.providerId ≤ 300
        rw [← e.sameProvider]
        exact le_trans hprovider (by decide)
      requestedModel := by
        change utf16Length e.request.model ≤ 300
        rw [e.admitted.request.2.1]
        exact le_trans hmodel (by decide)
      servedModel := by
        change utf16Length e.result.servedModel ≤ 300
        rw [hserved]
        exact le_trans hmodel (by decide)
      providerRequest := le_trans hid (by decide)
      inputDigest := le_trans (hdigest _) (by decide)
      outputDigest := le_trans (hdigest _) (by decide)
      completedAt := by
        have hle := utf16Length_le (IsoInstant.toISOString e.completedAt)
        have hchars : (IsoInstant.toISOString e.completedAt).toList.length = 24 := by
          simp [IsoInstant.toISOString, IsoInstant.isoChars, IsoInstant.timeChars]
        rw [hchars] at hle
        exact le_trans hle (by decide)
      receipt := by
        intro receipt hreceipt
        rcases e.receiptRef_eq_some.mp hreceipt with ⟨hsome, hne⟩
        exact le_trans (h.receipt receipt hsome hne).2 (by decide)
      usage := hsafe }

end GatewayExchange

/-- The control plane accepts the node's response to an accepted result exactly when the
result's texts can stand in its evidence. -/
theorem gateway_accepts_iff (e : GatewayExchange) (dates : DateParser) :
    ∃ response, completeExecution e.config e.request (.ok e.result) e.completedAt =
        ⟨200, .response response⟩ ∧
      ((∃ answer, e.call.readResponse dates e.verifiedAt 200 (sendJson response) = .ok answer) ↔
        CarriesEvidence e.result) := by
  refine ⟨e.response, e.completes, ?_⟩
  rw [readResponse_eq_ok, e.responseChecks_iff dates]
  constructor
  · intro h
    exact h.2
  · intro h
    exact ⟨e.response_fits h, h⟩

/-! ## A result whose request id is blank -/

theorem isHexDigest_ite {p : Prop} [Decidable p] {first second : String}
    (hfirst : isHexDigest first = true) (hsecond : isHexDigest second = true) :
    isHexDigest (if p then first else second) = true := by
  by_cases h : p
  · rw [if_pos h]
    exact hfirst
  · rw [if_neg h]
    exact hsecond

/-- The digests of the texts of the sample exchange. -/
def sampleHashes : Hashes where
  sha256Hex value :=
    if value = "gateway-token-5b1f0c6c2d7e4a90" then
      "856b3fa57cdb7fef48f7c76f8568dffe92e93ee09b2cdf0ea3040459bfe437ac"
    else if value = "9b2f6c1e-1d4a-4c55-8a39-6f2b7d0e4c11" then
      "856328daaeac97aac1b83e4bdc0bf3dbcde6e42956b5967e0bb64b19eed7f6a7"
    else if value = "fffc9dfa014f896ac403c233807d8bcfd40cead98432e4f29d7889b97673f62b" then
      "ffe212881a797855e8f27a62b38f007be306c3319b3467d2153d05ea054aaf81"
    else if value = "hello" then
      "2cf24dba5fb0a30e26e83b2ac5b9e29e1b161e5c1fa7425e73043362938b9824"
    else if value = "Hi" then
      "3639efcd08abb273b1619e82e78c29a7df02c1051b1820e99fc395dcaa3326b8"
    else "7833f3ff2a7d2df9d92e20ff2beafc93eefd3732e657d1459d4f0362c619a137"
  hmacSha256Hex _ message :=
    if message.startsWith "gongsuanyun.execution-evidence.v1" then
      "6576054de29784d06e14cbfe9c40b151c4ae8bc8e11cf78010c1c1582cf1f630"
    else "fffc9dfa014f896ac403c233807d8bcfd40cead98432e4f29d7889b97673f62b"
  isHexDigest_sha256Hex := by
    intro value
    refine isHexDigest_ite ?_ (isHexDigest_ite ?_ (isHexDigest_ite ?_ (isHexDigest_ite ?_
      (isHexDigest_ite ?_ ?_)))) <;> exact isHexDigest_ofList (by decide +kernel)
  isHexDigest_hmacSha256Hex := by
    intro key message
    refine isHexDigest_ite ?_ ?_ <;> exact isHexDigest_ofList (by decide +kernel)

def sampleConfig : SupplierNodeConfig where
  journal :=
    { hashes := sampleHashes
      gatewayToken := "gateway-token-5b1f0c6c2d7e4a90"
      compactionIntervalMilliseconds := DEFAULT_COMPACTION_INTERVAL_MILLISECONDS
      interval_bounds := by decide }
  providerId := "provider-a"
  allowedModels := ["gpt-test"]
  allowedDataClasses := [.p0, .p1]
  limits :=
    { requestsPerMinute := 60
      tokensPerMinute := 100000
      concurrency := 4
      maxOutputTokens := 4096
      maxInputBytes := 65536 }

def sampleCall : GatewayCall where
  hashes := sampleHashes
  token := "gateway-token-5b1f0c6c2d7e4a90"
  jobUuid := "3f2504e0-4f89-41d3-9a0c-0305e82c3301"
  providerId := "provider-a"
  input :=
    { model := "gpt-test"
      input := "hello"
      dataClass := .p0
      maxOutputTokens := 16
      privacyMode := .standard }
  nonce := "9b2f6c1e-1d4a-4c55-8a39-6f2b7d0e4c11"
  requestStartedAt := 1767225599990
  timestampMs := 1767225600000

def sampleRequest : SupplierGatewayInferenceRequest where
  requestId := "job-3f2504e0-4f89-41d3-9a0c-0305e82c3301"
  model := "gpt-test"
  input := "hello"
  dataClass := .p0
  maxOutputTokens := 16

/-- A complete answer whose provider names the request with one space. -/
def blankResult : SupplierProviderResult where
  output := "Hi"
  providerRequestId := " "
  servedModel := "gpt-test"
  receiptRef := none
  usage := ⟨3, 1, 4⟩

theorem sampleRequest_admitted :
    Admitted sampleConfig sampleCall.signedCall 1767225600100 sampleRequest := by
  let guard : ReplayGuard :=
    { seen := .empty
      journal :=
        { maps := .empty
          appendedSinceCompaction := 0
          lastCompactedAt := 1767225600000
          terminalFailure := false
          file := [] } }
  let checked : CheckedCall :=
    { timestampMs := 1767225600000
      nonce := "9b2f6c1e-1d4a-4c55-8a39-6f2b7d0e4c11"
      jobId := "job-3f2504e0-4f89-41d3-9a0c-0305e82c3301"
      bodySha256 := "7833f3ff2a7d2df9d92e20ff2beafc93eefd3732e657d1459d4f0362c619a137" }
  have hbody : sampleCall.signedCall.rawBody = String.ofList _ := rfl
  refine ⟨checked, guard, .healthy, ?_, ?_, ?_⟩
  · decide +kernel
  · decide +kernel
  · rw [admitRequest, parseInferenceRequest, hbody, String.toList_ofList]
    decide +kernel

/-- The node accepts the answer within its window. -/
def blankExchange : GatewayExchange where
  config := sampleConfig
  call := sampleCall
  request := sampleRequest
  result := blankResult
  receivedAt := 1767225600100
  completedAt := 1767225601000
  verifiedAt := 1767225601200
  sameHashes := rfl
  sameToken := rfl
  sameProvider := rfl
  providerId := by decide
  jobUuid := by decide +kernel
  input := by decide +kernel
  admitted := sampleRequest_admitted
  accepted := by decide +kernel
  started_le_signed := by decide
  received_le_completed := by decide
  samePace := by decide
  fourDigitYear := IsoInstant.fourDigitYear_of_lt (by decide)

/-- The node answers with status 200, and the control plane rejects the answer. -/
theorem blank_request_id_rejected :
    completeExecution blankExchange.config blankExchange.request (.ok blankExchange.result)
        blankExchange.completedAt = ⟨200, .response blankExchange.response⟩ ∧
      ∀ dates answer, blankExchange.call.readResponse dates blankExchange.verifiedAt 200
        (sendJson blankExchange.response) ≠ .ok answer := by
  refine ⟨blankExchange.completes, ?_⟩
  intro dates answer haccepted
  have hchecks := (readResponse_eq_ok.mp ⟨answer, haccepted⟩).2
  have hcarries := (blankExchange.responseChecks_iff dates).mp hchecks
  have hblank : isBlank blankExchange.result.providerRequestId = true := by decide
  rw [hcarries.providerRequestId] at hblank
  exact Bool.noConfusion hblank

end Gateway
end TokenStreaming
