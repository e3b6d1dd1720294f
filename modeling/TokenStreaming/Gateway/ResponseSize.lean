import TokenStreaming.Gateway.GatewayCall

/-!
# Gateway - The size of an answer

The control plane reads at most two million bytes of an answer.  A rendered text takes at
most six bytes for each UTF-16 unit, so an answer whose texts are within their limits always
fits.

Main results:

- Theorem {lit}`byteLength_renderString_le`: six bytes a unit and two quotes.
- Theorem {lit}`sendJson_fits`: a bounded response is not too large.
-/

namespace TokenStreaming
namespace Gateway

open Domain Json SupplierNode

/-! ## Rendered values -/

theorem byteLength_cons (c : Char) (text : List Char) :
    byteLength (c :: text) = c.utf8Size + byteLength text := by
  rw [byteLength, List.map_cons, List.sum_cons]
  rfl

theorem byteLength_le_length (text : List Char) : byteLength text ≤ 4 * text.length := by
  induction text with
  | nil => exact Nat.le_refl 0
  | cons c text ih =>
      have hsize := c.utf8Size_le_four
      rw [byteLength_cons, List.length_cons]
      omega

/-- An escaped character takes six bytes at most. -/
theorem byteLength_escapeChar_le (c : Char) : byteLength (escapeChar c) ≤ 6 := by
  have hdigit : ∀ n, n < 16 → (hexDigit n).utf8Size = 1 := by decide
  unfold escapeChar
  split
  · decide
  split
  · decide
  split
  · decide
  split
  · decide
  split
  · decide
  split
  · decide
  split
  · decide
  split
  · rename_i hcontrol
    have hhigh := hdigit (c.toNat / 16) (by omega)
    have hlow := hdigit (c.toNat % 16) (by omega)
    have hprefix : byteLength ['\\', 'u', '0', '0'] = 4 := by decide
    change byteLength (['\\', 'u', '0', '0'] ++ [_, _]) ≤ 6
    rw [byteLength_append, hprefix, byteLength_cons, byteLength_cons, hhigh, hlow]
    exact Nat.le_refl 6
  · have hsize := c.utf8Size_le_four
    rw [byteLength_cons]
    change c.utf8Size + 0 ≤ 6
    omega

/-- A rendered text takes at most six bytes a unit, and its quotes. -/
theorem byteLength_renderString_le (text : String) :
    byteLength (renderString text) ≤ 6 * utf16Length text + 2 := by
  have hchars : ∀ cs : List Char, byteLength (cs.flatMap escapeChar) ≤
      6 * (cs.map fun c => if c.val > 0xFFFF then 2 else 1).sum := by
    intro cs
    induction cs with
    | nil => exact Nat.le_refl 0
    | cons c cs ih =>
        have hescape := byteLength_escapeChar_le c
        have hunits : 1 ≤ (if c.val > 0xFFFF then 2 else 1) := by split <;> omega
        rw [List.flatMap_cons, byteLength_append, List.map_cons, List.sum_cons]
        omega
  have htext := hchars text.toList
  have hquote : byteLength ['"'] = 1 := by decide
  have hopen : ('"' : Char).utf8Size = 1 := by decide
  unfold renderString utf16Length
  rw [byteLength_cons, byteLength_append, hquote, hopen]
  omega

/-- A safe integer that is not negative has sixteen digits at most. -/
theorem byteLength_renderInt_le {n : Int} (hn : 0 ≤ n) (hsafe : n ≤ MAX_SAFE_INTEGER) :
    byteLength (renderInt n) ≤ 64 := by
  cases n with
  | negSucc n => omega
  | ofNat n =>
      have hbound : n < 10 ^ 16 := by
        have hle : n ≤ MAX_SAFE_INTEGER := Int.ofNat_le.mp hsafe
        have hmax : MAX_SAFE_INTEGER < 10 ^ 16 := by decide
        omega
      have hdigits := (Nat.length_toDigits_le_iff (by omega : 1 < 10) (by omega : 0 < 16)).mpr hbound
      have hbytes := byteLength_le_length (Nat.toDigits 10 n)
      change byteLength (Nat.toDigits 10 n) ≤ 64
      omega

/-- The bytes of the members, with a colon and a comma or brace for each. -/
theorem byteLength_renderMembers_le (members : List (String × JsonValue)) :
    byteLength (renderMembers members) ≤
      (members.map fun m => 6 * utf16Length m.1 + 4 + byteLength (render m.2)).sum + 1 := by
  have hcolon : (':' : Char).utf8Size = 1 := by decide
  have hcomma : (',' : Char).utf8Size = 1 := by decide
  have hbrace : byteLength ['}'] = 1 := by decide
  induction members with
  | nil =>
      rw [renderMembers, hbrace]
      exact Nat.le_refl 1
  | cons m members ih =>
      rcases m with ⟨key, v⟩
      have hkey := byteLength_renderString_le key
      cases members with
      | nil =>
          rw [renderMembers, byteLength_append, byteLength_cons, byteLength_append, hbrace, hcolon,
            List.map_cons, List.sum_cons]
          dsimp only
          omega
      | cons next members =>
          rw [renderMembers, byteLength_append, byteLength_cons, byteLength_append,
            byteLength_cons, hcolon, hcomma, List.map_cons, List.sum_cons]
          dsimp only
          omega

theorem byteLength_object_le (members : List (String × JsonValue)) :
    byteLength (render (.object members)) ≤
      (members.map fun m => 6 * utf16Length m.1 + 4 + byteLength (render m.2)).sum + 2 := by
  have hbrace : ('{' : Char).utf8Size = 1 := by decide
  have hmembers := byteLength_renderMembers_le members
  rw [render, byteLength_cons, hbrace]
  omega

/-! ## Responses -/

/-- The usage holds safe integers. -/
structure SafeUsage (usage : SupplierGatewayUsage) : Prop where
  input : 0 ≤ usage.inputTokens ∧ usage.inputTokens ≤ MAX_SAFE_INTEGER
  output : 0 ≤ usage.outputTokens ∧ usage.outputTokens ≤ MAX_SAFE_INTEGER
  total : 0 ≤ usage.totalTokens ∧ usage.totalTokens ≤ MAX_SAFE_INTEGER

/-- The texts of the evidence are short. -/
structure ShortEvidence (evidence : SupplierGatewayExecutionEvidence) : Prop where
  version : utf16Length evidence.evidenceVersion ≤ 300
  request : utf16Length evidence.requestId ≤ 300
  provider : utf16Length evidence.providerId ≤ 300
  requestedModel : utf16Length evidence.requestedModel ≤ 300
  servedModel : utf16Length evidence.servedModel ≤ 300
  providerRequest : utf16Length evidence.providerRequestId ≤ 300
  inputDigest : utf16Length evidence.inputSha256 ≤ 300
  outputDigest : utf16Length evidence.outputSha256 ≤ 300
  completedAt : utf16Length evidence.completedAt ≤ 300
  receipt : ∀ receipt, evidence.receiptRef = some receipt → utf16Length receipt ≤ 300
  usage : SafeUsage evidence.usage

theorem byteLength_text_le (text : String) {n : Nat} (h : utf16Length text ≤ n) :
    byteLength (render (.string text)) ≤ 6 * n + 2 := by
  have hbytes := byteLength_renderString_le text
  rw [render]
  omega

theorem byteLength_usageJson_le {usage : SupplierGatewayUsage} (h : SafeUsage usage) :
    byteLength (render (usageJson usage)) ≤ 500 := by
  have hobject := byteLength_object_le (usageMembers usage)
  have hinput := byteLength_renderInt_le h.input.1 h.input.2
  have houtput := byteLength_renderInt_le h.output.1 h.output.2
  have htotal := byteLength_renderInt_le h.total.1 h.total.2
  have hk1 : utf16Length "input_tokens" = 12 := by decide
  have hk2 : utf16Length "output_tokens" = 13 := by decide
  have hk3 : utf16Length "total_tokens" = 12 := by decide
  rw [usageMembers] at hobject
  simp only [List.map_cons, List.map_nil, List.sum_cons, List.sum_nil, hk1, hk2, hk3] at hobject
  rw [render, render, render] at hobject
  unfold usageJson
  rw [usageMembers]
  omega

theorem byteLength_evidenceJson_le {evidence : SupplierGatewayExecutionEvidence}
    (h : ShortEvidence evidence) : byteLength (render (evidenceJson evidence)) ≤ 30000 := by
  have hobject := byteLength_object_le (evidenceMembers evidence)
  have h1 := byteLength_text_le _ h.version
  have h2 := byteLength_text_le _ h.request
  have h3 := byteLength_text_le _ h.provider
  have h4 := byteLength_text_le _ h.requestedModel
  have h5 := byteLength_text_le _ h.servedModel
  have h6 := byteLength_text_le _ h.providerRequest
  have h7 := byteLength_text_le _ h.inputDigest
  have h8 := byteLength_text_le _ h.outputDigest
  have h9 := byteLength_text_le _ h.completedAt
  have h10 := byteLength_usageJson_le h.usage
  have hkeys : ∀ key ∈ executionEvidenceFields, utf16Length key ≤ 19 := by decide
  have hreceipt : ((receiptMembers evidence.receiptRef).map fun m =>
      6 * utf16Length m.1 + 4 + byteLength (render m.2)).sum ≤ 2000 := by
    cases hsome : evidence.receiptRef with
    | none => exact Nat.zero_le _
    | some receipt =>
        have hbytes := byteLength_text_le receipt (h.receipt receipt hsome)
        have hkey := hkeys "receipt_ref" (by decide)
        simp only [receiptMembers, List.map_cons, List.map_nil, List.sum_cons, List.sum_nil]
        omega
  have k1 := hkeys "evidence_version" (by decide)
  have k2 := hkeys "request_id" (by decide)
  have k3 := hkeys "provider_id" (by decide)
  have k4 := hkeys "requested_model" (by decide)
  have k5 := hkeys "served_model" (by decide)
  have k6 := hkeys "provider_request_id" (by decide)
  have k7 := hkeys "input_sha256" (by decide)
  have k8 := hkeys "output_sha256" (by decide)
  have k9 := hkeys "completed_at" (by decide)
  have k10 := hkeys "usage" (by decide)
  rw [evidenceMembers, List.map_append, List.sum_append] at hobject
  simp only [List.map_cons, List.map_nil, List.sum_cons, List.sum_nil] at hobject
  unfold evidenceJson
  rw [evidenceMembers]
  omega

/-- A response whose texts are within their limits fits into what is read of it. -/
theorem sendJson_fits {response : SupplierGatewayInferenceResponse}
    (houtput : utf16Length response.output ≤ 200000) (husage : SafeUsage response.usage)
    (hevidence : ShortEvidence response.executionEvidence)
    (hsignature : utf16Length response.executionEvidenceSignature ≤ 300) :
    byteLength (sendJson response).toList ≤ maximumGatewayResponseBytes := by
  have hobject := byteLength_object_le (responseMembers response)
  have h1 := byteLength_text_le _ houtput
  have h2 := byteLength_usageJson_le husage
  have h3 := byteLength_evidenceJson_le hevidence
  have h4 := byteLength_text_le _ hsignature
  have k1 : utf16Length "output" = 6 := by decide
  have k2 : utf16Length "usage" = 5 := by decide
  have k3 : utf16Length "execution_evidence" = 18 := by decide
  have k4 : utf16Length "execution_evidence_signature" = 28 := by decide
  rw [sendJson, String.toList_ofList]
  simp only [responseMembers, List.map_cons, List.map_nil, List.sum_cons, List.sum_nil, k1, k2, k3,
    k4] at hobject
  unfold maximumGatewayResponseBytes
  rw [responseMembers]
  omega

end Gateway
end TokenStreaming
