import TokenStreaming.Gateway.ArtifactEvidence
import TokenStreaming.Server.ArtifactManifest
import TokenStreaming.SupplierNode.Signature

/-!
# Gateway - Signed payloads

Signatures are made over fields that are joined with line feeds.  A signed request and a manifest
hold no field with a line feed in it, so their payloads say what was signed.  Evidence has free
texts: the model, the provider's request, the date and the receipt.  A line feed in one of them
moves the border between the fields.

Main results:

- Theorem {lit}`AcceptedEvidence.eq_iff`: which accepted evidence with one payload is the same.
- Theorem {lit}`AcceptedArtifactEvidence.eq_iff`: the same for evidence of artifacts.
- Theorem {lit}`signedPayload_eq_iff`: what a signed payload says, for all four formats.
-/

namespace TokenStreaming
namespace Gateway

open Domain JoinedFields Server SupplierNode
open ArtifactExecutor (createSupplierArtifactExecutionEvidencePayload)

/-! ## Line feeds -/

/-- How often a text breaks its line. -/
def lineFeeds (text : String) : Nat :=
  text.toList.count '\n'

theorem lineFeeds_eq_zero {text : String} (h : '\n' ∉ text.toList) : lineFeeds text = 0 :=
  List.count_eq_zero_of_not_mem h

theorem lineFeeds_hexDigest {text : String} (h : isHexDigest text = true) : lineFeeds text = 0 :=
  lineFeeds_eq_zero (notMem_hexDigest h (by decide))

theorem lineFeeds_identifier {text : String} (h : matchesIdentifierPattern text = true) :
    lineFeeds text = 0 :=
  lineFeeds_eq_zero (notMem_identifier h (by decide))

theorem lineFeeds_toString (n : Nat) : lineFeeds (toString n) = 0 :=
  lineFeeds_eq_zero (notMem_toString (by decide))

/-- Joined texts are fixed by the line feeds in each of them. -/
theorem texts_inj_of_lineFeeds {texts texts' : List String}
    (hcount : texts.map lineFeeds = texts'.map lineFeeds)
    (h : String.intercalate "\n" texts = String.intercalate "\n" texts') : texts = texts' := by
  have hlists : ['\n'].intercalate (texts.map String.toList) =
      ['\n'].intercalate (texts'.map String.toList) := by
    have hchars := congrArg String.toList h
    rw [String.toList_intercalate, String.toList_intercalate] at hchars
    exact hchars
  have hcounts : (texts.map String.toList).map (List.count '\n') =
      (texts'.map String.toList).map (List.count '\n') := by
    rw [List.map_map, List.map_map]
    exact hcount
  exact List.map_injective_iff.mpr (fun _ _ => String.toList_inj.mp)
    (intercalate_inj_of_count hcounts hlists)

/-- Texts with one join hold the same number of line feeds. -/
theorem lineFeeds_sum_eq {texts texts' : List String} (hlength : texts.length = texts'.length)
    (h : String.intercalate "\n" texts = String.intercalate "\n" texts') :
    (texts.map lineFeeds).sum = (texts'.map lineFeeds).sum := by
  cases texts with
  | nil =>
      rw [List.length_eq_zero_iff.mp hlength.symm]
  | cons text texts =>
      cases texts' with
      | nil => cases hlength
      | cons text' texts' =>
          have hchars := congrArg (fun joined => joined.toList.count '\n') h
          simp only [String.toList_intercalate, List.map_cons] at hchars
          have hsep : "\n".toList = ['\n'] := rfl
          rw [hsep, count_intercalate, count_intercalate, List.length_map, List.length_map,
            Nat.succ.inj hlength, ← List.map_cons, ← List.map_cons, List.map_map,
            List.map_map] at hchars
          exact Nat.add_right_cancel hchars

/-- Numbers of a signed usage are determined by their digits. -/
theorem int_toString_inj {m n : Int} (hm : 0 ≤ m) (hn : 0 ≤ n) (h : toString m = toString n) :
    m = n := by
  rcases Int.eq_ofNat_of_zero_le hm with ⟨a, rfl⟩
  rcases Int.eq_ofNat_of_zero_le hn with ⟨b, rfl⟩
  have hdigits : toString a = toString b := h
  rw [toString_inj hdigits]

theorem lineFeeds_int {n : Int} (h : 0 ≤ n) : lineFeeds (toString n) = 0 := by
  rcases Int.eq_ofNat_of_zero_le h with ⟨a, rfl⟩
  exact lineFeeds_toString a

/-! ## Requests -/

/-- {lit}`SupplierGatewaySignatureInput`. -/
structure SupplierGatewaySignatureInput where
  timestamp : String
  nonce : String
  jobId : String
  bodySha256 : String
deriving DecidableEq

def SupplierGatewaySignatureInput.payload (input : SupplierGatewaySignatureInput) : String :=
  SupplierNode.createSupplierGatewaySignaturePayload input.timestamp input.nonce input.jobId
    input.bodySha256

/-- What the signature of a call is checked against. -/
def signatureInput (options : JournalOptions) (call : SignedGatewayCall) :
    SupplierGatewaySignatureInput where
  timestamp := call.timestamp.getD ""
  nonce := call.nonce.getD ""
  jobId := call.jobId.getD ""
  bodySha256 := options.hashes.sha256Hex call.rawBody

/-- The input belongs to a call that some gateway accepts. -/
def AcceptedSignature (input : SupplierGatewaySignatureInput) : Prop :=
  ∃ options call checked, checkSignedGatewayCall options call = .ok checked ∧
    signatureInput options call = input

theorem requiredPattern_getD {value : Option String} {pattern : String → Bool}
    {message text : String} (h : requiredPattern value pattern message = .ok text) :
    pattern (value.getD "") = true := by
  cases value with
  | none => cases h
  | some given =>
      unfold requiredPattern at h
      dsimp only at h
      split at h
      · assumption
      · cases h

theorem notMem_timestamp {text : String} (h : isTimestamp text = true) : '\n' ∉ text.toList := by
  unfold isTimestamp at h
  rw [Bool.and_eq_true] at h
  exact notMem_of_all h.2 (by decide)

theorem notMem_nonce {text : String} (h : isNonce text = true) : '\n' ∉ text.toList := by
  unfold isNonce at h
  rw [Bool.and_eq_true] at h
  exact notMem_of_all (p := fun c => isAsciiAlphanumeric c || c == '_' || c == '-') h.2 (by decide)

theorem notMem_jobId {text : String} (h : isJobId text = true) : '\n' ∉ text.toList := by
  unfold isJobId at h
  cases hchars : text.toList with
  | nil => exact List.not_mem_nil
  | cons first rest =>
      rw [hchars] at h
      simp only [Bool.and_eq_true] at h
      exact notMem_identifierChars h.1.1.1 h.2 (by decide)

/-- No field of an accepted signature holds a line feed. -/
theorem AcceptedSignature.lineFeeds {input : SupplierGatewaySignatureInput}
    (h : AcceptedSignature input) :
    [input.timestamp, input.nonce, input.jobId, input.bodySha256].map lineFeeds =
      [0, 0, 0, 0] := by
  rcases h with ⟨options, call, checked, hchecked, rfl⟩
  simp only [checkSignedGatewayCall, Except.bind_eq_ok] at hchecked
  rcases hchecked with ⟨_, -, _, -, _, htimestamp, _, hnonce, _, hjob, -⟩
  simp only [List.map_cons, List.map_nil, signatureInput,
    lineFeeds_eq_zero (notMem_timestamp (requiredPattern_getD htimestamp)),
    lineFeeds_eq_zero (notMem_nonce (requiredPattern_getD hnonce)),
    lineFeeds_eq_zero (notMem_jobId (requiredPattern_getD hjob)),
    lineFeeds_hexDigest (options.hashes.isHexDigest_sha256Hex call.rawBody)]

/-- Accepted signatures over one payload are over the same fields. -/
theorem AcceptedSignature.eq_of_payload {input input' : SupplierGatewaySignatureInput}
    (h : AcceptedSignature input) (h' : AcceptedSignature input')
    (hpayload : input.payload = input'.payload) : input = input' := by
  have htexts := texts_inj_of_lineFeeds (h.lineFeeds.trans h'.lineFeeds.symm) hpayload
  simp only [List.cons.injEq, and_true] at htexts
  rcases htexts with ⟨htimestamp, hnonce, hjob, hbody⟩
  cases input
  cases input'
  simp only [SupplierGatewaySignatureInput.mk.injEq]
  exact ⟨htimestamp, hnonce, hjob, hbody⟩

/-! ## Evidence of inferences -/

/-- Evidence that was accepted, whatever was expected of it. -/
def AcceptedEvidence (dates : DateParser) (evidence : SupplierGatewayExecutionEvidence) : Prop :=
  ∃ expectation verified,
    verifySupplierExecutionEvidence dates expectation (evidenceJson evidence) = .ok verified

/-- The texts of an evidence whose characters are free. -/
def freeTexts (evidence : SupplierGatewayExecutionEvidence) : List String :=
  [evidence.requestedModel, evidence.providerRequestId, evidence.completedAt,
    evidence.receiptRef.getD ""]

/-- The checks that say something about the characters. -/
structure EvidenceTexts (evidence : SupplierGatewayExecutionEvidence) : Prop where
  version : evidence.evidenceVersion = SUPPLIER_GATEWAY_EXECUTION_EVIDENCE_VERSION
  servedModel : evidence.servedModel = evidence.requestedModel
  shape : EvidenceShape evidence

theorem AcceptedEvidence.texts {dates : DateParser} {evidence : SupplierGatewayExecutionEvidence}
    (h : AcceptedEvidence dates evidence) : EvidenceTexts evidence := by
  rcases h with ⟨expectation, hverified⟩
  rcases verifySupplierExecutionEvidence_eq_ok.mp hverified with ⟨-, hshape, hmatches⟩
  exact ⟨hmatches.version, hmatches.servedModel.trans hmatches.requestedModel.symm, hshape⟩

/-- The numbers of a checked usage are not negative. -/
theorem isUsage_nonneg {usage : SupplierGatewayUsage} (h : isUsage usage = true) :
    0 ≤ usage.inputTokens ∧ 0 ≤ usage.outputTokens ∧ 0 ≤ usage.totalTokens := by
  simp only [isUsage, Bool.and_eq_true, decide_eq_true_eq, beq_iff_eq] at h
  omega

/-- The fields of one usage, read back from its digits. -/
theorem usage_inj {usage usage' : SupplierGatewayUsage} (h : isUsage usage = true)
    (h' : isUsage usage' = true) (hinput : toString usage.inputTokens = toString usage'.inputTokens)
    (houtput : toString usage.outputTokens = toString usage'.outputTokens)
    (htotal : toString usage.totalTokens = toString usage'.totalTokens) : usage = usage' := by
  have hnonneg := isUsage_nonneg h
  have hnonneg' := isUsage_nonneg h'
  cases usage
  cases usage'
  simp only [SupplierGatewayUsage.mk.injEq]
  exact ⟨int_toString_inj hnonneg.1 hnonneg'.1 hinput,
    int_toString_inj hnonneg.2.1 hnonneg'.2.1 houtput,
    int_toString_inj hnonneg.2.2 hnonneg'.2.2 htotal⟩

/-- A missing receipt is written like an empty one, which is not accepted. -/
theorem receipt_inj {receipt receipt' : Option String}
    (h : ∀ text, receipt = some text → isBoundedText 256 text = true)
    (hother : ∀ text, receipt' = some text → isBoundedText 256 text = true)
    (hsame : receipt.getD "" = receipt'.getD "") : receipt = receipt' := by
  have hblank : isBoundedText 256 "" = false := by decide
  cases receipt with
  | none =>
      cases receipt' with
      | none => rfl
      | some text =>
          have hempty : "" = text := hsame
          rw [← hempty] at hother
          exact absurd (hother "" rfl) (by rw [hblank]; exact Bool.false_ne_true)
  | some text =>
      cases receipt' with
      | none =>
          have hempty : text = "" := hsame
          rw [hempty] at h
          exact absurd (h "" rfl) (by rw [hblank]; exact Bool.false_ne_true)
      | some text' => exact congrArg some hsame

/-- The fields of the payload. -/
def payloadTexts (evidence : SupplierGatewayExecutionEvidence) : List String :=
  [evidence.evidenceVersion, evidence.requestId, evidence.providerId, evidence.requestedModel,
    evidence.servedModel, evidence.providerRequestId, evidence.inputSha256, evidence.outputSha256,
    toString evidence.usage.inputTokens, toString evidence.usage.outputTokens,
    toString evidence.usage.totalTokens, evidence.completedAt, evidence.receiptRef.getD ""]

/-- The line feeds of the payload's fields. -/
theorem AcceptedEvidence.lineFeeds {dates : DateParser}
    {evidence : SupplierGatewayExecutionEvidence} (h : AcceptedEvidence dates evidence) :
    (payloadTexts evidence).map lineFeeds =
      [0, 0, 0, lineFeeds evidence.requestedModel, lineFeeds evidence.requestedModel,
        lineFeeds evidence.providerRequestId, 0, 0, 0, 0, 0, lineFeeds evidence.completedAt,
        lineFeeds (evidence.receiptRef.getD "")] := by
  have htexts := h.texts
  have husage := isUsage_nonneg htexts.shape.usage
  have hversion : Gateway.lineFeeds evidence.evidenceVersion = 0 := by
    rw [htexts.version]
    decide +kernel
  simp only [payloadTexts, List.map_cons, List.map_nil, hversion, htexts.servedModel,
    lineFeeds_identifier htexts.shape.requestId, lineFeeds_identifier htexts.shape.providerId,
    lineFeeds_hexDigest htexts.shape.inputSha256, lineFeeds_hexDigest htexts.shape.outputSha256,
    lineFeeds_int husage.1, lineFeeds_int husage.2.1, lineFeeds_int husage.2.2]

/-- Accepted evidence with the same fields in its payload is the same. -/
theorem EvidenceTexts.inj {evidence evidence' : SupplierGatewayExecutionEvidence}
    (h : EvidenceTexts evidence) (h' : EvidenceTexts evidence')
    (hsame : payloadTexts evidence = payloadTexts evidence') : evidence = evidence' := by
  simp only [payloadTexts, List.cons.injEq, and_true] at hsame
  rcases hsame with ⟨hversion, hrequest, hprovider, hrequested, hserved, hid, hin, hout, hinput,
    houtput, htotal, hdate, href⟩
  have hreceipts := receipt_inj h.shape.receiptRef h'.shape.receiptRef href
  have husages := usage_inj h.shape.usage h'.shape.usage hinput houtput htotal
  cases evidence
  cases evidence'
  simp only [SupplierGatewayExecutionEvidence.mk.injEq]
  exact ⟨hversion, hrequest, hprovider, hrequested, hserved, hid, hin, hout, husages, hdate,
    hreceipts⟩

/-- Accepted evidence with one payload is the same exactly when the line feeds are in the same
texts. -/
theorem AcceptedEvidence.eq_iff {dates dates' : DateParser}
    {evidence evidence' : SupplierGatewayExecutionEvidence} (h : AcceptedEvidence dates evidence)
    (h' : AcceptedEvidence dates' evidence')
    (hpayload : createSupplierGatewayExecutionEvidencePayload evidence =
      createSupplierGatewayExecutionEvidencePayload evidence') :
    evidence = evidence' ↔
      (freeTexts evidence).map Gateway.lineFeeds = (freeTexts evidence').map Gateway.lineFeeds := by
  constructor
  · intro hsame
    rw [hsame]
  · intro hfeeds
    simp only [freeTexts, List.map_cons, List.map_nil, List.cons.injEq, and_true] at hfeeds
    rcases hfeeds with ⟨hmodel, hprovider, hcompleted, hreceipt⟩
    have hcounts : (payloadTexts evidence).map Gateway.lineFeeds =
        (payloadTexts evidence').map Gateway.lineFeeds := by
      rw [h.lineFeeds, h'.lineFeeds, hmodel, hprovider, hcompleted, hreceipt]
    exact h.texts.inj h'.texts (texts_inj_of_lineFeeds hcounts hpayload)

/-- Evidence without line feeds in its free texts shares its payload with no other. -/
theorem AcceptedEvidence.eq_of_noLineFeeds {dates dates' : DateParser}
    {evidence evidence' : SupplierGatewayExecutionEvidence} (h : AcceptedEvidence dates evidence)
    (h' : AcceptedEvidence dates' evidence')
    (hpayload : createSupplierGatewayExecutionEvidencePayload evidence =
      createSupplierGatewayExecutionEvidencePayload evidence')
    (hfree : ∀ text ∈ freeTexts evidence, Gateway.lineFeeds text = 0) : evidence = evidence' := by
  have htotal : ((payloadTexts evidence).map Gateway.lineFeeds).sum =
      ((payloadTexts evidence').map Gateway.lineFeeds).sum := lineFeeds_sum_eq rfl hpayload
  rw [h.lineFeeds, h'.lineFeeds] at htotal
  simp only [freeTexts, List.forall_mem_cons] at hfree
  rcases hfree with ⟨hmodel, hprovider, hcompleted, hreceipt, -⟩
  simp only [List.sum_cons, List.sum_nil, hmodel, hprovider, hcompleted, hreceipt] at htotal
  refine (h.eq_iff h' hpayload).mpr ?_
  simp only [freeTexts, List.map_cons, List.map_nil, List.cons.injEq, and_true]
  omega

/-! ## Evidence of artifacts -/

/-- Evidence of an artifact that was accepted, whatever was expected of it. -/
def AcceptedArtifactEvidence (dates : DateParser)
    (evidence : SupplierNode.SupplierArtifactExecutionEvidence) : Prop :=
  ∃ expectation verified, verifySupplierArtifactEvidence dates expectation evidence = .ok verified

/-- The texts of an artifact's evidence whose characters are free. -/
def freeArtifactTexts (evidence : SupplierNode.SupplierArtifactExecutionEvidence) : List String :=
  [evidence.requestedModel, evidence.completedAt]

def payloadArtifactTexts (evidence : SupplierNode.SupplierArtifactExecutionEvidence) :
    List String :=
  [evidence.evidenceVersion, evidence.taskId, evidence.providerId, evidence.requestedModel,
    evidence.servedModel, evidence.artifactId, evidence.artifactManifestSha256,
    evidence.artifactContentSha256, evidence.outputSha256, evidence.providerRequestIdsSha256,
    toString evidence.segmentsCompleted, toString evidence.usage.inputTokens,
    toString evidence.usage.outputTokens, toString evidence.usage.totalTokens,
    evidence.completedAt]

/-- The line feeds of the payload's fields, and the usage that is written. -/
theorem AcceptedArtifactEvidence.lineFeeds {dates : DateParser}
    {evidence : SupplierNode.SupplierArtifactExecutionEvidence}
    (h : AcceptedArtifactEvidence dates evidence) :
    (payloadArtifactTexts evidence).map lineFeeds =
      [0, 0, 0, lineFeeds evidence.requestedModel, lineFeeds evidence.requestedModel, 0, 0, 0, 0,
        0, 0, 0, 0, 0, lineFeeds evidence.completedAt] ∧ isUsage evidence.usage = true := by
  rcases h with ⟨expectation, verified, hverified⟩
  rcases verifySupplierArtifactEvidence_eq_ok hverified with ⟨hshape, hmet⟩
  simp only [isArtifactEvidence, Bool.and_eq_true] at hshape
  rcases hshape with ⟨⟨⟨⟨⟨⟨⟨⟨⟨⟨⟨htask, hprovider⟩, hartifact⟩, -⟩, -⟩, hmanifest⟩, hcontent⟩,
    houtput⟩, hids⟩, -⟩, -⟩, husage⟩
  have hnonneg := isUsage_nonneg husage
  simp only [SupplierArtifactEvidenceExpectation.isMetBy, Bool.and_eq_true, beq_iff_eq] at hmet
  rcases hmet with ⟨⟨⟨⟨⟨⟨⟨⟨hsigned, -⟩, -⟩, hrequested⟩, hmodel⟩, -⟩, -⟩, -⟩, -⟩
  have hserved : evidence.servedModel = evidence.requestedModel := hmodel.trans hrequested.symm
  have hversion : Gateway.lineFeeds evidence.evidenceVersion = 0 := by
    rw [hsigned]
    decide +kernel
  refine ⟨?_, husage⟩
  simp only [payloadArtifactTexts, List.map_cons, List.map_nil, hversion, hserved,
    lineFeeds_identifier htask, lineFeeds_identifier hprovider, lineFeeds_identifier hartifact,
    lineFeeds_hexDigest hmanifest, lineFeeds_hexDigest hcontent, lineFeeds_hexDigest houtput,
    lineFeeds_hexDigest hids, lineFeeds_toString, lineFeeds_int hnonneg.1,
    lineFeeds_int hnonneg.2.1, lineFeeds_int hnonneg.2.2]

/-- Accepted evidence of artifacts with one payload is the same exactly when the line feeds are in
the same texts. -/
theorem AcceptedArtifactEvidence.eq_iff {dates dates' : DateParser}
    {evidence evidence' : SupplierNode.SupplierArtifactExecutionEvidence}
    (h : AcceptedArtifactEvidence dates evidence) (h' : AcceptedArtifactEvidence dates' evidence')
    (hpayload : createSupplierArtifactExecutionEvidencePayload evidence =
      createSupplierArtifactExecutionEvidencePayload evidence') :
    evidence = evidence' ↔ (freeArtifactTexts evidence).map Gateway.lineFeeds =
      (freeArtifactTexts evidence').map Gateway.lineFeeds := by
  constructor
  · intro hsame
    rw [hsame]
  · intro hfeeds
    simp only [freeArtifactTexts, List.map_cons, List.map_nil, List.cons.injEq,
      and_true] at hfeeds
    have hcounts : (payloadArtifactTexts evidence).map Gateway.lineFeeds =
        (payloadArtifactTexts evidence').map Gateway.lineFeeds := by
      rw [h.lineFeeds.1, h'.lineFeeds.1, hfeeds.1, hfeeds.2]
    have hsame : payloadArtifactTexts evidence = payloadArtifactTexts evidence' :=
      texts_inj_of_lineFeeds hcounts hpayload
    simp only [payloadArtifactTexts, List.cons.injEq, and_true] at hsame
    rcases hsame with ⟨hversion, htask, hprovider, hrequested, hserved, hartifact, hmanifest,
      hcontent, hout, hids, hsegments, hinput, houtput, htotal, hdate⟩
    have husages := usage_inj h.lineFeeds.2 h'.lineFeeds.2 hinput houtput htotal
    have hnumbers := toString_inj hsegments
    cases evidence
    cases evidence'
    simp only [SupplierNode.SupplierArtifactExecutionEvidence.mk.injEq]
    exact ⟨hversion, htask, hprovider, hrequested, hserved, hartifact, hmanifest, hcontent, hout,
      hids, hnumbers, husages, hdate⟩

/-! ## All four payloads -/

/-- What the payloads of accepted inputs say.  Signed requests and manifests are determined;
evidence is determined up to the line feeds of its free texts. -/
theorem signedPayload_eq_iff (dates : DateParser) (normalize : String → String) :
    (∀ input input', AcceptedSignature input → AcceptedSignature input' →
      input.payload = input'.payload → input = input') ∧
    (∀ input input', AcceptedManifest normalize input → AcceptedManifest normalize input' →
      createArtifactManifestPayload input = createArtifactManifestPayload input' →
      input = input') ∧
    (∀ evidence evidence', AcceptedEvidence dates evidence → AcceptedEvidence dates evidence' →
      createSupplierGatewayExecutionEvidencePayload evidence =
        createSupplierGatewayExecutionEvidencePayload evidence' →
      (evidence = evidence' ↔
        (freeTexts evidence).map lineFeeds = (freeTexts evidence').map lineFeeds)) ∧
    (∀ evidence evidence', AcceptedArtifactEvidence dates evidence →
      AcceptedArtifactEvidence dates evidence' →
      createSupplierArtifactExecutionEvidencePayload evidence =
        createSupplierArtifactExecutionEvidencePayload evidence' →
      (evidence = evidence' ↔ (freeArtifactTexts evidence).map lineFeeds =
        (freeArtifactTexts evidence').map lineFeeds)) := by
  refine ⟨?_, ?_, ?_, ?_⟩
  · intro input input' h h' hpayload
    exact h.eq_of_payload h' hpayload
  · intro input input' h h' hpayload
    exact manifestPayload_inj h h' hpayload
  · intro evidence evidence' h h' hpayload
    exact h.eq_iff h' hpayload
  · intro evidence evidence' h h' hpayload
    exact h.eq_iff h' hpayload

/-! ## Two executions under one signature -/

/-- A digest of one repeated letter. -/
def sampleDigest (letter : Char) : String :=
  .ofList (List.replicate 64 letter)

def sampleDate : String :=
  IsoInstant.toISOString 5000

/-- The fields of an execution behind its provider's request, on lines of their own. -/
def executionLines (first : String) (input output : Char) (numbers : List String)
    (last : String) : String :=
  String.intercalate "\n"
    ([first, sampleDigest input, sampleDigest output] ++ numbers ++ [sampleDate, last])

/-- An execution whose receipt goes on with the fields of another. -/
def continuedEvidence : SupplierGatewayExecutionEvidence where
  evidenceVersion := SUPPLIER_GATEWAY_EXECUTION_EVIDENCE_VERSION
  requestId := "req-1"
  providerId := "prv-1"
  requestedModel := "gpt-test"
  servedModel := "gpt-test"
  providerRequestId := "chatcmpl-1"
  inputSha256 := sampleDigest 'a'
  outputSha256 := sampleDigest 'b'
  usage := ⟨10, 5, 15⟩
  completedAt := sampleDate
  receiptRef := some (executionLines "rcpt-1" 'c' 'd' ["1", "1", "2"] "rcpt-2")

/-- The other execution, whose provider's request begins with the fields of the first. -/
def precededEvidence : SupplierGatewayExecutionEvidence where
  evidenceVersion := SUPPLIER_GATEWAY_EXECUTION_EVIDENCE_VERSION
  requestId := "req-1"
  providerId := "prv-1"
  requestedModel := "gpt-test"
  servedModel := "gpt-test"
  providerRequestId := executionLines "chatcmpl-1" 'a' 'b' ["10", "5", "15"] "rcpt-1"
  inputSha256 := sampleDigest 'c'
  outputSha256 := sampleDigest 'd'
  usage := ⟨1, 1, 2⟩
  completedAt := sampleDate
  receiptRef := some "rcpt-2"

/-- What was bought when the evidence is as expected. -/
def expectationOf (evidence : SupplierGatewayExecutionEvidence) :
    SupplierExecutionEvidenceExpectation where
  requestId := evidence.requestId
  providerId := evidence.providerId
  requestedModel := evidence.requestedModel
  inputSha256 := evidence.inputSha256
  outputSha256 := evidence.outputSha256
  usage := evidence.usage
  requestStartedAt := .ofInstant 5000
  verifiedAt := .ofInstant 5000

/-- Evidence with an accepted shape is accepted when it is what was expected. -/
theorem acceptedEvidence_of_shape {dates : DateParser}
    {evidence : SupplierGatewayExecutionEvidence} (hshape : EvidenceShape evidence)
    (hversion : evidence.evidenceVersion = SUPPLIER_GATEWAY_EXECUTION_EVIDENCE_VERSION)
    (hserved : evidence.servedModel = evidence.requestedModel)
    (hdate : evidence.completedAt = sampleDate) : AcceptedEvidence dates evidence := by
  have hyear : IsoInstant.FourDigitYear 5000 := IsoInstant.fourDigitYear_of_lt (by decide)
  have htimestamp : dates.timestamp (some evidence.completedAt) = .ofInstant 5000 := by
    rw [hdate]
    unfold DateParser.timestamp TimestampText.ofInstant sampleDate
    dsimp only
    rw [dates.parse_toISOString 5000 hyear]
  have hclock : withinClockWindow (5000 : Nat) (5000 : Nat) (5000 : Nat) = true := by decide
  refine ⟨expectationOf evidence, verifySupplierExecutionEvidence_eq_ok.mpr ⟨?_, hshape, ?_⟩⟩
  · simp only [validateExpectation, assertIdentifier, assertText, assertSha256, expectationOf,
      Except.bind_eq_ok, exists_unit, ensure_eq_ok]
    exact ⟨hshape.requestId, hshape.providerId, hshape.requestedModel, hshape.inputSha256,
      hshape.outputSha256, hshape.usage⟩
  · refine ⟨hversion, rfl, rfl, rfl, hserved, rfl, rfl, rfl, 5000, 5000, 5000, "", ?_, ?_, ?_,
      hclock⟩
    · rw [htimestamp]
      exact assertTimestamp_ofInstant 5000 ""
    · exact assertTimestamp_ofInstant 5000 ""
    · exact assertTimestamp_ofInstant 5000 ""

theorem sampleDigest_inj {letter letter' : Char}
    (h : sampleDigest letter = sampleDigest letter') : letter = letter' := by
  have hlists := String.ofList_injective h
  rw [List.replicate_inj] at hlists
  rcases hlists with ⟨-, hzero | hsame⟩
  · cases hzero
  · exact hsame

theorem isHexDigest_sampleDigest : ∀ letter ∈ ['a', 'b', 'c', 'd'],
    isHexDigest (sampleDigest letter) = true := by
  intro letter hletter
  apply isHexDigest_ofList
  revert letter
  decide +kernel

theorem continuedEvidence_shape : EvidenceShape continuedEvidence where
  requestId := by decide +kernel
  providerId := by decide +kernel
  requestedModel := by decide +kernel
  servedModel := by decide +kernel
  providerRequestId := by decide +kernel
  inputSha256 := isHexDigest_sampleDigest 'a' (by decide)
  outputSha256 := isHexDigest_sampleDigest 'b' (by decide)
  usage := by decide
  receiptRef := by
    rintro receipt hreceipt
    cases hreceipt
    decide +kernel

theorem precededEvidence_shape : EvidenceShape precededEvidence where
  requestId := by decide +kernel
  providerId := by decide +kernel
  requestedModel := by decide +kernel
  servedModel := by decide +kernel
  providerRequestId := by decide +kernel
  inputSha256 := isHexDigest_sampleDigest 'c' (by decide)
  outputSha256 := isHexDigest_sampleDigest 'd' (by decide)
  usage := by decide
  receiptRef := by
    rintro receipt hreceipt
    cases hreceipt
    decide +kernel

/-- Two accepted executions with different digests and usages have one payload. -/
theorem signedPayload_ambiguous :
    ∃ dates : DateParser, AcceptedEvidence dates continuedEvidence ∧
      AcceptedEvidence dates precededEvidence ∧
      createSupplierGatewayExecutionEvidencePayload continuedEvidence =
        createSupplierGatewayExecutionEvidencePayload precededEvidence ∧
      continuedEvidence.inputSha256 ≠ precededEvidence.inputSha256 ∧
      continuedEvidence.outputSha256 ≠ precededEvidence.outputSha256 ∧
      continuedEvidence.usage ≠ precededEvidence.usage := by
  rcases DateParser.nonempty with ⟨dates⟩
  refine ⟨dates, acceptedEvidence_of_shape continuedEvidence_shape rfl rfl rfl,
    acceptedEvidence_of_shape precededEvidence_shape rfl rfl rfl, ?_, ?_, ?_, ?_⟩
  · unfold createSupplierGatewayExecutionEvidencePayload continuedEvidence precededEvidence
      executionLines
    generalize sampleDigest 'a' = a, sampleDigest 'b' = b, sampleDigest 'c' = c,
      sampleDigest 'd' = d, sampleDate = date
    have hnumbers : [10, 5, 15, 1, 1, 2].map (toString : Int → String) =
        ["10", "5", "15", "1", "1", "2"] := by
      decide +kernel
    simp only [List.map_cons, List.map_nil, List.cons.injEq, and_true] at hnumbers
    apply String.toList_inj.mp
    simp only [hnumbers, Option.getD_some, String.toList_intercalate, List.map_cons, List.map_nil,
      List.cons_append, List.nil_append, List.intercalate_cons_cons, List.intercalate_singleton,
      List.append_assoc]
  · intro hsame
    exact absurd (sampleDigest_inj hsame) (by decide)
  · intro hsame
    exact absurd (sampleDigest_inj hsame) (by decide)
  · decide

end Gateway
end TokenStreaming
