import TokenStreaming.SupplierNode.Runtime

/-!
# Gateway - Execution evidence

The control plane buys an inference and gets evidence for it, a JSON value signed by the
supplier node.  This module holds the checks of {lit}`execution-evidence.ts`: the shape
of what arrived, and that it names the request, the model, the digests and the usage that
were bought, at a plausible time.

Main results:

- Theorem {lit}`validateEvidenceShape_encode`: which encoded evidence has an accepted shape.
- Theorem {lit}`verifySupplierExecutionEvidence_eq_ok`: what the verification accepts.

The keys and types allowed here are ones {lit}`assertSafeInput` lets through, and its
refusals are turned into the same error as the others of the shape check.
-/

namespace TokenStreaming
namespace Gateway

open Domain Json SupplierNode

/-! ## Dates -/

/-- {lit}`Date.parse` of the engine; it reads back what {lit}`toISOString` wrote. -/
structure DateParser where
  parse : String → Option Int
  parse_toISOString : ∀ t, IsoInstant.FourDigitYear t →
    parse (IsoInstant.toISOString t) = some (t : Int)

/-- Distinct instants are written differently, so such a parser exists. -/
theorem DateParser.nonempty : Nonempty DateParser := by
  classical
  let Written (text : String) (t : Nat) : Prop :=
    IsoInstant.FourDigitYear t ∧ IsoInstant.toISOString t = text
  let parse : String → Option Int := fun text =>
    if h : ∃ t, Written text t then some (h.choose : Int) else none
  refine ⟨⟨parse, ?_⟩⟩
  intro t hyear
  have hexists : ∃ s, Written (IsoInstant.toISOString t) s := ⟨t, hyear, rfl⟩
  have hsame : hexists.choose = t := by
    rcases hexists.choose_spec with ⟨hchosen, htext⟩
    rcases Nat.lt_trichotomy hexists.choose t with hlt | heq | hgt
    · have hless := IsoInstant.toISOString_lt hlt hyear
      rw [htext] at hless
      exact absurd hless (String.lt_irrefl _)
    · exact heq
    · have hless := IsoInstant.toISOString_lt hgt hchosen
      rw [htext] at hless
      exact absurd hless (String.lt_irrefl _)
  have hparse : parse (IsoInstant.toISOString t) = some (hexists.choose : Int) := dif_pos hexists
  rw [hparse, hsame]

/-- A member that should be a timestamp; what is not a text fails every check. -/
def DateParser.timestamp (dates : DateParser) (member : Option String) : TimestampText :=
  match member with
  | some text => { text := text, instant := dates.parse text }
  | none => { text := "", instant := none }

/-! ## Evidence as it arrives -/

/-- {lit}`mismatch`. -/
def mismatch (details : List (String × ErrorDetail)) : MarketplaceDomainError where
  code := .serviceEvidenceMismatch
  message := "Supplier execution evidence does not match the purchased service."
  details := details

/-- Evidence whose shape was checked; the two members the shape check does not read may be
absent or of another type. -/
structure RemoteEvidence where
  evidenceVersion : Option String
  requestId : String
  providerId : String
  requestedModel : String
  servedModel : String
  providerRequestId : String
  inputSha256 : String
  outputSha256 : String
  usage : SupplierGatewayUsage
  completedAt : Option String
  receiptRef : Option String
deriving DecidableEq

def executionEvidenceFields : List String :=
  ["evidence_version", "request_id", "provider_id", "requested_model", "served_model",
    "provider_request_id", "input_sha256", "output_sha256", "usage", "completed_at",
    "receipt_ref"]

def usageFields : List String :=
  ["input_tokens", "output_tokens", "total_tokens"]

/-- The texts {lit}`assertText` accepts. -/
def isBoundedText (maximumLength : Nat) (value : String) : Bool :=
  !isBlank value && utf16Length value ≤ maximumLength

/-- A member that is a text some check accepts. -/
def checkedText (members : List (String × JsonValue)) (name : String) (accepts : String → Bool) :
    Option String :=
  (stringMember members name).filter accepts

/-- The conditions of {lit}`validateUsage`. -/
def isUsage (usage : SupplierGatewayUsage) : Bool :=
  1 ≤ usage.inputTokens && usage.inputTokens ≤ MAX_SAFE_INTEGER &&
    0 ≤ usage.outputTokens && usage.outputTokens ≤ MAX_SAFE_INTEGER &&
    usage.totalTokens ≤ MAX_SAFE_INTEGER &&
    usage.totalTokens == usage.inputTokens + usage.outputTokens

/-- {lit}`validateUsage` of an untyped value. -/
def readUsage (value : Option JsonValue) : Option SupplierGatewayUsage :=
  match value with
  | some (.object members) =>
      if members.all fun m => m.1 ∈ usageFields then do
        let inputTokens ← integerMember members "input_tokens"
        let outputTokens ← integerMember members "output_tokens"
        let totalTokens ← integerMember members "total_tokens"
        (some ⟨inputTokens, outputTokens, totalTokens⟩ : Option SupplierGatewayUsage).filter isUsage
      else none
  | _ => none

/-- The receipt, which may be missing but not empty. -/
def readReceipt (members : List (String × JsonValue)) : Option (Option String) :=
  match members.lookup "receipt_ref" with
  | none => some none
  | some (.string receipt) => if isBoundedText 256 receipt then some (some receipt) else none
  | some _ => none

/-- The evidence, if no check of its shape throws. -/
def readEvidence (evidence : JsonValue) : Option RemoteEvidence :=
  match evidence with
  | .object members =>
      if members.all fun m => m.1 ∈ executionEvidenceFields then do
        let requestId ← checkedText members "request_id" matchesIdentifierPattern
        let providerId ← checkedText members "provider_id" matchesIdentifierPattern
        let requestedModel ← checkedText members "requested_model" (isBoundedText 200)
        let servedModel ← checkedText members "served_model" (isBoundedText 200)
        let providerRequestId ← checkedText members "provider_request_id" (isBoundedText 256)
        let inputSha256 ← checkedText members "input_sha256" isHexDigest
        let outputSha256 ← checkedText members "output_sha256" isHexDigest
        let usage ← readUsage (members.lookup "usage")
        let receiptRef ← readReceipt members
        some
          { evidenceVersion := stringMember members "evidence_version"
            requestId, providerId, requestedModel, servedModel, providerRequestId, inputSha256,
            outputSha256, usage
            completedAt := stringMember members "completed_at"
            receiptRef }
      else none
  | _ => none

/-- Every error of the shape check is one mismatch. -/
def validateEvidenceShape (evidence : JsonValue) : Checked RemoteEvidence :=
  match readEvidence evidence with
  | some remote => .ok remote
  | none => .error (mismatch [("remoteShapeValid", .flag false)])

/-! ## Verification -/

/-- {lit}`SupplierExecutionEvidenceExpectation`. -/
structure SupplierExecutionEvidenceExpectation where
  requestId : String
  providerId : String
  requestedModel : String
  inputSha256 : String
  outputSha256 : String
  usage : SupplierGatewayUsage
  requestStartedAt : TimestampText
  verifiedAt : TimestampText
deriving DecidableEq

/-- {lit}`VerifiedSupplierExecutionEvidence`. -/
structure VerifiedSupplierExecutionEvidence where
  providerId : String
  requestedModel : String
  servedModel : String
  providerRequestId : String
  inputSha256 : String
  outputSha256 : String
  usage : SupplierGatewayUsage
  completedAt : Option String
  receiptRef : Option String
deriving DecidableEq

def assertSha256 (value label : String) : Checked Unit :=
  ensure (isHexDigest value) (mismatch [("invalidDigest", .text label)])

def validateExpectation (expectation : SupplierExecutionEvidenceExpectation) : Checked Unit := do
  assertIdentifier expectation.requestId "executionEvidenceExpectation.requestId"
  assertIdentifier expectation.providerId "executionEvidenceExpectation.providerId"
  assertText expectation.requestedModel "executionEvidenceExpectation.requestedModel" 200
  assertSha256 expectation.inputSha256 "executionEvidenceExpectation.inputSha256"
  assertSha256 expectation.outputSha256 "executionEvidenceExpectation.outputSha256"
  ensure (isUsage expectation.usage) (mismatch [("usageValid", .flag false)])

def clockWindowMs : Int :=
  5 * 60000

def withinClockWindow (completedAt requestStartedAt verifiedAt : Int) : Bool :=
  requestStartedAt - clockWindowMs ≤ completedAt && completedAt ≤ verifiedAt + clockWindowMs

/-- The comparisons of the evidence with what was bought, under the names of the error's
details. -/
def comparisons (expectation : SupplierExecutionEvidenceExpectation) (evidence : RemoteEvidence)
    (inWindow : Bool) : List (String × Bool) :=
  [("versionMatches",
      evidence.evidenceVersion == some SUPPLIER_GATEWAY_EXECUTION_EVIDENCE_VERSION),
    ("requestMatches", evidence.requestId == expectation.requestId),
    ("providerMatches", evidence.providerId == expectation.providerId),
    ("requestedModelMatches", evidence.requestedModel == expectation.requestedModel),
    ("servedModelMatches", evidence.servedModel == expectation.requestedModel),
    ("inputDigestMatches", evidence.inputSha256 == expectation.inputSha256),
    ("outputDigestMatches", evidence.outputSha256 == expectation.outputSha256),
    ("usageMatches", evidence.usage == expectation.usage),
    ("withinClockWindow", inWindow)]

def verifySupplierExecutionEvidence (dates : DateParser)
    (expectation : SupplierExecutionEvidenceExpectation) (evidence : JsonValue) :
    Checked VerifiedSupplierExecutionEvidence := do
  validateExpectation expectation
  let remote ← validateEvidenceShape evidence
  let completedAt ← assertTimestamp (dates.timestamp remote.completedAt)
    "executionEvidence.completed_at"
  let requestStartedAt ← assertTimestamp expectation.requestStartedAt
    "executionEvidenceExpectation.requestStartedAt"
  let verifiedAt ← assertTimestamp expectation.verifiedAt
    "executionEvidenceExpectation.verifiedAt"
  let compared := comparisons expectation remote
    (withinClockWindow completedAt requestStartedAt verifiedAt)
  ensure (compared.all Prod.snd) (mismatch (compared.map fun c => (c.1, .flag c.2)))
  pure
    { providerId := remote.providerId
      requestedModel := remote.requestedModel
      servedModel := remote.servedModel
      providerRequestId := remote.providerRequestId
      inputSha256 := remote.inputSha256
      outputSha256 := remote.outputSha256
      usage := remote.usage
      completedAt := remote.completedAt
      receiptRef := remote.receiptRef }

/-! ## Encoded evidence -/

def usageMembers (usage : SupplierGatewayUsage) : List (String × JsonValue) :=
  [("input_tokens", .number usage.inputTokens), ("output_tokens", .number usage.outputTokens),
    ("total_tokens", .number usage.totalTokens)]

def usageJson (usage : SupplierGatewayUsage) : JsonValue :=
  .object (usageMembers usage)

def receiptMembers (receiptRef : Option String) : List (String × JsonValue) :=
  match receiptRef with
  | some receipt => [("receipt_ref", .string receipt)]
  | none => []

/-- The members of a node's evidence in the order it builds them. -/
def evidenceMembers (evidence : SupplierGatewayExecutionEvidence) : List (String × JsonValue) :=
  [("evidence_version", .string evidence.evidenceVersion),
    ("request_id", .string evidence.requestId), ("provider_id", .string evidence.providerId),
    ("requested_model", .string evidence.requestedModel),
    ("served_model", .string evidence.servedModel),
    ("provider_request_id", .string evidence.providerRequestId),
    ("input_sha256", .string evidence.inputSha256),
    ("output_sha256", .string evidence.outputSha256), ("usage", usageJson evidence.usage),
    ("completed_at", .string evidence.completedAt)] ++ receiptMembers evidence.receiptRef

def evidenceJson (evidence : SupplierGatewayExecutionEvidence) : JsonValue :=
  .object (evidenceMembers evidence)

/-- The evidence the control plane reads from what a node encoded. -/
def RemoteEvidence.ofNode (evidence : SupplierGatewayExecutionEvidence) : RemoteEvidence where
  evidenceVersion := some evidence.evidenceVersion
  requestId := evidence.requestId
  providerId := evidence.providerId
  requestedModel := evidence.requestedModel
  servedModel := evidence.servedModel
  providerRequestId := evidence.providerRequestId
  inputSha256 := evidence.inputSha256
  outputSha256 := evidence.outputSha256
  usage := evidence.usage
  completedAt := some evidence.completedAt
  receiptRef := evidence.receiptRef

/-- The shape checks, member by member, on typed evidence. -/
structure EvidenceShape (evidence : SupplierGatewayExecutionEvidence) : Prop where
  requestId : matchesIdentifierPattern evidence.requestId = true
  providerId : matchesIdentifierPattern evidence.providerId = true
  requestedModel : isBoundedText 200 evidence.requestedModel = true
  servedModel : isBoundedText 200 evidence.servedModel = true
  providerRequestId : isBoundedText 256 evidence.providerRequestId = true
  inputSha256 : isHexDigest evidence.inputSha256 = true
  outputSha256 : isHexDigest evidence.outputSha256 = true
  usage : isUsage evidence.usage = true
  receiptRef : ∀ receipt, evidence.receiptRef = some receipt → isBoundedText 256 receipt = true

theorem readUsage_usageJson {usage read : SupplierGatewayUsage} :
    readUsage (some (usageJson usage)) = some read ↔ isUsage usage = true ∧ usage = read := by
  have hread : readUsage (some (usageJson usage)) = (some usage).filter isUsage := by
    simp [readUsage, usageJson, usageMembers, usageFields, integerMember, List.lookup_cons]
  rw [hread]
  cases husage : isUsage usage <;> simp [Option.filter, husage]

theorem evidence_keys (evidence : SupplierGatewayExecutionEvidence) :
    ((evidenceMembers evidence).all fun m => m.1 ∈ executionEvidenceFields) = true := by
  cases hreceipt : evidence.receiptRef <;>
    simp [evidenceMembers, receiptMembers, executionEvidenceFields, hreceipt]

theorem checkedText_eq_some {members : List (String × JsonValue)} {name text value : String}
    {accepts : String → Bool} (h : stringMember members name = some text) :
    checkedText members name accepts = some value ↔ accepts text = true ∧ text = value := by
  rw [checkedText, h]
  cases haccepts : accepts text <;> simp [Option.filter, haccepts]

/-- Every text of the evidence is found under its name. -/
theorem stringMember_evidence (evidence : SupplierGatewayExecutionEvidence) :
    stringMember (evidenceMembers evidence) "evidence_version" = some evidence.evidenceVersion ∧
      stringMember (evidenceMembers evidence) "request_id" = some evidence.requestId ∧
      stringMember (evidenceMembers evidence) "provider_id" = some evidence.providerId ∧
      stringMember (evidenceMembers evidence) "requested_model" = some evidence.requestedModel ∧
      stringMember (evidenceMembers evidence) "served_model" = some evidence.servedModel ∧
      stringMember (evidenceMembers evidence) "provider_request_id" =
        some evidence.providerRequestId ∧
      stringMember (evidenceMembers evidence) "input_sha256" = some evidence.inputSha256 ∧
      stringMember (evidenceMembers evidence) "output_sha256" = some evidence.outputSha256 ∧
      stringMember (evidenceMembers evidence) "completed_at" = some evidence.completedAt ∧
      (evidenceMembers evidence).lookup "usage" = some (usageJson evidence.usage) := by
  simp [stringMember, evidenceMembers, List.lookup_cons]

theorem readReceipt_evidence {evidence : SupplierGatewayExecutionEvidence}
    {read : Option String} :
    readReceipt (evidenceMembers evidence) = some read ↔
      (∀ receipt, evidence.receiptRef = some receipt → isBoundedText 256 receipt = true) ∧
        evidence.receiptRef = read := by
  cases hreceipt : evidence.receiptRef with
  | none => simp [readReceipt, evidenceMembers, receiptMembers, hreceipt, List.lookup_cons]
  | some receipt =>
      cases hbounded : isBoundedText 256 receipt <;>
        simp [readReceipt, evidenceMembers, receiptMembers, hreceipt, List.lookup_cons, hbounded]

/-- The shape check accepts encoded evidence exactly when its members pass, and reads
back what the node wrote. -/
theorem validateEvidenceShape_encode {evidence : SupplierGatewayExecutionEvidence}
    {remote : RemoteEvidence} :
    validateEvidenceShape (evidenceJson evidence) = .ok remote ↔
      EvidenceShape evidence ∧ RemoteEvidence.ofNode evidence = remote := by
  have hread : validateEvidenceShape (evidenceJson evidence) = .ok remote ↔
      readEvidence (evidenceJson evidence) = some remote := by
    unfold validateEvidenceShape
    split <;> rename_i h <;> simp [h]
  rcases stringMember_evidence evidence with
    ⟨hversion, hrequest, hprovider, hrequested, hserved, hid, hinput, houtput, hcompleted, husage⟩
  rw [hread]
  unfold readEvidence evidenceJson
  simp only [evidence_keys, if_true, Option.bind_eq_bind, Option.bind_eq_some_iff,
    checkedText_eq_some hrequest, checkedText_eq_some hprovider, checkedText_eq_some hrequested,
    checkedText_eq_some hserved, checkedText_eq_some hid, checkedText_eq_some hinput,
    checkedText_eq_some houtput, husage, readUsage_usageJson, readReceipt_evidence, hversion,
    hcompleted]
  constructor
  · rintro ⟨_, ⟨h1, rfl⟩, _, ⟨h2, rfl⟩, _, ⟨h3, rfl⟩, _, ⟨h4, rfl⟩, _, ⟨h5, rfl⟩, _, ⟨h6, rfl⟩,
      _, ⟨h7, rfl⟩, _, ⟨h8, rfl⟩, _, ⟨h9, rfl⟩, hremote⟩
    exact ⟨⟨h1, h2, h3, h4, h5, h6, h7, h8, h9⟩, Option.some.inj hremote⟩
  · rintro ⟨h, rfl⟩
    exact ⟨_, ⟨h.requestId, rfl⟩, _, ⟨h.providerId, rfl⟩, _, ⟨h.requestedModel, rfl⟩, _,
      ⟨h.servedModel, rfl⟩, _, ⟨h.providerRequestId, rfl⟩, _, ⟨h.inputSha256, rfl⟩, _,
      ⟨h.outputSha256, rfl⟩, _, ⟨h.usage, rfl⟩, _, ⟨h.receiptRef, rfl⟩, rfl⟩

/-! ## What the verification accepts -/

/-- Everything the verification compares. -/
structure EvidenceMatches (dates : DateParser)
    (expectation : SupplierExecutionEvidenceExpectation)
    (evidence : SupplierGatewayExecutionEvidence) : Prop where
  version : evidence.evidenceVersion = SUPPLIER_GATEWAY_EXECUTION_EVIDENCE_VERSION
  request : evidence.requestId = expectation.requestId
  provider : evidence.providerId = expectation.providerId
  requestedModel : evidence.requestedModel = expectation.requestedModel
  servedModel : evidence.servedModel = expectation.requestedModel
  inputDigest : evidence.inputSha256 = expectation.inputSha256
  outputDigest : evidence.outputSha256 = expectation.outputSha256
  usage : evidence.usage = expectation.usage
  clock : ∃ completedAt requestStartedAt verifiedAt label,
    assertTimestamp (dates.timestamp (some evidence.completedAt)) label = .ok completedAt ∧
    assertTimestamp expectation.requestStartedAt label = .ok requestStartedAt ∧
    assertTimestamp expectation.verifiedAt label = .ok verifiedAt ∧
    withinClockWindow completedAt requestStartedAt verifiedAt = true

/-- The verification of encoded evidence succeeds exactly when the expectation is valid,
the shape is accepted and everything matches. -/
theorem verifySupplierExecutionEvidence_eq_ok {dates : DateParser}
    {expectation : SupplierExecutionEvidenceExpectation}
    {evidence : SupplierGatewayExecutionEvidence} :
    (∃ verified, verifySupplierExecutionEvidence dates expectation (evidenceJson evidence) =
      .ok verified) ↔
      validateExpectation expectation = .ok () ∧ EvidenceShape evidence ∧
        EvidenceMatches dates expectation evidence := by
  simp only [verifySupplierExecutionEvidence, Except.bind_eq_ok, exists_unit,
    validateEvidenceShape_encode, ensure_eq_ok, Except.pure_eq_ok]
  constructor
  · rintro ⟨verified, hexpectation, _, ⟨hshape, rfl⟩, completedAt, hcompleted, requestStartedAt,
      hstarted, verifiedAt, hverified, hall, -⟩
    refine ⟨hexpectation, hshape, ?_⟩
    simp only [comparisons, RemoteEvidence.ofNode, List.all_cons, List.all_nil, Bool.and_true,
      Bool.and_eq_true, beq_iff_eq, Option.some.injEq] at hall
    rcases hall with ⟨h1, h2, h3, h4, h5, h6, h7, h8, h9⟩
    exact ⟨h1, h2, h3, h4, h5, h6, h7, h8, completedAt, requestStartedAt, verifiedAt, "",
      assertTimestamp_label hcompleted "", assertTimestamp_label hstarted "",
      assertTimestamp_label hverified "", h9⟩
  · rintro ⟨hexpectation, hshape, hmatches⟩
    rcases hmatches.clock with ⟨completedAt, requestStartedAt, verifiedAt, label, hcompleted,
      hstarted, hverified, hwindow⟩
    refine ⟨_, hexpectation, _, ⟨hshape, rfl⟩, completedAt,
      assertTimestamp_label hcompleted _, requestStartedAt, assertTimestamp_label hstarted _,
      verifiedAt, assertTimestamp_label hverified _, ?_, rfl⟩
    simp [comparisons, RemoteEvidence.ofNode, hmatches.version, hmatches.request,
      hmatches.provider, hmatches.requestedModel, hmatches.servedModel, hmatches.inputDigest,
      hmatches.outputDigest, hmatches.usage, hwindow]

end Gateway
end TokenStreaming
