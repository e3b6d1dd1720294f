import TokenStreaming.Gateway.ExecutionEvidence
import TokenStreaming.Server.ArtifactEvidence
import TokenStreaming.SupplierNode.ArtifactExecutor

/-!
# Gateway - Evidence of artifact executions

{lit}`artifact-evidence.ts` on the evidence a node signs, with every digest and date as the text
that was signed.

Main results:

- Theorem {lit}`verifySupplierArtifactEvidence_eq_ok`: what the verification accepts.
-/

namespace TokenStreaming
namespace Gateway

open Domain SupplierNode
open Server (artifactEvidenceMismatch)

/-! ## Verification -/

/-- {lit}`SupplierArtifactEvidenceExpectation`. -/
structure SupplierArtifactEvidenceExpectation where
  taskId : String
  providerId : String
  requestedModel : String
  artifactId : String
  artifactManifestSha256 : String
  outputSha256 : String
  usage : SupplierGatewayUsage
  requestStartedAt : TimestampText
  verifiedAt : TimestampText
deriving DecidableEq

/-- {lit}`VerifiedSupplierArtifactEvidence`. -/
structure VerifiedSupplierArtifactEvidence where
  providerId : String
  requestedModel : String
  servedModel : String
  artifactId : String
  artifactManifestSha256 : String
  artifactContentSha256 : String
  outputSha256 : String
  providerRequestIdsSha256 : String
  segmentsCompleted : Nat
  usage : SupplierGatewayUsage
  completedAt : String
deriving DecidableEq

/-- {lit}`validateExpectation`. -/
def validateArtifactExpectation (value : SupplierArtifactEvidenceExpectation) : Checked Unit := do
  assertIdentifier value.taskId "artifactExpectation.taskId"
  assertIdentifier value.providerId "artifactExpectation.providerId"
  assertIdentifier value.artifactId "artifactExpectation.artifactId"
  assertText value.requestedModel "artifactExpectation.requestedModel" 200
  ensure (isHexDigest value.artifactManifestSha256) artifactEvidenceMismatch
  ensure (isHexDigest value.outputSha256) artifactEvidenceMismatch
  ensure (isUsage value.usage) artifactEvidenceMismatch

/-- {lit}`validateEvidence`: every failed check is reported as a mismatch. -/
def isArtifactEvidence (value : SupplierArtifactExecutionEvidence) : Bool :=
  matchesIdentifierPattern value.taskId && matchesIdentifierPattern value.providerId &&
    matchesIdentifierPattern value.artifactId && isBoundedText 200 value.requestedModel &&
    isBoundedText 200 value.servedModel && isHexDigest value.artifactManifestSha256 &&
    isHexDigest value.artifactContentSha256 && isHexDigest value.outputSha256 &&
    isHexDigest value.providerRequestIdsSha256 && 1 ≤ value.segmentsCompleted &&
    value.segmentsCompleted ≤ 100000 && isUsage value.usage

/-- The comparisons with what was bought. -/
def SupplierArtifactEvidenceExpectation.isMetBy
    (expectation : SupplierArtifactEvidenceExpectation)
    (evidence : SupplierArtifactExecutionEvidence) : Bool :=
  evidence.evidenceVersion == SUPPLIER_ARTIFACT_EXECUTION_EVIDENCE_VERSION &&
    evidence.taskId == expectation.taskId && evidence.providerId == expectation.providerId &&
    evidence.requestedModel == expectation.requestedModel &&
    evidence.servedModel == expectation.requestedModel &&
    evidence.artifactId == expectation.artifactId &&
    evidence.artifactManifestSha256 == expectation.artifactManifestSha256 &&
    evidence.outputSha256 == expectation.outputSha256 && evidence.usage == expectation.usage

def verifySupplierArtifactEvidence (dates : DateParser)
    (expectation : SupplierArtifactEvidenceExpectation)
    (evidence : SupplierArtifactExecutionEvidence) : Checked VerifiedSupplierArtifactEvidence := do
  validateArtifactExpectation expectation
  ensure (isArtifactEvidence evidence) artifactEvidenceMismatch
  let completedAt ← assertTimestamp (dates.timestamp (some evidence.completedAt))
    "artifactEvidence.completed_at"
  let startedAt ← assertTimestamp expectation.requestStartedAt
    "artifactExpectation.requestStartedAt"
  let verifiedAt ← assertTimestamp expectation.verifiedAt "artifactExpectation.verifiedAt"
  ensure (expectation.isMetBy evidence && withinClockWindow completedAt startedAt verifiedAt)
    artifactEvidenceMismatch
  pure
    { providerId := evidence.providerId
      requestedModel := evidence.requestedModel
      servedModel := evidence.servedModel
      artifactId := evidence.artifactId
      artifactManifestSha256 := evidence.artifactManifestSha256
      artifactContentSha256 := evidence.artifactContentSha256
      outputSha256 := evidence.outputSha256
      providerRequestIdsSha256 := evidence.providerRequestIdsSha256
      segmentsCompleted := evidence.segmentsCompleted
      usage := evidence.usage
      completedAt := evidence.completedAt }

/-- The shape checks and the comparison that accepted evidence has passed. -/
theorem verifySupplierArtifactEvidence_eq_ok {dates : DateParser}
    {expectation : SupplierArtifactEvidenceExpectation}
    {evidence : SupplierArtifactExecutionEvidence} {verified : VerifiedSupplierArtifactEvidence}
    (h : verifySupplierArtifactEvidence dates expectation evidence = .ok verified) :
    isArtifactEvidence evidence = true ∧ expectation.isMetBy evidence = true := by
  simp only [verifySupplierArtifactEvidence, Except.bind_eq_ok, exists_unit, ensure_eq_ok,
    Bool.and_eq_true] at h
  rcases h with ⟨-, hshape, _, -, _, -, _, -, ⟨hmet, -⟩, -⟩
  exact ⟨hshape, hmet⟩

end Gateway
end TokenStreaming
