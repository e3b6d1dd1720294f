import TokenStreaming.SupplierNode.ReplayJournal
import TokenStreaming.Server.ArtifactWorkerService

/-!
# Control plane - Execution evidence of artifact tasks

{lit}`artifact-evidence.ts`: a worker signs what it executed, and the control plane
compares it with what was bought.  The comparison covers the task, the model, the input,
the output and the usage.  The number of segments is only checked for its range.

Main results:

- Theorem {lit}`verifySupplierArtifactEvidence_eq_ok`: what accepted evidence agrees on, and
  that it is recorded as it was signed.

The exact-key and JSON-safety checks are left to the types.  Digests are symbolic, so the
check of their spelling is left out where a field is a digest.
-/

namespace TokenStreaming
namespace Server

open Domain
open SupplierNode (isHexDigest)

/-! ## Evidence -/

/-- {lit}`SUPPLIER_ARTIFACT_EXECUTION_EVIDENCE_VERSION`. -/
def supplierArtifactExecutionEvidenceVersion : String := "gongsuanyun.artifact-evidence.v1"

/-- {lit}`SupplierArtifactExecutionEvidence`. -/
structure SupplierArtifactExecutionEvidence where
  evidenceVersion : String
  taskId : String
  providerId : String
  requestedModel : String
  servedModel : String
  artifactId : String
  artifactManifestSha256 : Digest
  artifactContentSha256 : Digest
  outputSha256 : Digest
  providerRequestIdsSha256 : String
  segmentsCompleted : Nat
  usage : GatewayUsage
  completedAt : TimestampText

/-- {lit}`SupplierArtifactEvidenceExpectation`. -/
structure SupplierArtifactEvidenceExpectation where
  taskId : String
  providerId : String
  requestedModel : String
  artifactId : String
  artifactManifestSha256 : Option Digest
  outputSha256 : Digest
  usage : GatewayUsage
  requestStartedAt : TimestampText
  verifiedAt : TimestampText

/-! ## Checks -/

/-- {lit}`mismatch`. -/
def artifactEvidenceMismatch : MarketplaceDomainError where
  code := .serviceEvidenceMismatch
  message := "Supplier artifact execution evidence does not match the purchased task."

/-- {lit}`validateUsage` of {lit}`artifact-evidence.ts`. -/
def validateEvidenceUsage (usage : GatewayUsage) : Checked Unit :=
  ensure (decide (1 ≤ usage.inputTokens) && decide (usage.inputTokens ≤ maxSafeInteger) &&
      decide (usage.outputTokens ≤ maxSafeInteger) && decide (usage.totalTokens ≤ maxSafeInteger) &&
      usage.totalTokens == usage.inputTokens + usage.outputTokens) artifactEvidenceMismatch

def validateExpectation (value : SupplierArtifactEvidenceExpectation) : Checked Unit := do
  assertIdentifier value.taskId "artifactExpectation.taskId"
  assertIdentifier value.providerId "artifactExpectation.providerId"
  assertIdentifier value.artifactId "artifactExpectation.artifactId"
  assertText value.requestedModel "artifactExpectation.requestedModel" 200
  ensure value.artifactManifestSha256.isSome artifactEvidenceMismatch
  validateEvidenceUsage value.usage

/-- The body of {lit}`validateEvidence`. -/
def checkEvidence (value : SupplierArtifactExecutionEvidence) : Checked Unit := do
  assertIdentifier value.taskId "artifactEvidence.task_id"
  assertIdentifier value.providerId "artifactEvidence.provider_id"
  assertIdentifier value.artifactId "artifactEvidence.artifact_id"
  assertText value.requestedModel "artifactEvidence.requested_model" 200
  assertText value.servedModel "artifactEvidence.served_model" 200
  ensure (isHexDigest value.providerRequestIdsSha256) artifactEvidenceMismatch
  ensure (decide (1 ≤ value.segmentsCompleted) && decide (value.segmentsCompleted ≤ 100000))
    artifactEvidenceMismatch
  validateEvidenceUsage value.usage

/-- Every failed check of the evidence is reported as a mismatch. -/
def validateEvidence (value : SupplierArtifactExecutionEvidence) : Checked Unit :=
  match checkEvidence value with
  | .ok _ => .ok ()
  | .error _ => .error artifactEvidenceMismatch

/-- {lit}`sameUsage`. -/
def sameUsage (left right : GatewayUsage) : Bool :=
  left.inputTokens == right.inputTokens && left.outputTokens == right.outputTokens &&
    left.totalTokens == right.totalTokens

/-- The evidence is about what was bought. -/
def SupplierArtifactEvidenceExpectation.isMetBy (expectation : SupplierArtifactEvidenceExpectation)
    (evidence : SupplierArtifactExecutionEvidence) : Bool :=
  evidence.evidenceVersion == supplierArtifactExecutionEvidenceVersion &&
    evidence.taskId == expectation.taskId && evidence.providerId == expectation.providerId &&
    evidence.requestedModel == expectation.requestedModel &&
    evidence.servedModel == expectation.requestedModel &&
    evidence.artifactId == expectation.artifactId &&
    some evidence.artifactManifestSha256 == expectation.artifactManifestSha256 &&
    evidence.outputSha256 == expectation.outputSha256 &&
    sameUsage evidence.usage expectation.usage

/-- The columns that are recorded of verified evidence. -/
def SupplierArtifactExecutionEvidence.verified (evidence : SupplierArtifactExecutionEvidence) :
    VerifiedArtifactEvidence where
  providerId := evidence.providerId
  requestedModel := evidence.requestedModel
  servedModel := evidence.servedModel
  artifactId := evidence.artifactId
  artifactManifestSha256 := evidence.artifactManifestSha256
  artifactContentSha256 := evidence.artifactContentSha256
  outputSha256 := evidence.outputSha256
  providerRequestIdsSha256 := evidence.providerRequestIdsSha256
  segmentsCompleted := evidence.segmentsCompleted
  completedAt := evidence.completedAt.text

def verifySupplierArtifactEvidence (expectation : SupplierArtifactEvidenceExpectation)
    (evidence : SupplierArtifactExecutionEvidence) : Checked VerifiedArtifactEvidence := do
  validateExpectation expectation
  validateEvidence evidence
  let completedAt ← assertTimestamp evidence.completedAt "artifactEvidence.completed_at"
  let startedAt ← assertTimestamp expectation.requestStartedAt
    "artifactExpectation.requestStartedAt"
  let verifiedAt ← assertTimestamp expectation.verifiedAt "artifactExpectation.verifiedAt"
  ensure (expectation.isMetBy evidence && decide (startedAt - 5 * 60000 ≤ completedAt) &&
    decide (completedAt ≤ verifiedAt + 5 * 60000)) artifactEvidenceMismatch
  pure evidence.verified

/-- Accepted evidence meets the expectation and is recorded as it was signed. -/
theorem verifySupplierArtifactEvidence_eq_ok {expectation : SupplierArtifactEvidenceExpectation}
    {evidence : SupplierArtifactExecutionEvidence} {verified : VerifiedArtifactEvidence}
    (h : verifySupplierArtifactEvidence expectation evidence = .ok verified) :
    expectation.isMetBy evidence = true ∧ verified = evidence.verified := by
  unfold verifySupplierArtifactEvidence at h
  simp only [Except.bind_eq_ok, exists_unit, ensure_eq_ok, Bool.and_eq_true,
    Except.pure_eq_ok] at h
  obtain ⟨-, -, completedAt, -, startedAt, -, verifiedAt, -, ⟨⟨hmet, -⟩, -⟩, rfl⟩ := h
  exact ⟨hmet, rfl⟩

/-! ## Evidence of a completion -/

/-- What a completion of the leased task expects of its evidence. -/
def WorkerTaskRow.expectation (row : WorkerTaskRow) (input : ArtifactTaskCompleteRequest)
    (verifiedAt : Nat) : SupplierArtifactEvidenceExpectation where
  taskId := row.task.taskId
  providerId := row.offer.providerId
  requestedModel := row.task.model
  artifactId := row.task.artifactId
  artifactManifestSha256 := row.artifact.manifestSha256
  outputSha256 := sha256Hex input.output
  usage := input.usage
  requestStartedAt := .ofInstant (row.task.startedAt.getD row.task.createdAt)
  verifiedAt := .ofInstant verifiedAt

/-- The completion carries what the verification of the evidence returned for its task. -/
def ArtifactTaskCompleteRequest.Carries (input : ArtifactTaskCompleteRequest) (reads : Reads)
    (identity : AgentAuthorizationIdentity) (evidence : SupplierArtifactExecutionEvidence) : Prop :=
  ∃ row verifiedAt, requireLeasedTask reads identity input.taskId input.leaseToken = .ok row ∧
    verifySupplierArtifactEvidence (row.expectation input verifiedAt) evidence = .ok input.verified

/-- The recorded number of segments is the signed one. -/
theorem ArtifactTaskCompleteRequest.Carries.segments {input : ArtifactTaskCompleteRequest}
    {reads : Reads} {identity : AgentAuthorizationIdentity}
    {evidence : SupplierArtifactExecutionEvidence} (h : input.Carries reads identity evidence) :
    input.verified.segmentsCompleted = evidence.segmentsCompleted := by
  obtain ⟨row, verifiedAt, -, hverified⟩ := h
  rw [(verifySupplierArtifactEvidence_eq_ok hverified).2]
  rfl

end Server
end TokenStreaming
