import TokenStreaming.Server.InferenceStatements
import TokenStreaming.Server.AuthorizationLifecycle
import TokenStreaming.Server.Requests
import TokenStreaming.Domain.Settlement

/-!
# Control plane - Inference requests

{lit}`runInference` of {lit}`marketplace-service.ts`, split where it waits for the
database or the supplier's gateway: offer selection and reservation, dispatch,
settlement of the gateway's answer, and the failure path.

Main definitions:

- {lit}`selectOffer`: the cheapest live offer that fits the request.
- {lit}`reserveInference`, {lit}`settleInference`: what a run computes before its
  reservation and before its completion batch.
- {lit}`completionBatch`: the completion update and the inserts it guards.
-/

namespace TokenStreaming
namespace Server

open Relational Domain

/-! ## Requests and gateway results -/

/-- {lit}`RunInferenceRequest`. -/
structure RunInferenceRequest where
  model : String
  input : String
  dataClass : MarketplaceDataClass
  maxOutputTokens : Nat
  privacyMode : MarketplacePrivacyMode

/-- The token counts a gateway reports. -/
structure GatewayUsage where
  inputTokens : Nat
  outputTokens : Nat
  totalTokens : Nat

/-- {lit}`VerifiedGatewayServiceEvidence`, as far as it is recorded. -/
structure VerifiedServiceEvidence where
  providerId : String
  requestedModel : String
  servedModel : String
  providerRequestId : String
  evidenceDigest : String
  outputSha256 : Digest
  usage : GatewayUsage
  receiptRef : Option String
  completedAt : String

/-- What {lit}`callGateway` returns after it verified the node's evidence. -/
structure GatewayResult where
  output : String
  usage : GatewayUsage
  evidence : VerifiedServiceEvidence

/-! ## Offer selection -/

/-- The joined row of {lit}`selectOffer`. -/
structure SelectedOffer where
  offer : OfferRow
  supplier : SupplierRow
  authorization : AuthorizationRow

/-- The tokens an offer served in the last minute. -/
def recentTokens (db : MarketplaceDb) (offerId : String) (since : Nat) : Nat :=
  ((db.rows .usageRecords).map fun u =>
    if u.offerId = offerId ∧ since < u.occurredAt then u.totalTokens else 0).sum

/-- The {lit}`WHERE` of {lit}`selectOffer`. -/
def SelectedOffer.fits (db : MarketplaceDb) (buyerTenantId : String) (input : RunInferenceRequest)
    (now : Nat) (c : SelectedOffer) : Bool :=
  offerJoins c.offer c.supplier c.authorization && c.offer.status == .active &&
    c.offer.model == input.model && decide (c.offer.validFrom ≤ now) &&
    decide (now < c.offer.validUntil) && c.authorization.isValidAfter now &&
    c.offer.dataClasses.contains input.dataClass &&
    decide (input.maxOutputTokens ≤ c.offer.maxOutputTokens) && c.supplier.status == .active &&
    c.supplier.supplyEnabled && c.supplier.tenantId != buyerTenantId &&
    decide (recentTokens db c.offer.offerId (now - 60000) +
      (input.maxOutputTokens + input.input.utf8ByteSize) ≤ c.offer.tokensPerMinute)

/-- The join of offers, suppliers and authorizations. -/
def offerCandidates (db : MarketplaceDb) : List SelectedOffer :=
  (db.rows .capacityOffers).flatMap fun offer => (db.rows .suppliers).flatMap fun supplier =>
    (db.rows .authorizationRequests).map fun authorization => { offer, supplier, authorization }

def selectOffer (db : MarketplaceDb) (buyerTenantId : String) (input : RunInferenceRequest)
    (now : Nat) : Request SelectedOffer :=
  found (firstBy (fun a b => !cheaperOrOlder b.offer a.offer)
      ((offerCandidates db).filter (SelectedOffer.fits db buyerTenantId input now)))
    { code := "CAPACITY_UNAVAILABLE"
      message := "当前没有满足模型、数据等级和容量约束的在线报价。"
      status := 409
      retryable := true }

/-! ## Reservation -/

/-- The local variables {lit}`runInference` keeps after its reservation. -/
structure InferenceRun where
  identity : RequestIdentity
  input : RunInferenceRequest
  jobId : String
  selected : SelectedOffer
  estimatedInputTokens : Nat
  estimatedCharge : Nat
  inputCommitment : DigestCommitment
  now : Nat

/-- The row a reservation inserts. -/
def InferenceRun.row (run : InferenceRun) (idempotencyKey : String)
    (reservationExpiresAt : Nat) : InferenceJobRow where
  jobId := run.jobId
  buyerTenantId := run.identity.tenantId
  supplierTenantId := run.selected.supplier.tenantId
  offerId := run.selected.offer.offerId
  authorizationRequestId := some run.selected.offer.authorizationRequestId
  authorizationRevision := some run.selected.authorization.authorizationRevision
  idempotencyKey := idempotencyKey
  model := run.input.model
  dataClass := run.input.dataClass
  privacyMode := run.input.privacyMode
  promptDigest := run.inputCommitment.digest
  digestVersion := run.inputCommitment.version
  maxOutputTokens := run.input.maxOutputTokens
  reservedChargeMicros := run.estimatedCharge
  reservationExpiresAt := some reservationExpiresAt
  status := .reserved
  providerRequestId := none
  inputTokens := none
  outputTokens := none
  totalTokens := none
  chargeMicros := none
  outputCiphertext := none
  outputIv := none
  contentKeyVersion := 1
  outputExpiresAt := none
  contentPurgedAt := none
  errorCode := none
  createdAt := run.now
  completedAt := none

/-- What the reservation asks of its offer. -/
def InferenceRun.demand (run : InferenceRun) : OfferDemand where
  offerId := run.selected.offer.offerId
  authorizationRequestId := run.selected.offer.authorizationRequestId
  authorizationRevision := run.selected.authorization.authorizationRevision
  supplierTenantId := run.selected.supplier.tenantId
  buyerTenantId := run.identity.tenantId
  now := run.now

/-- The reservation statement of a run. -/
def reservationBatch (run : InferenceRun) (idempotencyKey : String)
    (reservationExpiresAt : Nat) : Batch :=
  [reserveInferenceJobSql (run.row idempotencyKey reservationExpiresAt) run.demand
    run.selected.offer.concurrency]

/-- The buyer already used the idempotency key for an inference. -/
def hasInference (db : MarketplaceDb) (tenantId idempotencyKey : String) : Bool :=
  (db.rows .inferenceJobs).any fun job =>
    job.buyerTenantId == tenantId && job.idempotencyKey == idempotencyKey

/-- {lit}`runInference` up to its reservation; {lit}`none` is a replay. -/
def reserveInference (reads : Reads) (policy : MarketplaceRuntimePolicy)
    (identity : RequestIdentity) (input : RunInferenceRequest) (idempotencyKey jobUuid : String) :
    Request (Option (InferenceRun × Batch)) :=
  if hasInference (reads 0) identity.tenantId idempotencyKey then .ok none
  else do
    let now := (reads 1).clock
    let selected ← selectOffer (reads 2) identity.tenantId input now
    demand (decide (0 < selected.authorization.authorizationRevision))
      { code := "INTERNAL_ERROR", message := "authorizationRevision 缺失或格式无效。", status := 500 }
    let estimatedInputTokens := max 1 input.input.utf8ByteSize
    let estimatedCharge ← uncaught (estimateMaximumChargeMicros (estimatedInputTokens + 256)
      input.maxOutputTokens selected.offer.priceMicrosPerMillionTokens)
    let jobId := "job-" ++ jobUuid
    let inputCommitment := createDigestCommitment (sha256Hex input.input)
      { purpose := "prompt", tenantId := identity.tenantId, resourceId := jobId }
    let run : InferenceRun :=
      { identity, input, jobId, selected, estimatedInputTokens, estimatedCharge
        inputCommitment, now }
    let reservationExpiresAt :=
      (reads 3).clock + policy.inferenceReservationTimeoutSeconds * 1000
    pure (some (run, reservationBatch run idempotencyKey reservationExpiresAt))

/-! ## Dispatch and failure -/

/-- The dispatch statement of a run. -/
def dispatchBatch (run : InferenceRun) : Batch :=
  [startInferenceJobSql run.jobId run.now]

/-- The failure statement of a run. -/
def failureBatch (run : InferenceRun) (code : String) (now : Nat) : Batch :=
  [failInferenceJobSql run.jobId code now]

/-! ## Settlement -/

/-- Everything the completion batch of a run writes. -/
structure InferenceSettlement where
  run : InferenceRun
  result : GatewayResult
  amounts : SettlementAmounts
  outputIv : String
  completedAt : Nat
  outputExpiresAt : Nat

/-- The fresh ids of a completion batch. -/
structure CompletionUuids where
  usage : String
  evidence : String
  debit : String
  credit : String
  audit : String
  fee : String

/-- The values the completion update writes. -/
def InferenceSettlement.completion (s : InferenceSettlement) : InferenceCompletion where
  jobId := s.run.jobId
  buyerTenantId := s.run.identity.tenantId
  providerRequestId := s.result.evidence.providerRequestId
  inputTokens := s.result.usage.inputTokens
  outputTokens := s.result.usage.outputTokens
  totalTokens := s.result.usage.totalTokens
  chargeMicros := s.amounts.buyerChargeMicros
  outputCiphertext := encryptContent s.outputIv s.result.output
    { purpose := "inference-output"
      tenantId := s.run.identity.tenantId
      resourceId := s.run.jobId }
  outputIv := s.outputIv
  contentKeyVersion := contentKeyVersion
  outputExpiresAt := s.outputExpiresAt
  completedAt := s.completedAt

/-- The usage record of a settlement. -/
def InferenceSettlement.usageRow (s : InferenceSettlement) (uuid : String) : UsageRow where
  usageId := "usage-" ++ uuid
  jobId := s.run.jobId
  buyerTenantId := s.run.identity.tenantId
  supplierTenantId := s.run.selected.supplier.tenantId
  offerId := s.run.selected.offer.offerId
  providerRequestId := s.result.evidence.providerRequestId
  inputTokens := s.result.usage.inputTokens
  outputTokens := s.result.usage.outputTokens
  totalTokens := s.result.usage.totalTokens
  receiptRef := s.result.evidence.receiptRef
  occurredAt := s.completedAt

/-- The evidence row of a settlement. -/
def InferenceSettlement.evidenceRow (s : InferenceSettlement) (uuid : String) :
    ServiceEvidenceRow where
  evidenceId := "evidence-" ++ uuid
  jobId := s.run.jobId
  offerId := s.run.selected.offer.offerId
  providerId := s.result.evidence.providerId
  requestedModel := s.result.evidence.requestedModel
  servedModel := s.result.evidence.servedModel
  providerRequestId := s.result.evidence.providerRequestId
  evidenceDigest := s.result.evidence.evidenceDigest
  inputDigest := s.run.inputCommitment.digest
  outputDigest := (createDigestCommitment s.result.evidence.outputSha256
    { purpose := "inference-output"
      tenantId := s.run.identity.tenantId
      resourceId := s.run.jobId }).digest
  digestVersion := s.run.inputCommitment.version
  inputTokens := s.result.evidence.usage.inputTokens
  outputTokens := s.result.evidence.usage.outputTokens
  totalTokens := s.result.evidence.usage.totalTokens
  unitPriceMicrosPerMillionTokens := s.run.selected.offer.priceMicrosPerMillionTokens
  buyerChargeMicros := s.amounts.buyerChargeMicros
  supplierCreditMicros := s.amounts.supplierCreditMicros
  platformFeeMicros := s.amounts.platformFeeMicros
  receiptRef := s.result.evidence.receiptRef
  providerCompletedAt := s.result.evidence.completedAt
  recordedAt := s.completedAt

/-- The three settlement entries of a job or task. -/
structure SettlementParties where
  jobId : String
  buyerTenantId : String
  supplierTenantId : String
  createdAt : Nat

def SettlementParties.debit (p : SettlementParties) (uuid : String) (amountMicros : Nat) :
    LedgerEntryRow where
  entryId := "ledger-" ++ uuid
  tenantId := p.buyerTenantId
  accountId := "buyer-" ++ p.buyerTenantId
  jobId := some p.jobId
  entryType := .inferenceDebit
  direction := .debit
  amountMicros := amountMicros
  createdAt := p.createdAt

def SettlementParties.credit (p : SettlementParties) (uuid : String) (amountMicros : Nat) :
    LedgerEntryRow where
  entryId := "ledger-" ++ uuid
  tenantId := p.supplierTenantId
  accountId := "supplier-" ++ p.supplierTenantId
  jobId := some p.jobId
  entryType := .supplierCredit
  direction := .credit
  amountMicros := amountMicros
  createdAt := p.createdAt

def SettlementParties.fee (p : SettlementParties) (uuid : String) (amountMicros : Nat) :
    LedgerEntryRow where
  entryId := "ledger-" ++ uuid
  tenantId := "platform"
  accountId := "platform-fees"
  jobId := some p.jobId
  entryType := .platformFee
  direction := .credit
  amountMicros := amountMicros
  createdAt := p.createdAt

/-- The parties of an inference settlement. -/
def InferenceSettlement.parties (s : InferenceSettlement) : SettlementParties where
  jobId := s.run.jobId
  buyerTenantId := s.run.identity.tenantId
  supplierTenantId := s.run.selected.supplier.tenantId
  createdAt := s.completedAt

/-- The audit row of a settlement. -/
def InferenceSettlement.auditRow (s : InferenceSettlement) (uuid : String) : AuditEventRow where
  auditId := "audit-" ++ uuid
  tenantId := s.run.identity.tenantId
  actorId := s.run.identity.actorId
  action := "inference.completed"
  resourceType := "inference-job"
  resourceId := s.run.jobId
  occurredAt := s.completedAt

/-- A ledger insert guarded by this settlement's evidence. -/
def InferenceSettlement.ledgerInsert (s : InferenceSettlement) (entry : LedgerEntryRow) :
    MarketplaceStatement :=
  guardedInferenceLedgerInsert entry s.run.jobId s.result.evidence.evidenceDigest

/-- The statements of a completion; a fee of zero writes no entry. -/
def completionBatch (s : InferenceSettlement) (uuids : CompletionUuids) : Batch :=
  [completeInferenceJobSql s.completion,
    guardedInferenceUsageInsert (s.usageRow uuids.usage) s.completedAt,
    guardedServiceEvidenceInsert (s.evidenceRow uuids.evidence),
    s.ledgerInsert (s.parties.debit uuids.debit s.amounts.buyerChargeMicros),
    s.ledgerInsert (s.parties.credit uuids.credit s.amounts.supplierCreditMicros),
    guardedInferenceAuditInsert (s.auditRow uuids.audit) s.run.jobId
      s.result.evidence.evidenceDigest] ++
  if s.amounts.platformFeeMicros = 0 then []
  else [s.ledgerInsert (s.parties.fee uuids.fee s.amounts.platformFeeMicros)]

/-- The error of a gateway that reports more than the reservation covers. -/
def gatewayFailed (message : String) : ApiError where
  code := "GATEWAY_FAILED"
  message := message
  status := 502

/-- {lit}`runInference` between the gateway's answer and the completion batch. -/
def settleInference (reads : Reads) (keyrings : ResolvedKeyring)
    (policy : MarketplaceRuntimePolicy) (run : InferenceRun) (result : GatewayResult)
    (outputIv : String) : Request InferenceSettlement := do
  let _token ← found (decryptCredential keyrings run.selected.authorization.credential
      { tenantId := run.selected.offer.tenantId
        authorizationRequestId := run.selected.offer.authorizationRequestId })
    internalError
  demand (decide (result.usage.inputTokens ≤ run.estimatedInputTokens + 256))
    (gatewayFailed "供应网关返回了超出请求边界的输入计量。")
  demand (decide (result.usage.outputTokens ≤ run.input.maxOutputTokens))
    (gatewayFailed "供应网关返回了超出约定上限的输出计量。")
  let amounts ← uncaught (calculateSettlement
    { totalTokens := result.usage.totalTokens
      priceMicrosPerMillionTokens := run.selected.offer.priceMicrosPerMillionTokens
      platformFeeBps := policy.platformFeeBps })
  demand (decide (amounts.buyerChargeMicros ≤ run.estimatedCharge))
    (gatewayFailed "最终计量超过请求预留上限，平台已阻止记账。")
  pure
    { run, result, amounts, outputIv
      completedAt := (reads 0).clock
      outputExpiresAt := (reads 1).clock + policy.outputRetention run.input.privacyMode }

/-! ## Sweeps -/

/-- {lit}`cleanupStaleInferenceReservations`. -/
def cleanupStaleInferenceReservations (policy : MarketplaceRuntimePolicy) (now : Nat) : Batch :=
  [expireInferenceReservationsSql now (now - policy.inferenceReservationTimeoutSeconds * 1000)]

/-- {lit}`cleanupExpiredInferenceContent`. -/
def cleanupExpiredInferenceContent (now : Nat) : Batch :=
  [purgeExpiredInferenceOutputsSql now]

end Server
end TokenStreaming
