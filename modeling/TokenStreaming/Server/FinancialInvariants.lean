import TokenStreaming.Server.Schema
import Mathlib.Algebra.Order.Ring.Int

/-!
# Control plane - Balance and settlement gates

The single-statement write gates of {lit}`financial-invariants.ts`: reservations
of inference jobs and artifact tasks, and the completions that turn a
reservation into a charge.  Each gate compares a tenant's ledger balance, less
what its unfinished work still holds, with the amount it is about to bind.

Main definitions:

- {lit}`availableBalance`: the balance expression all gates share.
- {lit}`reserveInferenceJobSql`, {lit}`reserveArtifactTaskSql`: reservations.
- {lit}`completeInferenceJobSql`, {lit}`completeArtifactTaskSql`: completions.
-/

namespace TokenStreaming
namespace Server

open Relational Domain

/-! ## Balances -/

/-- {lit}`status IN ('reserved', 'running')`. -/
def InferenceJobStatus.isActive (status : InferenceJobStatus) : Bool :=
  status == .reserved || status == .running

/-- What a ledger entry adds to the balance of a tenant. -/
def LedgerEntryRow.signedFor (tenantId : String) (entry : LedgerEntryRow) : Int :=
  if entry.tenantId = tenantId then
    if entry.direction = .credit then entry.amountMicros else -entry.amountMicros
  else 0

/-- What an inference job holds of the balance of a tenant. -/
def InferenceJobRow.heldFor (tenantId : String) (job : InferenceJobRow) : Nat :=
  if job.buyerTenantId = tenantId ∧ job.status.isActive = true then job.reservedChargeMicros else 0

/-- What an artifact task holds of the balance of a tenant. -/
def ArtifactTaskRow.heldFor (tenantId : String) (task : ArtifactTaskRow) : Nat :=
  if task.buyerTenantId = tenantId ∧ task.status.holdsReservation = true then
    task.reservedChargeMicros
  else 0

/-- The credits of a tenant less its debits. -/
def ledgerBalance (db : MarketplaceDb) (tenantId : String) : Int :=
  ((db.rows .ledgerEntries).map (LedgerEntryRow.signedFor tenantId)).sum

/-- The sum of {lit}`reserved_charge_micros` over a tenant's active inference jobs. -/
def heldByInference (db : MarketplaceDb) (tenantId : String) : Nat :=
  ((db.rows .inferenceJobs).map (InferenceJobRow.heldFor tenantId)).sum

/-- The sum of {lit}`reserved_charge_micros` over a tenant's unfinished artifact tasks. -/
def heldByArtifacts (db : MarketplaceDb) (tenantId : String) : Nat :=
  ((db.rows .artifactTasks).map (ArtifactTaskRow.heldFor tenantId)).sum

/-- {lit}`AVAILABLE_BALANCE_SQL`. -/
def availableBalance (db : MarketplaceDb) (tenantId : String) : Int :=
  ledgerBalance db tenantId - heldByInference db tenantId - heldByArtifacts db tenantId

/-- {lit}`heldByInference` without one job. -/
def heldByOtherInference (db : MarketplaceDb) (tenantId jobId : String) : Nat :=
  ((db.rows .inferenceJobs).map fun job =>
    if job.jobId = jobId then 0 else job.heldFor tenantId).sum

/-- {lit}`heldByArtifacts` without one task. -/
def heldByOtherArtifacts (db : MarketplaceDb) (tenantId taskId : String) : Nat :=
  ((db.rows .artifactTasks).map fun task =>
    if task.taskId = taskId then 0 else task.heldFor tenantId).sum

/-! ## Offers and capacity -/

/-- The offer, supplier and authorization of the reservation gates' join agree. -/
def offerJoins (o : OfferRow) (s : SupplierRow) (ar : AuthorizationRow) : Bool :=
  s.supplierId == o.supplierId && s.tenantId == o.tenantId &&
    ar.requestId == o.authorizationRequestId && ar.status == .approved

/-- The credential columns are all present. -/
def AuthorizationRow.hasCredential (ar : AuthorizationRow) : Bool :=
  ar.encryptedGatewayToken != .cleared && ar.gatewayTokenIv != "" && ar.gatewayTokenDigest.isSome

/-- What the reservation gates ask of an offer. -/
structure OfferDemand where
  offerId : String
  authorizationRequestId : String
  authorizationRevision : Nat
  supplierTenantId : String
  buyerTenantId : String
  now : Nat

/-- The {lit}`EXISTS` over offers, suppliers and authorizations of both reservation gates. -/
def offerAdmits (db : MarketplaceDb) (d : OfferDemand) : Bool :=
  (db.rows .capacityOffers).any fun o => (db.rows .suppliers).any fun s =>
    (db.rows .authorizationRequests).any fun ar =>
      offerJoins o s ar && o.offerId == d.offerId &&
        o.authorizationRequestId == d.authorizationRequestId &&
        ar.tenantId == o.tenantId && ar.supplierId == o.supplierId &&
        ar.providerId == o.providerId && ar.authorizationRevision == d.authorizationRevision &&
        ar.hasCredential && o.tenantId == d.supplierTenantId && o.tenantId != d.buyerTenantId &&
        o.status == .active && decide (o.validFrom ≤ d.now) && decide (d.now < o.validUntil) &&
        ar.isValidAfter d.now && s.status == .active && s.supplyEnabled

/-- The inference jobs of an offer in {lit}`reserved` or {lit}`running`. -/
def activeInference (db : MarketplaceDb) (offerId : String) : Nat :=
  (db.rows .inferenceJobs).countP fun job => job.offerId == offerId && job.status.isActive

/-- The artifact tasks of an offer in {lit}`claimed` or {lit}`running`. -/
def activeArtifacts (db : MarketplaceDb) (offerId : String) : Nat :=
  (db.rows .artifactTasks).countP fun task => task.offerId == offerId && task.status.isLeased

/-! ## Reservations -/

/-- {lit}`RESERVE_INFERENCE_JOB_SQL`; the demand's offer and tenants are the job's own. -/
def reserveInferenceJobSql (job : InferenceJobRow) (d : OfferDemand) (concurrency : Nat) :
    MarketplaceStatement :=
  .insertOrIgnore .inferenceJobs fun db =>
    if decide ((job.reservedChargeMicros : Int) ≤ availableBalance db job.buyerTenantId) &&
        offerAdmits db d &&
        decide (activeInference db job.offerId + activeArtifacts db job.offerId < concurrency) then
      [job]
    else []

/-- The artifact is complete, present and unexpired. -/
def artifactIsUsable (db : MarketplaceDb) (artifactId tenantId : String) (now : Nat) : Bool :=
  (db.rows .artifacts).any fun a =>
    a.artifactId == artifactId && a.tenantId == tenantId && a.status == .ready &&
      a.contentPurgedAt.isNone && decide (now < a.expiresAt)

/-- The unfinished artifact tasks of a buyer. -/
def unfinishedTasks (db : MarketplaceDb) (buyerTenantId : String) : Nat :=
  (db.rows .artifactTasks).countP fun task =>
    task.buyerTenantId == buyerTenantId && task.status.holdsReservation

/-- {lit}`RESERVE_ARTIFACT_TASK_SQL`. -/
def reserveArtifactTaskSql (task : ArtifactTaskRow) (d : OfferDemand) (maximumActiveTasks : Nat) :
    MarketplaceStatement :=
  .insertOrIgnore .artifactTasks fun db =>
    if artifactIsUsable db task.artifactId task.buyerTenantId d.now &&
        offerAdmits db d &&
        decide (unfinishedTasks db task.buyerTenantId < maximumActiveTasks) &&
        decide ((task.reservedChargeMicros : Int) ≤ availableBalance db task.buyerTenantId) then
      [task]
    else []

/-! ## Completions -/

/-- The values a completed inference job records. -/
structure InferenceCompletion where
  jobId : String
  buyerTenantId : String
  providerRequestId : String
  inputTokens : Nat
  outputTokens : Nat
  totalTokens : Nat
  chargeMicros : Nat
  outputCiphertext : Ciphertext
  outputIv : String
  contentKeyVersion : Nat
  outputExpiresAt : Nat
  completedAt : Nat

/-- The {lit}`SET` list of {lit}`COMPLETE_INFERENCE_JOB_SQL`. -/
def InferenceCompletion.record (c : InferenceCompletion) (job : InferenceJobRow) :
    InferenceJobRow :=
  { job with
    status := .completed
    providerRequestId := some c.providerRequestId
    inputTokens := some c.inputTokens
    outputTokens := some c.outputTokens
    totalTokens := some c.totalTokens
    chargeMicros := some c.chargeMicros
    outputCiphertext := some c.outputCiphertext
    outputIv := some c.outputIv
    contentKeyVersion := c.contentKeyVersion
    outputExpiresAt := some c.outputExpiresAt
    reservationExpiresAt := none
    completedAt := some c.completedAt }

/-- The {lit}`WHERE` of {lit}`COMPLETE_INFERENCE_JOB_SQL`; the balance leaves out the job's own
reservation. -/
def InferenceCompletion.admits (c : InferenceCompletion) (db : MarketplaceDb)
    (job : InferenceJobRow) : Bool :=
  job.jobId == c.jobId && job.status == .running && isAfter job.reservationExpiresAt db.clock &&
    decide (c.chargeMicros ≤ job.reservedChargeMicros) &&
    decide ((c.chargeMicros : Int) ≤
      ledgerBalance db c.buyerTenantId - heldByOtherInference db c.buyerTenantId c.jobId -
        heldByArtifacts db c.buyerTenantId)

/-- {lit}`COMPLETE_INFERENCE_JOB_SQL`. -/
def completeInferenceJobSql (c : InferenceCompletion) : MarketplaceStatement :=
  .update .inferenceJobs c.admits fun _ job => c.record job

/-- The checkpoint and lease a completion of an artifact task was computed from. -/
structure ArtifactCheckpointView where
  attempt : Nat
  completedSegments : Nat
  totalSegments : Option Nat
  processedBytes : Nat
  inputTokens : Option Nat
  outputTokens : Option Nat
  totalTokens : Option Nat

/-- {lit}`column = ?` for a nullable column and a nullable parameter. -/
def sqlEquals {α : Type} [BEq α] (column parameter : Option α) : Bool :=
  column.isSome && column == parameter

/-- The task still stands at the checkpoint. -/
def ArtifactCheckpointView.isCurrent (v : ArtifactCheckpointView) (task : ArtifactTaskRow) : Bool :=
  task.attempt == v.attempt && task.completedSegments == v.completedSegments &&
    sqlEquals task.totalSegments v.totalSegments && task.processedBytes == v.processedBytes &&
    sqlEquals task.inputTokens v.inputTokens && sqlEquals task.outputTokens v.outputTokens &&
    sqlEquals task.totalTokens v.totalTokens

/-- The values a completed artifact task records. -/
structure ArtifactCompletion where
  taskId : String
  buyerTenantId : String
  supplierTenantId : String
  leaseDigest : Digest
  checkpoint : ArtifactCheckpointView
  inputTokens : Nat
  outputTokens : Nat
  totalTokens : Nat
  chargeMicros : Nat
  outputCiphertext : Ciphertext
  outputIv : String
  contentKeyVersion : Nat
  outputExpiresAt : Nat
  now : Nat

/-- The {lit}`SET` list of {lit}`COMPLETE_ARTIFACT_TASK_SQL`. -/
def ArtifactCompletion.record (c : ArtifactCompletion) (task : ArtifactTaskRow) :
    ArtifactTaskRow :=
  { task with
    status := .completed
    inputTokens := some c.inputTokens
    outputTokens := some c.outputTokens
    totalTokens := some c.totalTokens
    chargeMicros := some c.chargeMicros
    outputCiphertext := some c.outputCiphertext
    outputIv := some c.outputIv
    contentKeyVersion := c.contentKeyVersion
    outputExpiresAt := some c.outputExpiresAt
    instructionCiphertext := .cleared
    instructionIv := ""
    leaseDigest := none
    leaseExpiresAt := none
    executionDeadlineAt := none
    completedAt := some c.now
    updatedAt := c.now }

/-- The presented lease is the task's and neither it nor the deadline has passed. -/
def ArtifactTaskRow.isHeldWith (task : ArtifactTaskRow) (supplierTenantId : String)
    (leaseDigest : Digest) (clock : Nat) : Bool :=
  task.supplierTenantId == supplierTenantId && task.leaseDigest == some leaseDigest &&
    task.status.isLeased && task.cancellationRequestedAt.isNone &&
    isAfter task.leaseExpiresAt clock && isAfter task.executionDeadlineAt clock

/-- The {lit}`WHERE` of {lit}`COMPLETE_ARTIFACT_TASK_SQL`; the balance leaves out the task's own
reservation. -/
def ArtifactCompletion.admits (c : ArtifactCompletion) (db : MarketplaceDb)
    (task : ArtifactTaskRow) : Bool :=
  task.taskId == c.taskId && task.isHeldWith c.supplierTenantId c.leaseDigest db.clock &&
    c.checkpoint.isCurrent task &&
    decide (c.chargeMicros ≤ task.reservedChargeMicros) &&
    decide ((c.chargeMicros : Int) ≤
      ledgerBalance db c.buyerTenantId - heldByInference db c.buyerTenantId -
        heldByOtherArtifacts db c.buyerTenantId c.taskId)

/-- {lit}`COMPLETE_ARTIFACT_TASK_SQL`. -/
def completeArtifactTaskSql (c : ArtifactCompletion) : MarketplaceStatement :=
  .update .artifactTasks c.admits fun _ task => c.record task

end Server
end TokenStreaming
