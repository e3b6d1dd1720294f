import TokenStreaming.Server.ReviewInvariants

/-!
# Control plane - Inference statements

The statements {lit}`marketplace-service.ts` writes inline around an inference
job: dispatch, failure, timeouts and the guarded inserts that follow a
completion, together with the account, supply and audit statements of the same
file.

Main definitions:

- {lit}`startInferenceJobSql`: the step from {lit}`reserved` to {lit}`running`.
- {lit}`expireInferenceReservationsSql`: the release of stale reservations.
- {lit}`guardedInferenceLedgerInsert`: a settlement entry, conditional on the
  execution evidence.
-/

namespace TokenStreaming
namespace Server

open Relational Domain

/-! ## Life of an inference job -/

/-- The dispatch update of {lit}`runInference`. -/
def startInferenceJobSql (jobId : String) (now : Nat) : MarketplaceStatement :=
  .update .inferenceJobs
    (fun _ job =>
      job.jobId == jobId && job.status == .reserved && isAfter job.reservationExpiresAt now)
    fun _ job => { job with status := .running }

/-- The failure update in the {lit}`catch` of {lit}`runInference`. -/
def failInferenceJobSql (jobId code : String) (now : Nat) : MarketplaceStatement :=
  .update .inferenceJobs
    (fun _ job => job.jobId == jobId && job.status.isActive)
    fun _ job =>
      { job with
        status := .failed
        reservationExpiresAt := none
        errorCode := some code
        completedAt := some now }

/-- {lit}`cleanupStaleInferenceReservations`, also part of the maintenance batch. -/
def expireInferenceReservationsSql (now legacyReservationCutoff : Nat) : MarketplaceStatement :=
  .update .inferenceJobs
    (fun _ job =>
      job.status.isActive &&
        (isAtOrBefore job.reservationExpiresAt now ||
          (job.reservationExpiresAt.isNone && decide (job.createdAt ≤ legacyReservationCutoff))))
    fun _ job =>
      { job with
        status := .failed
        reservationExpiresAt := none
        errorCode := some "EXECUTION_TIMEOUT"
        completedAt := some now }

/-- The output columns of a job cleared. -/
def InferenceJobRow.purged (job : InferenceJobRow) (purgedAt : Nat) : InferenceJobRow :=
  { job with
    outputCiphertext := none
    outputIv := none
    outputExpiresAt := none
    contentPurgedAt := some (job.contentPurgedAt.getD purgedAt) }

/-- {lit}`cleanupExpiredInferenceContent`, also part of the maintenance batch. -/
def purgeExpiredInferenceOutputsSql (now : Nat) : MarketplaceStatement :=
  .update .inferenceJobs (fun _ job => isAtOrBefore job.outputExpiresAt now)
    fun _ job => job.purged now

/-- The purge of one job's output on its buyer's request. -/
def purgeInferenceOutputSql (jobId buyerTenantId : String) (now : Nat) : MarketplaceStatement :=
  .update .inferenceJobs
    (fun _ job =>
      job.jobId == jobId && job.buyerTenantId == buyerTenantId && job.contentPurgedAt.isNone)
    fun _ job => job.purged now

/-! ## Inserts guarded by a completion -/

/-- The usage record of a completed job. -/
def guardedInferenceUsageInsert (usage : UsageRow) (completedAt : Nat) : MarketplaceStatement :=
  .insert .usageRecords fun db =>
    if (db.rows .inferenceJobs).any (fun job =>
        job.jobId == usage.jobId && job.status == .completed &&
          job.completedAt == some completedAt) then
      [usage]
    else []

/-- The execution evidence of a completed job. -/
def guardedServiceEvidenceInsert (evidence : ServiceEvidenceRow) : MarketplaceStatement :=
  .insert .serviceEvidence fun db =>
    if (db.rows .inferenceJobs).any (fun job =>
        job.jobId == evidence.jobId && job.status == .completed &&
          job.completedAt == some evidence.recordedAt &&
          job.chargeMicros == some evidence.buyerChargeMicros) then
      [evidence]
    else []

/-- The evidence of the job with this digest is stored. -/
def hasServiceEvidence (db : MarketplaceDb) (jobId evidenceDigest : String) : Bool :=
  (db.rows .serviceEvidence).any fun e => e.jobId == jobId && e.evidenceDigest == evidenceDigest

/-- {lit}`guardedInferenceLedgerInsert`. -/
def guardedInferenceLedgerInsert (entry : LedgerEntryRow) (jobId evidenceDigest : String) :
    MarketplaceStatement :=
  .insertOrIgnore .ledgerEntries fun db =>
    if hasServiceEvidence db jobId evidenceDigest then [entry] else []

/-- {lit}`guardedInferenceAuditInsert`. -/
def guardedInferenceAuditInsert (audit : AuditEventRow) (jobId evidenceDigest : String) :
    MarketplaceStatement :=
  .insert .auditEvents fun db =>
    if hasServiceEvidence db jobId evidenceDigest then [audit] else []

/-! ## Accounts, audits and supply -/

/-- {lit}`auditInsert`. -/
def auditInsert (audit : AuditEventRow) : MarketplaceStatement :=
  .insert .auditEvents fun _ => [audit]

/-- An audit of an offer's publication. -/
def guardedCapacityOfferAuditInsert (audit : AuditEventRow) (offerId tenantId : String) :
    MarketplaceStatement :=
  .insert .auditEvents fun db =>
    if (db.rows .capacityOffers).any fun o => o.offerId == offerId && o.tenantId == tenantId then
      [audit]
    else []

/-- The account row of {lit}`ensureUser`, free of profile data. -/
def userRow (userId : String) (now : Nat) : UserRow where
  userId := userId
  email := "redacted@identity.invalid"
  displayName := "平台成员"
  createdAt := now
  updatedAt := now

def insertUserSql (userId : String) (now : Nat) : MarketplaceStatement :=
  .insertOrIgnore .users fun _ => [userRow userId now]

def scrubUserSql (userId : String) (now : Nat) : MarketplaceStatement :=
  .update .users (fun _ u => u.userId == userId) fun _ u =>
    { userRow userId now with createdAt := u.createdAt }

/-- The maintenance sweep over profile data. -/
def scrubUsersSql (now : Nat) : MarketplaceStatement :=
  .update .users
    (fun _ u => u.email != "redacted@identity.invalid" || u.displayName != "平台成员")
    fun _ u => { userRow u.userId now with createdAt := u.createdAt }

/-- The promotional credit of {lit}`ensureUser`. -/
def welcomeEntry (tenantId : String) (welcomeCreditMicros now : Nat) : LedgerEntryRow where
  entryId := "welcome-" ++ tenantId
  tenantId := tenantId
  accountId := "buyer-" ++ tenantId
  jobId := none
  entryType := .promotionalCredit
  direction := .credit
  amountMicros := welcomeCreditMicros
  createdAt := now

def insertWelcomeCreditSql (tenantId : String) (welcomeCreditMicros now : Nat) :
    MarketplaceStatement :=
  .insertOrIgnore .ledgerEntries fun _ => [welcomeEntry tenantId welcomeCreditMicros now]

def insertSupplierSql (supplier : SupplierRow) : MarketplaceStatement :=
  .insert .suppliers fun _ => [supplier]

/-- {lit}`eventInsert` of a supplier event. -/
def eventInsert (event : SupplierEvent) : MarketplaceStatement :=
  .insert .marketplaceEvents fun _ => [EventRow.ofSupplierEvent event]

def insertAuthorizationRequestSql (request : AuthorizationRow) : MarketplaceStatement :=
  .insert .authorizationRequests fun _ => [request]

/-- Some authorization of the supplier is live. -/
def hasLiveAuthorization (db : MarketplaceDb) (tenantId supplierId : String) (now : Nat) : Bool :=
  (db.rows .authorizationRequests).any fun r =>
    r.tenantId == tenantId && r.supplierId == supplierId && r.status == .approved &&
      r.isValidAfter now && r.hasCredential

/-- The supply switch of {lit}`setSupplyState`. -/
def setSupplySql (supplierId tenantId : String) (enabled : Bool) (now : Nat) :
    MarketplaceStatement :=
  .update .suppliers
    (fun db s =>
      s.supplierId == supplierId && s.tenantId == tenantId &&
        (!enabled || hasLiveAuthorization db tenantId supplierId now))
    fun _ s => { s with supplyEnabled := enabled, updatedAt := now }

/-- The supplier's switch stands as requested. -/
def supplyStandsAt (db : MarketplaceDb) (supplierId tenantId : String) (enabled : Bool) : Bool :=
  (db.rows .suppliers).any fun s =>
    s.supplierId == supplierId && s.tenantId == tenantId && s.supplyEnabled == enabled

def guardedSupplyAuditInsert (audit : AuditEventRow) (supplierId : String) (enabled : Bool) :
    MarketplaceStatement :=
  .insert .auditEvents fun db =>
    if supplyStandsAt db supplierId audit.tenantId enabled then [audit] else []

def guardedSupplyIdempotencyInsert (tenantId commandId supplierId : String) (enabled : Bool)
    (now : Nat) : MarketplaceStatement :=
  .insert .idempotencyKeys fun db =>
    if supplyStandsAt db supplierId tenantId enabled then
      [{ tenantId
         operation := "supply.set"
         idempotencyKey := commandId
         resourceId := supplierId
         createdAt := now }]
    else []

/-- The maintenance sweep over worker heartbeats. -/
def deleteExpiredWorkersSql (now : Nat) : MarketplaceStatement :=
  .delete .supplierArtifactWorkers fun _ w => decide (w.expiresAt ≤ now)

end Server
end TokenStreaming
