import TokenStreaming.Server.ControlPlane

/-!
# Control plane - Inventory of statements and batches

Every statement the control plane can send, table by table, and every batch in
which several statements depend on each other.  Invariants are proved by cases
over this inventory instead of over the service functions.

{lit}`Routine` lists the statements that stand on their own, {lit}`Commanded` adds the
members of the review and lifecycle batches and {lit}`Issued` those of completions;
{lit}`Command` and {lit}`Sent` classify whole batches in the same way.

Main results:

- Theorem {lit}`Sent.issued`: the statements of a sent batch are issued.
- Theorem {lit}`ServiceRequest.batch_sent`: every request sends a classified batch.
- Theorem {lit}`step_stepped`: every step idles, moves the clock or commits a sent batch.
-/

namespace TokenStreaming
namespace Server

open Relational Domain TransitionSystem

/-! ## Observed rows -/

/-- A row that some read of a request may have returned. -/
def World.observed (w : World) (t : MarketplaceTable) (row : MarketplaceRow t) : Prop :=
  ∃ snap ∈ w.snapshots, row ∈ snap.rows t

/-- The clock some read of a request may have returned. -/
def World.observedClock (w : World) (now : Nat) : Prop :=
  ∃ snap ∈ w.snapshots, now = snap.clock

/-- What the holder of a lease read before it reported on its task. -/
structure LeaseRead (w : World) (taskId : String) (leaseDigest : Digest)
    (row : ArtifactTaskRow) : Prop where
  observed : w.observed .artifactTasks row
  sameTask : row.taskId = taskId
  digest : row.leaseDigest = some leaseDigest

/-- The lease of a claim: its token is newly drawn and it ends with the deadline. -/
structure ClaimOf (w : World) (c : TaskClaim) (leaseToken : String) : Prop where
  isNew : leaseToken ∉ w.drawn
  digest : c.leaseDigest = sha256Hex leaseToken
  lease : c.leaseExpiresAt ≤ c.executionDeadlineAt

/-- What a claim was computed from. -/
structure ClaimsCandidate (reads : Reads) (identity : AgentAuthorizationIdentity)
    (input : ArtifactTaskClaimRequest) (c : TaskClaim) (candidate : WorkerTaskRow) : Prop where
  found : claimCandidate reads identity input = some candidate
  sameTask : c.taskId = candidate.task.taskId
  worker : c.workerId = input.workerId
  resume : c.resumeFromSegment =
    if candidate.task.workerId = some input.workerId then candidate.task.completedSegments else 0

/-- The checkpoint writes what the lease holder reported. -/
structure TaskCheckpoint.Reports (c : TaskCheckpoint) (input : ArtifactTaskCheckpointRequest) :
    Prop where
  sameTask : c.taskId = input.taskId
  digest : c.leaseDigest = sha256Hex input.leaseToken
  segments : c.completedSegments = input.completedSegments ∧ c.totalSegments = input.totalSegments
  bytes : c.processedBytes = input.processedBytes
  tokens : c.inputTokens = input.usage.inputTokens ∧ c.outputTokens = input.usage.outputTokens ∧
    c.totalTokens = input.usage.totalTokens

/-! ## Statements -/

/-- Tables whose contents no rule below constrains. -/
def freeTables : List MarketplaceTable :=
  [.users, .artifacts, .artifactChunks, .artifactObjectDeletions, .supplierArtifactWorkers,
    .artifactTaskCheckpoints]

/-- The operations of the commands on authorization requests. -/
def authorizationOperations : List String :=
  ["authorization.review", "authorization.withdraw", "authorization.revoke",
    "authorization.rotate-credential"]

/-- The row of a submission: pending, unreviewed, sealed and indexed under one token. -/
structure Submitted (w : World) (row : AuthorizationRow) : Prop where
  isNew : ∃ uuid, uuid ∉ w.drawn ∧ isPlain uuid = true ∧
    row.requestId = "authorization-request-" ++ uuid
  status : row.status = .pending
  revision : row.authorizationRevision = 1
  reviewCommandId : row.reviewCommandId = none
  accepted : ∃ input now, validateAuthorizationInput input now = .ok () ∧ input.Describes row
  token : ∃ token, row.encryptedGatewayToken.plaintext? = some token ∧
    row.storedLookup = some (createCredentialLookupDigest w.deployment.keyrings.credentialLookup
      token)

/-- The statements that stand on their own, with the table each writes. -/
inductive Routine (w : World) : MarketplaceTable → MarketplaceStatement → Prop
  | free {t : MarketplaceTable} {s : MarketplaceStatement} (ht : s.table = t)
      (h : freeTables.contains t = true) : Routine w t s
  | audit (values : MarketplaceDb → List AuditEventRow) :
      Routine w .auditEvents (.insert .auditEvents values)
  | auditOrIgnore (values : MarketplaceDb → List AuditEventRow) :
      Routine w .auditEvents (.insertOrIgnore .auditEvents values)
  | tenantKey (values : MarketplaceDb → List IdempotencyRow)
      (h : ∀ db, ∀ k ∈ values db,
        k.tenantId ≠ "platform" ∧ k.operation ∉ authorizationOperations) :
      Routine w .idempotencyKeys (.insert .idempotencyKeys values)
  | tenantKeyOrIgnore (values : MarketplaceDb → List IdempotencyRow)
      (h : ∀ db, ∀ k ∈ values db,
        k.tenantId ≠ "platform" ∧ k.operation ∉ authorizationOperations) :
      Routine w .idempotencyKeys (.insertOrIgnore .idempotencyKeys values)
  | welcomeCredit (tenantId : String) (welcomeCreditMicros now : Nat) :
      Routine w .ledgerEntries (insertWelcomeCreditSql tenantId welcomeCreditMicros now)
  | setSupply (supplierId tenantId : String) (enabled : Bool) (now : Nat) :
      Routine w .suppliers (setSupplySql supplierId tenantId enabled now)
  | submit (row : AuthorizationRow) (h : Submitted w row) :
      Routine w .authorizationRequests (insertAuthorizationRequestSql row)
  | rewrap (requestId : String) (generation encrypted : EncryptedCredential) (now : Nat)
      (h : generation.ciphertext.plaintext?.isSome)
      (heq : encrypted.ciphertext.plaintext? = generation.ciphertext.plaintext?) :
      Routine w .authorizationRequests
        (rewrapAuthorizationCredentialSql requestId generation encrypted now)
  | expirePending (now cutoff : Nat) :
      Routine w .authorizationRequests (expirePendingAuthorizationsSql now cutoff)
  | scrubExpired (now : Nat) (h : ∃ snap ∈ w.snapshots, now = snap.clock) :
      Routine w .authorizationRequests (scrubExpiredCredentialsSql now)
  | scrubTerminated (now : Nat) :
      Routine w .authorizationRequests (scrubTerminatedCredentialsSql now)
  | migrateRow (call : AgentCall) (h : call ∈ w.agentCalls)
      (stale : String × CredentialLookupDigest) (hstale : stale ∈ call.staleLookups) :
      Routine w .authorizationRequests
        (migrateLookupRowSql stale.1 stale.2 call.activeLookup call.now)
  | migrateAll (call : AgentCall) (h : call ∈ w.agentCalls) :
      Routine w .authorizationRequests
        (migrateAgentLookupNamespacesSql call.activeLookup call.lookup.legacyCredentialDigest
          call.lookup.credentialLookups call.now)
  | publishOffer (offer : OfferRow) (commandId : String)
      (authorizationRevision supplierVersion : Nat) :
      Routine w .capacityOffers (createCapacityOfferWithAuthorizationCasSql offer commandId
        authorizationRevision supplierVersion)
  | publicationEvent (event : CapacityOfferPublishedEvent) (offerId tenantId : String) :
      Routine w .marketplaceEvents
        (guardedCapacityOfferEventInsert (EventRow.ofPublication event) offerId tenantId)
  | reserveInference (run : InferenceRun) (idempotencyKey : String) (reservationExpiresAt : Nat)
      (hid : ∃ uuid, uuid ∉ w.drawn ∧ run.jobId = "job-" ++ uuid)
      (hoffer : ∃ snap ∈ w.snapshots, run.selected.offer ∈ snap.rows .capacityOffers) :
      Routine w .inferenceJobs
        (reserveInferenceJobSql (run.row idempotencyKey reservationExpiresAt) run.demand
          run.selected.offer.concurrency)
  | startInference (jobId : String) (now : Nat) :
      Routine w .inferenceJobs (startInferenceJobSql jobId now)
  | failInference (jobId code : String) (now : Nat) :
      Routine w .inferenceJobs (failInferenceJobSql jobId code now)
  | expireReservations (now cutoff : Nat) :
      Routine w .inferenceJobs (expireInferenceReservationsSql now cutoff)
  | purgeOutputs (now : Nat) : Routine w .inferenceJobs (purgeExpiredInferenceOutputsSql now)
  | purgeOutput (jobId buyerTenantId : String) (now : Nat) :
      Routine w .inferenceJobs (purgeInferenceOutputSql jobId buyerTenantId now)
  | reserveTask (identity : RequestIdentity) (input : CreateArtifactTaskRequest)
      (selected : ArtifactOffer) (artifact : ArtifactRow) (taskId idempotencyKey iv : String)
      (charge now maximumActiveTasks : Nat)
      (hid : ∃ uuid, uuid ∉ w.drawn ∧ taskId = "artifact-task-" ++ uuid) :
      Routine w .artifactTasks
        (reserveArtifactTaskSql
          (input.row identity selected artifact taskId idempotencyKey iv charge now)
          (selected.demand identity.tenantId now) maximumActiveTasks)
  | cancelTask (c : CancellationCommand) : Routine w .artifactTasks (cancelArtifactTaskSql c)
  | endCancelled (selects : ArtifactTaskRow → Bool) (now : Nat)
      (keepCompletedAt clearInstruction : Bool) :
      Routine w .artifactTasks (endCancelledTaskSql selects now keepCompletedAt clearInstruction)
  | requeue (selects : ArtifactTaskRow → Bool) (now : Nat)
      (h : ∀ t, selects t = true → t.attempt < w.deployment.policy.artifactMaximumAttempts) :
      Routine w .artifactTasks (requeueExpiredTasksSql selects now)
  | exhaust (selects : ArtifactTaskRow → Bool) (code : ArtifactTaskRow → String) (now : Nat) :
      Routine w .artifactTasks (failExhaustedTasksSql selects code now)
  | purgeTaskOutputs (now : Nat) : Routine w .artifactTasks (purgeExpiredTaskOutputsSql now)
  | failTask (taskId supplierTenantId : String) (leaseDigest : Digest) (code : String)
      (retry : Bool) (now : Nat) (row : ArtifactTaskRow) (h : LeaseRead w taskId leaseDigest row)
      (hretry : retry = true →
        row.attempt < w.deployment.policy.artifactMaximumAttempts) :
      Routine w .artifactTasks
        (failArtifactTaskSql taskId supplierTenantId leaseDigest code retry now)
  | purgeQueuedTask (taskId buyerTenantId : String) (now : Nat) :
      Routine w .artifactTasks (cancelQueuedArtifactTaskForPurgeSql taskId buyerTenantId now)
  | purgeFinishedTask (taskId buyerTenantId : String) (now : Nat) :
      Routine w .artifactTasks (purgeFinishedTaskContentSql taskId buyerTenantId now)
  | markPurged (taskId buyerTenantId : String) (now : Nat) :
      Routine w .artifactTasks (markTaskPurgedSql taskId buyerTenantId now)
  | purgeNonces (now : Nat) (h : ∃ snap ∈ w.snapshots, now = snap.clock) :
      Routine w .agentRequestNonces (purgeExpiredNoncesSql now)
  | deleteNonces (now : Nat) (h : ∃ snap ∈ w.snapshots, now = snap.clock) :
      Routine w .agentRequestNonces (deleteExpiredNoncesSql now)
  | claimNonce (call : AgentCall) (h : call ∈ w.agentCalls) :
      Routine w .agentRequestNonces
        (claimAgentNonceNamespacesSql call.nonceNamespaces call.request.nonce call.nonceExpiresAt)

theorem Routine.table_eq {w : World} {t : MarketplaceTable} {s : MarketplaceStatement}
    (h : Routine w t s) : s.table = t := by
  cases h
  case free _ ht => exact ht
  all_goals rfl

/-- The routine statements, those of workers and the members of review and lifecycle batches. -/
inductive Commanded (w : World) : MarketplaceTable → MarketplaceStatement → Prop
  | routine {t : MarketplaceTable} {s : MarketplaceStatement} (h : Routine w t s) :
      Commanded w t s
  | insertSupplier (supplier : SupplierRow) : Commanded w .suppliers (insertSupplierSql supplier)
  | activateSupplier (c : ReviewCommand) (supplierId tenantId : String) (expected version : Nat) :
      Commanded w .suppliers (activateReviewedSupplierSql c supplierId tenantId expected version)
  | updateSupplier (c : LifecycleCommand) (supplierVersion version : Nat) :
      Commanded w .suppliers
        (updateSupplierAfterAuthorizationRevocationSql c supplierVersion version)
  | registrationEvent (event : SupplierEvent) :
      Commanded w .marketplaceEvents (eventInsert event)
  | reviewEvent (c : ReviewCommand) (event : SupplierEvent) (version : Nat) :
      Commanded w .marketplaceEvents (guardedReviewEventInsert c event version)
  | lifecycleEvent (c : LifecycleCommand) (event : SupplierEvent) (version : Nat) :
      Commanded w .marketplaceEvents (guardedAuthorizationLifecycleEventInsert c event version)
  | key (values : MarketplaceDb → List IdempotencyRow) :
      Commanded w .idempotencyKeys (.insertOrIgnore .idempotencyKeys values)
  | reject (c : ReviewCommand) (note : String) :
      Commanded w .authorizationRequests (rejectAuthorizationRequestSql c note)
  | approve (c : ReviewCommand) (note supplierId tenantId : String) (expected : Nat) :
      Commanded w .authorizationRequests
        (approveAuthorizationRequestSql c note supplierId tenantId expected)
  | withdraw (c : LifecycleCommand) (reasonCode : String) :
      Commanded w .authorizationRequests (withdrawPendingAuthorizationSql c reasonCode)
  | revoke (c : LifecycleCommand) (reasonCode : String) (supplierVersion : Nat) :
      Commanded w .authorizationRequests
        (revokeActiveAuthorizationSql c reasonCode supplierVersion)
  | rotate (c : LifecycleCommand) (generation encrypted : EncryptedCredential)
      (activeLookup : CredentialLookupDigest) (lookup : TokenLookup)
      (h : generation.ciphertext ≠ .cleared) :
      Commanded w .authorizationRequests
        (rotateAuthorizationCredentialSql c generation encrypted activeLookup lookup)
  | claimTask (c : TaskClaim) (leaseToken : String) (h : ClaimOf w c leaseToken) :
      Commanded w .artifactTasks (claimArtifactTaskSql c)
  | checkpoint (c : TaskCheckpoint) (row : ArtifactTaskRow)
      (h : LeaseRead w c.taskId c.leaseDigest row)
      (hexpiry : c.leaseExpiresAt ≤ row.executionDeadlineAt.getD 0) :
      Commanded w .artifactTasks (checkpointArtifactTaskSql c)
  | failAfterRotation (c : LifecycleCommand) (digest : Digest) :
      Commanded w .inferenceJobs (failReservedInferenceAfterCredentialRotationSql c digest)
  | failAfterRevocation (c : LifecycleCommand) :
      Commanded w .inferenceJobs (failReservedInferenceForRevokedAuthorizationSql c)
  | failQueued (c : LifecycleCommand) :
      Commanded w .artifactTasks (failQueuedArtifactsForRevokedAuthorizationSql c)
  | cancelLeased (c : LifecycleCommand) :
      Commanded w .artifactTasks (cancelLeasedArtifactsForRevokedAuthorizationSql c)

theorem Commanded.table_eq {w : World} {t : MarketplaceTable} {s : MarketplaceStatement}
    (h : Commanded w t s) : s.table = t := by
  cases h
  case routine h => exact h.table_eq
  all_goals rfl

/-- All statements of the control plane: the commanded ones and the members of completions. -/
inductive Issued (w : World) : MarketplaceTable → MarketplaceStatement → Prop
  | commanded {t : MarketplaceTable} {s : MarketplaceStatement} (h : Commanded w t s) :
      Issued w t s
  | completeInference (c : InferenceCompletion) :
      Issued w .inferenceJobs (completeInferenceJobSql c)
  | completeTask (c : ArtifactCompletion) :
      Issued w .artifactTasks (completeArtifactTaskSql c)
  | settlementEntry (values : MarketplaceDb → List LedgerEntryRow) :
      Issued w .ledgerEntries (.insertOrIgnore .ledgerEntries values)
  | usage (values : MarketplaceDb → List UsageRow) :
      Issued w .usageRecords (.insert .usageRecords values)
  | serviceEvidence (values : MarketplaceDb → List ServiceEvidenceRow) :
      Issued w .serviceEvidence (.insert .serviceEvidence values)
  | artifactEvidence (values : MarketplaceDb → List ArtifactEvidenceRow) :
      Issued w .artifactTaskEvidence (.insert .artifactTaskEvidence values)

theorem Issued.table_eq {w : World} {t : MarketplaceTable} {s : MarketplaceStatement}
    (h : Issued w t s) : s.table = t := by
  cases h
  case commanded h => exact h.table_eq
  all_goals rfl

/-- A routine statement is issued. -/
theorem Routine.issued {w : World} {t : MarketplaceTable} {s : MarketplaceStatement}
    (h : Routine w t s) : Issued w t s :=
  .commanded (.routine h)

/-! ## Batches -/

/-- The drawn ids of a completion are new and different. -/
structure CompletionUuids.Fresh (uuids : CompletionUuids) (w : World) : Prop where
  nodup : uuids.toList.Nodup
  isNew : ∀ uuid ∈ uuids.toList, uuid ∉ w.drawn
  plain : ∀ uuid ∈ uuids.toList, isPlain uuid = true

/-- What an approval computed before it sent its batch. -/
structure ApprovalOf (w : World) (reads : Reads) (identity : RequestIdentity)
    (request : AuthorizationRow) (commandId : String) (eventUuids : List String)
    (token : String) (events : List SupplierEvent) (state : SupplierState) : Prop where
  observed : w.observed .authorizationRequests request
  tenant : request.tenantId ≠ identity.tenantId
  pending : request.status = .pending
  opens : request.encryptedGatewayToken.plaintext? = some token
  builds : buildApprovalEvents (reads 4) identity request commandId eventUuids (reads 2).clock =
    .ok events
  leads : approvedState (readSupplierEvents (reads 5) request.tenantId request.supplierId)
    events = .ok state

/-- The call draws the value, and nothing has drawn it before. -/
structure Draws (w : World) (call : Call) (uuid : String) : Prop where
  isNew : uuid ∉ w.drawn
  isDrawn : uuid ∈ call.uuids

/-- What a lifecycle command read before it sent its batch. -/
structure LifecycleOf (w : World) (call : Call) (identity : RequestIdentity)
    (supplier : SupplierRow) (request : AuthorizationRow) (now : Nat) (operationUuid : String) :
    Prop where
  observedSupplier : w.observed .suppliers supplier
  tenant : supplier.tenantId = identity.tenantId
  observed : w.observed .authorizationRequests request
  owner : request.tenantId = identity.tenantId ∧ request.supplierId = supplier.supplierId
  observedNow : w.observedClock now
  operation : Draws w call operationUuid

/-- The batches of requests other than completions. -/
inductive Command (w : World) : Call → Batch → Prop
  | routine {call : Call} {batch : Batch} (h : ∀ s ∈ batch, Routine w s.table s) :
      Command w call batch
  | registration {call : Call} (identity : RequestIdentity) (input : RegisterSupplierRequest)
      (supplierUuid eventUuid auditUuid : String) (now : Nat) (event : SupplierEvent)
      (hnew : supplierUuid ∉ w.drawn)
      (hevent : registerSupplier
        { supplierId := "supplier-" ++ supplierUuid
          kind := input.kind
          legalName := input.legalName
          displayName := input.displayName
          countryCode := input.countryCode
          taxResidenceCountryCode := input.taxResidenceCountryCode }
        (commandContext identity input.commandId eventUuid now) = .ok event) :
      Command w call
        (registerSupplierBatch identity input event ("supplier-" ++ supplierUuid) auditUuid now)
  | rejection {call : Call} (identity : RequestIdentity)
      (requestId commandId note operationUuid auditUuid : String) (now : Nat)
      (hnew : Draws w call operationUuid) :
      Command w call
        (rejectionBatch (reviewCommand identity requestId commandId operationUuid .reject now)
          note auditUuid)
  | approval (ages : List Nat) (identity : RequestIdentity) (commandId : String)
      (reviewNote : Option String) (operationUuid auditUuid : String) (eventUuids : List String)
      (request : AuthorizationRow) (token : String) (events : List SupplierEvent)
      (state : SupplierState)
      (hnew : Draws w (.service ages (.approveAuthorization identity request.requestId commandId
        reviewNote operationUuid auditUuid eventUuids)) operationUuid)
      (h : ApprovalOf w (w.reads ages) identity request commandId eventUuids token events
        state) :
      Command w
        (.service ages (.approveAuthorization identity request.requestId commandId reviewNote
          operationUuid auditUuid eventUuids))
        (approvalBatch
          (reviewCommand identity request.requestId commandId operationUuid .approve
            (w.reads ages 2).clock)
          (reviewNote.getD "生产授权与节点健康证明审核通过") request.supplierId request.tenantId
          (.ofToken w.deployment.keyrings.credentialLookup token) events
          (state.version - events.length) state.version auditUuid)
  | withdrawal {call : Call} (identity : RequestIdentity) (supplier : SupplierRow)
      (request : AuthorizationRow) (commandId reasonCode operationUuid : String)
      (now : Nat) (h : LifecycleOf w call identity supplier request now operationUuid)
      (hpending : request.status = .pending) :
      Command w call
        (withdrawPendingAuthorization identity supplier request commandId reasonCode
          (request.requestId ++ ":" ++ reasonCode) operationUuid now)
  | revocation {call : Call} (identity : RequestIdentity) (supplier : SupplierRow)
      (request : AuthorizationRow) (commandId reasonCode operationUuid eventUuid : String)
      (now : Nat) (snap : MarketplaceDb) (state : SupplierState) (event : SupplierEvent)
      (h : LifecycleOf w call identity supplier request now operationUuid)
      (hsnap : snap ∈ w.snapshots) (happroved : request.status = .approved)
      (hstate : rehydrateSupplier
        (readSupplierEvents snap identity.tenantId supplier.supplierId) = .ok (some state))
      (hversion : state.version = supplier.version)
      (hevent : revokeProviderAuthorization state ("authorization-" ++ request.requestId)
        reasonCode (commandContext identity commandId eventUuid now) = .ok event)
      (hvalid : request.isValidAfter now = true) :
      Command w call
        (revocationBatch
          (lifecycleCommand identity supplier request "authorization.revoke" commandId
            (request.requestId ++ ":" ++ reasonCode)
            ("authorization-revoke-op-" ++ operationUuid) now)
          request supplier.version reasonCode event)
  | rotation {call : Call} (identity : RequestIdentity) (supplier : SupplierRow)
      (request : AuthorizationRow) (commandId reasonCode operationUuid token iv : String)
      (now : Nat)
      (h : LifecycleOf w call identity supplier request now operationUuid)
      (happroved : request.status = .approved) (hvalid : request.isValidAfter now = true)
      (hsealed : request.encryptedGatewayToken ≠ .cleared) :
      Command w call
        (rotationBatch
          (lifecycleCommand identity supplier request "authorization.rotate-credential" commandId
            (authorizationCredentialRotationCommandBinding request.requestId reasonCode
              (sha256Hex token))
            ("authorization-rotate-op-" ++ operationUuid) now)
          request.credential
          (encryptCredential w.deployment.keyrings.credential iv token
            { tenantId := request.tenantId, authorizationRequestId := request.requestId })
          supplier.version
          (createCredentialLookupDigest w.deployment.keyrings.credentialLookup token)
          (.ofToken w.deployment.keyrings.credentialLookup token))
  | claim (ages : List Nat) (identity : AgentAuthorizationIdentity)
      (input : ArtifactTaskClaimRequest) (leaseToken : String) (c : TaskClaim)
      (candidate : WorkerTaskRow) (h : ClaimOf w c leaseToken)
      (hcandidate : ClaimsCandidate (w.reads ages) identity input c candidate) :
      Command w (.service ages (.claimArtifactTask identity input leaseToken))
        [claimArtifactTaskSql c]
  | checkpoint (ages : List Nat) (identity : AgentAuthorizationIdentity)
      (input : ArtifactTaskCheckpointRequest) (checkpointUuid : String) (c : TaskCheckpoint)
      (row : ArtifactTaskRow) (h : LeaseRead w c.taskId c.leaseDigest row)
      (hexpiry : c.leaseExpiresAt ≤ row.executionDeadlineAt.getD 0) (hreports : c.Reports input) :
      Command w (.service ages (.checkpointArtifactTask identity input checkpointUuid))
        (checkpointBatch c checkpointUuid)

/-- The classification of batches. -/
inductive Sent (w : World) : Call → Batch → Prop
  | command {call : Call} {batch : Batch} (h : Command w call batch) : Sent w call batch
  | inferenceCompletion (ages : List Nat) (index : Nat) (run : InferenceRun)
      (result : GatewayResult) (outputIv : String) (s : InferenceSettlement)
      (uuids : CompletionUuids)
      (hrun : w.inferences[index]? = some { run, phase := .dispatched })
      (hsettle : settleInference (w.reads ages) w.deployment.keyrings.credential
        w.deployment.policy run result outputIv = .ok s)
      (huuids : uuids.Fresh w) :
      Sent w (.settleInference ages index result outputIv uuids) (completionBatch s uuids)
  | artifactCompletion {call : Call} (s : ArtifactSettlement) (uuids : CompletionUuids)
      (totalTokens price platformFeeBps : Nat)
      (htask : w.observed .artifactTasks s.task)
      (hsupplier : s.task.supplierTenantId = s.identity.supplierTenantId)
      (hamounts : calculateSettlement
        { totalTokens, priceMicrosPerMillionTokens := price, platformFeeBps } = .ok s.amounts)
      (hreported : s.task.totalTokens = some s.input.usage.totalTokens)
      (huuids : uuids.Fresh w) (hcall : call.uuids = uuids.toList) :
      Sent w call (artifactCompletionBatch s uuids)

end Server
end TokenStreaming
