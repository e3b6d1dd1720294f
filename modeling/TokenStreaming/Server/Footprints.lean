import TokenStreaming.Foundation.Footprint
import TokenStreaming.Server.Reachability

/-!
# Control plane - Footprints of calls

Which tables a call may write, and to which it may add rows.  The inventory says what
the statements of a batch do; this module says which requests have statements on a
table at all, so that a property of one table is checked against the few requests
that write it.

Main results:

- Theorem {lit}`ServiceRequest.batch_confined`: a request does its own writes only.
- Theorem {lit}`step_committed`: a step commits the batch its call sends, or none.
- Theorem {lit}`AdmittedRun.snapshots`: the rule of database invariants for runs whose
  calls all meet a condition.
- Theorems {lit}`run_approved` and {lit}`run_published`: milestones of the sample run.
-/

namespace TokenStreaming
namespace Server

open Relational Domain TransitionSystem

/-! ## Requests -/

/-- The footprint of a batch of the control plane. -/
abbrev BatchWrites (writes : List (TableWrite MarketplaceTable)) (batch : Batch) : Prop :=
  Confined (S := marketplaceSchema) writes batch

/-- The footprint of a request that refuses or sends a batch. -/
abbrev MayWrite (writes : List (TableWrite MarketplaceTable)) (request : Request Batch) : Prop :=
  Writes (S := marketplaceSchema) writes request

/-- What the statements of a request may do to which tables. -/
def ServiceRequest.writes : ServiceRequest → List (TableWrite MarketplaceTable)
  | .ensureUser _ => [.adds .users, .changes .users, .adds .ledgerEntries]
  | .registerSupplierProfile .. =>
      [.adds .marketplaceEvents, .adds .suppliers, .adds .auditEvents, .adds .idempotencyKeys]
  | .submitAuthorizationRequest .. =>
      [.adds .authorizationRequests, .adds .auditEvents, .adds .idempotencyKeys]
  | .rejectAuthorization .. =>
      [.adds .idempotencyKeys, .changes .authorizationRequests, .adds .auditEvents]
  | .approveAuthorization .. =>
      [.adds .idempotencyKeys, .changes .authorizationRequests, .changes .suppliers,
        .adds .marketplaceEvents, .adds .auditEvents]
  | .revokeAuthorization .. =>
      [.adds .idempotencyKeys, .changes .authorizationRequests, .changes .suppliers,
        .adds .marketplaceEvents, .changes .inferenceJobs, .changes .artifactTasks,
        .changes .supplierArtifactWorkers, .adds .auditEvents]
  | .rotateAuthorizationCredential .. =>
      [.adds .idempotencyKeys, .changes .authorizationRequests, .changes .inferenceJobs,
        .changes .supplierArtifactWorkers, .adds .auditEvents]
  | .createCapacityOffer .. =>
      [.adds .capacityOffers, .adds .marketplaceEvents, .adds .auditEvents, .adds .idempotencyKeys]
  | .setSupplyState .. => [.changes .suppliers, .adds .auditEvents, .adds .idempotencyKeys]
  | .cleanupStaleInferenceReservations | .cleanupExpiredInferenceContent =>
      [.changes .inferenceJobs]
  | .createArtifactUpload .. => [.adds .artifacts, .adds .auditEvents]
  | .completeArtifactUpload .. => [.changes .artifacts, .adds .auditEvents]
  | .writeChunk _ =>
      [.adds .artifactChunks, .changes .artifactChunks, .adds .artifactObjectDeletions,
        .changes .artifactObjectDeletions, .changes .artifacts]
  | .createArtifactTask .. => [.adds .artifactTasks, .adds .auditEvents]
  | .bindCancellation .. => [.adds .idempotencyKeys]
  | .cancelArtifactTask .. =>
      [.adds .idempotencyKeys, .changes .artifactTasks, .changes .artifacts, .adds .auditEvents]
  | .sweepArtifactTasks | .purgeExpiredTaskOutputs => [.changes .artifactTasks]
  | .claimExpiredArtifact | .claimArtifactPurge .. | .expireFailedArtifact _ =>
      [.changes .artifacts]
  | .purgeInferenceOutput .. => [.changes .inferenceJobs, .adds .auditEvents]
  | .prepareTaskPurge .. | .observeCancellation .. => [.changes .artifactTasks, .changes .artifacts]
  | .recordArtifactPurge .. => [.adds .auditEvents, .changes .artifactTasks]
  | .registerHeartbeat .. => [.adds .supplierArtifactWorkers]
  | .expireLeases _ | .claimArtifactTask .. | .failArtifactTask .. => [.changes .artifactTasks]
  | .checkpointArtifactTask .. => [.changes .artifactTasks, .adds .artifactTaskCheckpoints]
  | .completeArtifactTask .. =>
      [.changes .artifactTasks, .adds .artifactTaskEvidence, .adds .ledgerEntries,
        .adds .usageRecords, .adds .auditEvents, .changes .artifacts]
  | .runMaintenanceBatch =>
      [.changes .inferenceJobs, .changes .authorizationRequests, .changes .users,
        .changes .agentRequestNonces, .changes .supplierArtifactWorkers]
  | .rotateCredentialEncryptions _ => [.changes .authorizationRequests]

theorem revokeAuthorization_writes {reads : Reads} {identity : RequestIdentity}
    {requestId commandId reasonCode operationUuid eventUuid : String} :
    MayWrite [.adds .idempotencyKeys, .changes .authorizationRequests, .changes .suppliers,
        .adds .marketplaceEvents, .changes .inferenceJobs, .changes .artifactTasks,
        .changes .supplierArtifactWorkers, .adds .auditEvents]
      (revokeAuthorization reads identity requestId commandId reasonCode operationUuid
        eventUuid) := by
  unfold revokeAuthorization
  refine writes_bind fun supplier => writes_bind fun request => ?_
  split
  · exact writes_bind fun _ => writes_nothing
  · refine writes_ite (writes_ok ?_) (writes_bind fun _ => ?_)
    · exact .of_map rfl rfl
    · unfold revokeApprovedAuthorization
      refine writes_bind fun _ => writes_bind fun _ => writes_bind fun _ => writes_bind fun _ => ?_
      exact writes_ok (.of_map rfl rfl)

theorem rotateAuthorizationCredential_writes {reads : Reads} {keyrings : Keyrings}
    {identity : RequestIdentity}
    {requestId commandId reasonCode gatewayBearerToken operationUuid iv : String} :
    MayWrite [.adds .idempotencyKeys, .changes .authorizationRequests, .changes .inferenceJobs,
        .changes .supplierArtifactWorkers, .adds .auditEvents]
      (rotateAuthorizationCredential reads keyrings identity requestId commandId reasonCode
        gatewayBearerToken operationUuid iv) := by
  unfold rotateAuthorizationCredential
  refine writes_bind fun supplier => writes_bind fun request => ?_
  split
  · exact writes_bind fun _ => writes_nothing
  · refine writes_bind fun _ => writes_bind fun _ => writes_bind fun _ => ?_
    exact writes_ok (.of_map rfl rfl)

theorem approveAuthorization_writes {reads : Reads} {keyrings : Keyrings}
    {identity : RequestIdentity} {requestId commandId operationUuid auditUuid : String}
    {reviewNote : Option String} {eventUuids : List String} :
    MayWrite [.adds .idempotencyKeys, .changes .authorizationRequests, .changes .suppliers,
        .adds .marketplaceEvents, .adds .auditEvents]
      (approveAuthorization reads keyrings identity requestId commandId reviewNote operationUuid
        auditUuid eventUuids) := by
  unfold approveAuthorization
  refine writes_bind fun _ => writes_bind fun request => writes_ite writes_nothing ?_
  refine writes_bind fun _ => writes_bind fun _ => writes_bind fun _ => writes_bind fun _ =>
    writes_bind fun _ => writes_ok ?_
  refine Confined.append (.append (.of_map rfl rfl) ?_) (.of_map rfl rfl)
  exact .of_forall fun _ => rfl

theorem ChunkWrite.confined (write : ChunkWrite) :
    BatchWrites [.adds .artifactChunks, .changes .artifactChunks, .adds .artifactObjectDeletions,
      .changes .artifactObjectDeletions, .changes .artifacts] write.batch := by
  cases write with
  | tombstone chunks now retainUntil => exact .flatMap fun _ => .of_map rfl rfl
  | drained storageKeys now retryAt => exact .flatMap fun _ => .of_map rfl rfl
  | retried storageKeys now retryAt => exact .of_forall fun _ => rfl
  | finalizePurge artifactId tenantId chunks now =>
      exact .append (.of_forall fun _ => rfl) (.of_map rfl rfl)
  | _ => exact .of_map rfl rfl

theorem prepareTaskPurge_writes {reads : Reads} {identity : RequestIdentity} {taskId : String} :
    MayWrite [.changes .artifactTasks, .changes .artifacts]
      (prepareTaskPurge reads identity taskId) := by
  unfold prepareTaskPurge
  refine writes_bind fun task => writes_bind fun _ => writes_bind fun _ => ?_
  exact writes_ite (writes_ok (.of_map rfl rfl)) (writes_ok (.of_map rfl rfl))

theorem recordArtifactPurge_writes {reads : Reads} {identity : RequestIdentity}
    {artifactId : String} {taskId : Option String} :
    MayWrite [.adds .auditEvents, .changes .artifactTasks]
      (recordArtifactPurge reads identity artifactId taskId) := by
  unfold recordArtifactPurge
  refine writes_bind fun artifact => writes_bind fun _ => writes_ok ?_
  cases taskId with
  | none => exact .of_map rfl rfl
  | some taskId => exact .of_map rfl rfl

theorem claimExpiredArtifact_writes {reads : Reads} {now : Nat} :
    MayWrite [.changes .artifacts] (claimExpiredArtifact reads now) := by
  unfold claimExpiredArtifact
  split
  · exact writes_nothing
  · exact writes_ok (.of_map rfl rfl)

theorem createCapacityOffer_writes {reads : Reads} {identity : RequestIdentity}
    {input : CreateCapacityOfferRequest} {offerUuid eventUuid auditUuid : String} :
    MayWrite [.adds .capacityOffers, .adds .marketplaceEvents, .adds .auditEvents,
        .adds .idempotencyKeys]
      (createCapacityOffer reads identity input offerUuid eventUuid auditUuid) := by
  unfold createCapacityOffer
  refine writes_bind fun _ => ?_
  split
  · exact writes_bind fun _ => writes_nothing
  · refine writes_bind fun _ => writes_bind fun _ => writes_bind fun _ => writes_bind fun _ =>
      writes_bind fun _ => writes_bind fun _ => ?_
    exact writes_ok (.of_map rfl rfl)

theorem claimArtifactTask_writes {reads : Reads} {policy : MarketplaceRuntimePolicy}
    {identity : AgentAuthorizationIdentity} {input : ArtifactTaskClaimRequest}
    {leaseToken : String} :
    MayWrite [.changes .artifactTasks]
      (claimArtifactTask reads policy identity input leaseToken) := by
  unfold claimArtifactTask
  refine writes_bind fun _ => ?_
  split
  · exact writes_nothing
  · exact writes_bind fun _ => writes_ok (.of_map rfl rfl)

theorem artifactCompletionBatch_confined (s : ArtifactSettlement) (uuids : CompletionUuids) :
    BatchWrites [.changes .artifactTasks, .adds .artifactTaskEvidence, .adds .ledgerEntries,
      .adds .usageRecords, .adds .auditEvents, .changes .artifacts]
      (artifactCompletionBatch s uuids) := by
  refine .append (.of_map rfl rfl) ?_
  split
  · exact .nil
  · exact .of_map rfl rfl

theorem completionBatch_confined (s : InferenceSettlement) (uuids : CompletionUuids) :
    BatchWrites [.changes .inferenceJobs, .adds .usageRecords, .adds .serviceEvidence,
      .adds .ledgerEntries, .adds .auditEvents]
      (completionBatch s uuids) := by
  refine .append (.of_map rfl rfl) ?_
  split
  · exact .nil
  · exact .of_map rfl rfl

theorem rewrapStatements_writes {keyring : ResolvedKeyring} {now : Nat}
    {rows : List (AuthorizationRow × String)} :
    MayWrite [.changes .authorizationRequests] (rewrapStatements keyring now rows) := by
  intro batch h
  induction rows generalizing batch with
  | nil =>
      cases h
      exact .nil
  | cons row rows ih =>
      unfold rewrapStatements at h
      simp only [Except.bind_eq_ok, Except.pure_eq_ok] at h
      obtain ⟨encrypted, -, statements, hstatements, rfl⟩ := h
      have hhead : BatchWrites [.changes .authorizationRequests] [rewrapAuthorizationCredentialSql
          row.1.requestId row.1.credential encrypted now] := .of_map rfl rfl
      exact hhead.append (ih statements hstatements)

/-- A request does its own writes only. -/
theorem ServiceRequest.batch_confined (d : Deployment) (reads : Reads) (request : ServiceRequest) :
    MayWrite request.writes (request.batch d reads) := by
  cases request with
  | ensureUser identity => exact writes_ok (.of_map rfl rfl)
  | registerSupplierProfile identity input supplierUuid eventUuid auditUuid =>
      refine writes_ite writes_nothing (writes_bind fun _ => writes_bind fun _ => ?_)
      exact writes_ok (.of_map rfl rfl)
  | submitAuthorizationRequest identity input requestUuid iv auditUuid =>
      refine writes_ite writes_nothing (writes_bind fun _ => writes_bind fun _ => ?_)
      exact writes_bind fun _ => writes_ok (.of_map rfl rfl)
  | rejectAuthorization identity requestId commandId reviewNote operationUuid auditUuid =>
      refine writes_bind fun _ => writes_bind fun _ => writes_ite writes_nothing ?_
      exact writes_bind fun _ => writes_ok (.of_map rfl rfl)
  | approveAuthorization identity requestId commandId reviewNote operationUuid auditUuid
      eventUuids => exact approveAuthorization_writes
  | revokeAuthorization identity requestId commandId reasonCode operationUuid eventUuid =>
      exact revokeAuthorization_writes
  | rotateAuthorizationCredential identity requestId commandId reasonCode gatewayBearerToken
      operationUuid iv => exact rotateAuthorizationCredential_writes
  | createCapacityOffer identity input offerUuid eventUuid auditUuid =>
      exact createCapacityOffer_writes
  | setSupplyState identity commandId enabled auditUuid =>
      refine writes_ite writes_nothing (writes_bind fun _ => writes_bind fun _ => ?_)
      exact writes_ok (.of_map rfl rfl)
  | cleanupStaleInferenceReservations => exact writes_ok (.of_map rfl rfl)
  | cleanupExpiredInferenceContent => exact writes_ok (.of_map rfl rfl)
  | createArtifactUpload identity input artifactUuid auditUuid =>
      exact writes_bind fun _ => writes_ok (.of_map rfl rfl)
  | writeChunk write => exact writes_ok write.confined
  | completeArtifactUpload identity artifactId manifestSha256 auditUuid =>
      refine writes_bind fun _ => writes_ite writes_nothing (writes_bind fun _ => ?_)
      exact writes_bind fun _ => writes_ok (.of_map rfl rfl)
  | createArtifactTask identity input idempotencyKey taskUuid iv auditUuid =>
      refine writes_bind fun _ => writes_bind fun _ => writes_ite writes_nothing ?_
      exact writes_bind fun _ => writes_bind fun _ => writes_ok (.of_map rfl rfl)
  | bindCancellation identity taskId commandId =>
      exact writes_bind fun _ => writes_bind fun _ => writes_bind fun _ =>
        writes_ok (.of_map rfl rfl)
  | cancelArtifactTask identity taskId commandId operationUuid auditUuid =>
      refine writes_bind fun _ => writes_bind fun _ => writes_bind fun _ => ?_
      exact writes_ite (writes_ok (.of_map rfl rfl)) writes_nothing
  | sweepArtifactTasks => exact writes_ok (.of_map rfl rfl)
  | claimExpiredArtifact => exact claimExpiredArtifact_writes
  | purgeExpiredTaskOutputs => exact writes_ok (.of_map rfl rfl)
  | purgeInferenceOutput identity jobId auditUuid =>
      refine writes_bind fun _ => writes_ite writes_nothing (writes_bind fun _ => ?_)
      exact writes_ok (.of_map rfl rfl)
  | prepareTaskPurge identity taskId => exact prepareTaskPurge_writes
  | claimArtifactPurge identity artifactId => exact writes_ok (.of_map rfl rfl)
  | recordArtifactPurge identity artifactId taskId => exact recordArtifactPurge_writes
  | registerHeartbeat identity input => exact writes_bind fun _ => writes_ok (.of_map rfl rfl)
  | expireLeases supplierTenantId => exact writes_ok (.of_map rfl rfl)
  | claimArtifactTask identity input leaseToken => exact claimArtifactTask_writes
  | observeCancellation identity taskId leaseToken =>
      exact writes_bind fun _ => writes_bind fun _ => writes_ok (.of_map rfl rfl)
  | checkpointArtifactTask identity input checkpointUuid =>
      refine writes_bind fun _ => writes_bind fun _ => writes_bind fun _ => ?_
      exact writes_ok (.of_map rfl rfl)
  | failArtifactTask identity taskId leaseToken code retryable =>
      exact writes_bind fun _ => writes_ok (.of_map rfl rfl)
  | expireFailedArtifact artifactId => exact writes_ok (.of_map rfl rfl)
  | completeArtifactTask identity input outputIv uuids =>
      exact writes_map fun s => artifactCompletionBatch_confined s uuids
  | runMaintenanceBatch => exact writes_ok (.of_map rfl rfl)
  | rotateCredentialEncryptions ivs => exact rewrapStatements_writes

/-! ## Calls -/

/-- What the batch of a call may do to which tables. -/
def Call.writes : Call → List (TableWrite MarketplaceTable)
  | .service _ request => request.writes
  | .reserveInference .. => [.adds .inferenceJobs]
  | .dispatchInference _ | .failInference .. => [.changes .inferenceJobs]
  | .settleInference .. =>
      [.changes .inferenceJobs, .adds .usageRecords, .adds .serviceEvidence,
        .adds .ledgerEntries, .adds .auditEvents]
  | .advanceAgent _ =>
      [.adds .agentRequestNonces, .changes .agentRequestNonces, .changes .authorizationRequests]
  | .setClock _ | .deploy _ | .authenticateAgent .. => []

/-- The batch a call sends. -/
inductive Sends (w : World) : Call → Batch → Prop
  | service {ages : List Nat} {request : ServiceRequest} {batch : Batch}
      (h : request.batch w.deployment (w.reads ages) = .ok batch) :
      Sends w (.service ages request) batch
  | reservation {ages : List Nat} {identity : RequestIdentity} {input : RunInferenceRequest}
      {idempotencyKey jobUuid : String} {run : InferenceRun} {batch : Batch}
      (h : reserveInference (w.reads ages) w.deployment.policy identity input idempotencyKey
        jobUuid = .ok (some (run, batch))) :
      Sends w (.reserveInference ages identity input idempotencyKey jobUuid) batch
  | dispatch {index : Nat} {run : InferenceRun}
      (h : w.inferences[index]? = some { run, phase := .reserved }) :
      Sends w (.dispatchInference index) (dispatchBatch run)
  | settlement {ages : List Nat} {index : Nat} {run : InferenceRun} {result : GatewayResult}
      {outputIv : String} {s : InferenceSettlement} {uuids : CompletionUuids}
      (hrun : w.inferences[index]? = some { run, phase := .dispatched })
      (h : settleInference (w.reads ages) w.deployment.keyrings.credential w.deployment.policy run
        result outputIv = .ok s) :
      Sends w (.settleInference ages index result outputIv uuids) (completionBatch s uuids)
  | failure {ages : List Nat} {index : Nat} {run : InferenceRun} {code : String} :
      Sends w (.failInference ages index code) (failureBatch run code (w.reads ages 0).clock)
  | agent {index : Nat} {agentCall : AgentCall} (h : w.agentCalls[index]? = some agentCall) :
      Sends w (.advanceAgent index) agentCall.batch

theorem AgentCall.batch_confined (agentCall : AgentCall) :
    BatchWrites [.adds .agentRequestNonces, .changes .agentRequestNonces,
      .changes .authorizationRequests] agentCall.batch := by
  have hsweep : BatchWrites [.adds .agentRequestNonces, .changes .agentRequestNonces,
      .changes .authorizationRequests] agentCall.sweepBatch :=
    .of_map rfl rfl
  unfold AgentCall.batch
  split
  · exact .of_map rfl rfl
  · exact .of_map rfl rfl
  · split
    · exact hsweep
    · exact .of_forall fun _ => rfl
  · exact hsweep
  · exact .nil
  · exact .nil
  · exact .nil

/-- A call does its own writes only. -/
theorem Sends.confined {w : World} {call : Call} {batch : Batch} (h : Sends w call batch) :
    BatchWrites call.writes batch := by
  cases h with
  | service h => exact ServiceRequest.batch_confined _ _ _ _ h
  | reservation h =>
      obtain ⟨-, -, expires, rfl⟩ := reserveInference_eq_ok h
      exact .of_map rfl rfl
  | dispatch h => exact .of_map rfl rfl
  | settlement hrun h => exact completionBatch_confined _ _
  | failure => exact .of_map rfl rfl
  | agent h => exact AgentCall.batch_confined _

/-- What a step does to the database, with the batch its call sent. -/
inductive Committed (w : World) (call : Call) (db : MarketplaceDb) : Prop
  | idle (h : db = w.db)
  | clock (instant : Nat) (h : db = { w.db with clock := instant })
  | sent (batch : Batch) (hsends : Sends w call batch) (hfresh : w.isFresh call.uuids = true)
      (hrun : runBatch w.db batch = some db)

theorem World.send_committed {w : World} {call : Call} {batch : Batch}
    (hsends : Sends w call batch) (hfresh : w.isFresh call.uuids = true) :
    Committed w call (w.send batch).db := by
  unfold World.send
  cases hresult : w.result batch with
  | none => exact .idle rfl
  | some db => exact .sent batch hsends hfresh (World.result_eq_some.mp hresult).1

theorem apply_committed {w : World} {call : Call} (hfresh : w.isFresh call.uuids = true) :
    Committed w call (w.apply call).db := by
  cases call with
  | setClock instant => exact .clock instant rfl
  | deploy deployment =>
      simp only [World.apply]
      split <;> exact .idle rfl
  | service ages request =>
      simp only [World.apply, World.perform]
      split
      · rename_i batch hbatch
        exact World.send_committed (.service hbatch) hfresh
      · exact .idle rfl
  | reserveInference ages identity input idempotencyKey jobUuid =>
      simp only [World.apply, World.reserve]
      split
      · rename_i run batch hreserve
        split
        · rename_i db hresult
          have hrun := (World.result_eq_some.mp hresult).1
          split <;> exact .sent batch (.reservation hreserve) hfresh hrun
        · exact .idle rfl
      · exact .idle rfl
  | dispatchInference index =>
      simp only [World.apply, World.dispatch]
      split
      · rename_i run hget
        exact World.send_committed (.dispatch hget) hfresh
      · exact .idle rfl
  | settleInference ages index result outputIv uuids =>
      simp only [World.apply, World.settle]
      split
      · rename_i run hget
        split
        · rename_i s hsettle
          exact World.send_committed (.settlement hget hsettle) hfresh
        · exact .idle rfl
      · exact .idle rfl
  | failInference ages index code =>
      simp only [World.apply, World.failInference]
      split
      · split
        · exact World.send_committed .failure hfresh
        · exact .idle rfl
      · exact .idle rfl
  | authenticateAgent ages request =>
      simp only [World.apply, World.authenticate]
      split <;> exact .idle rfl
  | advanceAgent index =>
      simp only [World.apply, World.advanceAgent]
      split
      · exact .idle rfl
      · rename_i agentCall hget
        split
        · rename_i db hresult
          exact .sent _ (.agent hget) hfresh (World.result_eq_some.mp hresult).1
        · exact .idle rfl

/-- A step commits the batch its call sends, moves the clock, or leaves the database alone. -/
theorem step_committed (w : World) (call : Call) : Committed w call (step w call).db := by
  unfold step
  by_cases hfresh : w.isFresh call.uuids = true
  · rw [if_pos hfresh]
    exact apply_committed hfresh
  · rw [if_neg hfresh]
    exact .idle rfl

/-- A step leaves the tables its call does not write. -/
theorem step_rows_of_not_written {w : World} {call : Call} {t : MarketplaceTable}
    (ht : (call.writes.all fun write => write.table != t) = true) :
    (step w call).db.rows t = w.db.rows t := by
  have hne : ∀ write ∈ call.writes, write.table ≠ t := by
    intro write hwrite
    simpa using List.all_eq_true.mp ht write hwrite
  cases step_committed w call with
  | idle h => rw [h]
  | clock instant h => rw [h]
  | sent batch hsends hfresh hrun => exact hsends.confined.rows_eq hne hrun

/-- A step adds no rows to a table its call does not add to. -/
theorem Sends.length_le {w : World} {call : Call} {batch : Batch} (hsends : Sends w call batch)
    {t : MarketplaceTable} (ht : TableWrite.adds t ∉ call.writes) {db db' : MarketplaceDb}
    (hrun : runBatch db batch = some db') : (db'.rows t).length ≤ (db.rows t).length :=
  hsends.confined.length_le ht hrun

/-! ## Runs of admitted calls -/

/-- The states of all runs whose calls meet a condition. -/
def AdmittedRun (Admits : Call → Prop) (w : World) : Prop :=
  ∃ clock deployment calls, (∀ call ∈ calls, Admits call) ∧
    w = run step (World.start clock deployment) calls

section Admitted

variable {Admits : Call → Prop}

theorem AdmittedRun.reachable {w : World} (h : AdmittedRun Admits w) : Reachable w := by
  obtain ⟨clock, deployment, calls, -, rfl⟩ := h
  exact ⟨clock, deployment, calls, rfl⟩

theorem Reachable.admittedRun {w : World} (h : Reachable w) : AdmittedRun (fun _ => True) w := by
  obtain ⟨clock, deployment, calls, rfl⟩ := h
  exact ⟨clock, deployment, calls, fun _ _ => trivial, rfl⟩

/-- What holds initially and is preserved by every admitted step holds along such runs. -/
theorem AdmittedRun.induction {P : World → Prop}
    (h0 : ∀ clock deployment, P (World.start clock deployment))
    (hstep : ∀ w call, AdmittedRun Admits w → Admits call → P w → P (step w call))
    {w : World} (h : AdmittedRun Admits w) : P w := by
  obtain ⟨clock, deployment, calls, hcalls, rfl⟩ := h
  induction calls using List.reverseRecOn with
  | nil => exact h0 clock deployment
  | append_singleton calls call ih =>
      have hbefore : ∀ c ∈ calls, Admits c :=
        fun c hc => hcalls c (List.mem_append_left _ hc)
      rw [run_append]
      exact hstep _ call ⟨clock, deployment, calls, hbefore, rfl⟩ (hcalls call (by simp))
        (ih hbefore)

/--
The rule of database invariants over the batches admitted calls send: a property the
clock does not touch and every such batch preserves holds of all snapshots.
-/
theorem AdmittedRun.snapshots {P : MarketplaceDb → Prop} (h0 : ∀ clock, P (.empty clock))
    (hclock : ∀ db instant, P db → P { db with clock := instant })
    (hsends : ∀ w call batch db, AdmittedRun Admits w → Admits call →
      (∀ snap ∈ w.snapshots, P snap) → Sends w call batch → w.isFresh call.uuids = true →
      runBatch w.db batch = some db → Follows w.db db → P db)
    {w : World} (h : AdmittedRun Admits w) : ∀ snap ∈ w.snapshots, P snap := by
  refine h.induction (P := fun w => ∀ snap ∈ w.snapshots, P snap) ?_ ?_
  · intro clock deployment
    simpa [World.snapshots, World.start] using h0 clock
  · intro w call hw hadmits ih snap hsnap
    rcases (hw.reachable.stepped call).snapshots_eq hsnap with rfl | hold
    · cases step_committed w call with
      | idle h =>
          rw [h]
          exact ih _ w.db_mem
      | clock instant h =>
          rw [h]
          exact hclock w.db instant (ih _ w.db_mem)
      | sent batch hbatch hfresh hrun =>
          exact hsends w call batch _ hw hadmits ih hbatch hfresh hrun
            (hw.reachable.stepped call).follows
    · exact ih snap hold

end Admitted

/-! ## Milestones of the sample run

The states after the approval and after the publication, written out: what comes later
is evaluated from them.
-/

deriving instance DecidableEq for SupplierRow
deriving instance DecidableEq for AuthorizationRow
deriving instance DecidableEq for EventRow
deriving instance DecidableEq for OfferRow
deriving instance DecidableEq for AuditEventRow
deriving instance DecidableEq for IdempotencyRow

/-- A request of the service touches the database and the drawn values only. -/
theorem step_service_frame (w : World) (ages : List Nat) (request : ServiceRequest) :
    (Server.step w (.service ages request)).deployment = w.deployment ∧
      (Server.step w (.service ages request)).inferences = w.inferences ∧
      (Server.step w (.service ages request)).agentCalls = w.agentCalls := by
  unfold Server.step
  split
  · simp only [World.apply, World.perform]
    split
    · exact ⟨w.send_deployment _, w.send_inferences _, w.send_agentCalls _⟩
    · exact ⟨rfl, rfl, rfl⟩
  · exact ⟨rfl, rfl, rfl⟩

/-- A state is given by its tables, its clock and its other members. -/
theorem World.eq_mk {w : World} {rows : (t : MarketplaceTable) → List (MarketplaceRow t)}
    {clock : Nat} {past : List MarketplaceDb} {drawn : List String} {deployment : Deployment}
    {inferences : List InferenceInFlight} {agentCalls : List AgentCall}
    (hrows : w.db.rows = rows) (hclock : w.db.clock = clock) (hpast : w.past = past)
    (hdrawn : w.drawn = drawn)
    (hframe : w.deployment = deployment ∧ w.inferences = inferences ∧
      w.agentCalls = agentCalls) :
    w = ⟨{ rows, clock }, past, drawn, deployment, inferences, agentCalls⟩ := by
  obtain ⟨rfl, rfl, rfl⟩ := hframe
  subst hrows hclock hpast hdrawn
  rfl

theorem sampleWorld_succ {n : Nat} {call : Call} (h : sampleCalls[n]? = some call) :
    sampleWorld (n + 1) = Server.step (sampleWorld n) call :=
  stateAt_succ h

/-- Up to its sixth call the sample run only sends requests of the service. -/
theorem sampleWorld_frame {n : Nat} {ages : List Nat} {request : ServiceRequest}
    (h : sampleCalls[n]? = some (.service ages request))
    (hbefore : (sampleWorld n).deployment = sampleDeployment ∧ (sampleWorld n).inferences = [] ∧
      (sampleWorld n).agentCalls = []) :
    (sampleWorld (n + 1)).deployment = sampleDeployment ∧
      (sampleWorld (n + 1)).inferences = [] ∧ (sampleWorld (n + 1)).agentCalls = [] := by
  rw [sampleWorld_succ h]
  obtain ⟨hdeployment, hinferences, hagents⟩ := step_service_frame (sampleWorld n) ages request
  exact ⟨hdeployment.trans hbefore.1, hinferences.trans hbefore.2.1, hagents.trans hbefore.2.2⟩

/-- An event of the sample supplier. -/
def sampleEvent (eventId actorId causationId : String) (version : Nat)
    (payload : SupplierEventPayload) : EventRow where
  eventId := eventId
  tenantId := "tenant-supplier"
  actorId := actorId
  causationId := causationId
  aggregateType := "supplier"
  aggregateId := "supplier-s1"
  aggregateVersion := version
  schemaVersion := 1
  payload := .supplier payload
  occurredAt := { text := "1970-01-01T00:00:01.000Z", instant := some 1000 }

/-- A verification the sample approval records. -/
def sampleVerification (verificationId evidenceRef : String) (kind : SupplierVerificationKind) :
    SupplierEventPayload :=
  .verificationRecorded
    { verificationId := verificationId
      kind := kind
      status := .verified
      evidenceRef := evidenceRef
      completedAt := { text := "1970-01-01T00:00:01.000Z", instant := some 1000 }
      expiresAt := some { text := "1970-01-02T00:00:00.000Z", instant := some 86400000 } }

/-- The supplier's log after the approval. -/
def sampleSupplierLog : List EventRow :=
  [sampleEvent "event-e1" "actor-supplier" "register-1" 1
      (.registered
        { supplierId := "supplier-s1"
          kind := .individual
          legalName := "Sample Supplier"
          displayName := "Sample"
          countryCode := "CN"
          taxResidenceCountryCode := "CN" }),
    sampleEvent "event-e2" "actor-reviewer" "review-1-verification-1" 2
      (sampleVerification "verification-authorization-request-a1-identity" "evidence-1-identity"
        .identity),
    sampleEvent "event-e3" "actor-reviewer" "review-1-verification-2" 3
      (sampleVerification "verification-authorization-request-a1-tax" "evidence-1-tax" .tax),
    sampleEvent "event-e4" "actor-reviewer" "review-1-verification-3" 4
      (sampleVerification "verification-authorization-request-a1-payout" "evidence-1-payout"
        .payout),
    sampleEvent "event-e5" "actor-reviewer" "review-1-authorization-4" 5
      (.providerAuthorizationRecorded
        { authorizationId := "authorization-authorization-request-a1"
          providerId := "provider-1"
          sourceType := .apiProject
          authorizedUse := .inferenceResale
          meteringMode := .providerReport
          evidenceRef := "evidence-1"
          modelPatterns := ["model-*"]
          regionCodes := ["CN"]
          allowedDataClasses := [.p0, .p1]
          capacityCeiling := sampleLimits
          validFrom := { text := "1970-01-01T00:00:01.000Z", instant := some 1000 }
          validUntil := { text := "1970-01-02T00:00:00.000Z", instant := some 86400000 }
          status := .active }),
    sampleEvent "event-e6" "actor-reviewer" "review-1-activation-5" 6
      (.activated { text := "1970-01-01T00:00:01.000Z", instant := some 1000 })]

/-- The approved authorization. -/
def sampleAuthorization : AuthorizationRow where
  requestId := "authorization-request-a1"
  tenantId := "tenant-supplier"
  supplierId := "supplier-s1"
  providerId := "provider-1"
  sourceType := .apiProject
  meteringMode := .providerReport
  evidenceRef := "evidence-1"
  modelPattern := "model-*"
  regionCode := "CN"
  dataClasses := [.p0, .p1]
  limits := sampleLimits
  validUntil := { text := "1970-01-02T00:00:00.000Z", instant := some 86400000 }
  gatewayEndpoint := "https://node.example"
  encryptedGatewayToken := .sealed "credential-v3" "iv1"
    ["tenant-supplier", "authorization-request-a1", "3", "credential-v3"] sampleToken
  gatewayTokenIv := "iv1"
  credentialKeyId := "credential-v3"
  gatewayTokenDigest := some (.credentialLookup "lookup-v3" sampleToken)
  gatewayTokenDigestVersion := 3
  gatewayTokenLookupKeyId := "lookup-v3"
  encryptionKeyVersion := 3
  authorizationRevision := 1
  status := .approved
  reviewNote := some "生产授权与节点健康证明审核通过"
  reviewedBy := some "actor-reviewer"
  reviewCommandId := some "review-1"
  reviewedAt := some 1000
  credentialRotatedAt := none
  revokedAt := none
  revocationReasonCode := none
  createdAt := 1000
  updatedAt := 1000

def sampleAudit (auditId member action resourceType resourceId : String) : AuditEventRow where
  auditId := auditId
  tenantId := "tenant-" ++ member
  actorId := "actor-" ++ member
  action := action
  resourceType := resourceType
  resourceId := resourceId
  occurredAt := 1000

def sampleKey (tenantId operation idempotencyKey resourceId : String) : IdempotencyRow where
  tenantId := tenantId
  operation := operation
  idempotencyKey := idempotencyKey
  resourceId := resourceId
  createdAt := 1000

/-- The tables after the approval. -/
def approvedTables : (t : MarketplaceTable) → List (MarketplaceRow t)
  | .suppliers =>
      [{ supplierId := "supplier-s1"
         tenantId := "tenant-supplier"
         userId := "user-supplier"
         kind := .individual
         legalName := "Sample Supplier"
         displayName := "Sample"
         countryCode := "CN"
         taxResidenceCountryCode := "CN"
         status := .active
         supplyEnabled := false
         version := 6
         createdAt := 1000
         updatedAt := 1000 }]
  | .authorizationRequests => [sampleAuthorization]
  | .marketplaceEvents => sampleSupplierLog
  | .auditEvents =>
      [sampleAudit "audit-u1" "supplier" "supplier.registered" "supplier" "supplier-s1",
        sampleAudit "audit-u2" "supplier" "authorization.submitted" "authorization-request"
          "authorization-request-a1",
        sampleAudit "audit-u3" "reviewer" "authorization.approved" "authorization-request"
          "authorization-request-a1"]
  | .idempotencyKeys =>
      [sampleKey "tenant-supplier" "supplier.register" "register-1" "supplier-s1",
        sampleKey "tenant-supplier" "authorization.submit" "submit-1" "authorization-request-a1",
        sampleKey "platform" "authorization.review-target" "authorization-request-a1"
          "review-op-r1",
        sampleKey "tenant-reviewer" "authorization.review" "review-1"
          "authorization-request-a1:approve"]
  | _ => []

/-- The state after the approval. -/
def approvedWorld : World where
  db := { rows := approvedTables, clock := 1000 }
  past := (sampleWorld 3).past
  drawn := ["r1", "u3", "e2", "e3", "e4", "e5", "e6", "e7", "a1", "u2", "s1", "e1", "u1"]
  deployment := sampleDeployment
  inferences := []
  agentCalls := []

/-- The tables the first three calls of the sample run leave empty. -/
def untouchedTables : List MarketplaceTable :=
  [.users, .capacityOffers, .inferenceJobs, .usageRecords, .serviceEvidence, .ledgerEntries,
    .artifacts, .artifactChunks, .artifactObjectDeletions, .supplierArtifactWorkers,
    .artifactTasks, .artifactTaskCheckpoints, .artifactTaskEvidence, .agentRequestNonces]

/-- The tables after the publication. -/
def publishedTables : (t : MarketplaceTable) → List (MarketplaceRow t)
  | .capacityOffers =>
      [{ offerId := "offer-o1"
         tenantId := "tenant-supplier"
         supplierId := "supplier-s1"
         authorizationRequestId := "authorization-request-a1"
         providerId := "provider-1"
         sourceType := .apiProject
         model := "model-a"
         regionCode := "CN"
         dataClasses := [.p0]
         requestsPerMinute := 60
         tokensPerMinute := 100000
         concurrency := 2
         maxOutputTokens := 1000
         priceMicrosPerMillionTokens := 2000000
         status := .active
         validFrom := 1000
         validUntil := 43200000
         version := 1
         createdAt := 1000
         updatedAt := 1000 }]
  | .marketplaceEvents =>
      sampleSupplierLog ++
        [{ eventId := "event-e8"
           tenantId := "tenant-supplier"
           actorId := "actor-supplier"
           causationId := "offer-1"
           aggregateType := "capacity-offer"
           aggregateId := "offer-o1"
           aggregateVersion := 1
           schemaVersion := 1
           payload := .capacityOfferPublished
             { offerId := "offer-o1"
               authorizationId := "authorization-authorization-request-a1"
               providerId := "provider-1"
               model := "model-a"
               serviceTier := none
               regionCode := "CN"
               dataClasses := [.p0]
               limits := sampleLimits
               currency := "CNY"
               rates := [{ unit := "million_tokens", amountMicros := "2000000" }]
               validFrom := { text := "1970-01-01T00:00:01.000Z", instant := some 1000 }
               validUntil := { text := "1970-01-01T12:00:00.000Z", instant := some 43200000 } }
             "supplier-s1" .apiProject
           occurredAt := { text := "1970-01-01T00:00:01.000Z", instant := some 1000 } }]
  | .auditEvents =>
      approvedTables .auditEvents ++
        [sampleAudit "audit-u4" "supplier" "offer.published" "capacity-offer" "offer-o1"]
  | .idempotencyKeys =>
      approvedTables .idempotencyKeys ++
        [sampleKey "tenant-supplier" "offer.create" "offer-1"
          ("offer.create:v1:[\"authorization-request-a1\",\"model-a\",[\"P0\"],60,100000,2," ++
            "1000,\"2000000\",\"1970-01-01T12:00:00.000Z\"]")]
  | t => approvedTables t

/-- What the approval and the publication leave in the tables, one after the other. -/
theorem sampleTables_computed :
    ((sampleWorld 3).drawn = ["r1", "u3", "e2", "e3", "e4", "e5", "e6", "e7", "a1",
        "u2", "s1", "e1", "u1"] ∧ (sampleWorld 3).db.clock = 1000 ∧
      (sampleWorld 3).db.rows .suppliers = approvedTables .suppliers ∧
      (sampleWorld 3).db.rows .authorizationRequests = approvedTables .authorizationRequests ∧
      (sampleWorld 3).db.rows .marketplaceEvents = approvedTables .marketplaceEvents ∧
      (sampleWorld 3).db.rows .auditEvents = approvedTables .auditEvents ∧
      (sampleWorld 3).db.rows .idempotencyKeys = approvedTables .idempotencyKeys ∧
      (untouchedTables.all fun t => ((sampleWorld 3).db.rows t).isEmpty) = true) ∧
    ((step approvedWorld (.service [] (.createCapacityOffer sampleSupplier sampleOffer
        "o1" "e8" "u4"))).drawn = ["o1", "e8", "u4", "r1", "u3", "e2", "e3", "e4", "e5", "e6", "e7",
        "a1", "u2", "s1", "e1", "u1"] ∧
      ((step approvedWorld (.service [] (.createCapacityOffer sampleSupplier sampleOffer
        "o1" "e8" "u4"))).db.clock = 1000) ∧
      ((step approvedWorld (.service [] (.createCapacityOffer sampleSupplier sampleOffer
        "o1" "e8" "u4"))).db.rows .capacityOffers) = publishedTables .capacityOffers ∧
      ((step approvedWorld (.service [] (.createCapacityOffer sampleSupplier sampleOffer
        "o1" "e8" "u4"))).db.rows .marketplaceEvents) = publishedTables .marketplaceEvents ∧
      ((step approvedWorld (.service [] (.createCapacityOffer sampleSupplier sampleOffer
        "o1" "e8" "u4"))).db.rows .auditEvents) = publishedTables .auditEvents ∧
      ((step approvedWorld (.service [] (.createCapacityOffer sampleSupplier sampleOffer
        "o1" "e8" "u4"))).db.rows .idempotencyKeys) = publishedTables .idempotencyKeys) := by
  constructor
  · decide +kernel
  · decide +kernel

theorem sampleWorld_three : sampleWorld 3 = approvedWorld := by
  obtain ⟨hdrawn, hclock, hsuppliers, hrequests, hevents, haudits, hkeys, huntouched⟩ :=
    sampleTables_computed.1
  have hempty : ∀ t ∈ untouchedTables, (sampleWorld 3).db.rows t = [] :=
    fun t ht => List.isEmpty_iff.mp (List.all_eq_true.mp huntouched t ht)
  have hrows : (sampleWorld 3).db.rows = approvedTables := by
    funext t
    cases t with
    | suppliers => exact hsuppliers
    | authorizationRequests => exact hrequests
    | marketplaceEvents => exact hevents
    | auditEvents => exact haudits
    | idempotencyKeys => exact hkeys
    | _ => exact hempty _ (by decide)
  have hframe := sampleWorld_frame (show sampleCalls[2]? = _ from rfl) (sampleWorld_frame
    (show sampleCalls[1]? = _ from rfl) (sampleWorld_frame (show sampleCalls[0]? = _ from rfl)
      ⟨rfl, rfl, rfl⟩))
  rw [approvedWorld]
  exact World.eq_mk hrows hclock rfl hdrawn hframe

/-! The offer is published next. -/

/-- The state after the publication. -/
def publishedWorld : World where
  db := { rows := publishedTables, clock := 1000 }
  past := (sampleWorld 4).past
  drawn :=
    ["o1", "e8", "u4", "r1", "u3", "e2", "e3", "e4", "e5", "e6", "e7", "a1", "u2", "s1", "e1",
      "u1"]
  deployment := sampleDeployment
  inferences := []
  agentCalls := []

theorem sampleWorld_four : sampleWorld 4 = publishedWorld := by
  have hnext : sampleWorld 4 = step approvedWorld
      (.service [] (.createCapacityOffer sampleSupplier sampleOffer "o1" "e8" "u4")) := by
    rw [← sampleWorld_three]
    exact sampleWorld_succ rfl
  have hfacts := sampleTables_computed.2
  have hframe := step_service_frame approvedWorld []
    (.createCapacityOffer sampleSupplier sampleOffer "o1" "e8" "u4")
  have hother : ∀ t : MarketplaceTable, (Call.service [] (.createCapacityOffer sampleSupplier
      sampleOffer "o1" "e8" "u4")).writes.all (fun write => write.table != t) = true →
      (step approvedWorld (.service [] (.createCapacityOffer sampleSupplier sampleOffer
        "o1" "e8" "u4"))).db.rows t = approvedTables t := fun t ht => step_rows_of_not_written ht
  have hafter : (step approvedWorld (.service [] (.createCapacityOffer sampleSupplier sampleOffer
      "o1" "e8" "u4"))).past = (sampleWorld 4).past := by
    rw [hnext]
  rw [hnext, publishedWorld]
  generalize step approvedWorld
    (.service [] (.createCapacityOffer sampleSupplier sampleOffer "o1" "e8" "u4")) = w at *
  obtain ⟨hdrawn, hclock, hoffers, hevents, haudits, hkeys⟩ := hfacts
  refine World.eq_mk ?_ hclock hafter hdrawn hframe
  funext t
  cases t with
  | capacityOffers => exact hoffers
  | marketplaceEvents => exact hevents
  | auditEvents => exact haudits
  | idempotencyKeys => exact hkeys
  | _ => exact hother _ rfl

/-- What follows the approval is evaluated from the state after it. -/
theorem run_approved (calls : List Call) :
    run Server.step (World.start 1000 sampleDeployment) (sampleCalls.take 3 ++ calls) =
      run Server.step approvedWorld calls := by
  rw [run_append]
  exact congrArg (fun w : World => run Server.step w calls) sampleWorld_three

/-- What follows the publication is evaluated from the state after it. -/
theorem run_published (calls : List Call) :
    run Server.step (World.start 1000 sampleDeployment) (sampleCalls.take 4 ++ calls) =
      run Server.step publishedWorld calls := by
  rw [run_append]
  exact congrArg (fun w : World => run Server.step w calls) sampleWorld_four

theorem sampleWorld_published (n : Nat) :
    sampleWorld (4 + n) = run Server.step publishedWorld ((sampleCalls.drop 4).take n) := by
  rw [← run_published, sampleWorld, List.take_add]

theorem sampleArtifactWorld_eq (n : Nat) :
    sampleArtifactWorld n =
      run Server.step publishedWorld
        ((sampleCalls.take 6).drop 4 ++ sampleArtifactCalls.take n) := by
  rw [← run_published, sampleArtifactWorld, sampleWorld, ← run_append]
  rfl

end Server
end TokenStreaming
