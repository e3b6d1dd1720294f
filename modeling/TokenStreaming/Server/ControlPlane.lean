import TokenStreaming.Foundation.TransitionSystem
import TokenStreaming.Server.ArtifactService
import TokenStreaming.Server.ArtifactWorkerService
import TokenStreaming.Server.MaintenanceService

/-!
# Control plane - The system and its steps

The whole control plane as a transition system.  A state holds the database, the
database states that requests in flight may still have read, and the local
variables of the two functions that keep some between their writes,
{lit}`runInference` and {lit}`authenticateAgentRequest`.

A step is one batch.  Every read a request made before its batch names the state
it observed by its age, so any interleaving of requests is a run, and a request
that stops half-way is one whose later steps never come.

Main definitions:

- {lit}`ServiceRequest.batch`: the batch of a request that keeps nothing.
- {lit}`step`: one batch, a change of the clock or a new deployment.
- {lit}`Reachable`: the states of all runs from an empty database.
-/

namespace TokenStreaming
namespace Server

open Relational Domain TransitionSystem

/-! ## Requests that send one batch -/

/-- A request, or one of the batches of a longer one, with its fresh random values. -/
inductive ServiceRequest where
  | ensureUser (identity : RequestIdentity)
  | registerSupplierProfile (identity : RequestIdentity) (input : RegisterSupplierRequest)
      (supplierUuid eventUuid auditUuid : String)
  | submitAuthorizationRequest (identity : RequestIdentity) (input : CreateAuthorizationRequest)
      (requestUuid iv auditUuid : String)
  | rejectAuthorization (identity : RequestIdentity) (requestId commandId : String)
      (reviewNote : Option String) (operationUuid auditUuid : String)
  | approveAuthorization (identity : RequestIdentity) (requestId commandId : String)
      (reviewNote : Option String) (operationUuid auditUuid : String) (eventUuids : List String)
  | revokeAuthorization (identity : RequestIdentity)
      (requestId commandId reasonCode operationUuid eventUuid : String)
  | rotateAuthorizationCredential (identity : RequestIdentity)
      (requestId commandId reasonCode gatewayBearerToken operationUuid iv : String)
  | createCapacityOffer (identity : RequestIdentity) (input : CreateCapacityOfferRequest)
      (offerUuid eventUuid auditUuid : String)
  | setSupplyState (identity : RequestIdentity) (commandId : String) (enabled : Bool)
      (auditUuid : String)
  | cleanupStaleInferenceReservations
  | cleanupExpiredInferenceContent
  | createArtifactUpload (identity : RequestIdentity) (input : CreateArtifactUploadRequest)
      (artifactUuid auditUuid : String)
  | writeChunk (write : ChunkWrite)
  | completeArtifactUpload (identity : RequestIdentity) (artifactId : String)
      (manifestSha256 : Digest) (auditUuid : String)
  | createArtifactTask (identity : RequestIdentity) (input : CreateArtifactTaskRequest)
      (idempotencyKey taskUuid iv auditUuid : String)
  | bindCancellation (identity : RequestIdentity) (taskId commandId : String)
  | cancelArtifactTask (identity : RequestIdentity)
      (taskId commandId operationUuid auditUuid : String)
  | sweepArtifactTasks
  | claimExpiredArtifact
  | purgeExpiredTaskOutputs
  | purgeInferenceOutput (identity : RequestIdentity) (jobId auditUuid : String)
  | prepareTaskPurge (identity : RequestIdentity) (taskId : String)
  | claimArtifactPurge (identity : RequestIdentity) (artifactId : String)
  | recordArtifactPurge (identity : RequestIdentity) (artifactId : String)
      (taskId : Option String)
  | registerHeartbeat (identity : AgentAuthorizationIdentity) (input : ArtifactTaskClaimRequest)
  | expireLeases (supplierTenantId : String)
  | claimArtifactTask (identity : AgentAuthorizationIdentity) (input : ArtifactTaskClaimRequest)
      (leaseToken : String)
  | observeCancellation (identity : AgentAuthorizationIdentity) (taskId leaseToken : String)
  | checkpointArtifactTask (identity : AgentAuthorizationIdentity)
      (input : ArtifactTaskCheckpointRequest) (checkpointUuid : String)
  | failArtifactTask (identity : AgentAuthorizationIdentity) (taskId leaseToken code : String)
      (retryable : Bool)
  | expireFailedArtifact (artifactId : String)
  | completeArtifactTask (identity : AgentAuthorizationIdentity)
      (input : ArtifactTaskCompleteRequest) (outputIv : String) (uuids : CompletionUuids)
  | runMaintenanceBatch
  | rotateCredentialEncryptions (ivs : List String)

/-- The ids of a completion batch as a list. -/
def CompletionUuids.toList (uuids : CompletionUuids) : List String :=
  [uuids.usage, uuids.evidence, uuids.debit, uuids.credit, uuids.audit, uuids.fee]

/-- The random values a request draws. -/
def ServiceRequest.uuids : ServiceRequest → List String
  | .registerSupplierProfile _ _ supplierUuid eventUuid auditUuid =>
      [supplierUuid, eventUuid, auditUuid]
  | .submitAuthorizationRequest _ _ requestUuid _ auditUuid => [requestUuid, auditUuid]
  | .rejectAuthorization _ _ _ _ operationUuid auditUuid => [operationUuid, auditUuid]
  | .approveAuthorization _ _ _ _ operationUuid auditUuid eventUuids =>
      operationUuid :: auditUuid :: eventUuids
  | .revokeAuthorization _ _ _ _ operationUuid eventUuid => [operationUuid, eventUuid]
  | .rotateAuthorizationCredential _ _ _ _ _ operationUuid _ => [operationUuid]
  | .createCapacityOffer _ _ offerUuid eventUuid auditUuid => [offerUuid, eventUuid, auditUuid]
  | .setSupplyState _ _ _ auditUuid => [auditUuid]
  | .createArtifactUpload _ _ artifactUuid auditUuid => [artifactUuid, auditUuid]
  | .completeArtifactUpload _ _ _ auditUuid => [auditUuid]
  | .createArtifactTask _ _ _ taskUuid _ auditUuid => [taskUuid, auditUuid]
  | .cancelArtifactTask _ _ _ operationUuid auditUuid => [operationUuid, auditUuid]
  | .purgeInferenceOutput _ _ auditUuid => [auditUuid]
  | .claimArtifactTask _ _ leaseToken => [leaseToken]
  | .checkpointArtifactTask _ _ checkpointUuid => [checkpointUuid]
  | .completeArtifactTask _ _ _ uuids => uuids.toList
  | _ => []

/-- What a deployment of the control plane fixes. -/
structure Deployment where
  settings : RuntimeSettings
  keyrings : Keyrings

/-- The runtime policy of a deployment. -/
def Deployment.policy (d : Deployment) : MarketplaceRuntimePolicy :=
  getMarketplaceRuntimePolicy d.settings

/-- The batch a request sends after its reads. -/
def ServiceRequest.batch (d : Deployment) (reads : Reads) : ServiceRequest → Request Batch
  | .ensureUser identity => .ok (Server.ensureUser identity d.policy (reads 0).clock)
  | .registerSupplierProfile identity input supplierUuid eventUuid auditUuid =>
      Server.registerSupplierProfile reads identity input supplierUuid eventUuid auditUuid
  | .submitAuthorizationRequest identity input requestUuid iv auditUuid =>
      Server.submitAuthorizationRequest reads d.keyrings identity input requestUuid iv auditUuid
  | .rejectAuthorization identity requestId commandId reviewNote operationUuid auditUuid =>
      Server.rejectAuthorization reads identity requestId commandId reviewNote operationUuid
        auditUuid
  | .approveAuthorization identity requestId commandId reviewNote operationUuid auditUuid
      eventUuids =>
      Server.approveAuthorization reads d.keyrings identity requestId commandId reviewNote
        operationUuid auditUuid eventUuids
  | .revokeAuthorization identity requestId commandId reasonCode operationUuid eventUuid =>
      Server.revokeAuthorization reads identity requestId commandId reasonCode operationUuid
        eventUuid
  | .rotateAuthorizationCredential identity requestId commandId reasonCode gatewayBearerToken
      operationUuid iv =>
      Server.rotateAuthorizationCredential reads d.keyrings identity requestId commandId
        reasonCode gatewayBearerToken operationUuid iv
  | .createCapacityOffer identity input offerUuid eventUuid auditUuid =>
      Server.createCapacityOffer reads identity input offerUuid eventUuid auditUuid
  | .setSupplyState identity commandId enabled auditUuid =>
      Server.setSupplyState reads identity commandId enabled auditUuid
  | .cleanupStaleInferenceReservations =>
      .ok (Server.cleanupStaleInferenceReservations d.policy (reads 0).clock)
  | .cleanupExpiredInferenceContent =>
      .ok (Server.cleanupExpiredInferenceContent (reads 0).clock)
  | .createArtifactUpload identity input artifactUuid auditUuid =>
      Server.createArtifactUpload reads d.policy identity input artifactUuid auditUuid
  | .writeChunk write => .ok write.batch
  | .completeArtifactUpload identity artifactId manifestSha256 auditUuid =>
      Server.completeArtifactUpload reads identity artifactId manifestSha256 auditUuid
  | .createArtifactTask identity input idempotencyKey taskUuid iv auditUuid =>
      Server.createArtifactTask reads d.policy identity input idempotencyKey taskUuid iv auditUuid
  | .bindCancellation identity taskId commandId =>
      Server.bindCancellation reads identity taskId commandId
  | .cancelArtifactTask identity taskId commandId operationUuid auditUuid =>
      Server.cancelArtifactTask reads identity taskId commandId operationUuid auditUuid
  | .sweepArtifactTasks => .ok (Server.sweepArtifactTasks d.policy (reads 0).clock)
  | .claimExpiredArtifact => Server.claimExpiredArtifact reads (reads 1).clock
  | .purgeExpiredTaskOutputs => .ok (Server.purgeExpiredTaskOutputs (reads 0).clock)
  | .purgeInferenceOutput identity jobId auditUuid =>
      Server.purgeInferenceOutput reads identity jobId auditUuid
  | .prepareTaskPurge identity taskId => Server.prepareTaskPurge reads identity taskId
  | .claimArtifactPurge identity artifactId => Server.claimArtifactPurge reads identity artifactId
  | .recordArtifactPurge identity artifactId taskId =>
      Server.recordArtifactPurge reads identity artifactId taskId
  | .registerHeartbeat identity input => Server.registerHeartbeat reads identity input
  | .expireLeases supplierTenantId =>
      .ok (Server.expireLeases d.policy supplierTenantId (reads 0).clock)
  | .claimArtifactTask identity input leaseToken =>
      Server.claimArtifactTask reads d.policy identity input leaseToken
  | .observeCancellation identity taskId leaseToken =>
      Server.observeCancellation reads identity taskId leaseToken
  | .checkpointArtifactTask identity input checkpointUuid =>
      Server.checkpointArtifactTask reads d.policy identity input checkpointUuid
  | .failArtifactTask identity taskId leaseToken code retryable =>
      Server.failArtifactTask reads d.policy identity taskId leaseToken code retryable
  | .expireFailedArtifact artifactId =>
      .ok (Server.expireFailedArtifact artifactId (reads 0).clock)
  | .completeArtifactTask identity input outputIv uuids =>
      (Server.completeArtifactTask reads d.policy identity input outputIv).map fun s =>
        artifactCompletionBatch s uuids
  | .runMaintenanceBatch => .ok (maintenanceBatch d.policy (reads 0).clock)
  | .rotateCredentialEncryptions ivs =>
      Server.rotateCredentialEncryptions reads d.keyrings.credential ivs

/-! ## States -/

/-- Where an inference stands after its reservation. -/
inductive InferencePhase where
  | reserved
  | dispatched
  /-- The completion batch was sent. -/
  | settled
  | closed
deriving DecidableEq

/-- An inference in flight. -/
structure InferenceInFlight where
  run : InferenceRun
  phase : InferencePhase

/-- A state of the control plane. -/
structure World where
  db : MarketplaceDb
  /-- Earlier database states, newest first. -/
  past : List MarketplaceDb
  /-- Random values drawn so far. -/
  drawn : List String
  deployment : Deployment
  inferences : List InferenceInFlight
  agentCalls : List AgentCall

/-- The state of an empty database. -/
def World.start (clock : Nat) (deployment : Deployment) : World where
  db := MarketplaceDb.empty clock
  past := []
  drawn := []
  deployment := deployment
  inferences := []
  agentCalls := []

/-- The database states a request may have observed. -/
def World.snapshots (w : World) : List MarketplaceDb :=
  w.db :: w.past

/-- The states observed by reads of the given ages. -/
def World.reads (w : World) (ages : List Nat) : Reads := fun k =>
  w.snapshots.getD (ages.getD k 0) w.db

/-- A new database state; the old one remains observable. -/
def World.commit (w : World) (db : MarketplaceDb) : World :=
  { w with db := db, past := w.db :: w.past }

/-- The database a batch leads to.  No database file holds more events than a safe integer. -/
def World.result (w : World) (batch : Batch) : Option MarketplaceDb :=
  (runBatch w.db batch).filter fun db =>
    decide ((db.rows .marketplaceEvents).length ≤ maxSafeInteger)

/-- Send a batch; an aborted one leaves the state alone. -/
def World.send (w : World) (batch : Batch) : World :=
  match w.result batch with
  | some db => w.commit db
  | none => w

/-- Send the batch of a request; a refused one sends nothing. -/
def World.perform (w : World) (batch : Request Batch) : World :=
  match batch with
  | .ok batch => w.send batch
  | .error _ => w

/-- {lit}`crypto.randomUUID` renders digits and dashes; no colon can occur. -/
def isPlain (uuid : String) : Bool :=
  !uuid.toList.contains ':'

/-- The drawn values are new. -/
def World.isFresh (w : World) (uuids : List String) : Bool :=
  decide uuids.Nodup && uuids.all fun uuid => !w.drawn.contains uuid && isPlain uuid

/-- Remember drawn values. -/
def World.draw (w : World) (uuids : List String) : World :=
  { w with drawn := uuids ++ w.drawn }

/-! ## Steps -/

/-- One step of the control plane. -/
inductive Call where
  | setClock (instant : Nat)
  | deploy (deployment : Deployment)
  | service (ages : List Nat) (request : ServiceRequest)
  | reserveInference (ages : List Nat) (identity : RequestIdentity) (input : RunInferenceRequest)
      (idempotencyKey jobUuid : String)
  | dispatchInference (index : Nat)
  | settleInference (ages : List Nat) (index : Nat) (result : GatewayResult) (outputIv : String)
      (uuids : CompletionUuids)
  | failInference (ages : List Nat) (index : Nat) (code : String)
  | authenticateAgent (ages : List Nat) (request : AgentRequest)
  | advanceAgent (index : Nat)

/-- The random values a call draws. -/
def Call.uuids : Call → List String
  | .service _ request => request.uuids
  | .reserveInference _ _ _ _ jobUuid => [jobUuid]
  | .settleInference _ _ _ _ uuids => uuids.toList
  | _ => []

/-- A new deployment keeps every readable key. -/
def Deployment.extends (new old : Deployment) : Bool :=
  (old.keyrings.credential.keyIds.all fun keyId =>
      new.keyrings.credential.keyIds.contains keyId) &&
    old.keyrings.credentialLookup.keyIds.all fun keyId =>
      new.keyrings.credentialLookup.keyIds.contains keyId

/-- Reserve an inference; a reservation that changed no row ends the request. -/
def World.reserve (w : World) (reservation : Request (Option (InferenceRun × Batch))) : World :=
  match reservation with
  | .ok (some (run, batch)) =>
      match w.result batch with
      | some db =>
          if batchChanges w.db batch = [1] then
            { w.commit db with
              inferences := w.inferences ++ [{ run, phase := .reserved }] }
          else w.commit db
      | none => w
  | _ => w

/-- Send a batch of an inference in flight and move the inference to a phase. -/
def World.sendFor (w : World) (index : Nat) (run : InferenceRun) (batch : Batch)
    (phase : InferencePhase) : World :=
  { w.send batch with inferences := w.inferences.set index { run, phase } }

/-- Dispatch a reserved inference; a dispatch that changed no row ends the request. -/
def World.dispatch (w : World) (index : Nat) : World :=
  match w.inferences[index]? with
  | some { run, phase := .reserved } =>
      w.sendFor index run (dispatchBatch run)
        (if batchChanges w.db (dispatchBatch run) = [1] then .dispatched else .closed)
  | _ => w

/-- Settle a dispatched inference with the gateway's result. -/
def World.settle (w : World) (reads : Reads) (index : Nat) (result : GatewayResult)
    (outputIv : String) (uuids : CompletionUuids) : World :=
  match w.inferences[index]? with
  | some { run, phase := .dispatched } =>
      match settleInference reads w.deployment.keyrings.credential w.deployment.policy run result
          outputIv with
      | .ok settlement => w.sendFor index run (completionBatch settlement uuids) .settled
      | .error _ => w
  | _ => w

/-- The {lit}`catch` of a dispatched inference. -/
def World.failInference (w : World) (reads : Reads) (index : Nat) (code : String) : World :=
  match w.inferences[index]? with
  | some { run, phase } =>
      if phase = .dispatched ∨ phase = .settled then
        w.sendFor index run (failureBatch run code (reads 0).clock) .closed
      else w
  | none => w

/-- Begin an authentication. -/
def World.authenticate (w : World) (call : Request AgentCall) : World :=
  match call with
  | .ok call => { w with agentCalls := w.agentCalls ++ [call] }
  | .error _ => w

/-- The next write of an authentication; an aborted batch refuses it. -/
def World.advanceAgent (w : World) (index : Nat) : World :=
  match w.agentCalls[index]? with
  | none => w
  | some call =>
      match w.result call.batch with
      | some db =>
          { w.commit db with
            agentCalls := w.agentCalls.set index { call with phase := call.next w.db } }
      | none => { w with agentCalls := w.agentCalls.set index { call with phase := .refused } }

/-- The effect of a call. -/
def World.apply (w : World) : Call → World
  | .setClock instant => w.commit { w.db with clock := instant }
  | .deploy deployment =>
      if deployment.extends w.deployment then { w with deployment := deployment } else w
  | .service ages request => w.perform (request.batch w.deployment (w.reads ages))
  | .reserveInference ages identity input idempotencyKey jobUuid =>
      w.reserve (reserveInference (w.reads ages) w.deployment.policy identity input idempotencyKey
        jobUuid)
  | .dispatchInference index => w.dispatch index
  | .settleInference ages index result outputIv uuids =>
      w.settle (w.reads ages) index result outputIv uuids
  | .failInference ages index code => w.failInference (w.reads ages) index code
  | .authenticateAgent ages request =>
      w.authenticate (verifyAgentRequest (w.reads ages) w.deployment.keyrings.credentialLookup
        request)
  | .advanceAgent index => w.advanceAgent index

/-- One step; a call that would reuse a random value cannot happen. -/
def step (w : World) (call : Call) : World :=
  if w.isFresh call.uuids then (w.apply call).draw call.uuids else w

/-- The states of all runs. -/
def Reachable (w : World) : Prop :=
  ∃ clock deployment calls, w = run step (World.start clock deployment) calls

end Server
end TokenStreaming
