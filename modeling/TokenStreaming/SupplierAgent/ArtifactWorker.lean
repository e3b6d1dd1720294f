import TokenStreaming.Foundation.Effects
import TokenStreaming.SupplierNode.ArtifactExecutor

/-!
# Supplier agent - The artifact worker

{lit}`SupplierArtifactWorker`: a loop that claims a task, has it executed, reports how it
ended and deletes its local checkpoint.  The control plane, the file system, the execution and
the clock are the surroundings: every call is answered with a value or an exception that may
depend on everything before.  A log records the requests that were sent, the accepted
completions and the deletions of checkpoint files.

Waiting between the rounds is left out, and responses have their declared type.
-/

namespace TokenStreaming
namespace SupplierAgent

open Domain SupplierNode Effects

/-! ## Errors, requests and responses -/

/-- What a call of the worker throws. -/
structure WorkerError where
  code : Option String := none
  retryable : Bool := false
deriving DecidableEq

def workerError (code : String) (retryable : Bool) : WorkerError where
  code := some code
  retryable := retryable

def errorCode (error : WorkerError) : String :=
  error.code.getD "ARTIFACT_WORKER_FAILED"

/-- {lit}`/^[A-Z][A-Z0-9_]\x7b2,63\x7d$/`. -/
def isFailureCode (code : String) : Bool :=
  match code.toList with
  | [] => false
  | first :: rest =>
      ('A' ≤ first && first ≤ 'Z') && 2 ≤ rest.length && rest.length ≤ 63 &&
        rest.all fun c => ('A' ≤ c && c ≤ 'Z') || ('0' ≤ c && c ≤ '9') || c == '_'

structure SupplierArtifactWorkerClaimRequest where
  protocolVersion : String
  requestId : String
  workerId : String
  providerId : String
  allowedModels : List String
  supportedMediaTypes : List String
  maxArtifactBytes : Nat
deriving DecidableEq

structure SupplierArtifactWorkerClaimResponse where
  protocolVersion : String
  requestId : String
  task : Option SupplierArtifactAssignment
  retryAfterMs : Int
deriving DecidableEq

structure SupplierArtifactTaskCheckpointRequest where
  protocolVersion : String
  requestId : String
  taskId : String
  leaseToken : String
  completedSegments : Nat
  totalSegments : Nat
  processedBytes : Nat
  usage : SupplierGatewayUsage
deriving DecidableEq

structure SupplierArtifactTaskCompleteRequest where
  protocolVersion : String
  requestId : String
  taskId : String
  leaseToken : String
  output : String
  usage : SupplierGatewayUsage
  executionEvidence : SupplierArtifactExecutionEvidence
  executionEvidenceSignature : String
deriving DecidableEq

structure SupplierArtifactTaskFailureRequest where
  protocolVersion : String
  requestId : String
  taskId : String
  leaseToken : String
  code : String
  retryable : Bool
deriving DecidableEq

/-- What {lit}`signedFetch` and the reading of its response can come to. -/
inductive ControlResponse (α : Type) where
  | unreachable (aborted : Bool)
  | interrupted
  | oversized
  | refused (status : Nat) (code : Option String) (retryable : Bool)
  | malformed
  | accepted (value : α)

/-- {lit}`signedJson` with {lit}`parseResponseError`. -/
def ControlResponse.result {α : Type} : ControlResponse α → Except WorkerError α
  | unreachable true => .error (workerError "WORKER_STOPPED" true)
  | unreachable false => .error (workerError "CONTROL_PLANE_UNAVAILABLE" true)
  | interrupted => .error {}
  | oversized => .error (workerError "CONTROL_RESPONSE_INVALID" false)
  | refused status code retryable =>
      .error (workerError (code.getD ("CONTROL_HTTP_" ++ toString status))
        (retryable || decide (status ≥ 500)))
  | malformed => .error (workerError "CONTROL_RESPONSE_INVALID" false)
  | accepted value => .ok value

/-! ## The worker and its surroundings -/

inductive SupplierArtifactWorkerState where
  | stopped | polling | processing | error
deriving DecidableEq

structure SupplierArtifactWorkerStatus where
  state : SupplierArtifactWorkerState := .stopped
  taskId : Option String := none
  completedSegments : Nat := 0
  totalSegments : Option Nat := none
  processedBytes : Nat := 0
  lastCompletedAt : Option String := none
  lastErrorCode : Option String := none
deriving DecidableEq

structure SupplierArtifactCheckpointCleanupResult where
  inspected : Nat
  deleted : Nat
  failed : Nat
deriving DecidableEq

inductive UnlinkOutcome where
  | removed | missing | failed
deriving DecidableEq

/-- What {lit}`executeArtifactTask` does: the checkpoints it hands out as long as none of them
throws, and how it ends behind them. -/
structure ArtifactExecution where
  checkpoints : List (SupplierArtifactCheckpointState × SupplierArtifactProgress)
  outcome : Except WorkerError SupplierArtifactExecutionResult

inductive WorkerEvent where
  | claimSent (request : SupplierArtifactWorkerClaimRequest)
  | assigned (assignment : SupplierArtifactAssignment)
  | checkpointSent (request : SupplierArtifactTaskCheckpointRequest)
  | completionSent (request : SupplierArtifactTaskCompleteRequest)
  | completionAccepted (taskId : String)
  | failureSent (request : SupplierArtifactTaskFailureRequest)
  /-- A file was removed, or it was not there. -/
  | checkpointDeleted (file : String)
deriving DecidableEq

/-- The fields of the worker, {lit}`completionAccepted` of the task in work, the log, and how
often the surroundings were consulted. -/
structure WorkerWorld where
  pendingTerminalCheckpointDeletes : List String := []
  statusValue : SupplierArtifactWorkerStatus := {}
  completionAccepted : Bool := false
  trace : List WorkerEvent := []
  consulted : Nat := 0

structure SupplierArtifactWorkerOptions where
  workerId : String
  gatewayToken : String
  providerId : String
  allowedModels : List String
  maxArtifactBytes : Nat

/-- The answers to what the worker asks, by everything before. -/
structure WorkerSurroundings where
  aborted : WorkerWorld → Bool
  randomId : WorkerWorld → String
  now : WorkerWorld → String
  onStatus : SupplierArtifactWorkerStatus → WorkerWorld → Except WorkerError Unit
  unlink : String → WorkerWorld → UnlinkOutcome
  cleanupExpired : WorkerWorld → Except WorkerError SupplierArtifactCheckpointCleanupResult
  read : String → String → WorkerWorld →
    Except WorkerError (Option SupplierArtifactCheckpointState)
  write : String → String → SupplierArtifactCheckpointState → WorkerWorld →
    Except WorkerError Unit
  claim : SupplierArtifactWorkerClaimRequest → WorkerWorld →
    ControlResponse SupplierArtifactWorkerClaimResponse
  checkpoint : SupplierArtifactTaskCheckpointRequest → WorkerWorld → ControlResponse Unit
  complete : SupplierArtifactTaskCompleteRequest → WorkerWorld → ControlResponse Unit
  fail : SupplierArtifactTaskFailureRequest → WorkerWorld → ControlResponse Unit
  execution : SupplierArtifactAssignment → Option SupplierArtifactCheckpointState →
    WorkerWorld → ArtifactExecution

abbrev Worker (α : Type) := Program WorkerWorld WorkerError α

namespace ArtifactWorker

def consult {α : Type} (answer : WorkerWorld → α) : Worker α := do
  let world ← get
  modify fun w => { w with consulted := w.consulted + 1 }
  return answer world

def log (event : WorkerEvent) : Worker Unit :=
  modify fun w => { w with trace := w.trace ++ [event] }

/-- Await an answer that may be an exception. -/
def await {α : Type} (answer : WorkerWorld → Except WorkerError α) : Worker α := do
  let result ← consult answer
  ask fun _ => result

variable (options : SupplierArtifactWorkerOptions) (surroundings : WorkerSurroundings)

def setStatus (change : SupplierArtifactWorkerStatus → SupplierArtifactWorkerStatus) :
    Worker Unit := do
  modify fun w => { w with statusValue := change w.statusValue }
  await fun w => surroundings.onStatus w.statusValue w

/-! ## The checkpoint store -/

def CHECKPOINT_SUFFIX : String :=
  ".checkpoint.json"

/-- The pattern of the ids of jobs. -/
def isTaskId (taskId : String) : Bool :=
  isJobId taskId

def checkpointName (taskId : String) : String :=
  taskId ++ CHECKPOINT_SUFFIX

/-- {lit}`file`, within the directory of the store. -/
def file (taskId : String) : Worker String := do
  failIf (isTaskId taskId = false) {}
  return checkpointName taskId

def delete (taskId : String) : Worker Unit := do
  let name ← file taskId
  let outcome ← consult (surroundings.unlink name)
  failIf (outcome = .failed) (workerError "CHECKPOINT_CLEANUP_FAILED" false)
  log (.checkpointDeleted name)

def read (taskId : String) : Worker (Option SupplierArtifactCheckpointState) := do
  let name ← file taskId
  await (surroundings.read name options.gatewayToken)

def write (taskId : String) (checkpoint : SupplierArtifactCheckpointState) : Worker Unit := do
  let name ← file taskId
  await (surroundings.write name options.gatewayToken checkpoint)

/-! ## Pending deletions -/

def enqueue (taskId : String) (w : WorkerWorld) : WorkerWorld :=
  if taskId ∈ w.pendingTerminalCheckpointDeletes then w
  else { w with pendingTerminalCheckpointDeletes :=
    w.pendingTerminalCheckpointDeletes ++ [taskId] }

def dequeue (taskId : String) (w : WorkerWorld) : WorkerWorld :=
  { w with pendingTerminalCheckpointDeletes :=
    w.pendingTerminalCheckpointDeletes.filter fun pending => pending ≠ taskId }

def deleteTerminalCheckpointOrQueue (taskId : String) : Worker Unit :=
  tryCatch
    (do
      delete surroundings taskId
      modify (dequeue taskId))
    fun error => do
      modify (enqueue taskId)
      throw error

def flushTerminalCheckpointDeletes : Worker Unit := do
  let world ← get
  world.pendingTerminalCheckpointDeletes.forM (deleteTerminalCheckpointOrQueue surroundings)

/-! ## Work on a task -/

def sendCheckpoint (assignment : SupplierArtifactAssignment)
    (progress : SupplierArtifactProgress) : Worker Unit := do
  let id ← consult surroundings.randomId
  let body : SupplierArtifactTaskCheckpointRequest :=
    { protocolVersion := SUPPLIER_ARTIFACT_WORKER_PROTOCOL_VERSION
      requestId := assignment.taskId ++ ":checkpoint:" ++ id
      taskId := assignment.taskId
      leaseToken := assignment.leaseToken
      completedSegments := progress.completedSegments
      totalSegments := progress.totalSegments
      processedBytes := progress.processedBytes
      usage := progress.usage }
  log (.checkpointSent body)
  await fun w => (surroundings.checkpoint body w).result

def failureRequest (assignment : SupplierArtifactAssignment) (code : String)
    (retryable : Bool) (id : String) : SupplierArtifactTaskFailureRequest where
  protocolVersion := SUPPLIER_ARTIFACT_WORKER_PROTOCOL_VERSION
  requestId := assignment.taskId ++ ":fail:" ++ id
  taskId := assignment.taskId
  leaseToken := assignment.leaseToken
  code := if isFailureCode code then code else "ARTIFACT_WORKER_FAILED"
  retryable := retryable

def sendFailure (assignment : SupplierArtifactAssignment) (code : String)
    (retryable : Bool) : Worker Unit := do
  let id ← consult surroundings.randomId
  let body := failureRequest assignment code retryable id
  log (.failureSent body)
  await fun w => (surroundings.fail body w).result

def sendCompletion (assignment : SupplierArtifactAssignment)
    (result : SupplierArtifactExecutionResult) : Worker Unit := do
  let id ← consult surroundings.randomId
  let body : SupplierArtifactTaskCompleteRequest :=
    { protocolVersion := SUPPLIER_ARTIFACT_WORKER_PROTOCOL_VERSION
      requestId := assignment.taskId ++ ":complete:" ++ id
      taskId := assignment.taskId
      leaseToken := assignment.leaseToken
      output := result.output
      usage := result.usage
      executionEvidence := result.executionEvidence
      executionEvidenceSignature := result.executionEvidenceSignature }
  log (.completionSent body)
  await fun w => (surroundings.complete body w).result

/-- The handler of checkpoints that {lit}`processTask` passes to the execution. -/
def onCheckpoint (assignment : SupplierArtifactAssignment)
    (next : SupplierArtifactCheckpointState × SupplierArtifactProgress) : Worker Unit := do
  write options surroundings assignment.taskId next.1
  sendCheckpoint surroundings assignment next.2
  setStatus surroundings fun status =>
    { status with
      state := .processing
      taskId := some assignment.taskId
      completedSegments := next.2.completedSegments
      totalSegments := some next.2.totalSegments
      processedBytes := next.2.processedBytes
      lastErrorCode := none }

def executeArtifactTask (assignment : SupplierArtifactAssignment)
    (checkpoint : Option SupplierArtifactCheckpointState) :
    Worker SupplierArtifactExecutionResult := do
  let execution ← consult (surroundings.execution assignment checkpoint)
  execution.checkpoints.forM (onCheckpoint options surroundings assignment)
  ask fun _ => execution.outcome

/-- The stored checkpoint, which a task that starts from the beginning deletes. -/
def storedCheckpoint (assignment : SupplierArtifactAssignment) :
    Worker (Option SupplierArtifactCheckpointState) := do
  let stored ← read options surroundings assignment.taskId
  if assignment.resumeFromSegment = 0 ∧ stored.isSome then
    delete surroundings assignment.taskId
    return none
  return stored

/-- The {lit}`try` block of {lit}`processTask`. -/
def attemptTask (assignment : SupplierArtifactAssignment) : Worker Unit := do
  let stored ← storedCheckpoint options surroundings assignment
  let checkpoint := stored.filter fun state =>
    state.completedSegments = assignment.resumeFromSegment
  failIf (assignment.resumeFromSegment > 0 ∧ checkpoint = none)
    (workerError "ARTIFACT_CHECKPOINT_REQUIRED" false)
  let result ← executeArtifactTask options surroundings assignment checkpoint
  sendCompletion surroundings assignment result
  log (.completionAccepted assignment.taskId)
  modify fun w => { w with completionAccepted := true }
  deleteTerminalCheckpointOrQueue surroundings assignment.taskId
  let now ← consult surroundings.now
  setStatus surroundings fun status =>
    { status with
      state := .polling
      taskId := none
      lastCompletedAt := some now
      lastErrorCode := none }

/-- The report of a failure before the completion was accepted. -/
def reportFailure (assignment : SupplierArtifactAssignment) (error : WorkerError) :
    Worker Unit := do
  tryCatch (sendFailure surroundings assignment (errorCode error) error.retryable)
    fun _ => pure ()
  if error.retryable then
    pure ()
  else
    deleteTerminalCheckpointOrQueue surroundings assignment.taskId

def reportUnlessAccepted (assignment : SupplierArtifactAssignment) (error : WorkerError) :
    Worker Unit := do
  let world ← get
  if world.completionAccepted then
    pure ()
  else
    reportFailure surroundings assignment error

/-- The {lit}`catch` block of {lit}`processTask`. -/
def abandonTask (assignment : SupplierArtifactAssignment) (error : WorkerError) :
    Worker Unit := do
  reportUnlessAccepted surroundings assignment error
  setStatus surroundings fun status =>
    { status with state := .error, taskId := none, lastErrorCode := some (errorCode error) }
  throw error

def processTask (assignment : SupplierArtifactAssignment) : Worker Unit := do
  setStatus surroundings fun status =>
    { status with
      state := .processing
      taskId := some assignment.taskId
      completedSegments := assignment.resumeFromSegment
      totalSegments := none
      processedBytes := 0
      lastErrorCode := none }
  modify fun w => { w with completionAccepted := false }
  tryCatch (attemptTask options surroundings assignment) (abandonTask surroundings assignment)

/-! ## The loop -/

def pollOnce : Worker Int := do
  flushTerminalCheckpointDeletes surroundings
  let cleanup ← await surroundings.cleanupExpired
  failIf (cleanup.failed > 0) (workerError "CHECKPOINT_CLEANUP_FAILED" false)
  let id ← consult surroundings.randomId
  let body : SupplierArtifactWorkerClaimRequest :=
    { protocolVersion := SUPPLIER_ARTIFACT_WORKER_PROTOCOL_VERSION
      requestId := "artifact-claim-" ++ id
      workerId := options.workerId
      providerId := options.providerId
      allowedModels := options.allowedModels
      supportedMediaTypes := ARTIFACT_SUPPORTED_MEDIA_TYPES
      maxArtifactBytes := options.maxArtifactBytes }
  log (.claimSent body)
  let result ← await fun w => (surroundings.claim body w).result
  failIf (result.protocolVersion ≠ SUPPLIER_ARTIFACT_WORKER_PROTOCOL_VERSION ∨
      result.requestId ≠ body.requestId ∨ result.retryAfterMs < 0 ∨
      result.retryAfterMs > 60000)
    (workerError "CONTROL_RESPONSE_INVALID" false)
  match result.task with
  | none => return result.retryAfterMs
  | some assignment =>
      log (.assigned assignment)
      processTask options surroundings assignment
      return 250

/-- The body of the loop, which tells whether it is left. -/
def loopBody : Worker Bool :=
  tryCatch
    (do
      setStatus surroundings fun status =>
        { status with state := .polling, taskId := none, lastErrorCode := none }
      let _ ← pollOnce options surroundings
      return false)
    fun error => do
      let aborted ← consult surroundings.aborted
      if aborted then
        return true
      setStatus surroundings fun status =>
        { status with state := .error, taskId := none, lastErrorCode := some (errorCode error) }
      return false

/-- {lit}`loop`, for a number of rounds. -/
def loop : Nat → Worker Unit
  | 0 => pure ()
  | rounds + 1 => do
      let aborted ← consult surroundings.aborted
      if aborted then
        return ()
      let left ← loopBody options surroundings
      if left then
        return ()
      loop rounds

def start (rounds : Nat) : Worker Unit := do
  setStatus surroundings fun status => { status with state := .polling }
  loop options surroundings rounds

/-- The world after a number of rounds of a new worker. -/
def runWorker (rounds : Nat) : WorkerWorld :=
  finalState (start options surroundings rounds) {}

end ArtifactWorker
end SupplierAgent
end TokenStreaming
