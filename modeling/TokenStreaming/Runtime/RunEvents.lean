import TokenStreaming.Core.Repository
import TokenStreaming.Foundation.Effects
import TokenStreaming.Runtime.Permissions
import TokenStreaming.Storage.SessionHistory

/-!
# Runtime - Runs and their traces

The records of a run, the events of its session log, and the trace of everything a run does to
its surroundings.  The surroundings answer by the trace so far: the strategy, the model, the host
that approves, the repository's files, the commands and Git.

The ids and timestamps of events are left out, and so are the texts of the prompts.

Main results: none; the module declares the state of {lit}`runTask`.
-/

namespace TokenStreaming
namespace Runtime

open Core
open Providers (RiskLevel)
open Tools (PatchProposal ProposedFilePatch)

/-! ## Plans -/

inductive AgentRole where
  | orchestrator
  | researcher
  | coder
  | tester
  | reviewer
deriving DecidableEq

def AgentRole.text : AgentRole → String
  | .orchestrator => "orchestrator"
  | .researcher => "researcher"
  | .coder => "coder"
  | .tester => "tester"
  | .reviewer => "reviewer"

structure ExecutionPhase where
  id : String
  role : AgentRole
  title : String
  required : Bool
deriving DecidableEq

/-- A handoff from one role to another, or to the end of the run. -/
structure AgentHandoff where
  source : AgentRole
  target : Option AgentRole
  artifact : String
  description : String
deriving DecidableEq

/-- What a strategy returns; a strategy of the host may leave members out. -/
structure StrategyPlan where
  risk : Option RiskLevel
  riskLevel : Option RiskLevel
  phases : List ExecutionPhase
  requiredAgents : List AgentRole
  handoffs : List AgentHandoff
  verificationCommands : Option (List String)
  testCommands : Option (List String)
deriving DecidableEq

structure ExecutionPlan where
  riskLevel : RiskLevel
  phases : List ExecutionPhase
  requiredAgents : List AgentRole
  handoffs : List AgentHandoff
  verificationCommands : List String
deriving DecidableEq

def normalizeExecutionPlan (plan : StrategyPlan) : ExecutionPlan where
  riskLevel := (plan.risk.or plan.riskLevel).getD .medium
  phases := plan.phases
  requiredAgents := plan.requiredAgents
  handoffs := plan.handoffs
  verificationCommands := (plan.verificationCommands.or plan.testCommands).getD []

def initializationFailurePlan : ExecutionPlan where
  riskLevel := .medium
  phases := [⟨"initialize", .orchestrator, "Initialize repository context", true⟩]
  requiredAgents := [.orchestrator]
  handoffs := []
  verificationCommands := []

/-! ## Model calls -/

inductive ReasoningEffort where
  | low
  | medium
  | high
deriving DecidableEq

def ReasoningEffort.text : ReasoningEffort → String
  | .low => "low"
  | .medium => "medium"
  | .high => "high"

structure ModeProfile where
  planningReasoningEffort : ReasoningEffort
  repairReasoningEffort : ReasoningEffort
  description : String
deriving DecidableEq

def resolveModeProfile : ProductMode → ModeProfile
  | .economy =>
      ⟨.low, .low,
        "Prefer low-cost reasoning, bounded context, and the lightest declared verification."⟩
  | .max => ⟨.high, .high, "Prefer stronger reasoning for planning, review, and repair paths."⟩
  | .auto =>
      ⟨.medium, .high,
        "Use balanced planning with stronger repair reasoning when verification fails."⟩

/-- The two messages of a request, the system's and the user's. -/
structure Prompt where
  system : String
  user : String
deriving DecidableEq

structure ModelRequest where
  mode : ProductMode
  reasoningEffort : ReasoningEffort
  prompt : Prompt
deriving DecidableEq

structure ModelResponse where
  content : String
  model : Option String
  provider : Option String
  inputTokens : Option Nat
  outputTokens : Option Nat
deriving DecidableEq

structure ModelCallRecord extends Storage.ModelCallRecord where
  reasoningEffort : ReasoningEffort
deriving DecidableEq

/-! ## Results -/

structure CommandResult where
  command : String
  exitCode : Option Int
  stdout : String
  stderr : String
  timedOut : Bool
  outputLimitExceeded : Bool
deriving DecidableEq

structure VerificationResult where
  ok : Bool
  command : String
  exitCode : Option Int
  outputSummary : String
deriving DecidableEq

structure ToolCallSummary where
  name : String
  ok : Bool
  inputSummary : String
  outputSummary : String
deriving DecidableEq

structure AgentRunResult where
  role : AgentRole
  phaseId : String
  artifact : String
  ok : Bool
  summary : String
deriving DecidableEq

inductive VerificationStatus where
  | notRun
  | passed
  | failed
deriving DecidableEq

structure ReviewSummary where
  riskLevel : RiskLevel
  verificationStatus : VerificationStatus
  hasRepositoryChanges : Bool
  appliedFiles : List String
  permissionChecks : Nat
  approvals : Nat
  findings : List String
  recommendation : String
deriving DecidableEq

/-- The content of a file before it is changed, if there is one. -/
structure CheckpointFile where
  path : String
  content : Option String
deriving DecidableEq

structure Checkpoint where
  id : String
  files : List CheckpointFile
deriving DecidableEq

def Checkpoint.paths (checkpoint : Checkpoint) : List String :=
  checkpoint.files.map CheckpointFile.path

/-! ## Repositories -/

structure ScannedRepo extends RepoSummary where
  aiManifestPresent : Bool

def emptyRepoSummary (repoRoot : String) : ScannedRepo where
  root := repoRoot
  packageManager := none
  scripts := .empty
  trackedFiles := []
  sourceDirectories := []
  moduleManifestPaths := []
  workflowManifestPaths := []
  verificationCommands := none
  aiManifestPresent := false

/-- The members of a manifest that a run looks at. -/
structure RepoManifest where
  safety : Safety
  moduleNames : List String
  workflowNames : List String
  playbookCount : Nat
  generated : Bool

def emptyRepoManifest : RepoManifest where
  safety := fun _ => none
  moduleNames := []
  workflowNames := []
  playbookCount := 0
  generated := true

structure LoadedManifestSummary where
  hasRootManifest : Bool
  moduleCount : Nat
  workflowCount : Nat
  playbookCount : Nat
  generated : Bool
deriving DecidableEq

structure RuntimeContext where
  overview : String
  relevantModules : List String
  relevantWorkflows : List String
  sourceFiles : List String
  testCommands : List String
  recentHistoryCount : Nat
deriving DecidableEq

def emptyRuntimeContext : RuntimeContext where
  overview := "Runtime context was unavailable because initialization failed."
  relevantModules := []
  relevantWorkflows := []
  sourceFiles := []
  testCommands := []
  recentHistoryCount := 0

/-! ## Events -/

/-- The events of a session log, without their envelope. -/
inductive RunEvent where
  | runStarted (task repoRoot : String) (mode : ProductMode) (strategy : String)
  | userMessage (message : String)
  | repoScanned (summary : ScannedRepo)
  | manifestLoaded (manifest : LoadedManifestSummary)
  | planCreated (plan : ExecutionPlan)
  | contextBuilt (relevantModules relevantWorkflows sourceFiles testCommands : List String)
      (recentHistoryCount : Nat)
  | agentStarted (role : AgentRole) (phaseId artifact : String)
  | agentFinished (role : AgentRole) (phaseId artifact : String) (ok : Bool) (summary : String)
  | modelCalled (call : ModelCallRecord)
  | patchProposed (files : List String) (proposal : PatchProposal)
  | permissionChecked (decision : PermissionDecision)
  | approvalRequested (request : ApprovalRequest)
  | approvalResolved (response : ApprovalResponse)
  | checkpointCreated (checkpointId : String) (files : List String)
  | patchApplied (files : List String) (checkpointId : String)
  | toolStarted (toolName command : String)
  | toolFinished (toolName : String) (result : VerificationResult)
  | testsFinished (result : VerificationResult)
  | reviewCompleted (review : ReviewSummary)
  | runCompleted (summary : String)
  | runFailed (error : String)

/-! ## Reports -/

structure Session where
  id : String
  repoRoot : String
  startedAt : String
  mode : ProductMode
  strategy : String
deriving DecidableEq

structure ChangeSummary where
  patchProposalFiles : List String
  repairProposalFiles : List String
  appliedFiles : List String
  checkpointId : Option String
  gitStatus : Option String
  gitDiff : Option String
deriving DecidableEq

/-- {lit}`RunReportInput`. -/
structure RunReport where
  session : Session
  repo : ScannedRepo
  manifest : RepoManifest
  plan : ExecutionPlan
  context : RuntimeContext
  summary : String
  verificationResults : List VerificationResult
  permissionDecisions : List PermissionDecision
  approvalResponses : List ApprovalResponse
  modelCalls : List ModelCallRecord
  agentRuns : List AgentRunResult
  toolCalls : List ToolCallSummary
  review : ReviewSummary
  changes : ChangeSummary

/-! ## Traces -/

/-- What a run does to its surroundings. -/
inductive Effect where
  | appended (event : RunEvent)
  | modelAsked (request : ModelRequest)
  | checkpointSaved (checkpoint : Checkpoint)
  | fileWritten (file : ProposedFilePatch)
  | commandRun (command : String)
  | reportWritten (report : RunReport)

abbrev Trace :=
  List Effect

/-- The answers of the surroundings, by the trace so far; an error is its message. -/
structure Surroundings where
  scanRepo : Trace → Except String ScannedRepo
  generateFallbackManifest : Trace → Except String Unit
  loadRepoManifest : Trace → Except String RepoManifest
  createPlan : Trace → Except String StrategyPlan
  buildRuntimeContext : Trace → Except String RuntimeContext
  buildRuntimePrompt : ScannedRepo → RepoManifest → ExecutionPlan → RuntimeContext → Prompt
  renderAgentArtifacts : List AgentRunResult → String
  buildAgentPrompt : ExecutionPhase → String → RepoManifest → ExecutionPlan → RuntimeContext →
    Prompt
  buildRepairPrompt : RuntimeContext → VerificationResult → Prompt
  generate : Trace → ModelRequest → Except String ModelResponse
  /-- The message of {lit}`JSON.parse`. -/
  syntaxError : String → String
  createId : Trace → String → String
  requestApproval : Trace → ApprovalRequest → Except String ApprovalResponse
  /-- {lit}`resolveInsideRepoReal` and {lit}`readNullable`. -/
  readNullable : Trace → String → Except String (Option String)
  saveCheckpoint : Trace → Checkpoint → Except String Unit
  /-- {lit}`resolveInsideRepoReal`, {lit}`mkdir` and {lit}`writeFile`. -/
  writePatch : Trace → ProposedFilePatch → Except String Unit
  runTestCommand : Trace → String → Except String CommandResult
  getGitDiff : Trace → Except String String
  getGitStatus : Trace → Except String String
  writeReport : Trace → RunReport → Except String Unit
  /-- Which of the running agents is the next to do something. -/
  nextAgent : Trace → Nat
  /-- How much agents that are left behind do before the run goes on. -/
  agentSteps : Trace → Nat

/-! ## Agents -/

inductive AgentStage where
  | waiting
  | called
  | asked
  | answered (response : ModelResponse)
  | recorded (response : ModelResponse)
  | failing (message : String)
  | finished (result : Except String AgentRunResult)

/-- A phase that an agent works on in parallel with others. -/
structure Agent where
  phase : ExecutionPhase
  artifact : String
  request : ModelRequest
  stage : AgentStage

def Agent.isFinished (agent : Agent) : Bool :=
  match agent.stage with
  | .finished _ => true
  | _ => false

/-- The error an agent ended with. -/
def Agent.failure? (agent : Agent) : Option String :=
  match agent.stage with
  | .finished (.error message) => some message
  | _ => none

def Agent.result? (agent : Agent) : Option AgentRunResult :=
  match agent.stage with
  | .finished (.ok result) => some result
  | _ => none

/-- How many steps an agent has before it. -/
def AgentStage.remaining : AgentStage → Nat
  | .waiting => 5
  | .called => 4
  | .asked => 3
  | .answered _ => 2
  | .recorded _ => 1
  | .failing _ => 1
  | .finished _ => 0

/-! ## The state of a run -/

/-- The trace, the agents, and the variables that {lit}`writeFailureReport` shares with the
run. -/
structure RunState where
  trace : Trace
  agents : List Agent
  /-- The error of the first agent that failed. -/
  agentFailure : Option String
  verificationResults : List VerificationResult
  permissionDecisions : List PermissionDecision
  approvalResponses : List ApprovalResponse
  modelCalls : List ModelCallRecord
  agentRuns : List AgentRunResult
  toolCalls : List ToolCallSummary
  appliedFiles : List String
  patchProposal : Option PatchProposal
  repairPatchProposal : Option PatchProposal
  checkpointId : Option String
  reviewRecorded : Bool

def RunState.initial : RunState where
  trace := []
  agents := []
  agentFailure := none
  verificationResults := []
  permissionDecisions := []
  approvalResponses := []
  modelCalls := []
  agentRuns := []
  toolCalls := []
  appliedFiles := []
  patchProposal := none
  repairPatchProposal := none
  checkpointId := none
  reviewRecorded := false

def RunState.push (state : RunState) (effect : Effect) : RunState :=
  { state with trace := state.trace ++ [effect] }

@[simp]
theorem RunState.push_trace (state : RunState) (effect : Effect) :
    (state.push effect).trace = state.trace ++ [effect] :=
  rfl

@[simp]
theorem RunState.push_agents (state : RunState) (effect : Effect) :
    (state.push effect).agents = state.agents :=
  rfl

@[simp]
theorem RunState.push_appliedFiles (state : RunState) (effect : Effect) :
    (state.push effect).appliedFiles = state.appliedFiles :=
  rfl

/-- A part of a run; an error is its message. -/
abbrev Run (α : Type) :=
  Effects.Program RunState String α

end Runtime
end TokenStreaming
