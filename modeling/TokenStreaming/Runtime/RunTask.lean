import Mathlib.Algebra.Order.Ring.Nat
import TokenStreaming.Providers.Factory
import TokenStreaming.Runtime.RunEvents

/-!
# Runtime - Running a task

{lit}`TokenStreamingRuntime.runTask` as a program over the trace of the run.  The agents of the
parallel mode take their steps in any order; when one of them fails the run goes on to its
failure report while the others are still at work.

Main results: none; the module defines {lit}`runTask`.
-/

namespace TokenStreaming
namespace Runtime

open Core Effects
open Providers (RiskLevel trimmed)
open Tools (PatchProposal ProposedFilePatch parsePatchProposal)

/-- {lit}`RuntimeOptions`, with the session that is created. -/
structure RuntimeConfig where
  session : Session
  modelProviderName : String
deriving DecidableEq

/-- {lit}`RunTaskOptions`; a flag that is not given is off. -/
structure RunTaskOptions where
  task : String
  dryRun : Bool
  apply : Bool
  repair : Bool
  parallelAgents : Bool
  allowSensitive : Bool
  patchProposalText : Option String
deriving DecidableEq

/-- The platform: the policy's, and {lit}`slice(0, n)` in UTF-16 units. -/
structure RunPlatform extends PolicyPlatform where
  slice : String → Nat → String

variable (platform : RunPlatform) (s : Surroundings) (config : RuntimeConfig)
  (options : RunTaskOptions)

/-! ## Texts -/

def trimAgentArtifact (value : String) : String :=
  let normalized := trimmed value
  if Domain.utf16Length normalized ≤ 2000 then normalized
  else platform.slice normalized 2000 ++ "\n... agent artifact truncated ..."

def summarizeCommandResult (result : CommandResult) : String :=
  let diagnostics :=
    (if result.timedOut then ["Command timed out."] else []) ++
      if result.outputLimitExceeded then ["Command output exceeded the capture limit."] else []
  let parts := [String.intercalate " " diagnostics, result.stdout, result.stderr]
  let output := trimmed (String.intercalate "\n" (parts.filter (· ≠ "")))
  if Domain.utf16Length output ≤ 1000 then output
  else platform.slice output 1000 ++ "\n... output truncated ..."

def exitText (exitCode : Option Int) (missing : String) : String :=
  match exitCode with
  | some code => toString code
  | none => missing

/-! ## Reviews -/

def verificationStatus (results : List VerificationResult) : VerificationStatus :=
  if results.isEmpty then .notRun
  else if (results.find? fun result => !result.ok).isSome then .failed
  else .passed

def buildReviewSummary (plan : ExecutionPlan) (state : RunState) (diff status : String)
    (failureMessage : Option String) : ReviewSummary :=
  let failedVerification := state.verificationResults.find? fun result => !result.ok
  let status' := verificationStatus state.verificationResults
  let hasRepositoryChanges := trimmed diff ≠ "" || trimmed status ≠ ""
  let notApplied := state.patchProposal.isSome && state.appliedFiles.isEmpty
  let failure := failureMessage.filter (· ≠ "")
  { riskLevel := plan.riskLevel
    verificationStatus := status'
    hasRepositoryChanges
    appliedFiles := state.appliedFiles
    permissionChecks := state.permissionDecisions.length
    approvals := state.approvalResponses.length
    findings :=
      [s!"Risk level: {plan.riskLevel.text}.",
        match status' with
        | .passed => s!"Verification passed with {state.verificationResults.length} command(s)."
        | .failed =>
            let command := (failedVerification.map VerificationResult.command).getD
              "unknown command"
            s!"Verification failed at {command}."
        | .notRun => "Verification was not run.",
        if notApplied then "Patch proposal was produced or supplied but not applied."
        else if state.appliedFiles.isEmpty then "No files were applied."
        else
          let files := String.intercalate ", " state.appliedFiles
          s!"Applied files: {files}.",
        if state.permissionDecisions.isEmpty then "No permission checks were required."
        else s!"Permission checks: {state.permissionDecisions.length}.",
        if state.approvalResponses.isEmpty then "No approvals were requested."
        else s!"Approvals resolved: {state.approvalResponses.length}.",
        if hasRepositoryChanges then "Repository has current changes after the run."
        else "Repository is clean after the run."] ++
        (failure.map fun message => s!"Run failed: {message}.").toList
    recommendation :=
      if failure.isSome then "Inspect the recorded failure before continuing."
      else if failedVerification.isSome then
        "Inspect the failing verification output before continuing."
      else if notApplied then
        "Review the patch proposal and rerun with --apply when ready."
      else "Ready for human review." }

/-! ## Parallel agents -/

/-- What an agent's step leaves behind. -/
structure AgentStep where
  stage : AgentStage
  effects : List Effect
  calls : List ModelCallRecord

def modelCallRecord (purpose : ModelCallPurpose) (request : ModelRequest)
    (response : ModelResponse) : ModelCallRecord where
  purpose
  provider := response.provider.getD config.modelProviderName
  model := response.model
  mode := request.mode
  inputTokens := response.inputTokens
  outputTokens := response.outputTokens
  responseCharacters := Domain.utf16Length response.content
  reasoningEffort := request.reasoningEffort

def Agent.step (trace : Trace) (agent : Agent) : AgentStep :=
  let phase := agent.phase
  match agent.stage with
  | .waiting => ⟨.called, [.appended (.agentStarted phase.role phase.id agent.artifact)], []⟩
  | .called => ⟨.asked, [.modelAsked agent.request], []⟩
  | .asked =>
      match s.generate trace agent.request with
      | .ok response =>
          ⟨.answered response, [], [modelCallRecord config .agent agent.request response]⟩
      | .error message => ⟨.failing s!"Model call failed during agent: {message}", [], []⟩
  | .answered response =>
      ⟨.recorded response,
        [.appended (.modelCalled (modelCallRecord config .agent agent.request response))], []⟩
  | .recorded response =>
      ⟨.finished (.ok ⟨phase.role, phase.id, agent.artifact, true, response.content⟩),
        [.appended (.agentFinished phase.role phase.id agent.artifact true
          (trimAgentArtifact platform response.content))], []⟩
  | .failing message =>
      ⟨.finished (.error message),
        [.appended (.agentFinished phase.role phase.id agent.artifact false
          (trimAgentArtifact platform message))], []⟩
  | .finished result => ⟨.finished result, [], []⟩

/-- The places of the agents that are at work. -/
def runningAgents (agents : List Agent) : List Nat :=
  (List.range agents.length).filter fun i => (agents[i]?).any fun agent => !agent.isFinished

/-- The agent at a place takes its step. -/
def RunState.stepAgent (state : RunState) (i : Nat) (agent : Agent) : RunState :=
  let step := agent.step platform s config state.trace
  let next := { agent with stage := step.stage }
  { state with
    trace := state.trace ++ step.effects
    agents := state.agents.set i next
    agentFailure := state.agentFailure.or next.failure?
    modelCalls := state.modelCalls ++ step.calls }

/-- One of the running agents takes a step. -/
def stepAgents (state : RunState) : RunState :=
  let running := runningAgents state.agents
  match running[s.nextAgent state.trace % running.length]? with
  | none => state
  | some i =>
      match state.agents[i]? with
      | none => state
      | some agent => state.stepAgent platform s config i agent

def advanceAgents : Nat → RunState → RunState
  | 0, state => state
  | n + 1, state => advanceAgents n (stepAgents platform s config state)

/-- Every agent is done, or one has failed. -/
def RunState.settled (state : RunState) : Bool :=
  state.agentFailure.isSome || state.agents.all Agent.isFinished

/-- The agents take steps until {lit}`Promise.all` is settled. -/
def settle : Nat → RunState → RunState
  | 0, state => state
  | n + 1, state =>
      if state.settled then state else settle n (stepAgents platform s config state)

/-- How many steps the agents have before them. -/
def agentWork (agents : List Agent) : Nat :=
  (agents.map fun agent => agent.stage.remaining).sum

/-- Agents that were left behind by a failure go on. -/
def interleave : Run Unit :=
  modify fun state => advanceAgents platform s config (s.agentSteps state.trace) state

/-! ## Effects -/

def appendEvent (event : RunEvent) : Run Unit := do
  interleave platform s config
  modify fun state => state.push (.appended event)

def writeReport (report : RunReport) : Run Unit := do
  ask fun state => s.writeReport state.trace report
  interleave platform s config
  modify fun state => state.push (.reportWritten report)
  interleave platform s config

/-- {lit}`safeGitDiff` and {lit}`safeGitStatus`. -/
def safely (answer : Except String String) : String :=
  match answer with
  | .ok text => text
  | .error _ => ""

/-! ## Initialization -/

structure Initialized where
  repo : ScannedRepo
  manifest : RepoManifest
  plan : ExecutionPlan
  context : RuntimeContext

/-- A repository without a manifest gets one and is scanned again. -/
def scanWithManifest (scanned : ScannedRepo) : Run ScannedRepo :=
  if scanned.aiManifestPresent then pure scanned
  else do
    ask fun state => s.generateFallbackManifest state.trace
    ask fun state => s.scanRepo state.trace

def initializeTask : Run Initialized := do
  let scanned ← ask fun state => s.scanRepo state.trace
  appendEvent platform s config (.repoScanned scanned)
  let repo ← scanWithManifest s scanned
  let manifest ← ask fun state => s.loadRepoManifest state.trace
  appendEvent platform s config (.manifestLoaded
    { hasRootManifest := repo.aiManifestPresent
      moduleCount := manifest.moduleNames.length
      workflowCount := manifest.workflowNames.length
      playbookCount := manifest.playbookCount
      generated := manifest.generated })
  let strategyPlan ← ask fun state => s.createPlan state.trace
  let plan := normalizeExecutionPlan strategyPlan
  appendEvent platform s config (.planCreated plan)
  let context ← ask fun state => s.buildRuntimeContext state.trace
  appendEvent platform s config (.contextBuilt context.relevantModules context.relevantWorkflows
    context.sourceFiles context.testCommands context.recentHistoryCount)
  pure { repo, manifest, plan, context }

def emptyChanges (gitStatus gitDiff : Option String) : ChangeSummary where
  patchProposalFiles := []
  repairProposalFiles := []
  appliedFiles := []
  checkpointId := none
  gitStatus
  gitDiff

def writeInitializationFailureReport (error : String) : Run Unit := do
  let failureMessage := s!"Run failed during initialization: {error}"
  let plan := initializationFailurePlan
  let state ← get
  let gitDiff := safely (s.getGitDiff state.trace)
  let gitStatus := safely (s.getGitStatus state.trace)
  let review : ReviewSummary :=
    { riskLevel := plan.riskLevel
      verificationStatus := .notRun
      hasRepositoryChanges := false
      appliedFiles := []
      permissionChecks := 0
      approvals := 0
      findings := [failureMessage]
      recommendation := "Resolve the initialization failure before continuing." }
  appendEvent platform s config (.reviewCompleted review)
  appendEvent platform s config (.runFailed failureMessage)
  writeReport platform s config
    { session := config.session
      repo := emptyRepoSummary config.session.repoRoot
      manifest := emptyRepoManifest
      plan
      context := emptyRuntimeContext
      summary := failureMessage
      verificationResults := []
      permissionDecisions := []
      approvalResponses := []
      modelCalls := []
      agentRuns := []
      toolCalls := []
      review
      changes := emptyChanges (some gitStatus) (some gitDiff) }

/-! ## Model calls -/

def callModel (purpose : ModelCallPurpose) (request : ModelRequest) : Run ModelResponse := do
  modify fun state => state.push (.modelAsked request)
  let response ← ask fun state =>
    (s.generate state.trace request).mapError fun message =>
      s!"Model call failed during {purpose.text}: {message}"
  let call := modelCallRecord config purpose request response
  modify fun state => { state with modelCalls := state.modelCalls ++ [call] }
  appendEvent platform s config (.modelCalled call)
  pure response

/-- What {lit}`parsePatchProposal` makes of an answer. -/
def readProposal (text : String) : Run (Option PatchProposal) :=
  match parsePatchProposal text.toList with
  | .ok proposal => pure proposal
  | .error .syntaxError => throw (s.syntaxError text)
  | .error (.message message) => throw message

/-! ## Permissions -/

/-- A decision is recorded; where it does not allow, an approval is asked for or the run fails.
The two places of the source differ in the word their errors begin with. -/
def requirePermission (subject : String) (decision : PermissionDecision) : Run Unit := do
  modify fun state =>
    { state with permissionDecisions := state.permissionDecisions ++ [decision] }
  appendEvent platform s config (.permissionChecked decision)
  if decision.allowed then pure ()
  else if !decision.requiresApproval then
    let reasons := String.intercalate "; " decision.reasons
    throw s!"{subject} blocked by policy: {reasons}"
  else do
    let state ← get
    let request : ApprovalRequest :=
      { id := s.createId state.trace "apr"
        target := decision.target
        action := decision.action
        severity := decision.severity
        reasons := decision.reasons }
    appendEvent platform s config (.approvalRequested request)
    let response ← ask fun state => s.requestApproval state.trace request
    modify fun state => { state with approvalResponses := state.approvalResponses ++ [response] }
    appendEvent platform s config (.approvalResolved response)
    if response.approved then pure ()
    else
      let reason := response.reason.getD (String.intercalate "; " decision.reasons)
      throw s!"{subject} blocked by approval: {reason}"

/-! ## Patches -/

/-- The files' contents before they are changed. -/
def readFiles : List String → Run (List CheckpointFile)
  | [] => pure []
  | path :: paths => do
      let content ← ask fun state => s.readNullable state.trace path
      let files ← readFiles paths
      pure (⟨path, content⟩ :: files)

/-- {lit}`CheckpointStore.create`. -/
def createCheckpoint (paths : List String) : Run Checkpoint := do
  let state ← get
  let files ← readFiles s paths
  let checkpoint := { id := s.createId state.trace "chk", files }
  ask fun state => s.saveCheckpoint state.trace checkpoint
  modify fun state => state.push (.checkpointSaved checkpoint)
  pure checkpoint

/-- The paths of the files, when all of them were written. -/
def applyFilePatches : List ProposedFilePatch → Run (List String)
  | [] => pure []
  | patch :: patches => do
      ask fun state => s.writePatch state.trace patch
      modify fun state => state.push (.fileWritten patch)
      let files ← applyFilePatches patches
      pure (patch.path :: files)

def proposedPaths (proposal : PatchProposal) : List String :=
  proposal.files.map ProposedFilePatch.path

def handlePatchProposal (manifest : RepoManifest) (proposal : Option PatchProposal)
    (apply : Bool) : Run (Option String) :=
  match proposal with
  | none => pure none
  | some proposal => do
      appendEvent platform s config (.patchProposed (proposedPaths proposal) proposal)
      if !apply then pure none
      else do
        requirePermission platform s config "Patch"
          (evaluatePatchPolicy platform.toPolicyPlatform manifest.safety proposal
            options.allowSensitive)
        let checkpoint ← createCheckpoint s (proposedPaths proposal)
        appendEvent platform s config (.checkpointCreated checkpoint.id checkpoint.paths)
        let files ← applyFilePatches s proposal.files
        modify fun state => { state with appliedFiles := state.appliedFiles ++ files }
        appendEvent platform s config (.patchApplied files checkpoint.id)
        pure (some checkpoint.id)

/-! ## Verification -/

def verificationOf (result : CommandResult) : VerificationResult where
  ok := result.exitCode == some 0 && !result.timedOut && !result.outputLimitExceeded
  command := result.command
  exitCode := result.exitCode
  outputSummary := summarizeCommandResult platform result

def toolCallOf (command : String) (verification : VerificationResult) : ToolCallSummary where
  name := "test.run"
  ok := verification.ok
  inputSummary := command
  outputSummary :=
    let summary := if verification.outputSummary = "" then "" else " " ++ verification.outputSummary
    let exit := exitText verification.exitCode "unknown"
    s!"exit={exit}{summary}"

/-- One command of a pass. -/
def verify (manifest : RepoManifest) (command : String) : Run VerificationResult := do
  requirePermission platform s config "Command"
    (evaluateCommandPolicy platform.toPolicyPlatform manifest.safety command)
  appendEvent platform s config (.toolStarted "test.run" command)
  modify fun state => state.push (.commandRun command)
  let testResult ← ask fun state => s.runTestCommand state.trace command
  let verification := verificationOf platform testResult
  modify fun state =>
    { state with toolCalls := state.toolCalls ++ [toolCallOf command verification] }
  appendEvent platform s config (.toolFinished "test.run" verification)
  appendEvent platform s config (.testsFinished verification)
  pure verification

def runVerification (manifest : RepoManifest) : List String → Run (List VerificationResult)
  | [] => pure []
  | command :: commands => do
      let verification ← verify platform s config manifest command
      if !verification.ok then pure [verification]
      else do
        let results ← runVerification manifest commands
        pure (verification :: results)

/-- The results of a pass join those of the run when the pass has ended. -/
def addVerification (manifest : RepoManifest) (commands : List String) (skip : Bool) :
    Run Unit := do
  let results ← if skip then pure [] else runVerification platform s config manifest commands
  modify fun state => { state with verificationResults := state.verificationResults ++ results }

/-! ## Failures -/

def changesOf (state : RunState) (gitStatus gitDiff : Option String) : ChangeSummary where
  patchProposalFiles := (state.patchProposal.map proposedPaths).getD []
  repairProposalFiles := (state.repairPatchProposal.map proposedPaths).getD []
  appliedFiles := state.appliedFiles
  checkpointId := state.checkpointId
  gitStatus
  gitDiff

def reportOf (run : Initialized) (state : RunState) (summary : String) (review : ReviewSummary)
    (gitStatus gitDiff : Option String) : RunReport where
  session := config.session
  repo := run.repo
  manifest := run.manifest
  plan := run.plan
  context := run.context
  summary
  verificationResults := state.verificationResults
  permissionDecisions := state.permissionDecisions
  approvalResponses := state.approvalResponses
  modelCalls := state.modelCalls
  agentRuns := state.agentRuns
  toolCalls := state.toolCalls
  review
  changes := changesOf state gitStatus gitDiff

def writeFailureReport (run : Initialized) (failureMessage : String) : Run Unit := do
  let state ← get
  let review := buildReviewSummary run.plan state (safely (s.getGitDiff state.trace))
    (safely (s.getGitStatus state.trace)) (some failureMessage)
  if !state.reviewRecorded then do
    appendEvent platform s config (.reviewCompleted review)
    modify fun state => { state with reviewRecorded := true }
  appendEvent platform s config (.runFailed failureMessage)
  let state ← get
  writeReport platform s config
    (reportOf config run state s!"Run failed: {failureMessage}" review none none)

/-- A part of the run whose failure is reported. -/
def reporting {α : Type} (run : Initialized) (program : Run α) : Run α :=
  tryCatch program fun error => do
    writeFailureReport platform s config run error
    throw error

/-! ## The run -/

/-- The phases that get an agent, with their artifacts. -/
def agentPhases (run : Initialized) : List Agent :=
  (run.plan.phases.filter fun phase => phase.required && phase.role != .orchestrator).map
    fun phase =>
      let handoff := run.plan.handoffs.find? fun candidate => candidate.source == phase.role
      let artifact := (handoff.map AgentHandoff.artifact).getD phase.title
      let profile := resolveModeProfile config.session.mode
      { phase
        artifact
        request :=
          { mode := config.session.mode
            reasoningEffort :=
              match phase.role with
              | .coder => profile.planningReasoningEffort
              | .reviewer => profile.planningReasoningEffort
              | .tester => .medium
              | _ => .low
            prompt := s.buildAgentPrompt phase artifact run.manifest run.plan run.context }
        stage := .waiting }

/-- The agents start, and the run waits for them. -/
def RunState.runAgents (state : RunState) (agents : List Agent) : RunState :=
  let started := { state with agents := state.agents ++ agents }
  settle platform s config (agentWork started.agents) started

def runParallelAgents (run : Initialized) : Run Unit := do
  modify fun state => state.runAgents platform s config (agentPhases s config run)
  let state ← get
  match state.agentFailure with
  | some message => throw message
  | none =>
      modify fun state =>
        { state with agentRuns := state.agentRuns ++ state.agents.filterMap Agent.result? }

/-- The prompt of the planning call. -/
def planningPrompt (run : Initialized) (agentRuns : List AgentRunResult) : Prompt :=
  let base := s.buildRuntimePrompt run.repo run.manifest run.plan run.context
  let artifacts := if agentRuns.isEmpty then "" else s.renderAgentArtifacts agentRuns
  { system := base.system
    user := String.intercalate "\n\n" ([base.user, artifacts].filter (· ≠ "")) }

/-- The proposal, its verification, and one repair. -/
def applyAndVerify (run : Initialized) (modelResponse : ModelResponse) : Run Unit := do
  let proposal ← readProposal s (options.patchProposalText.getD modelResponse.content)
  modify fun state => { state with patchProposal := proposal }
  let checkpointId ← handlePatchProposal platform s config options run.manifest proposal
    options.apply
  modify fun state => { state with checkpointId }
  addVerification platform s config run.manifest run.plan.verificationCommands
    (options.dryRun || (proposal.isSome && !options.apply))
  let state ← get
  match state.verificationResults.find? fun result => !result.ok with
  | none => pure ()
  | some failedVerification =>
      if options.repair && options.apply then do
        let repairResponse ← callModel platform s config .repair
          { mode := config.session.mode
            reasoningEffort := (resolveModeProfile config.session.mode).repairReasoningEffort
            prompt := s.buildRepairPrompt run.context failedVerification }
        let repairProposal ← readProposal s repairResponse.content
        modify fun state => { state with repairPatchProposal := repairProposal }
        let repairCheckpointId ← handlePatchProposal platform s config options run.manifest
          repairProposal true
        modify fun state => { state with checkpointId := repairCheckpointId.or state.checkpointId }
        addVerification platform s config run.manifest run.plan.verificationCommands false
      else pure ()

/-- One call in the summary of a run. -/
def callText (call : ModelCallRecord) : String :=
  let model := (call.model.map fun model => "/" ++ model).getD ""
  s!"{call.purpose.text}:{call.provider}{model}:{call.reasoningEffort.text}"

def handoffText (handoff : AgentHandoff) : String :=
  let target := (handoff.target.map AgentRole.text).getD "final"
  s!"{handoff.source.text}->{target}:{handoff.artifact}"

def summaryText (run : Initialized) (state : RunState) (modelResponse : ModelResponse)
    (review : ReviewSummary) (diff status : String) : String :=
  let session := config.session
  let phases := String.intercalate ", " (run.plan.phases.map ExecutionPhase.id)
  let handoffs := String.intercalate "; " (run.plan.handoffs.map handoffText)
  let description := (resolveModeProfile session.mode).description
  let provider := modelResponse.provider.getD config.modelProviderName
  let model := (modelResponse.model.map fun model => " (" ++ model ++ ")").getD ""
  let calls := String.intercalate "; " (state.modelCalls.map callText)
  let attempts := String.intercalate "; " (state.verificationResults.map fun result =>
    let exit := exitText result.exitCode "null"
    s!"{result.command} => {exit}")
  String.intercalate "\n"
    [s!"Session {session.id} created with {session.strategy} strategy in {session.mode.text} mode.",
      s!"Plan phases: {phases}.",
      s!"Agent handoffs: {handoffs}.",
      if options.parallelAgents then s!"Parallel agent artifacts: {state.agentRuns.length}."
      else "Parallel agent artifacts: disabled.",
      s!"Mode profile: {description}",
      if run.manifest.generated then "Manifest source: generated fallback."
      else "Manifest source: repository .ai manifest.",
      s!"Model provider: {provider}{model}.",
      if state.modelCalls.isEmpty then "Model calls: none." else s!"Model calls: {calls}.",
      match state.patchProposal with
      | none => "Patch proposal: none."
      | some proposal =>
          let outcome := if options.apply then "applied" else "preview only"
          s!"Patch proposal: {proposal.files.length} file(s), {outcome}.",
      match state.repairPatchProposal with
      | none => "Repair proposal: none."
      | some proposal => s!"Repair proposal: {proposal.files.length} file(s), applied.",
      match state.checkpointId.filter (· ≠ "") with
      | none => "Checkpoint: none."
      | some checkpointId => s!"Checkpoint: {checkpointId}.",
      s!"Review: {review.recommendation}",
      if state.verificationResults.isEmpty then "No verification command was run."
      else s!"Verification attempts: {attempts}.",
      if diff ≠ "" || status ≠ "" then "Repository has current changes after this run."
      else "Repository has no current changes after this run.",
      "",
      modelResponse.content]

/-- The members of {lit}`RunTaskResult` that the run itself makes. -/
structure RunTaskResult where
  summary : String
  appliedFiles : List String
  verificationResults : List VerificationResult
  permissionDecisions : List PermissionDecision
  approvalResponses : List ApprovalResponse
  modelCalls : List ModelCallRecord
  agentRuns : List AgentRunResult
  review : ReviewSummary

/-- The end of a run that did not fail. -/
def completeRun (run : Initialized) (modelResponse : ModelResponse) : Run RunTaskResult := do
  let diff ← ask fun state => s.getGitDiff state.trace
  let status ← ask fun state => s.getGitStatus state.trace
  let state ← get
  let review := buildReviewSummary run.plan state diff status none
  appendEvent platform s config (.reviewCompleted review)
  modify fun state => { state with reviewRecorded := true }
  let summary := summaryText config options run state modelResponse review diff status
  appendEvent platform s config (.runCompleted summary)
  writeReport platform s config (reportOf config run state summary review (some status) (some diff))
  pure
    { summary
      appliedFiles := state.appliedFiles
      verificationResults := state.verificationResults
      permissionDecisions := state.permissionDecisions
      approvalResponses := state.approvalResponses
      modelCalls := state.modelCalls
      agentRuns := state.agentRuns
      review }

def runTask : Run RunTaskResult := do
  let session := config.session
  appendEvent platform s config
    (.runStarted options.task session.repoRoot session.mode session.strategy)
  appendEvent platform s config (.userMessage options.task)
  let run ← tryCatch (initializeTask platform s config) fun error => do
    writeInitializationFailureReport platform s config error
    throw error
  if options.parallelAgents then
    reporting platform s config run (runParallelAgents platform s config run)
  let state ← get
  let modelResponse ← reporting platform s config run (callModel platform s config .planning
    { mode := session.mode
      reasoningEffort := (resolveModeProfile session.mode).planningReasoningEffort
      prompt := planningPrompt s run state.agentRuns })
  reporting platform s config run (applyAndVerify platform s config options run modelResponse)
  completeRun platform s config options run modelResponse

end Runtime
end TokenStreaming
