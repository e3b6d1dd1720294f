import TokenStreaming.Core.Texts
import TokenStreaming.Providers.ModelPolicy
import TokenStreaming.Tools.PatchProposal

/-!
# Runtime - Permissions

The policy of a repository's manifest: which patches and commands the runtime may use on its
own, which need an approval, and which are refused.

Regular expressions and lower case are left to the platform.

Main results:

- Theorem {lit}`evaluateCommandPolicy_refuses`: which commands are refused outright.
- Theorem {lit}`evaluatePatchPolicy_requiresApproval`: a patch is never refused outright.
-/

namespace TokenStreaming
namespace Runtime

open Core
open Json (JsonValue)
open Providers (RiskLevel)
open Tools (PatchProposal ProposedFilePatch)

/-! ## Decisions -/

inductive PermissionTarget where
  | patch
  | command
  | tool
deriving DecidableEq

structure PermissionDecision where
  target : PermissionTarget
  action : String
  allowed : Bool
  severity : RiskLevel
  reasons : List String
  requiresApproval : Bool
deriving DecidableEq

structure ApprovalRequest where
  id : String
  target : PermissionTarget
  action : String
  severity : RiskLevel
  reasons : List String
deriving DecidableEq

inductive ApprovalMode where
  | deny
  | allow
  | prompt
deriving DecidableEq

structure ApprovalResponse where
  requestId : String
  approved : Bool
  mode : ApprovalMode
  reason : Option String
deriving DecidableEq

/-! ## The safety policy -/

/-- {lit}`toLowerCase`, and {lit}`new RegExp(pattern, "i").test(content)` where the pattern
compiles. -/
structure PolicyPlatform where
  toLowerCase : String → String
  testPattern : String → String → Option Bool

/-- The {lit}`safety` of a manifest: a record of values of any kind. -/
abbrev Safety :=
  String → Option JsonValue

structure SafetyPolicy where
  sensitivePaths : List String
  forbiddenCommands : List String
  approvalRequiredCommands : List String
  protectedPatterns : List String
deriving DecidableEq

def stringItem? : JsonValue → Option String
  | .string text => some text
  | _ => none

def stringArray (value : Option JsonValue) : List String :=
  match value with
  | some (.array items) => items.filterMap stringItem?
  | _ => []

/-- Slashes for backslashes, and one leading {lit}`./` dropped. -/
def normalizePath (value : String) : String :=
  let slashed := value.toList.map fun c => if c = '\\' then '/' else c
  match slashed with
  | '.' :: '/' :: rest => .ofList rest
  | _ => .ofList slashed

def readSafetyPolicy (safety : Safety) : SafetyPolicy where
  sensitivePaths := (stringArray (safety "sensitive_paths")).map normalizePath
  forbiddenCommands := stringArray (safety "forbidden_commands")
  approvalRequiredCommands := stringArray (safety "approval_required_commands")
  protectedPatterns := stringArray (safety "protected_patterns")

def matchesPath (filePath pattern : String) : Bool :=
  let normalizedPattern := normalizePath pattern
  if endsWith normalizedPattern "*" then
    startsWith filePath (.ofList normalizedPattern.toList.dropLast)
  else filePath == normalizedPattern || startsWith filePath (normalizedPattern ++ "/")

variable (platform : PolicyPlatform)

def matchesContent (content pattern : String) : Bool :=
  if Domain.isBlank pattern then false
  else
    match platform.testPattern pattern content with
    | some result => result
    | none => includes (platform.toLowerCase content) (platform.toLowerCase pattern)

/-! ## Patches -/

def touchedSensitivePaths (policy : SafetyPolicy) (proposal : PatchProposal) : List String :=
  (proposal.files.map fun file => normalizePath file.path).filter fun filePath =>
    policy.sensitivePaths.any (matchesPath filePath)

def protectedPatternMatches (policy : SafetyPolicy) (proposal : PatchProposal) :
    List (String × String) :=
  proposal.files.flatMap fun file =>
    (policy.protectedPatterns.filter (matchesContent platform file.content)).map fun pattern =>
      (normalizePath file.path, pattern)

def evaluatePatchPolicy (safety : Safety) (proposal : PatchProposal) (allowSensitive : Bool) :
    PermissionDecision :=
  let policy := readSafetyPolicy safety
  let touched := touchedSensitivePaths policy proposal
  let protectedMatches := protectedPatternMatches platform policy proposal
  let requiresApproval := !touched.isEmpty || !protectedMatches.isEmpty
  if requiresApproval && !allowSensitive then
    { target := .patch
      action := "apply patch proposal"
      allowed := false
      severity := .high
      reasons :=
        touched.map (fun filePath => s!"Patch touches sensitive path: {filePath}") ++
          protectedMatches.map fun m =>
            s!"Patch content in {m.1} matches protected pattern: {m.2}"
      requiresApproval := true }
  else
    { target := .patch
      action := "apply patch proposal"
      allowed := true
      severity := if requiresApproval then .high else .low
      reasons :=
        touched.map (fun filePath => s!"Sensitive path approved: {filePath}") ++
          protectedMatches.map fun m => s!"Protected pattern approved in {m.1}: {m.2}"
      requiresApproval }

/-- A patch that is not allowed can be approved. -/
theorem evaluatePatchPolicy_requiresApproval {safety : Safety} {proposal : PatchProposal}
    {allowSensitive : Bool}
    (h : (evaluatePatchPolicy platform safety proposal allowSensitive).allowed = false) :
    (evaluatePatchPolicy platform safety proposal allowSensitive).requiresApproval = true := by
  unfold evaluatePatchPolicy at h ⊢
  dsimp only at h ⊢
  split at h
  · rename_i hblocked
    rw [if_pos hblocked]
  · cases h

/-! ## Commands -/

/-- The first pattern in the command; an empty one counts as none. -/
def matchedPattern (patterns : List String) (normalizedCommand : String) : Option String :=
  (patterns.find? fun pattern => includes normalizedCommand (platform.toLowerCase pattern)).filter
    fun pattern => pattern ≠ ""

def evaluateCommandPolicy (safety : Safety) (command : String) : PermissionDecision :=
  let policy := readSafetyPolicy safety
  let normalizedCommand := platform.toLowerCase (.ofList (trimBoth command.toList))
  match matchedPattern platform policy.forbiddenCommands normalizedCommand with
  | some forbiddenMatch =>
      { target := .command
        action := command
        allowed := false
        severity := .high
        reasons := [s!"Command matches forbidden pattern: {forbiddenMatch}"]
        requiresApproval := false }
  | none =>
      match matchedPattern platform policy.approvalRequiredCommands normalizedCommand with
      | some approvalRequiredMatch =>
          { target := .command
            action := command
            allowed := false
            severity := .medium
            reasons := [s!"Command requires approval pattern: {approvalRequiredMatch}"]
            requiresApproval := true }
      | none =>
          { target := .command
            action := command
            allowed := true
            severity := .low
            reasons := []
            requiresApproval := false }

/-- The first forbidden pattern in the command is one with something in it. -/
def Forbids (safety : Safety) (command : String) : Prop :=
  (matchedPattern platform (readSafetyPolicy safety).forbiddenCommands
    (platform.toLowerCase (.ofList (trimBoth command.toList)))).isSome = true

@[simp]
theorem evaluateCommandPolicy_action (safety : Safety) (command : String) :
    (evaluateCommandPolicy platform safety command).action = command := by
  unfold evaluateCommandPolicy
  dsimp only
  split
  · rfl
  · split
    · rfl
    · rfl

/-- The commands that are refused outright. -/
theorem evaluateCommandPolicy_refuses {safety : Safety} {command : String} :
    ((evaluateCommandPolicy platform safety command).allowed = false ∧
      (evaluateCommandPolicy platform safety command).requiresApproval = false) ↔
      Forbids platform safety command := by
  unfold evaluateCommandPolicy Forbids
  dsimp only
  cases matchedPattern platform (readSafetyPolicy safety).forbiddenCommands
      (platform.toLowerCase (.ofList (trimBoth command.toList))) with
  | some pattern => simp
  | none =>
      dsimp only
      split
      · simp
      · simp

end Runtime
end TokenStreaming
