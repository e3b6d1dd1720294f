import Mathlib.Data.Rat.Floor
import TokenStreaming.Context.SearchTerms

/-!
# Context - Building the context of a run

{lit}`buildRuntimeContext` selects modules, workflows and source files for a task
and loads the beginnings of the files.  Contents are lists of UTF-16 code units,
because they are cut at a number of units; what reading a path of the repository
yields is a parameter.

The rendered overview and the recent history, which it copies, are left out.

Main results: none; the module defines {lit}`buildRuntimeContext`.
-/

namespace TokenStreaming
namespace Context

open Core Domain

/-! ## Plans and budgets -/

/-- A number of a plan: one that is finite, or an infinity or NaN. -/
inductive PlanNumber where
  | finite (value : ℚ)
  | notFinite
deriving DecidableEq

structure ExecutionPlanContext where
  moduleNames : List String
  workflowNames : List String
  publicApiPaths : List String
  maxSourceFiles : Option PlanNumber
  maxSourceCharacters : Option PlanNumber

structure ExecutionPlan where
  context : Option ExecutionPlanContext
  verificationCommands : Option (List String)
  testCommands : Option (List String)

def defaultMaxSourceSnippets : Nat := 6

def defaultMaxSnippetChars : Nat := 4000

def boundedBudget (value : Option PlanNumber) (fallback upperBound : Nat) : Nat :=
  match value with
  | some (.finite number) =>
      if number ≤ 0 then fallback else min number.floor.toNat upperBound
  | _ => fallback

/-! ## Reasons -/

inductive SelectionKind where
  | module
  | workflow
  | source
deriving DecidableEq

structure ContextSelectionReason where
  kind : SelectionKind
  target : String
  reason : String
deriving DecidableEq

structure SourceSnippet where
  path : String
  content : List Nat
  truncated : Bool
deriving DecidableEq

structure RuntimeContextBundle where
  relevantModules : List String
  relevantWorkflows : List String
  selectionReasons : List ContextSelectionReason
  sourceSnippets : List SourceSnippet
  testCommands : List String

variable (platform : Platform)

def selectRelevantModules (taskText : String) (modules : List ModuleManifest) :
    List ContextSelectionReason :=
  modules.filterMap fun manifest =>
    (matchModuleToTask platform taskText manifest).map fun found =>
      { kind := .module
        target := manifest.name
        reason :=
          if found.field = "name" then s!"Task text mentions module name \"{manifest.name}\"."
          else s!"Task text overlaps module {found.field} \"{found.value}\"." }

def selectRelevantWorkflows (taskText : String) (workflows : List WorkflowManifest) :
    List ContextSelectionReason :=
  workflows.filterMap fun manifest =>
    (matchWorkflowToTask platform taskText manifest).map fun found =>
      { kind := .workflow
        target := manifest.name
        reason :=
          if found.field = "name" then s!"Task text mentions workflow name \"{manifest.name}\"."
          else s!"Task text overlaps workflow {found.field} \"{found.value}\"." }

def mergePlannedSelections (inferred : List ContextSelectionReason) (plannedTargets : List String)
    (kind : SelectionKind) : List ContextSelectionReason :=
  let selections := inferred.foldl
    (fun selections selection => selections.set selection.target selection) InsertionMap.empty
  let merged := plannedTargets.foldl
    (fun selections target =>
      if selections.has target then selections
      else selections.set target
        { kind, target, reason := "Execution strategy selected this context boundary." })
    selections
  merged.entries.map Prod.snd

/-! ## Source candidates -/

def normalizeRepoPath (file : String) : String :=
  String.ofList (file.toList.map fun c => if c = '\\' then '/' else c)

def sourceExtensions : List String :=
  [".ts", ".tsx", ".js", ".jsx", ".mjs", ".cjs", ".py", ".json", ".md", ".yaml", ".yml", ".txt"]

def isReadableSourceFile (file : String) : Bool :=
  let normalized := normalizeRepoPath file
  !(["node_modules/", "dist/", ".token-streaming/"].any (includes normalized ·))
    && sourceExtensions.any (endsWith normalized ·)

/-- What stands before the last slash. -/
def directoryOf (path : String) : Option String :=
  if '/' ∈ path.toList then
    some (String.ofList (path.toList.rdropWhile fun c => c != '/').dropLast)
  else none

def toRelativeManifestNeighbor (repoRoot manifestPath fileName : String) : String :=
  match directoryOf (normalizeRepoPath manifestPath) with
  | none => fileName
  | some directory =>
      normalizeRepoPath (platform.relative repoRoot (directory ++ "/" ++ fileName))

/-- A path that is added to the candidates, with the text of its reason. -/
structure Offer where
  path : String
  reason : String

def plannedOffers (plannedPublicApiPaths : List String) : List Offer :=
  plannedPublicApiPaths.map fun apiPath =>
    ⟨normalizeRepoPath apiPath, "Execution plan selected this declared public API file."⟩

def moduleOffers (repoRoot : String) (relevantModules : List String)
    (manifest : ModuleManifest) : List Offer :=
  if relevantModules.contains manifest.name || relevantModules.isEmpty then
    (manifest.publicApi.map fun apiPath =>
      ⟨apiPath,
        if relevantModules.contains manifest.name then
          s!"Module \"{manifest.name}\" was selected, and this file is declared in public_api."
        else
          s!"No module was specifically inferred, so public_api from module \"{manifest.name}\" "
            ++ "was included."⟩)
    ++ ["README.md", "index.ts", "api.ts"].map fun neighbor =>
      ⟨toRelativeManifestNeighbor platform repoRoot manifest.path neighbor,
        s!"Neighbor file near module manifest \"{manifest.name}\" helps explain module boundaries."⟩
  else []

def workflowOffers (repoRoot : String) (relevantWorkflows : List String)
    (manifest : WorkflowManifest) : List Offer :=
  if relevantWorkflows.contains manifest.name then
    ["README.md", manifest.name ++ ".service.ts"].map fun neighbor =>
      ⟨toRelativeManifestNeighbor platform repoRoot manifest.path neighbor,
        s!"Workflow \"{manifest.name}\" was selected, so nearby workflow source was included."⟩
  else []

def trackedOffers (taskText : String) (trackedFiles : List String) : List Offer :=
  ((trackedFiles.map normalizeRepoPath).filter fun file =>
    isReadableSourceFile file && taskTextIncludesSearchTerms platform taskText file).map fun file =>
      ⟨file, "Task text overlaps searchable words from this file path."⟩

/-- All paths that are added, in the order of the loops. -/
def offers (taskText : String) (repo : RepoSummary) (modules : List ModuleManifest)
    (workflows : List WorkflowManifest) (relevantModules relevantWorkflows : List String)
    (plannedPublicApiPaths : List String) : List Offer :=
  plannedOffers plannedPublicApiPaths
    ++ modules.flatMap (moduleOffers platform repo.root relevantModules)
    ++ workflows.flatMap (workflowOffers platform repo.root relevantWorkflows)
    ++ trackedOffers platform taskText repo.trackedFiles

/-- The set of candidates and the map of reasons. -/
structure Collected where
  candidates : List String
  reasons : InsertionMap String ContextSelectionReason

def collect (collected : Collected) (offer : Offer) : Collected where
  candidates :=
    if offer.path ∈ collected.candidates then collected.candidates
    else collected.candidates ++ [offer.path]
  reasons := collected.reasons.set offer.path
    { kind := .source, target := offer.path, reason := offer.reason }

def collectAll (offered : List Offer) : Collected :=
  offered.foldl collect ⟨[], InsertionMap.empty⟩

structure SourceSelection where
  candidates : List String
  reasons : List ContextSelectionReason

def selectSourceCandidates (offered : List Offer) : SourceSelection :=
  let collected := collectAll offered
  let normalizedCandidates :=
    (collected.candidates.map normalizeRepoPath).filter isReadableSourceFile
  { candidates := normalizedCandidates
    reasons := normalizedCandidates.filterMap collected.reasons.get }

/-! ## Snippets -/

/-- The code units that {lit}`trim` removes; all of them stand for one character. -/
def isTrimmableUnit (unit : Nat) : Bool :=
  decide (unit < 0xD800 ∨ 0xDFFF < unit) && isTrimmable (Char.ofNat unit)

def trimUnits (units : List Nat) : List Nat :=
  (units.dropWhile isTrimmableUnit).rdropWhile isTrimmableUnit

def truncationMarker : List Nat :=
  codeUnits "\n... truncated ..."

def trimTo (value : List Nat) (maxLength : Nat) : List Nat :=
  let normalized := trimUnits value
  if normalized.length ≤ maxLength then normalized
  else if maxLength ≤ truncationMarker.length then truncationMarker.take maxLength
  else normalized.take (maxLength - truncationMarker.length) ++ truncationMarker

/-- The snippet of a file that could be read. -/
def snippetOf (maxSourceCharacters : Nat) (path : String) (content : List Nat) : SourceSnippet where
  path := path
  content := trimTo content maxSourceCharacters
  truncated := decide (maxSourceCharacters < (trimUnits content).length)

/-- The loop over the candidates; the number counts the snippets that may still be added. -/
def loadSourceSnippets (readTextFile : String → Option (List Nat)) (maxSourceCharacters : Nat) :
    Nat → List String → List SourceSnippet
  | _, [] => []
  | 0, _ :: _ => []
  | n + 1, candidate :: candidates =>
      match readTextFile candidate with
      | none => loadSourceSnippets readTextFile maxSourceCharacters (n + 1) candidates
      | some content =>
          snippetOf maxSourceCharacters candidate content
            :: loadSourceSnippets readTextFile maxSourceCharacters n candidates

/-! ## The bundle -/

/-- The inputs of the selection. -/
structure ContextInput where
  task : String
  repo : RepoSummary
  modules : List ModuleManifest
  workflows : List WorkflowManifest
  plan : ExecutionPlan

variable (readTextFile : String → Option (List Nat)) (input : ContextInput)

def moduleSelection : List ContextSelectionReason :=
  mergePlannedSelections
    (selectRelevantModules platform (platform.toLowerCase input.task) input.modules)
    ((input.plan.context.map ExecutionPlanContext.moduleNames).getD []) .module

def workflowSelection : List ContextSelectionReason :=
  mergePlannedSelections
    (selectRelevantWorkflows platform (platform.toLowerCase input.task) input.workflows)
    ((input.plan.context.map ExecutionPlanContext.workflowNames).getD []) .workflow

/-- The paths that are offered for the input. -/
def offered : List Offer :=
  offers platform (platform.toLowerCase input.task) input.repo input.modules input.workflows
    ((moduleSelection platform input).map ContextSelectionReason.target)
    ((workflowSelection platform input).map ContextSelectionReason.target)
    ((input.plan.context.map ExecutionPlanContext.publicApiPaths).getD [])

def maxSourceFiles : Nat :=
  boundedBudget (input.plan.context.bind ExecutionPlanContext.maxSourceFiles)
    defaultMaxSourceSnippets 12

def maxSourceCharacters : Nat :=
  boundedBudget (input.plan.context.bind ExecutionPlanContext.maxSourceCharacters)
    defaultMaxSnippetChars 8000

def buildRuntimeContext : RuntimeContextBundle :=
  let modules := moduleSelection platform input
  let workflows := workflowSelection platform input
  let sourceSelection := selectSourceCandidates (offered platform input)
  let sourceSnippets := loadSourceSnippets readTextFile (maxSourceCharacters input)
    (maxSourceFiles input) sourceSelection.candidates
  let loadedSnippetPaths := sourceSnippets.map SourceSnippet.path
  let sourceReasons := sourceSelection.reasons.filter fun reason =>
    loadedSnippetPaths.contains reason.target
  { relevantModules := modules.map ContextSelectionReason.target
    relevantWorkflows := workflows.map ContextSelectionReason.target
    selectionReasons := modules ++ workflows ++ sourceReasons
    sourceSnippets
    testCommands := (input.plan.verificationCommands.or input.plan.testCommands).getD [] }

end Context
end TokenStreaming
