import TokenStreaming.Foundation.Json
import TokenStreaming.Foundation.StableSort
import TokenStreaming.Providers.Factory
import TokenStreaming.Storage.Telemetry

/-!
# Providers - Choosing a model

A model is requested, or set in the environment, or chosen from the manifest's
{lit}`models`.  The manifest names a model for each mode and lists candidates
in a small language of its own; all of them are scored and the best is taken.

Numbers, other than {lit}`NaN`, and their texts are left to the platform.

Main results:

- Theorem {lit}`mem_candidatesByModel`: what is collected passed the filters, and is kept
  under its provider and its model.
- Theorem {lit}`nodup_scoredCandidates`: no candidate is scored twice.
-/

namespace TokenStreaming
namespace Providers

open Core Domain Json Storage

/-- What routing needs of the platform.  Numbers and texts are compared by total preorders. -/
structure RoutingPlatform (F : Type) extends Platform F where
  /-- {lit}`Number(value)`, where that is finite. -/
  parseNumber : String → Option F
  min : F → F → F
  numbers_ordered : Std.TransCmp toPlatform.compare
  texts_ordered : Std.TransCmp localeCompare

/-! ## Input and decision -/

inductive RiskLevel where
  | low
  | medium
  | high
deriving DecidableEq

def RiskLevel.text : RiskLevel → String
  | .low => "low"
  | .medium => "medium"
  | .high => "high"

inductive Objective where
  | cost
  | balanced
  | quality
deriving DecidableEq

def Objective.text : Objective → String
  | .cost => "cost"
  | .balanced => "balanced"
  | .quality => "quality"

/-- What is recorded of a model. -/
structure ModelRoutingGroup (F : Type) where
  key : String
  failureRate : F

structure ModelRoutingRecommendation (F : Type) where
  model : String
  provider : String
  mode : String
  purpose : String
  taskKind : String
  confidence : Confidence
  recommendation : Recommendation
  efficiencyScore : F
  sessions : Nat

structure ModelRoutingTelemetry (F : Type) where
  byModel : Option (List (ModelRoutingGroup F))
  recommendations : Option (List (ModelRoutingRecommendation F))

/-- The {lit}`models` of a manifest: a record of values of any kind. -/
abbrev ModelsPolicy :=
  String → Option JsonValue

structure ModelSelectionInput (F : Type) where
  mode : ProductMode
  requestedProvider : Option ProviderName
  requestedModel : Option String
  environmentModel : Option String
  /-- {lit}`manifest?.models`. -/
  models : Option ModelsPolicy
  telemetry : Option (ModelRoutingTelemetry F)
  riskLevel : Option RiskLevel
  task : Option String
  availableProviders : Option (List ProviderName)

inductive CandidateSource where
  | manifestCandidate
  | legacyModeField
deriving DecidableEq

structure ModelCandidate (F : Type) where
  model : String
  provider : ProviderName
  quality : F
  cost : F
  latency : F
  tags : List String
  source : CandidateSource

structure CandidateFeedback (F : Type) where
  taskKind : String
  recommendation : Recommendation
  confidence : Confidence
  efficiencyScore : F
  sessions : Nat

structure ScoredModelCandidate (F : Type) extends ModelCandidate F where
  score : F
  failureRate : F
  feedback : Option (CandidateFeedback F)
  reasons : List String

structure ModelRoutingDecision (F : Type) where
  objective : Objective
  riskLevel : RiskLevel
  taskKind : String
  candidates : List (ScoredModelCandidate F)
  selected : Option (ScoredModelCandidate F)

inductive SelectionSource where
  | cli
  | environment
  | manifest
  | providerDefault
  | scored
deriving DecidableEq

structure ModelSelection (F : Type) where
  provider : ProviderName
  model : Option String
  source : SelectionSource
  scoring : Option (ModelRoutingDecision F)

variable {F : Type} (platform : RoutingPlatform F)

/-! ## Reading the manifest -/

def stringValue (value : Option JsonValue) : Option String :=
  match value with
  | some (.string text) => normalizedValue (some text)
  | _ => none

/-- An item of a list that is a text with something in it. -/
def textItem? : JsonValue → Option String
  | .string text => if trimmed text = "" then none else some text
  | _ => none

def stringArray (value : Option JsonValue) : List String :=
  match value with
  | some (.array items) => items.filterMap textItem?
  | _ => []

def readProvider (value : Option JsonValue) : ProviderName :=
  match value with
  | some (.string "stub") => .stub
  | some (.string "openai") => .openai
  | some (.string "anthropic") => .anthropic
  | some (.string "gemini") => .gemini
  | some (.string "codex") => .codex
  | _ => .auto

def boundedNumber (value : Option String) (fallback : F) : F :=
  match value.bind platform.parseNumber with
  | none => fallback
  | some parsed => platform.min (platform.ofNat 1) (platform.max (platform.ofNat 0) parsed)

/-- {lit}`value.split(separator).map((part) => part.trim()).filter(Boolean)`. -/
def splitParts (separator : Char) (value : String) : List String :=
  ((value.toList.splitOn separator).map fun part => String.ofList (trimBoth part)).filter
    fun part => part ≠ ""

/-- Store the field that a part of a specification sets. -/
def setField (fields : InsertionMap String String) (part : String) :
    InsertionMap String String :=
  match part.toList.splitOn '=' with
  | key :: value :: values =>
      if key = [] then fields
      else fields.set (String.ofList (trimBoth key))
        (String.ofList (trimBoth (['='].intercalate (value :: values))))
  | _ => fields

/-- The fields of a specification. -/
def specFields (parts : List String) : InsertionMap String String :=
  parts.foldl setField InsertionMap.empty

/-- The provider of a specification: the one it names, else that of the model's family. -/
def specProvider (model : String) (fields : InsertionMap String String) : ProviderName :=
  if fields.has "provider" then readProvider ((fields.get "provider").map .string)
  else
    ((inferProviderFromModel platform.toLowerCase (some model)).map
      CommercialProviderName.provider).getD .auto

def parseCandidateSpec (value : String) : Option (ModelCandidate F) :=
  match splitParts ';' value with
  | [] => none
  | modelPart :: parts =>
      let fields := specFields parts
      some {
        model := modelPart
        provider := specProvider platform modelPart fields
        quality := boundedNumber platform (fields.get "quality") (platform.ofDecimal 7 1)
        cost := boundedNumber platform (fields.get "cost") (platform.ofDecimal 5 1)
        latency := boundedNumber platform (fields.get "latency") (platform.ofDecimal 5 1)
        tags := ((fields.get "tags").map (splitParts ',')).getD []
        source := .manifestCandidate }

def legacyCandidate (value : Option JsonValue) (mode : String) : Option (ModelCandidate F) :=
  (stringValue value).map fun model =>
    { model
      provider := ((inferProviderFromModel platform.toLowerCase (some model)).map
        CommercialProviderName.provider).getD .auto
      quality :=
        if mode = "max" then platform.ofDecimal 9 1
        else if mode = "economy" then platform.ofDecimal 62 2
        else platform.ofDecimal 78 2
      cost :=
        if mode = "economy" then platform.ofDecimal 25 2
        else if mode = "max" then platform.ofDecimal 85 2
        else platform.ofDecimal 55 2
      latency :=
        if mode = "economy" then platform.ofDecimal 3 1
        else if mode = "max" then platform.ofDecimal 75 2
        else platform.ofDecimal 5 1
      tags := [mode]
      source := .legacyModeField }

/-! ## The candidates that are admitted -/

/-- {lit}`requestedProvider === undefined || requestedProvider === "auto"`. -/
def requestsAuto (requestedProvider : Option ProviderName) : Bool :=
  requestedProvider == none || requestedProvider == some .auto

def preferredProvider (requestedProvider : Option ProviderName) (fallback : ProviderName) :
    ProviderName :=
  if requestsAuto requestedProvider then fallback else requestedProvider.getD fallback

def hasAvailableCommercialProvider (availableProviders : Option (List ProviderName)) : Bool :=
  (availableProviders.getD []).any fun provider =>
    provider == .openai || provider == .anthropic || provider == .gemini

/-- {lit}`availableProviders?.includes(provider)`. -/
def includesProvider (availableProviders : Option (List ProviderName)) (provider : ProviderName) :
    Bool :=
  (availableProviders.getD []).contains provider

/-- The two filters: a provider that was not requested, and one that is not available. -/
def passesFilters (requestedProvider : Option ProviderName)
    (availableProviders : Option (List ProviderName)) (candidate : ModelCandidate F) : Bool :=
  let provider := preferredProvider requestedProvider candidate.provider
  !(!requestsAuto requestedProvider && candidate.provider != .auto
      && some candidate.provider != requestedProvider)
    && !(hasAvailableCommercialProvider availableProviders && provider != .auto
      && provider != .stub && !includesProvider availableProviders provider
      && requestsAuto requestedProvider)

/-- {lit}`${provider}:${candidate.model}`. -/
def candidateKey (candidate : ModelCandidate F) : String :=
  candidate.provider.text ++ ":" ++ candidate.model

/-- A candidate under the provider it is used with. -/
def withProvider (requestedProvider : Option ProviderName) (candidate : ModelCandidate F) :
    ModelCandidate F :=
  { candidate with provider := preferredProvider requestedProvider candidate.provider }

def admitCandidate (requestedProvider : Option ProviderName)
    (availableProviders : Option (List ProviderName))
    (byModel : InsertionMap String (ModelCandidate F)) (candidate : ModelCandidate F) :
    InsertionMap String (ModelCandidate F) :=
  if passesFilters requestedProvider availableProviders candidate then
    let admitted := withProvider requestedProvider candidate
    byModel.set (candidateKey admitted) admitted
  else byModel

/-- {lit}`policy[key]`. -/
def policyValue (models : Option ModelsPolicy) (key : String) : Option JsonValue :=
  models.bind fun policy => policy key

/-- The candidates of the four fields that name one model each. -/
def legacyCandidates (models : Option ModelsPolicy) : List (ModelCandidate F) :=
  [legacyCandidate platform (policyValue models "economy_model") "economy",
    legacyCandidate platform (policyValue models "auto_model") "auto",
    legacyCandidate platform (policyValue models "max_model") "max",
    legacyCandidate platform (policyValue models "default_model") "default"].filterMap id

def explicitCandidates (models : Option ModelsPolicy) : List (ModelCandidate F) :=
  (stringArray (policyValue models "model_candidates")).filterMap (parseCandidateSpec platform)

/-- The map in which candidates are collected. -/
def candidatesByModel (models : Option ModelsPolicy) (requestedProvider : Option ProviderName)
    (availableProviders : Option (List ProviderName)) :
    InsertionMap String (ModelCandidate F) :=
  (legacyCandidates platform models ++ explicitCandidates platform models).foldl
    (admitCandidate requestedProvider availableProviders) InsertionMap.empty

def parseModelCandidates (models : Option ModelsPolicy) (requestedProvider : Option ProviderName)
    (availableProviders : Option (List ProviderName)) : List (ModelCandidate F) :=
  (candidatesByModel platform models requestedProvider availableProviders).entries.map Prod.snd

/-- What is collected passed the filters, and is kept under its provider and its model. -/
theorem mem_candidatesByModel {models : Option ModelsPolicy}
    {requestedProvider : Option ProviderName} {availableProviders : Option (List ProviderName)}
    {entry : String × ModelCandidate F}
    (h : entry ∈
      (candidatesByModel platform models requestedProvider availableProviders).entries) :
    ∃ candidate ∈ legacyCandidates platform models ++ explicitCandidates platform models,
      passesFilters requestedProvider availableProviders candidate = true ∧
        entry = (candidateKey (withProvider requestedProvider candidate),
          withProvider requestedProvider candidate) := by
  unfold candidatesByModel at h
  generalize legacyCandidates platform models ++ explicitCandidates platform models =
    candidates at h ⊢
  induction candidates using List.reverseRecOn with
  | nil => cases h
  | append_singleton candidates candidate ih =>
      rw [List.foldl_append, List.foldl_cons, List.foldl_nil, admitCandidate] at h
      by_cases hpass : passesFilters requestedProvider availableProviders candidate = true
      · rw [if_pos hpass] at h
        rcases InsertionMap.mem_entries_set.mp h with heq | ⟨hold, _⟩
        · exact ⟨candidate, by simp, hpass, heq⟩
        · obtain ⟨earlier, hmem, hrest⟩ := ih hold
          exact ⟨earlier, List.mem_append_left _ hmem, hrest⟩
      · rw [if_neg hpass] at h
        obtain ⟨earlier, hmem, hrest⟩ := ih h
        exact ⟨earlier, List.mem_append_left _ hmem, hrest⟩

/-- An admitted candidate passed the filters. -/
theorem mem_parseModelCandidates {models : Option ModelsPolicy}
    {requestedProvider : Option ProviderName} {availableProviders : Option (List ProviderName)}
    {admitted : ModelCandidate F}
    (h : admitted ∈
      parseModelCandidates platform models requestedProvider availableProviders) :
    ∃ candidate ∈ legacyCandidates platform models ++ explicitCandidates platform models,
      passesFilters requestedProvider availableProviders candidate = true ∧
        admitted = withProvider requestedProvider candidate := by
  obtain ⟨entry, hentry, rfl⟩ := List.mem_map.mp h
  obtain ⟨candidate, hmem, hpass, heq⟩ := mem_candidatesByModel platform hentry
  exact ⟨candidate, hmem, hpass, congrArg Prod.snd heq⟩

/-- The keys differ, so the candidates do. -/
theorem nodup_parseModelCandidates (models : Option ModelsPolicy)
    (requestedProvider : Option ProviderName) (availableProviders : Option (List ProviderName)) :
    (parseModelCandidates platform models requestedProvider availableProviders).Nodup := by
  have hkeys : (parseModelCandidates platform models requestedProvider
      availableProviders).map candidateKey =
        (candidatesByModel platform models requestedProvider availableProviders).entries.map
          Prod.fst := by
    rw [parseModelCandidates, List.map_map]
    refine List.map_congr_left ?_
    intro entry hentry
    obtain ⟨candidate, _, _, rfl⟩ := mem_candidatesByModel platform hentry
    rfl
  refine List.Nodup.of_map candidateKey ?_
  rw [hkeys]
  exact (candidatesByModel platform models requestedProvider availableProviders).nodup_keys

/-! ## Scores -/

def objectiveForMode : ProductMode → Objective
  | .economy => .cost
  | .max => .quality
  | .auto => .balanced

structure Weights (F : Type) where
  quality : F
  cost : F
  latency : F
  reliability : F

def weightsFor (objective : Objective) : Weights F :=
  match objective with
  | .cost => ⟨platform.ofDecimal 28 2, platform.ofDecimal 42 2, platform.ofDecimal 18 2,
      platform.ofDecimal 12 2⟩
  | .quality => ⟨platform.ofDecimal 52 2, platform.ofDecimal 12 2, platform.ofDecimal 12 2,
      platform.ofDecimal 24 2⟩
  | .balanced => ⟨platform.ofDecimal 4 1, platform.ofDecimal 24 2, platform.ofDecimal 14 2,
      platform.ofDecimal 22 2⟩

def riskBoostFor (riskLevel : RiskLevel) : F :=
  match riskLevel with
  | .high => platform.ofDecimal 12 2
  | .medium => platform.ofDecimal 6 2
  | .low => platform.ofNat 0

def findRecommendation (candidate : ModelCandidate F) (mode : ProductMode) (taskKind : String)
    (telemetry : Option (ModelRoutingTelemetry F)) : Option (ModelRoutingRecommendation F) :=
  let recommendations := (telemetry.bind fun known => known.recommendations).getD []
  let planningMatches := recommendations.filter fun known =>
    known.model == candidate.model
      && (known.provider == candidate.provider.text || candidate.provider == .auto)
      && known.purpose == "planning"
  (planningMatches.find? fun known => known.mode == mode.text && known.taskKind == taskKind)
    |>.orElse fun _ =>
      (planningMatches.find? fun known => known.mode == mode.text && known.taskKind == "general")
        |>.orElse fun _ =>
          (planningMatches.find? fun known => known.mode == mode.text)
            |>.orElse fun _ =>
              (planningMatches.find? fun known => known.taskKind == taskKind)
                |>.orElse fun _ => planningMatches.head?

def feedbackBoostFor (feedback : Option (ModelRoutingRecommendation F)) : F :=
  match feedback with
  | none => platform.ofNat 0
  | some known =>
      let confidenceWeight :=
        match known.confidence with
        | .high => platform.ofNat 1
        | .medium => platform.ofDecimal 7 1
        | .low => platform.ofDecimal 4 1
      let direction :=
        match known.recommendation with
        | .prefer => platform.ofNat 1
        | .avoid => platform.sub (platform.ofNat 0) (platform.ofNat 1)
        | .watch => platform.ofNat 0
      let scoreComponent :=
        platform.mul (platform.sub known.efficiencyScore (platform.ofDecimal 65 2))
          (platform.ofDecimal 18 2)
      platform.toFixed
        (platform.mul
          (platform.add (platform.mul direction (platform.ofDecimal 12 2)) scoreComponent)
          confidenceWeight) 4

/-- The tags that suit a mode. -/
def affineTags : ProductMode → List String
  | .economy => ["economy", "cheap", "fast"]
  | .max => ["max", "strong", "quality"]
  | .auto => ["auto", "balanced"]

def modeAffinity (candidate : ModelCandidate F) (mode : ProductMode) : F :=
  let tags := candidate.tags.map platform.toLowerCase
  if (affineTags mode).any fun tag => tags.contains tag then platform.ofDecimal 8 2
  else platform.ofNat 0

def buildScoreReasons (candidate : ModelCandidate F) (mode : ProductMode) (objective : Objective)
    (riskLevel : RiskLevel) (taskKind : String) (failureRate affinityBoost : F)
    (feedback : Option (ModelRoutingRecommendation F)) (feedbackBoost : F) : List String :=
  let zero := platform.ofNat 0
  let text := platform.text
  [s!"Objective={objective.text}; risk={riskLevel.text}; taskKind={taskKind}.",
    s!"quality={text candidate.quality}, cost={text candidate.cost}, "
      ++ s!"latency={text candidate.latency}.",
    if platform.lt zero failureRate then
      let percent := platform.round (platform.mul failureRate (platform.ofNat 100))
      s!"Historical failure rate={text percent}%."
    else "No historical failures recorded for this model."]
    ++ (if platform.lt zero affinityBoost then
        [s!"Mode affinity boost applied for {mode.text}."] else [])
    ++ (match feedback with
      | none => []
      | some known =>
          [s!"Telemetry recommendation={known.recommendation.text} "
            ++ s!"for {known.mode}/{known.purpose}/{known.taskKind} "
            ++ s!"with {known.confidence.text} confidence; feedbackBoost={text feedbackBoost}."])
    ++ if candidate.tags = [] then []
      else
        let joined := ", ".intercalate candidate.tags
        [s!"Tags: {joined}."]

/-- The failure rate that telemetry has for a model. -/
def recordedFailureRate (telemetry : Option (ModelRoutingTelemetry F)) (model : String) : F :=
  let groups := (telemetry.bind fun known => known.byModel).getD []
  ((groups.find? fun known => known.key == model).map fun known => known.failureRate).getD
    (platform.ofNat 0)

/-- What is kept of a recommendation. -/
def ModelRoutingRecommendation.feedback (known : ModelRoutingRecommendation F) :
    CandidateFeedback F where
  taskKind := known.taskKind
  recommendation := known.recommendation
  confidence := known.confidence
  efficiencyScore := known.efficiencyScore
  sessions := known.sessions

def scoreCandidate (candidate : ModelCandidate F) (mode : ProductMode) (objective : Objective)
    (riskLevel : RiskLevel) (taskKind : String)
    (telemetry : Option (ModelRoutingTelemetry F)) : ScoredModelCandidate F :=
  let one := platform.ofNat 1
  let failureRate := recordedFailureRate platform telemetry candidate.model
  let feedback := findRecommendation candidate mode taskKind telemetry
  let weights := weightsFor platform objective
  let riskBoost := riskBoostFor platform riskLevel
  let affinityBoost := modeAffinity platform candidate mode
  let feedbackBoost := feedbackBoostFor platform feedback
  let reliability := platform.max (platform.ofNat 0) (platform.sub one failureRate)
  let quality := platform.mul candidate.quality (platform.add weights.quality riskBoost)
  let cost := platform.mul (platform.sub one candidate.cost) weights.cost
  let latency := platform.mul (platform.sub one candidate.latency) weights.latency
  let reliable := platform.mul reliability (platform.add weights.reliability riskBoost)
  let score :=
    platform.add (platform.add (platform.add (platform.add (platform.add
      quality cost) latency) reliable) affinityBoost) feedbackBoost
  { candidate with
    score := platform.toFixed score 4
    failureRate
    feedback := feedback.map ModelRoutingRecommendation.feedback
    reasons := buildScoreReasons platform candidate mode objective riskLevel taskKind failureRate
      affinityBoost feedback feedbackBoost }

/-- {lit}`right.score - left.score || left.model.localeCompare(right.model)`. -/
def byScore (left right : ScoredModelCandidate F) : Ordering :=
  (platform.compare right.score left.score).then (platform.localeCompare left.model right.model)

/-- The admitted candidates with their scores, in the order they were admitted. -/
def scoredCandidates (input : ModelSelectionInput F) : List (ScoredModelCandidate F) :=
  (parseModelCandidates platform input.models input.requestedProvider
    input.availableProviders).map fun candidate =>
      scoreCandidate platform candidate input.mode (objectiveForMode input.mode)
        (input.riskLevel.getD .medium) (inferTaskKind platform.toPlatform input.task)
        input.telemetry

/-- No candidate is scored twice. -/
theorem nodup_scoredCandidates (input : ModelSelectionInput F) :
    (scoredCandidates platform input).Nodup := by
  refine List.Nodup.of_map ScoredModelCandidate.toModelCandidate ?_
  rw [scoredCandidates, List.map_map]
  exact (List.map_id _).symm ▸ nodup_parseModelCandidates platform input.models
    input.requestedProvider input.availableProviders

def scoreModelCandidates (input : ModelSelectionInput F) : ModelRoutingDecision F :=
  let scored := sortBy (byScore platform) (scoredCandidates platform input)
  { objective := objectiveForMode input.mode
    riskLevel := input.riskLevel.getD .medium
    taskKind := inferTaskKind platform.toPlatform input.task
    candidates := scored
    selected := scored.head? }

/-! ## The selection -/

def selectedProvider (input : ModelSelectionInput F) (fallback : ProviderName) : ProviderName :=
  let provider := preferredProvider input.requestedProvider fallback
  if requestsAuto input.requestedProvider && input.availableProviders.isSome && provider != .auto
      && provider != .stub && !includesProvider input.availableProviders provider then .auto
  else provider

def usablePolicyModel (value : Option JsonValue) (input : ModelSelectionInput F) :
    Option String :=
  match stringValue value with
  | none => none
  | some model =>
      match inferProviderFromModel platform.toLowerCase (some model) with
      | none => some model
      | some inferred =>
          if !requestsAuto input.requestedProvider
              && input.requestedProvider != some inferred.provider then none
          else if hasAvailableCommercialProvider input.availableProviders
              && requestsAuto input.requestedProvider
              && !includesProvider input.availableProviders inferred.provider then none
          else some model

/-- {lit}`input.requestedModel`, where that is not empty. -/
def requestedModelOf (input : ModelSelectionInput F) : Option String :=
  input.requestedModel.filter fun model => model ≠ ""

/-- The model that the manifest names for the mode, or for all modes. -/
def policyModel (input : ModelSelectionInput F) : Option String :=
  let modeModel := policyValue input.models (input.mode.text ++ "_model")
  (usablePolicyModel platform modeModel input).orElse fun _ =>
    usablePolicyModel platform (policyValue input.models "default_model") input

/-- The selection from the manifest. -/
def selectFromManifest (input : ModelSelectionInput F) : ModelSelection F :=
  let scored := scoreModelCandidates platform input
  let scoring := if scored.candidates.isEmpty then none else some scored
  let defaultProvider :=
    selectedProvider input (readProvider (policyValue input.models "default_provider"))
  match scored.selected with
  | some selected =>
      { provider := selectedProvider input selected.provider
        model := some selected.model
        source := .scored
        scoring := some scored }
  | none =>
      match policyModel platform input with
      | some model =>
          { provider := defaultProvider, model := some model, source := .manifest, scoring }
      | none =>
          { provider := defaultProvider, model := none, source := .providerDefault, scoring }

def resolveModelSelection (input : ModelSelectionInput F) : ModelSelection F :=
  let defaultProvider :=
    selectedProvider input (readProvider (policyValue input.models "default_provider"))
  match requestedModelOf input with
  | some model =>
      { provider := defaultProvider
        model := some model
        source := .cli
        scoring := none }
  | none =>
      match normalizedValue input.environmentModel with
      | some model =>
          { provider := defaultProvider
            model := some model
            source := .environment
            scoring := none }
      | none => selectFromManifest platform input

end Providers
end TokenStreaming
