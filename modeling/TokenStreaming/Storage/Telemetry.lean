import Mathlib.Data.Finset.Card
import TokenStreaming.Foundation.Grouping
import TokenStreaming.Storage.SessionHistory

/-!
# Storage - Telemetry of model calls

{lit}`summarizeModelCalls` reads all session logs, groups the model calls in
them in several ways, and recommends models from the calls of each group.

Counts of tokens and characters are natural numbers.  What is computed in
floating point, the lower case of a text and the order of texts are left to the
platform.
-/

namespace TokenStreaming
namespace Storage

open Core Domain

/-! ## What the platform computes -/

/-- Numbers of type {lit}`F`, and what the language does with them and with texts. -/
structure Platform (F : Type) where
  ofNat : Nat → F
  /-- {lit}`ofDecimal digits places` is the literal with that many decimal places. -/
  ofDecimal : Nat → Nat → F
  add : F → F → F
  sub : F → F → F
  mul : F → F → F
  div : F → F → F
  max : F → F → F
  lt : F → F → Bool
  /-- {lit}`Number(value.toFixed(places))`. -/
  toFixed : F → Nat → F
  round : F → F
  text : F → String
  localeCompare : String → String → Ordering
  toLowerCase : String → String

variable {F : Type} (platform : Platform F)

/-- {lit}`count ? part / count : 0`. -/
def Platform.ratio (part count : Nat) : F :=
  if count = 0 then platform.ofNat 0 else platform.div (platform.ofNat part) (platform.ofNat count)

/-- The sign of {lit}`left - right`. -/
def Platform.compare (left right : F) : Ordering :=
  if platform.lt left right then .lt else if platform.lt right left then .gt else .eq

/-! ## Groups of calls -/

structure ModelTelemetryGroup (F : Type) where
  key : String
  sessions : Nat
  failedSessions : Nat
  failureRate : F
  calls : Nat
  inputTokens : Nat
  outputTokens : Nat
  responseCharacters : Nat

structure FailureTelemetryGroup where
  key : String
  sessions : Nat
deriving DecidableEq

structure ModelCallWithSession where
  call : ModelCallRecord
  session : SessionHistorySummary
deriving DecidableEq

/-- A group that is being filled, with its sessions. -/
structure OpenGroup (F : Type) extends ModelTelemetryGroup F where
  sessionIds : Finset String
  failedSessionIds : Finset String

/-- {lit}`failedSessionIds.add(id)` for a session that failed. -/
def addFailed (entry : ModelCallWithSession) (failedSessionIds : Finset String) : Finset String :=
  if entry.session.status = .failed then insert entry.session.sessionId failedSessionIds
  else failedSessionIds

def startGroup (keyOf : ModelCallWithSession → String) (entry : ModelCallWithSession) :
    OpenGroup F where
  key := keyOf entry
  sessions := 0
  failedSessions := 0
  failureRate := platform.ofNat 0
  calls := 0
  inputTokens := 0
  outputTokens := 0
  responseCharacters := 0
  sessionIds := ∅
  failedSessionIds := ∅

def addCall (group : OpenGroup F) (entry : ModelCallWithSession) : OpenGroup F :=
  { group with
    calls := group.calls + 1
    inputTokens := group.inputTokens + entry.call.inputTokens.getD 0
    outputTokens := group.outputTokens + entry.call.outputTokens.getD 0
    responseCharacters := group.responseCharacters + entry.call.responseCharacters
    sessionIds := insert entry.session.sessionId group.sessionIds
    failedSessionIds := addFailed entry group.failedSessionIds }

def closeGroup (group : OpenGroup F) : ModelTelemetryGroup F :=
  { group.toModelTelemetryGroup with
    sessions := group.sessionIds.card
    failedSessions := group.failedSessionIds.card
    failureRate := platform.ratio group.failedSessionIds.card group.sessionIds.card }

def groupCalls (calls : List ModelCallWithSession) (keyOf : ModelCallWithSession → String) :
    List (ModelTelemetryGroup F) :=
  let groups := group keyOf (startGroup platform keyOf) addCall calls
  (groups.entries.map fun entry => closeGroup platform entry.2).mergeSort fun left right =>
    ((compare right.calls left.calls).then (platform.localeCompare left.key right.key)).isLE

/-- The category under which a failed session is counted. -/
def failureKey (session : SessionHistorySummary) : String :=
  (session.failureCategory.map FailureCategory.text).getD "unknown"

def groupFailures (sessions : List SessionHistorySummary) : List FailureTelemetryGroup :=
  let failed := sessions.filter fun session => session.status = .failed
  let groups := group failureKey (fun session => FailureTelemetryGroup.mk (failureKey session) 0)
    (fun group _ => { group with sessions := group.sessions + 1 }) failed
  (groups.entries.map Prod.snd).mergeSort fun left right =>
    ((compare right.sessions left.sessions).then
      (platform.localeCompare left.key right.key)).isLE

/-! ## Recommendations -/

inductive Confidence where
  | low
  | medium
  | high
deriving DecidableEq

def Confidence.text : Confidence → String
  | .low => "low"
  | .medium => "medium"
  | .high => "high"

inductive Recommendation where
  | prefer
  | watch
  | avoid
deriving DecidableEq

def Recommendation.text : Recommendation → String
  | .prefer => "prefer"
  | .watch => "watch"
  | .avoid => "avoid"

structure ModelTelemetryRecommendation (F : Type) where
  key : String
  model : String
  provider : String
  mode : String
  purpose : String
  taskKind : String
  sessions : Nat
  calls : Nat
  failedSessions : Nat
  failureRate : F
  averageTokens : F
  averageResponseCharacters : F
  efficiencyScore : F
  confidence : Confidence
  recommendation : Recommendation
  reasons : List String

/-- The words that tell a kind of task. -/
def taskWords : List (String × List String) :=
  [("test-fix", ["test", "failing", "failure", "ci", "verify", "spec"]),
   ("refactor", ["refactor", "cleanup", "rewrite", "architecture", "design"]),
   ("understanding", ["explain", "summarize", "understand", "inspect", "review"]),
   ("feature", ["add", "implement", "build", "create", "feature"]),
   ("bugfix", ["fix", "bug", "patch", "repair"])]

/-- {lit}`\w`. -/
def isWordCharacter (c : Char) : Bool :=
  isAsciiAlphanumeric c || c == '_'

/-- {lit}`/\b(word|...)\b/.test(text)`: one of the words is a whole run of word characters. -/
def hasWord (words : List String) (text : String) : Bool :=
  (text.toList.splitOnP fun c => !isWordCharacter c).any fun run =>
    (words.map String.toList).contains run

def inferTaskKind (task : Option String) : String :=
  let normalized := (task.map platform.toLowerCase).getD ""
  if normalized = "" then "unknown"
  else ((taskWords.find? fun kind => hasWord kind.2 normalized).map Prod.fst).getD "general"

/-- What a recommendation is about. -/
structure CallTuple where
  mode : String
  purpose : String
  taskKind : String
  provider : String
  model : String
deriving DecidableEq

def tupleOf (entry : ModelCallWithSession) : CallTuple where
  mode := entry.call.mode.text
  purpose := entry.call.purpose.text
  taskKind := inferTaskKind platform entry.session.task
  provider := entry.call.provider
  model := entry.call.model.getD "unknown"

/-- {lit}`[mode, purpose, taskKind, provider, model].join(":")`. -/
def CallTuple.key (tuple : CallTuple) : String :=
  ":".intercalate [tuple.mode, tuple.purpose, tuple.taskKind, tuple.provider, tuple.model]

structure RecommendationGroup where
  tuple : CallTuple
  calls : Nat
  totalTokens : Nat
  responseCharacters : Nat
  sessionIds : Finset String
  failedSessionIds : Finset String

def startRecommendation (entry : ModelCallWithSession) : RecommendationGroup where
  tuple := tupleOf platform entry
  calls := 0
  totalTokens := 0
  responseCharacters := 0
  sessionIds := ∅
  failedSessionIds := ∅

def addRecommendationCall (group : RecommendationGroup) (entry : ModelCallWithSession) :
    RecommendationGroup :=
  { group with
    calls := group.calls + 1
    totalTokens := group.totalTokens
      + (entry.call.inputTokens.getD 0 + entry.call.outputTokens.getD 0)
    responseCharacters := group.responseCharacters + entry.call.responseCharacters
    sessionIds := insert entry.session.sessionId group.sessionIds
    failedSessionIds := addFailed entry group.failedSessionIds }

/-- {lit}`average > 0 ? 1 / (1 + average / scale) : 0.55`. -/
def efficiencyOf (average : F) (scale : Nat) : F :=
  if platform.lt (platform.ofNat 0) average then
    platform.div (platform.ofNat 1)
      (platform.add (platform.ofNat 1) (platform.div average (platform.ofNat scale)))
  else platform.ofDecimal 55 2

def scoreEfficiency (failureRate averageTokens averageResponseCharacters : F) : F :=
  let reliability :=
    platform.max (platform.ofNat 0) (platform.sub (platform.ofNat 1) failureRate)
  let tokenEfficiency := efficiencyOf platform averageTokens 4000
  let responseEfficiency := efficiencyOf platform averageResponseCharacters 12000
  platform.toFixed
    (platform.add
      (platform.add (platform.mul reliability (platform.ofDecimal 68 2))
        (platform.mul tokenEfficiency (platform.ofDecimal 2 1)))
      (platform.mul responseEfficiency (platform.ofDecimal 12 2))) 4

def confidenceForSessions (sessions : Nat) : Confidence :=
  if 20 ≤ sessions then .high else if 5 ≤ sessions then .medium else .low

def recommendationForScore (score failureRate : F) : Recommendation :=
  if !platform.lt failureRate (platform.ofDecimal 5 1)
      || platform.lt score (platform.ofDecimal 55 2) then .avoid
  else if !platform.lt score (platform.ofDecimal 78 2)
      && !platform.lt (platform.ofDecimal 2 1) failureRate then .prefer
  else .watch

def buildRecommendationReasons (sessions : Nat)
    (failureRate averageTokens averageResponseCharacters efficiencyScore : F) : List String :=
  let rounded (value : F) := platform.text (platform.round value)
  let plural := if sessions = 1 then "" else "s"
  [s!"Observed in {sessions} session{plural}.",
    s!"Failure rate {rounded (platform.mul failureRate (platform.ofNat 100))}%; "
      ++ s!"efficiency score {platform.text efficiencyScore}.",
    if platform.lt (platform.ofNat 0) averageTokens then
      s!"Average tokens per call {rounded averageTokens}."
    else "Token usage unavailable; response length is used as a weak cost proxy.",
    s!"Average response characters {rounded averageResponseCharacters}."]

/-- The recommendation that a group's key and numbers give. -/
def recommend (key : String) (group : RecommendationGroup) : ModelTelemetryRecommendation F :=
  let sessions := group.sessionIds.card
  let failedSessions := group.failedSessionIds.card
  let failureRate := platform.ratio failedSessions sessions
  let averageTokens := platform.ratio group.totalTokens group.calls
  let averageResponseCharacters := platform.ratio group.responseCharacters group.calls
  let efficiencyScore :=
    scoreEfficiency platform failureRate averageTokens averageResponseCharacters
  { key
    model := group.tuple.model
    provider := group.tuple.provider
    mode := group.tuple.mode
    purpose := group.tuple.purpose
    taskKind := group.tuple.taskKind
    sessions
    calls := group.calls
    failedSessions
    failureRate
    averageTokens := platform.toFixed averageTokens 1
    averageResponseCharacters := platform.toFixed averageResponseCharacters 1
    efficiencyScore
    confidence := confidenceForSessions sessions
    recommendation := recommendationForScore platform efficiencyScore failureRate
    reasons := buildRecommendationReasons platform sessions failureRate averageTokens
      averageResponseCharacters efficiencyScore }

def buildModelRecommendations (calls : List ModelCallWithSession) :
    List (ModelTelemetryRecommendation F) :=
  let groups := group (fun entry => (tupleOf platform entry).key) (startRecommendation platform)
    addRecommendationCall calls
  (groups.entries.map fun entry => recommend platform entry.1 entry.2).mergeSort
    fun left right =>
      ((platform.compare right.efficiencyScore left.efficiencyScore).then
        ((compare right.calls left.calls).then
          (platform.localeCompare left.key right.key))).isLE

/-! ## The summary -/

structure ModelTelemetrySummary (F : Type) where
  totalSessions : Nat
  completedSessions : Nat
  totalCalls : Nat
  totalInputTokens : Nat
  totalOutputTokens : Nat
  totalResponseCharacters : Nat
  failedSessions : Nat
  runningSessions : Nat
  failureRate : F
  byProvider : List (ModelTelemetryGroup F)
  byModel : List (ModelTelemetryGroup F)
  byMode : List (ModelTelemetryGroup F)
  byPurpose : List (ModelTelemetryGroup F)
  byFailureCategory : List FailureTelemetryGroup
  recommendations : List (ModelTelemetryRecommendation F)

/-- The model calls of a log. -/
def callsOf (session : SessionHistorySummary) (events : List SessionEvent) :
    List ModelCallWithSession :=
  (events.filterMap SessionEvent.call?).map fun call => ⟨call, session⟩

def readModelCalls (store : SessionHistoryStore) (sessions : List SessionHistorySummary) :
    Except String (List ModelCallWithSession) := do
  let eventGroups ← sessions.mapM fun summary => store.read summary.sessionId
  return ((sessions.zip eventGroups).map fun group => callsOf group.1 group.2).flatten

/-- The sessions with a status. -/
def countStatus (status : SessionStatus) (sessions : List SessionHistorySummary) : Nat :=
  (sessions.filter fun session => session.status = status).length

def providerKey (entry : ModelCallWithSession) : String :=
  entry.call.provider

def modelKey (entry : ModelCallWithSession) : String :=
  entry.call.model.getD "unknown"

def modeKey (entry : ModelCallWithSession) : String :=
  entry.call.mode.text

def purposeKey (entry : ModelCallWithSession) : String :=
  entry.call.purpose.text

def summarizeModelCalls (store : SessionHistoryStore) :
    Except String (ModelTelemetrySummary F) := do
  let sessions ← store.list platform.localeCompare
  let calls ← readModelCalls store sessions
  let failedSessions := countStatus .failed sessions
  return {
    totalSessions := sessions.length
    completedSessions := countStatus .completed sessions
    totalCalls := calls.length
    totalInputTokens := (calls.map fun entry => entry.call.inputTokens.getD 0).sum
    totalOutputTokens := (calls.map fun entry => entry.call.outputTokens.getD 0).sum
    totalResponseCharacters := (calls.map fun entry => entry.call.responseCharacters).sum
    failedSessions
    runningSessions := countStatus .running sessions
    failureRate := platform.ratio failedSessions sessions.length
    byProvider := groupCalls platform calls providerKey
    byModel := groupCalls platform calls modelKey
    byMode := groupCalls platform calls modeKey
    byPurpose := groupCalls platform calls purposeKey
    byFailureCategory := groupFailures platform sessions
    recommendations := buildModelRecommendations platform calls }

end Storage
end TokenStreaming
