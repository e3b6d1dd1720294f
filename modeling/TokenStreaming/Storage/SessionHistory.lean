import TokenStreaming.Core.Names
import TokenStreaming.Core.Texts
import TokenStreaming.Foundation.InsertionMap

/-!
# Storage - Session logs and their summaries

A session writes its events to a log file of its own, and
{lit}`SessionHistoryStore` reads the logs back and summarizes each of them.

A log is modelled by the events that its lines parse to.  The paths of the
directory and the order of texts are left to the platform.

Main results:

- Theorem {lit}`list_perm`: the list has one summary for each log.
- Theorem {lit}`read_of_mem_logs`: the log behind a summary is read back.
-/

namespace TokenStreaming
namespace Storage

open Core Domain

/-! ## Failure categories -/

inductive FailureCategory where
  | modelProvider
  | patchProposal
  | patchPolicy
  | approval
  | commandPolicy
  | toolPolicy
  | toolExecution
  | unknown
deriving DecidableEq

def FailureCategory.text : FailureCategory → String
  | .modelProvider => "model-provider"
  | .patchProposal => "patch-proposal"
  | .patchPolicy => "patch-policy"
  | .approval => "approval"
  | .commandPolicy => "command-policy"
  | .toolPolicy => "tool-policy"
  | .toolExecution => "tool-execution"
  | .unknown => "unknown"

def classifyFailure (error : String) : FailureCategory :=
  if startsWith error "Model call failed during " then .modelProvider
  else if startsWith error "Patch blocked by policy: " then .patchPolicy
  else if startsWith error "Patch blocked by approval: " then .approval
  else if startsWith error "Command blocked by policy: " then .commandPolicy
  else if includes error "Patch proposal" || includes error "Unexpected end of JSON input" then
    .patchProposal
  else if startsWith error "Tool risk \"" || includes error "runtime permission boundaries" then
    .toolPolicy
  else if startsWith error "Path escapes repository root: " || startsWith error "Tool input " then
    .toolExecution
  else .unknown

/-! ## Events -/

structure ModelCallRecord where
  purpose : ModelCallPurpose
  provider : String
  model : Option String
  mode : ProductMode
  inputTokens : Option Nat
  outputTokens : Option Nat
  responseCharacters : Nat
deriving DecidableEq

/-- What an event says beside its envelope; the types that no summary looks at are {lit}`other`. -/
inductive EventBody where
  | runStarted (task : String)
  | userMessage (message : String)
  | modelCalled (call : ModelCallRecord)
  | runCompleted (summary : String)
  | runFailed (error : String)
  | other (type : String)
deriving DecidableEq

structure SessionEvent where
  timestamp : String
  body : EventBody
deriving DecidableEq

def SessionEvent.task? (event : SessionEvent) : Option String :=
  match event.body with
  | .runStarted task => some task
  | _ => none

def SessionEvent.message? (event : SessionEvent) : Option String :=
  match event.body with
  | .userMessage message => some message
  | _ => none

def SessionEvent.call? (event : SessionEvent) : Option ModelCallRecord :=
  match event.body with
  | .modelCalled call => some call
  | _ => none

/-- The timestamp and the summary of a completion. -/
def SessionEvent.completion? (event : SessionEvent) : Option (String × String) :=
  match event.body with
  | .runCompleted summary => some (event.timestamp, summary)
  | _ => none

/-- The timestamp and the error of a failure. -/
def SessionEvent.failure? (event : SessionEvent) : Option (String × String) :=
  match event.body with
  | .runFailed error => some (event.timestamp, error)
  | _ => none

/-! ## Summaries -/

inductive SessionStatus where
  | completed
  | failed
  | running
deriving DecidableEq

structure SessionHistorySummary where
  sessionId : String
  status : SessionStatus
  failureCategory : Option FailureCategory
  eventCount : Nat
  startedAt : Option String
  completedAt : Option String
  failedAt : Option String
  lastEventAt : Option String
  task : Option String
  summary : Option String
  error : Option String
  logPath : String
deriving DecidableEq

/-- The later of the last completion and the last failure decides; a tie is a failure. -/
def terminalStatus (completed failed : Option (String × String)) : SessionStatus :=
  match completed, failed with
  | some c, some f => if textGreater c.1 f.1 then .completed else .failed
  | some _, none => .completed
  | none, some _ => .failed
  | none, none => .running

def summarizeSession (sessionId logPath : String) (events : List SessionEvent) :
    SessionHistorySummary :=
  let completed := events.reverse.findSome? SessionEvent.completion?
  let failed := events.reverse.findSome? SessionEvent.failure?
  { sessionId
    status := terminalStatus completed failed
    failureCategory := failed.map fun event => classifyFailure event.2
    eventCount := events.length
    startedAt := events.head?.map SessionEvent.timestamp
    completedAt := completed.map Prod.fst
    failedAt := failed.map Prod.fst
    lastEventAt := events.getLast?.map SessionEvent.timestamp
    task := (events.findSome? SessionEvent.task?).or (events.findSome? SessionEvent.message?)
    summary := completed.map fun event => firstLine event.2
    error := failed.map fun event => firstLine event.2
    logPath }

@[simp]
theorem summarizeSession_sessionId (sessionId logPath : String) (events : List SessionEvent) :
    (summarizeSession sessionId logPath events).sessionId = sessionId :=
  rfl

/-! ## The store -/

/-- The directory of the logs: its path, and what the lines of each file parse to. -/
structure SessionHistoryStore where
  sessionsDirectory : String
  files : InsertionMap String (List SessionEvent)

/-- The characters of an id that may stand in a file's name. -/
def isStorageIdCharacter (c : Char) : Bool :=
  isAsciiAlphanumeric c || c == '_' || c == '-'

def assertSafeStorageId (kind id : String) : Except String Unit :=
  if id ≠ "" ∧ id.toList.all isStorageIdCharacter then .ok ()
  else .error s!"Invalid {kind} id: {id}"

namespace SessionHistoryStore

variable (store : SessionHistoryStore)

def getSessionPath (sessionId : String) : Except String String := do
  assertSafeStorageId "session" sessionId
  return s!"{store.sessionsDirectory}/{sessionId}.jsonl"

def read (sessionId : String) : Except String (List SessionEvent) := do
  let path ← store.getSessionPath sessionId
  match store.files.get (sessionId ++ ".jsonl") with
  | some events => return events
  | none => throw s!"ENOENT: no such file or directory, open '{path}'"

/-- {lit}`entry.slice(0, -".jsonl".length)`. -/
def sessionIdOf (entry : String) : String :=
  String.ofList (entry.toList.take (entry.toList.length - ".jsonl".toList.length))

/-- The files of the directory that are logs. -/
def logFiles : List (String × List SessionEvent) :=
  store.files.entries.filter fun file => endsWith file.1 ".jsonl"

/-- The summary of one log. -/
def summaryOf (entry : String) : Except String SessionHistorySummary := do
  let sessionId := sessionIdOf entry
  let events ← store.read sessionId
  let path ← store.getSessionPath sessionId
  return summarizeSession sessionId path events

/-- Summaries, the newest first; {lit}`localeCompare` orders their last timestamps. -/
def list (localeCompare : String → String → Ordering) :
    Except String (List SessionHistorySummary) := do
  let summaries ← (store.logFiles.map Prod.fst).mapM store.summaryOf
  return summaries.mergeSort fun left right =>
    (localeCompare (right.lastEventAt.getD "") (left.lastEventAt.getD "")).isLE

/-! ## What is read -/

/-- The session id and the log of a file. -/
structure SessionLog where
  summary : SessionHistorySummary
  events : List SessionEvent

/-- All the logs, each with its summary. -/
def logs : List SessionLog :=
  store.logFiles.map fun file =>
    ⟨summarizeSession (sessionIdOf file.1)
      s!"{store.sessionsDirectory}/{sessionIdOf file.1}.jsonl" file.2, file.2⟩

variable {store}

theorem sessionIdOf_append {entry : String} (h : endsWith entry ".jsonl" = true) :
    sessionIdOf entry ++ ".jsonl" = entry := by
  rw [endsWith, List.isSuffixOf_iff_suffix] at h
  rcases h with ⟨front, hfront⟩
  have hlength : entry.toList.length - ".jsonl".toList.length = front.length := by
    rw [← hfront, List.length_append]
    omega
  apply String.toList_injective
  rw [String.toList_append, sessionIdOf, String.toList_ofList, hlength, ← hfront, List.take_left]

theorem getSessionPath_eq_ok {sessionId path : String}
    (h : store.getSessionPath sessionId = .ok path) :
    path = s!"{store.sessionsDirectory}/{sessionId}.jsonl" := by
  rw [getSessionPath, Except.bind_eq_ok] at h
  obtain ⟨_, _, hpath⟩ := h
  exact (Except.ok.inj hpath).symm

/-- A log that is read is the log of the file. -/
theorem read_of_mem {file : String × List SessionEvent} (hfile : file ∈ store.logFiles)
    {events : List SessionEvent} (h : store.read (sessionIdOf file.1) = .ok events) :
    events = file.2 := by
  obtain ⟨hmem, hsuffix⟩ := List.mem_filter.mp hfile
  rw [read, Except.bind_eq_ok] at h
  obtain ⟨path, _, hevents⟩ := h
  rw [sessionIdOf_append hsuffix, InsertionMap.get_eq_some_iff.mpr hmem] at hevents
  exact (Except.ok.inj hevents).symm

/-- Reading every item of a list gives what each of them reads. -/
theorem mapM_eq_map {α β : Type} {f : α → Except String β} {g : α → β} {items : List α}
    {results : List β} (hf : ∀ item ∈ items, ∀ result, f item = .ok result → result = g item)
    (h : items.mapM f = .ok results) : results = items.map g := by
  induction items generalizing results with
  | nil =>
      rw [List.mapM_nil] at h
      exact (Except.ok.inj h).symm
  | cons item items ih =>
      rw [List.mapM_cons, Except.bind_eq_ok] at h
      obtain ⟨result, hresult, hrest⟩ := h
      rw [Except.bind_eq_ok] at hrest
      obtain ⟨rest, hmap, hcons⟩ := hrest
      have hhead : result = g item := hf item List.mem_cons_self result hresult
      have htail : rest = items.map g :=
        ih (fun other hother => hf other (List.mem_cons_of_mem _ hother)) hmap
      rw [← Except.ok.inj hcons, hhead, htail, List.map_cons]

/-- Where a list is read, each of its items is. -/
theorem ok_of_mapM {α β : Type} {f : α → Except String β} {items : List α} {results : List β}
    (h : items.mapM f = .ok results) {item : α} (hitem : item ∈ items) :
    ∃ result, f item = .ok result := by
  induction items generalizing results with
  | nil => cases hitem
  | cons first items ih =>
      rw [List.mapM_cons, Except.bind_eq_ok] at h
      obtain ⟨result, hresult, hrest⟩ := h
      rw [Except.bind_eq_ok] at hrest
      obtain ⟨rest, hmap, _⟩ := hrest
      rcases List.mem_cons.mp hitem with heq | hmem
      · exact ⟨result, heq ▸ hresult⟩
      · exact ih hmap hmem

theorem summaryOf_of_mem {file : String × List SessionEvent} (hfile : file ∈ store.logFiles)
    {summary : SessionHistorySummary} (h : store.summaryOf file.1 = .ok summary) :
    summary = summarizeSession (sessionIdOf file.1)
      s!"{store.sessionsDirectory}/{sessionIdOf file.1}.jsonl" file.2 := by
  rw [summaryOf, Except.bind_eq_ok] at h
  obtain ⟨events, hevents, hrest⟩ := h
  rw [Except.bind_eq_ok] at hrest
  obtain ⟨path, hpath, hsummary⟩ := hrest
  rw [← Except.ok.inj hsummary, read_of_mem hfile hevents, getSessionPath_eq_ok hpath]

/-- The list has one summary for each log. -/
theorem list_perm {localeCompare : String → String → Ordering}
    {sessions : List SessionHistorySummary} (h : store.list localeCompare = .ok sessions) :
    sessions.Perm (store.logs.map SessionLog.summary) := by
  rw [list, Except.bind_eq_ok] at h
  obtain ⟨summaries, hsummaries, hsorted⟩ := h
  have hmap : summaries = store.logs.map SessionLog.summary := by
    rw [List.mapM_map] at hsummaries
    rw [logs, List.map_map]
    exact mapM_eq_map (fun file hfile summary => summaryOf_of_mem hfile) hsummaries
  rw [← Except.ok.inj hsorted, ← hmap]
  exact List.mergeSort_perm summaries _

/-- Where the list succeeds, every log can be read by the id of its summary. -/
theorem read_of_mem_logs {localeCompare : String → String → Ordering}
    {sessions : List SessionHistorySummary} (h : store.list localeCompare = .ok sessions)
    {log : SessionLog} (hlog : log ∈ store.logs) :
    store.read log.summary.sessionId = .ok log.events := by
  obtain ⟨file, hfile, rfl⟩ := List.mem_map.mp hlog
  rw [list, Except.bind_eq_ok] at h
  obtain ⟨summaries, hsummaries, _⟩ := h
  rw [List.mapM_map] at hsummaries
  obtain ⟨summary, hsummary⟩ := ok_of_mapM hsummaries hfile
  rw [Function.comp_apply, summaryOf, Except.bind_eq_ok] at hsummary
  obtain ⟨events, hevents, _⟩ := hsummary
  rw [summarizeSession_sessionId, hevents, read_of_mem hfile hevents]

end SessionHistoryStore
end Storage
end TokenStreaming
