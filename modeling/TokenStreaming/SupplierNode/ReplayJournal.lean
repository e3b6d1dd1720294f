import TokenStreaming.Foundation.Json

/-!
# Supplier node - The replay journal

The journal remembers which nonces and which request ids were claimed, in memory and
in a file of one JSON record a line.  A claim appends its line before it counts; a
start reads the file and writes back what has not expired.  A disk call either takes
effect or not, and may report a failure in both cases.

Main results:

- Theorem {lit}`load_keeps`: a file is read back as the unexpired claims it keeps.
- Theorem {lit}`claim_cases`, {lit}`compact_cases`: what one claim and one compaction
  leave in the file and in memory, however their disk calls end.
- Theorem {lit}`openJournal_cases`: what a start finds.

Current gaps: a torn write, and file permissions.
-/

namespace TokenStreaming
namespace SupplierNode

open Json

/-! ## Errors and digests -/

inductive SupplierGatewayErrorCode where
  | INVALID_REQUEST
  | AUTHENTICATION_FAILED
  | SIGNATURE_INVALID
  | REQUEST_EXPIRED
  | REPLAY_DETECTED
  | MODEL_NOT_ALLOWED
  | DATA_CLASS_NOT_ALLOWED
  | CAPACITY_EXCEEDED
  | IDEMPOTENCY_CONFLICT
  | UPSTREAM_AUTH_FAILED
  | UPSTREAM_RATE_LIMITED
  | UPSTREAM_TIMEOUT
  | UPSTREAM_UNAVAILABLE
  | UPSTREAM_RESPONSE_INVALID
  | UPSTREAM_MODEL_MISMATCH
  | INTERNAL_ERROR
deriving DecidableEq

structure SupplierNodeError where
  code : SupplierGatewayErrorCode
  message : String
  status : Nat
  retryable : Bool
deriving DecidableEq

/-- What a call of the node may throw. -/
inductive Thrown where
  | node (error : SupplierNodeError)
  | plain (message : String)
deriving DecidableEq

/-- The pattern {lit}`/^[a-f0-9]{64}$/`. -/
def isHexDigest (value : String) : Bool :=
  value.length == 64 &&
    value.toList.all fun c => ('a' ≤ c && c ≤ 'f') || ('0' ≤ c && c ≤ '9')

theorem isHexDigest_ofList {cs : List Char}
    (h : (cs.length == 64 && cs.all fun c => ('a' ≤ c && c ≤ 'f') || ('0' ≤ c && c ≤ '9')) = true) :
    isHexDigest (.ofList cs) = true := by
  rw [isHexDigest, String.toList_ofList, String.length_ofList]
  exact h

/-- The digests of the platform's crypto module, in lower-case hexadecimal. -/
structure Hashes where
  sha256Hex : String → String
  /-- Key first, then the message. -/
  hmacSha256Hex : String → String → String
  isHexDigest_sha256Hex : ∀ value, isHexDigest (sha256Hex value) = true
  isHexDigest_hmacSha256Hex : ∀ key value, isHexDigest (hmacSha256Hex key value) = true

def MAX_SAFE_INTEGER : Nat :=
  9007199254740991

/-! ## Records -/

/-- A record of version 2, the only version that is written. -/
inductive ReplayRecord where
  | nonce (key : String) (expiresAt : Nat)
  | request (key : String) (bodyCommitment : String) (expiresAt : Nat)
deriving DecidableEq

/-- A record as it is read; version 1 kept the digest of a request's body. -/
inductive ParsedReplayRecord where
  | nonce (key : String) (expiresAt : Nat)
  | request (key : String) (bodyCommitment : String) (expiresAt : Nat)
  | legacyRequest (key : String) (bodySha256 : String) (expiresAt : Nat)
deriving DecidableEq

namespace ReplayRecord

def expiresAt : ReplayRecord → Nat
  | .nonce _ expiresAt => expiresAt
  | .request _ _ expiresAt => expiresAt

/-- The members of a record in the order they are written. -/
def members : ReplayRecord → List (String × JsonValue)
  | .nonce key expiresAt =>
      [("version", .number 2), ("kind", .string "nonce"), ("key", .string key),
        ("expiresAt", .number expiresAt)]
  | .request key bodyCommitment expiresAt =>
      [("version", .number 2), ("kind", .string "request"), ("key", .string key),
        ("bodyCommitment", .string bodyCommitment), ("expiresAt", .number expiresAt)]

def toJson (r : ReplayRecord) : JsonValue :=
  .object r.members

def toParsed : ReplayRecord → ParsedReplayRecord
  | .nonce key expiresAt => .nonce key expiresAt
  | .request key bodyCommitment expiresAt => .request key bodyCommitment expiresAt

/-- The record with its line break. -/
def line (r : ReplayRecord) : List Char :=
  render r.toJson ++ ['\n']

/-- The record can be read back. -/
def WellFormed : ReplayRecord → Prop
  | .nonce key expiresAt => isHexDigest key = true ∧ expiresAt ≤ MAX_SAFE_INTEGER
  | .request key bodyCommitment expiresAt =>
      isHexDigest key = true ∧ isHexDigest bodyCommitment = true ∧ expiresAt ≤ MAX_SAFE_INTEGER

end ReplayRecord

def ParsedReplayRecord.expiresAt : ParsedReplayRecord → Nat
  | .nonce _ expiresAt => expiresAt
  | .request _ _ expiresAt => expiresAt
  | .legacyRequest _ _ expiresAt => expiresAt

/-! ## Parsing -/

/-- A member that is a string. -/
def stringMember (members : List (String × JsonValue)) (name : String) : Option String :=
  match members.lookup name with
  | some (.string text) => some text
  | _ => none

/-- A member that is an integer. -/
def integerMember (members : List (String × JsonValue)) (name : String) : Option Int :=
  match members.lookup name with
  | some (.number n) => some n
  | _ => none

def digestMember (members : List (String × JsonValue)) (name : String) : Option String :=
  (stringMember members name).filter isHexDigest

/-- A member that is a safe integer and not negative. -/
def instantMember (members : List (String × JsonValue)) (name : String) : Option Nat :=
  (integerMember members name).bind fun n =>
    if 0 ≤ n ∧ n ≤ MAX_SAFE_INTEGER then some n.toNat else none

/-- {lit}`none` refuses the journal. -/
def parseRecord (value : JsonValue) : Option ParsedReplayRecord :=
  match value with
  | .object members =>
      match integerMember members "version", stringMember members "kind",
          digestMember members "key", instantMember members "expiresAt" with
      | some version, some kind, some key, some expiresAt =>
          if version ≠ 1 ∧ version ≠ 2 then none
          else if kind ≠ "nonce" ∧ kind ≠ "request" then none
          else if kind = "nonce" then
            if members.length ≠ 4 then none else some (.nonce key expiresAt)
          else if version = 1 then
            match digestMember members "bodySha256" with
            | some bodySha256 =>
                if members.length ≠ 5 then none else some (.legacyRequest key bodySha256 expiresAt)
            | none => none
          else
            match digestMember members "bodyCommitment" with
            | some bodyCommitment =>
                if members.length ≠ 5 then none else some (.request key bodyCommitment expiresAt)
            | none => none
      | _, _, _, _ => none
  | _ => none

/-! ## The journal -/

structure RequestEntry where
  bodyCommitment : String
  expiresAt : Nat
deriving DecidableEq

def MAXIMUM_JOURNAL_BYTES : Nat :=
  16 * 1024 * 1024

def SIZE_COMPACTION_THRESHOLD_BYTES : Nat :=
  8 * 1024 * 1024

def DEFAULT_COMPACTION_INTERVAL_MILLISECONDS : Nat :=
  5 * 60000

def APPEND_COMPACTION_THRESHOLD : Nat :=
  1000

def BODY_COMMITMENT_DOMAIN : String :=
  "gongsuanyun.supplier-node.replay-body-commitment.v2\n"

/-- What a journal is constructed with; the interval is checked there. -/
structure JournalOptions where
  hashes : Hashes
  gatewayToken : String
  compactionIntervalMilliseconds : Nat
  interval_bounds : 1000 ≤ compactionIntervalMilliseconds ∧
    compactionIntervalMilliseconds ≤ 60 * 60000

/-- The two maps in memory. -/
structure ClaimMaps where
  nonces : InsertionMap String Nat
  requests : InsertionMap String RequestEntry

def ClaimMaps.empty : ClaimMaps where
  nonces := .empty
  requests := .empty

/-- The fields of a {lit}`PersistentReplayJournal` that change, with its file. -/
structure ReplayJournal where
  maps : ClaimMaps
  appendedSinceCompaction : Nat
  lastCompactedAt : Nat
  terminalFailure : Bool
  file : List Char

/-- The number of bytes of a text in UTF-8. -/
def byteLength (text : List Char) : Nat :=
  (text.map Char.utf8Size).sum

variable (options : JournalOptions)

/-- Defined for a digest; the source throws for any other text. -/
def createBodyCommitment (bodySha256 : String) : String :=
  options.hashes.hmacSha256Hex options.gatewayToken (BODY_COMMITMENT_DOMAIN ++ bodySha256)

def digestIdentifier (value : String) : String :=
  options.hashes.sha256Hex value

/-- A record of the file is put into the maps. -/
def loadRecord (nowMs : Nat) (maps : ClaimMaps) (record : ParsedReplayRecord) :
    Option ClaimMaps :=
  if record.expiresAt < nowMs then some maps
  else
    match record with
    | .nonce key expiresAt =>
        if maps.nonces.has key then none
        else some { maps with nonces := maps.nonces.set key expiresAt }
    | .request key bodyCommitment expiresAt =>
        if maps.requests.has key then none
        else some { maps with requests := maps.requests.set key ⟨bodyCommitment, expiresAt⟩ }
    | .legacyRequest key bodySha256 expiresAt =>
        if maps.requests.has key then none
        else some { maps with
          requests := maps.requests.set key ⟨createBodyCommitment options bodySha256, expiresAt⟩ }

def loadLine (nowMs : Nat) (maps : ClaimMaps) (line : List Char) : Option ClaimMaps :=
  if line = [] then some maps
  else
    match parse line with
    | none => none
    | some value =>
        match parseRecord value with
        | none => none
        | some record => loadRecord options nowMs maps record

/-- {lit}`none` is the error for a corrupt journal. -/
def load (serialized : List Char) (nowMs : Nat) : Option ClaimMaps :=
  (serialized.splitOn '\n').foldlM (loadLine options nowMs) .empty

/-- How one disk call ends. -/
inductive DiskCall where
  | done
  | failsBefore
  | failsAfter
deriving DecidableEq

def replayProtectionUnavailable : Thrown :=
  .node ⟨.INTERNAL_ERROR, "节点重放保护不可用，已停止受理请求。", 503, true⟩

def nonceAlreadyUsed : Thrown :=
  .node ⟨.REPLAY_DETECTED, "请求 nonce 已经使用。", 409, false⟩

def idempotencyConflict : Thrown :=
  .node ⟨.IDEMPOTENCY_CONFLICT, "同一任务标识对应了不同请求体。", 409, false⟩

def requestAlreadyAccepted : Thrown :=
  .node ⟨.REPLAY_DETECTED, "任务已在当前或先前节点进程中受理；为避免重复上游计费，本次不再执行。", 409, false⟩

def invalidBodyDigest : Thrown :=
  .plain "Request body digest is invalid."

def ClaimMaps.prune (maps : ClaimMaps) (nowMs : Nat) : ClaimMaps where
  nonces := maps.nonces.filter fun _ expiresAt => !(expiresAt < nowMs)
  requests := maps.requests.filter fun _ entry => !(entry.expiresAt < nowMs)

/-- The records of the maps, nonces first. -/
def ClaimMaps.records (maps : ClaimMaps) : List ReplayRecord :=
  maps.nonces.entries.map (fun e => .nonce e.1 e.2) ++
    maps.requests.entries.map (fun e => .request e.1 e.2.bodyCommitment e.2.expiresAt)

/-- The file that holds the records. -/
def serializeRecords (records : List ReplayRecord) : List Char :=
  let lines := records.map fun r => render r.toJson
  if lines.length = 0 then [] else ['\n'].intercalate lines ++ ['\n']

namespace ReplayJournal

def prune (j : ReplayJournal) (nowMs : Nat) : ReplayJournal :=
  { j with maps := j.maps.prune nowMs }

def fail (j : ReplayJournal) : ReplayJournal :=
  { j with terminalFailure := true }

/-- Rewrite the file with what is in memory; {lit}`false` is a thrown error. -/
def compact (j : ReplayJournal) (nowMs : Nat) (rename : DiskCall) : ReplayJournal × Bool :=
  let j := j.prune nowMs
  let serialized := serializeRecords j.maps.records
  if byteLength serialized > MAXIMUM_JOURNAL_BYTES then (j, false)
  else
    match rename with
    | .failsBefore => (j, false)
    | .failsAfter => ({ j with file := serialized }, false)
    | .done =>
        ({ j with file := serialized, appendedSinceCompaction := 0, lastCompactedAt := nowMs }, true)

end ReplayJournal

/-- How the disk calls of one claim end. -/
structure ClaimDisk where
  compactBeforeAppend : DiskCall
  append : DiskCall
  /-- The size of the file can be read after the append. -/
  stat : Bool
  compactAfterAppend : DiskCall

/-- Every disk call succeeds. -/
def ClaimDisk.healthy : ClaimDisk :=
  ⟨.done, .done, true, .done⟩

/-- What an append leaves behind: the journal, whether it returned, and whether the line
reached the file. -/
structure Appended where
  journal : ReplayJournal
  returned : Bool
  written : Bool

namespace ReplayJournal

/-- Append a line after there is room for it. -/
def appendLine (j : ReplayJournal) (record : ReplayRecord) (disk : ClaimDisk) : Appended :=
  if byteLength j.file + byteLength record.line > MAXIMUM_JOURNAL_BYTES then
    ⟨j.fail, false, false⟩
  else
    match disk.append with
    | .failsBefore => ⟨j.fail, false, false⟩
    | .failsAfter => ⟨{ j.fail with file := j.file ++ record.line }, false, true⟩
    | .done =>
        ⟨{ j with
            file := j.file ++ record.line
            appendedSinceCompaction := j.appendedSinceCompaction + 1 }, true, true⟩

def append (j : ReplayJournal) (record : ReplayRecord) (nowMs : Nat) (disk : ClaimDisk) :
    Appended :=
  if byteLength j.file + byteLength record.line > MAXIMUM_JOURNAL_BYTES then
    match j.compact nowMs disk.compactBeforeAppend with
    | (j, true) => j.appendLine record disk
    | (j, false) => ⟨j.fail, false, false⟩
  else j.appendLine record disk

/-- {lit}`false` is a thrown error. -/
def maybeCompactAfterAppend (j : ReplayJournal) (nowMs : Nat) (disk : ClaimDisk) :
    ReplayJournal × Bool :=
  let isDue :=
    APPEND_COMPACTION_THRESHOLD ≤ j.appendedSinceCompaction ||
      options.compactionIntervalMilliseconds ≤ nowMs - j.lastCompactedAt
  if !isDue && !disk.stat then (j.fail, false)
  else if isDue || SIZE_COMPACTION_THRESHOLD_BYTES ≤ byteLength j.file then
    match j.compact nowMs disk.compactAfterAppend with
    | (j, true) => (j, true)
    | (j, false) => (j.fail, false)
  else (j, true)

/-- The record is kept in memory. -/
def remember (j : ReplayJournal) (record : ReplayRecord) : ReplayJournal :=
  match record with
  | .nonce key expiresAt =>
      { j with maps := { j.maps with nonces := j.maps.nonces.set key expiresAt } }
  | .request key bodyCommitment expiresAt =>
      { j with maps := { j.maps with
          requests := j.maps.requests.set key ⟨bodyCommitment, expiresAt⟩ } }

end ReplayJournal

/-- What a claim leaves behind: the journal, what it returned or threw, and whether its
line reached the file. -/
structure Claimed where
  journal : ReplayJournal
  result : Except Thrown Unit
  written : Bool

namespace ReplayJournal

/-- The part of a claim that follows its check. -/
def claim (j : ReplayJournal) (record : ReplayRecord) (nowMs : Nat) (disk : ClaimDisk) :
    Claimed :=
  let appended := j.append record nowMs disk
  if appended.returned then
    match (appended.journal.remember record).maybeCompactAfterAppend options nowMs disk with
    | (j, true) => ⟨j, .ok (), appended.written⟩
    | (j, false) => ⟨j, .error replayProtectionUnavailable, appended.written⟩
  else ⟨appended.journal, .error replayProtectionUnavailable, appended.written⟩

def claimNonce (j : ReplayJournal) (nonce : String) (expiresAt nowMs : Nat)
    (disk : ClaimDisk) : Claimed :=
  if j.terminalFailure then ⟨j, .error replayProtectionUnavailable, false⟩
  else
    let j := j.prune nowMs
    let key := digestIdentifier options nonce
    if (j.maps.nonces.get key).any fun expiresAt => nowMs ≤ expiresAt then
      ⟨j, .error nonceAlreadyUsed, false⟩
    else j.claim options (.nonce key expiresAt) nowMs disk

def claimRequest (j : ReplayJournal) (requestId bodySha256 : String) (expiresAt nowMs : Nat)
    (disk : ClaimDisk) : Claimed :=
  if j.terminalFailure then ⟨j, .error replayProtectionUnavailable, false⟩
  else
    let j := j.prune nowMs
    let key := digestIdentifier options requestId
    if !isHexDigest bodySha256 then ⟨j, .error invalidBodyDigest, false⟩
    else
      let bodyCommitment := createBodyCommitment options bodySha256
      match (j.maps.requests.get key).filter fun prior => nowMs ≤ prior.expiresAt with
      | some prior =>
          if prior.bodyCommitment ≠ bodyCommitment then ⟨j, .error idempotencyConflict, false⟩
          else ⟨j, .error requestAlreadyAccepted, false⟩
      | none => j.claim options (.request key bodyCommitment expiresAt) nowMs disk

/-- {lit}`false` is a thrown error. -/
def compactNow (j : ReplayJournal) (nowMs : Nat) (rename : DiskCall) : ReplayJournal × Bool :=
  if j.terminalFailure then (j, false)
  else
    match j.compact nowMs rename with
    | (j, true) => (j, true)
    | (j, false) => (j.fail, false)

end ReplayJournal

/-- The constructor on a file that exists; a new file is empty.  The file is left as the
first component, and {lit}`none` is a thrown error. -/
def openJournal (file : List Char) (nowMs : Nat) (rename : DiskCall) :
    List Char × Option ReplayJournal :=
  if byteLength file > MAXIMUM_JOURNAL_BYTES then (file, none)
  else
    match load options file nowMs with
    | none => (file, none)
    | some maps =>
        let j : ReplayJournal :=
          { maps
            appendedSinceCompaction := 0
            lastCompactedAt := nowMs
            terminalFailure := false
            file }
        match j.compact nowMs rename with
        | (j, true) => (j.file, some j)
        | (j, false) => (j.file, none)

/-! ## One record -/

section Reading

omit options

theorem ReplayRecord.printable (r : ReplayRecord) : Printable r.toJson := by
  cases r with
  | nonce key expiresAt =>
      simp [ReplayRecord.toJson, ReplayRecord.members, Printable, PrintableMembers]
  | request key bodyCommitment expiresAt =>
      simp [ReplayRecord.toJson, ReplayRecord.members, Printable, PrintableMembers]

theorem digestMember_eq_some {members : List (String × JsonValue)} {name text : String}
    (hmember : members.lookup name = some (.string text)) (hdigest : isHexDigest text = true) :
    digestMember members name = some text := by
  rw [digestMember, stringMember, hmember]
  exact Option.filter_eq_some_iff.mpr ⟨rfl, hdigest⟩

theorem instantMember_eq_some {members : List (String × JsonValue)} {name : String} {n : Nat}
    (hmember : members.lookup name = some (.number n)) (hsafe : n ≤ MAX_SAFE_INTEGER) :
    instantMember members name = some n := by
  have hbounds : (0 : Int) ≤ n ∧ (n : Int) ≤ MAX_SAFE_INTEGER := by omega
  rw [instantMember, integerMember, hmember]
  exact if_pos hbounds

/-- What was written is read back. -/
theorem parseRecord_toJson {r : ReplayRecord} (h : r.WellFormed) :
    parseRecord r.toJson = some r.toParsed := by
  cases r with
  | nonce key expiresAt =>
      obtain ⟨hhex, hsafe⟩ := h
      have hkey : digestMember (ReplayRecord.nonce key expiresAt).members "key" = some key :=
        digestMember_eq_some rfl hhex
      have hexpires : instantMember (ReplayRecord.nonce key expiresAt).members "expiresAt" =
          some expiresAt := instantMember_eq_some rfl hsafe
      simp only [ReplayRecord.toJson, parseRecord, hkey, hexpires]
      rfl
  | request key bodyCommitment expiresAt =>
      obtain ⟨hhex, hcommitment, hsafe⟩ := h
      have hkey : digestMember (ReplayRecord.request key bodyCommitment expiresAt).members "key" =
          some key := digestMember_eq_some rfl hhex
      have hbody : digestMember (ReplayRecord.request key bodyCommitment expiresAt).members
          "bodyCommitment" = some bodyCommitment := digestMember_eq_some rfl hcommitment
      have hexpires : instantMember (ReplayRecord.request key bodyCommitment expiresAt).members
          "expiresAt" = some expiresAt := instantMember_eq_some rfl hsafe
      simp only [ReplayRecord.toJson, parseRecord, hkey, hbody, hexpires]
      rfl

theorem line_ne_nil (r : ReplayRecord) : render r.toJson ≠ [] :=
  render_ne_nil r.printable

theorem newline_notMem_line (r : ReplayRecord) : '\n' ∉ render r.toJson :=
  newline_notMem_render r.toJson r.printable

end Reading

theorem loadLine_toJson {r : ReplayRecord} (h : r.WellFormed) (nowMs : Nat) (maps : ClaimMaps) :
    loadLine options nowMs maps (render r.toJson) = loadRecord options nowMs maps r.toParsed := by
  have hparse := parse_render r.toJson r.printable
  have hrecord := parseRecord_toJson h
  rw [loadLine, if_neg (line_ne_nil r)]
  simp only [hparse, hrecord]

/-! ## The text of a file -/

section Text

omit options

/-- One line for each record. -/
def textOf (records : List ReplayRecord) : List Char :=
  records.flatMap ReplayRecord.line

@[simp]
theorem textOf_nil : textOf [] = [] :=
  rfl

theorem textOf_cons (r : ReplayRecord) (records : List ReplayRecord) :
    textOf (r :: records) = r.line ++ textOf records :=
  rfl

theorem textOf_append (records more : List ReplayRecord) :
    textOf (records ++ more) = textOf records ++ textOf more := by
  exact List.flatMap_append

theorem textOf_singleton (r : ReplayRecord) : textOf [r] = r.line := by
  rw [textOf_cons, textOf_nil, List.append_nil]

/-- Joining the lines and closing the last one writes one line for each record. -/
theorem serializeRecords_eq_textOf (records : List ReplayRecord) :
    serializeRecords records = textOf records := by
  have hjoin : ∀ (r : ReplayRecord) (records : List ReplayRecord),
      ['\n'].intercalate ((r :: records).map fun r => render r.toJson) ++ ['\n'] =
        textOf (r :: records) := by
    intro r records
    induction records generalizing r with
    | nil => simp [textOf, ReplayRecord.line, List.intercalate]
    | cons s records ih =>
        rw [textOf_cons, ← ih s]
        simp [ReplayRecord.line, List.intercalate]
  cases records with
  | nil => rfl
  | cons r records => exact hjoin r records

theorem splitOn_textOf_cons (r : ReplayRecord) (rest : List Char) :
    (r.line ++ rest).splitOn '\n' = render r.toJson :: rest.splitOn '\n' := by
  rw [ReplayRecord.line, List.append_assoc, List.singleton_append]
  exact List.splitOn_append_cons_self_of_not_mem (newline_notMem_line r) rest

theorem byteLength_append (text more : List Char) :
    byteLength (text ++ more) = byteLength text + byteLength more := by
  rw [byteLength, List.map_append, List.sum_append]
  rfl

theorem byteLength_textOf (records : List ReplayRecord) :
    byteLength (textOf records) = (records.map fun r => byteLength r.line).sum := by
  induction records with
  | nil => rfl
  | cons r records ih => rw [textOf_cons, byteLength_append, ih, List.map_cons, List.sum_cons]

end Text

/-- A file of record lines is read record by record. -/
theorem load_textOf {records : List ReplayRecord} (h : ∀ r ∈ records, r.WellFormed)
    (nowMs : Nat) (maps : ClaimMaps) :
    ((textOf records).splitOn '\n').foldlM (loadLine options nowMs) maps =
      records.foldlM (fun maps r => loadRecord options nowMs maps r.toParsed) maps := by
  induction records generalizing maps with
  | nil =>
      rw [textOf_nil, List.splitOn_nil]
      rfl
  | cons r records ih =>
      have hline := loadLine_toJson options (h r List.mem_cons_self) nowMs maps
      rw [textOf_cons, splitOn_textOf_cons, List.foldlM_cons, List.foldlM_cons, hline]
      cases loadRecord options nowMs maps r.toParsed with
      | none => rfl
      | some maps => exact ih (fun s hs => h s (List.mem_cons_of_mem r hs)) maps

/-! ## What a file keeps -/

section Entries

omit options

def ReplayRecord.nonceEntry? : ReplayRecord → Option (String × Nat)
  | .nonce key expiresAt => some (key, expiresAt)
  | .request _ _ _ => none

def ReplayRecord.requestEntry? : ReplayRecord → Option (String × RequestEntry)
  | .nonce _ _ => none
  | .request key bodyCommitment expiresAt => some (key, ⟨bodyCommitment, expiresAt⟩)

/-- The nonces that have not expired, in the order they were written. -/
def liveNonces (nowMs : Nat) (records : List ReplayRecord) : List (String × Nat) :=
  (records.filter fun r => nowMs ≤ r.expiresAt).filterMap ReplayRecord.nonceEntry?

/-- The requests that have not expired, in the order they were written. -/
def liveRequests (nowMs : Nat) (records : List ReplayRecord) : List (String × RequestEntry) :=
  (records.filter fun r => nowMs ≤ r.expiresAt).filterMap ReplayRecord.requestEntry?

theorem liveNonces_append (nowMs : Nat) (records more : List ReplayRecord) :
    liveNonces nowMs (records ++ more) = liveNonces nowMs records ++ liveNonces nowMs more := by
  rw [liveNonces, List.filter_append, List.filterMap_append]
  rfl

theorem liveRequests_append (nowMs : Nat) (records more : List ReplayRecord) :
    liveRequests nowMs (records ++ more) =
      liveRequests nowMs records ++ liveRequests nowMs more := by
  rw [liveRequests, List.filter_append, List.filterMap_append]
  rfl

theorem liveNonces_cons (nowMs : Nat) (r : ReplayRecord) (records : List ReplayRecord) :
    liveNonces nowMs (r :: records) = liveNonces nowMs [r] ++ liveNonces nowMs records :=
  liveNonces_append nowMs [r] records

theorem liveRequests_cons (nowMs : Nat) (r : ReplayRecord) (records : List ReplayRecord) :
    liveRequests nowMs (r :: records) = liveRequests nowMs [r] ++ liveRequests nowMs records :=
  liveRequests_append nowMs [r] records

/-- What is unexpired later is unexpired now. -/
theorem liveNonces_later {nowMs later : Nat} (h : nowMs ≤ later) (records : List ReplayRecord) :
    liveNonces later records = (liveNonces nowMs records).filter fun e => later ≤ e.2 := by
  induction records with
  | nil => rfl
  | cons r records ih =>
      rw [liveNonces_cons, liveNonces_cons nowMs, List.filter_append, ih]
      congr 1
      cases r with
      | nonce key expiresAt =>
          by_cases hlater : later ≤ expiresAt
          · have hnow : nowMs ≤ expiresAt := by omega
            simp [liveNonces, ReplayRecord.nonceEntry?, ReplayRecord.expiresAt, hlater, hnow]
          · by_cases hnow : nowMs ≤ expiresAt
            · simp [liveNonces, ReplayRecord.nonceEntry?, ReplayRecord.expiresAt, hlater, hnow]
            · simp [liveNonces, ReplayRecord.expiresAt, hlater, hnow]
      | request key bodyCommitment expiresAt =>
          simp [liveNonces, ReplayRecord.nonceEntry?, List.filterMap_filter]

theorem liveRequests_later {nowMs later : Nat} (h : nowMs ≤ later)
    (records : List ReplayRecord) :
    liveRequests later records =
      (liveRequests nowMs records).filter fun e => later ≤ e.2.expiresAt := by
  induction records with
  | nil => rfl
  | cons r records ih =>
      rw [liveRequests_cons, liveRequests_cons nowMs, List.filter_append, ih]
      congr 1
      cases r with
      | nonce key expiresAt =>
          simp [liveRequests, ReplayRecord.requestEntry?, List.filterMap_filter]
      | request key bodyCommitment expiresAt =>
          by_cases hlater : later ≤ expiresAt
          · have hnow : nowMs ≤ expiresAt := by omega
            simp [liveRequests, ReplayRecord.requestEntry?, ReplayRecord.expiresAt, hlater, hnow]
          · by_cases hnow : nowMs ≤ expiresAt
            · simp [liveRequests, ReplayRecord.requestEntry?, ReplayRecord.expiresAt, hlater, hnow]
            · simp [liveRequests, ReplayRecord.expiresAt, hlater, hnow]

end Entries

theorem liveNonces_nonce (nowMs : Nat) (key : String) (expiresAt : Nat) :
    liveNonces nowMs [.nonce key expiresAt] =
      if nowMs ≤ expiresAt then [(key, expiresAt)] else [] := by
  by_cases hlive : nowMs ≤ expiresAt
  · simp [liveNonces, ReplayRecord.nonceEntry?, ReplayRecord.expiresAt, hlive]
  · simp [liveNonces, ReplayRecord.expiresAt, hlive]

theorem liveNonces_request (nowMs : Nat) (key bodyCommitment : String) (expiresAt : Nat) :
    liveNonces nowMs [.request key bodyCommitment expiresAt] = [] := by
  simp [liveNonces, ReplayRecord.nonceEntry?, List.filterMap_filter]

theorem liveRequests_nonce (nowMs : Nat) (key : String) (expiresAt : Nat) :
    liveRequests nowMs [.nonce key expiresAt] = [] := by
  simp [liveRequests, ReplayRecord.requestEntry?, List.filterMap_filter]

theorem liveRequests_request (nowMs : Nat) (key bodyCommitment : String) (expiresAt : Nat) :
    liveRequests nowMs [.request key bodyCommitment expiresAt] =
      if nowMs ≤ expiresAt then [(key, ⟨bodyCommitment, expiresAt⟩)] else [] := by
  by_cases hlive : nowMs ≤ expiresAt
  · simp [liveRequests, ReplayRecord.requestEntry?, ReplayRecord.expiresAt, hlive]
  · simp [liveRequests, ReplayRecord.expiresAt, hlive]

/-- The last key of a list of different keys is not among the others. -/
theorem notMem_of_nodup_concat {ν : Type} {entries : List (String × ν)} {key : String} {value : ν}
    (h : ((entries ++ [(key, value)]).map Prod.fst).Nodup) : key ∉ entries.map Prod.fst := by
  intro hmem
  rw [List.map_append, List.nodup_append] at h
  exact h.2.2 key hmem key (by simp) rfl

/-- An unexpired record with a new key is added, an expired one is skipped. -/
theorem loadRecord_toParsed (r : ReplayRecord) {nowMs : Nat} {maps : ClaimMaps}
    (hnonces : ((maps.nonces.entries ++ liveNonces nowMs [r]).map Prod.fst).Nodup)
    (hrequests : ((maps.requests.entries ++ liveRequests nowMs [r]).map Prod.fst).Nodup) :
    ∃ maps', loadRecord options nowMs maps r.toParsed = some maps' ∧
      maps'.nonces.entries = maps.nonces.entries ++ liveNonces nowMs [r] ∧
      maps'.requests.entries = maps.requests.entries ++ liveRequests nowMs [r] := by
  cases r with
  | nonce key expiresAt =>
      rw [liveNonces_nonce] at hnonces ⊢
      rw [liveRequests_nonce, List.append_nil]
      by_cases hlive : nowMs ≤ expiresAt
      · rw [if_pos hlive] at hnonces ⊢
        have hfresh := notMem_of_nodup_concat hnonces
        have hhas := InsertionMap.has_eq_false_iff.mpr hfresh
        refine ⟨{ maps with nonces := maps.nonces.set key expiresAt }, ?_, ?_, rfl⟩
        · have hnot : ¬expiresAt < nowMs := by omega
          simp [loadRecord, ReplayRecord.toParsed, ParsedReplayRecord.expiresAt, hnot, hhas]
        · exact InsertionMap.entries_set_of_notMem hfresh expiresAt
      · rw [if_neg hlive, List.append_nil]
        have hexpired : expiresAt < nowMs := by omega
        refine ⟨maps, ?_, rfl, rfl⟩
        simp [loadRecord, ReplayRecord.toParsed, ParsedReplayRecord.expiresAt, hexpired]
  | request key bodyCommitment expiresAt =>
      rw [liveRequests_request] at hrequests ⊢
      rw [liveNonces_request, List.append_nil]
      by_cases hlive : nowMs ≤ expiresAt
      · rw [if_pos hlive] at hrequests ⊢
        have hfresh := notMem_of_nodup_concat hrequests
        have hhas := InsertionMap.has_eq_false_iff.mpr hfresh
        refine ⟨{ maps with requests := maps.requests.set key ⟨bodyCommitment, expiresAt⟩ },
          ?_, rfl, ?_⟩
        · have hnot : ¬expiresAt < nowMs := by omega
          simp [loadRecord, ReplayRecord.toParsed, ParsedReplayRecord.expiresAt, hnot, hhas]
        · exact InsertionMap.entries_set_of_notMem hfresh ⟨bodyCommitment, expiresAt⟩
      · rw [if_neg hlive, List.append_nil]
        have hexpired : expiresAt < nowMs := by omega
        refine ⟨maps, ?_, rfl, rfl⟩
        simp [loadRecord, ReplayRecord.toParsed, ParsedReplayRecord.expiresAt, hexpired]

/-- Reading records whose unexpired keys differ collects them in order. -/
theorem foldlM_loadRecord {records : List ReplayRecord} {nowMs : Nat} {maps : ClaimMaps}
    (hnonces : ((maps.nonces.entries ++ liveNonces nowMs records).map Prod.fst).Nodup)
    (hrequests : ((maps.requests.entries ++ liveRequests nowMs records).map Prod.fst).Nodup) :
    ∃ maps', records.foldlM (fun maps r => loadRecord options nowMs maps r.toParsed) maps =
        some maps' ∧
      maps'.nonces.entries = maps.nonces.entries ++ liveNonces nowMs records ∧
      maps'.requests.entries = maps.requests.entries ++ liveRequests nowMs records := by
  induction records generalizing maps with
  | nil => exact ⟨maps, rfl, (List.append_nil _).symm, (List.append_nil _).symm⟩
  | cons r records ih =>
      rw [liveNonces_cons, ← List.append_assoc] at hnonces ⊢
      rw [liveRequests_cons, ← List.append_assoc] at hrequests ⊢
      have hnonce := hnonces.sublist ((List.sublist_append_left _ _).map Prod.fst)
      have hrequest := hrequests.sublist ((List.sublist_append_left _ _).map Prod.fst)
      obtain ⟨maps', hload, hn, hr⟩ := loadRecord_toParsed options r hnonce hrequest
      rw [← hn] at hnonces ⊢
      rw [← hr] at hrequests ⊢
      rw [List.foldlM_cons, hload]
      exact ih hnonces hrequests

/-- A file holds what the two lists say is claimed. -/
def Keeps (file : List Char) (nowMs : Nat) (nonces : List (String × Nat))
    (requests : List (String × RequestEntry)) : Prop :=
  ∃ records : List ReplayRecord, file = textOf records ∧ (∀ r ∈ records, r.WellFormed) ∧
    byteLength file ≤ MAXIMUM_JOURNAL_BYTES ∧
    liveNonces nowMs records = nonces ∧ liveRequests nowMs records = requests

section Keeping

omit options

variable {file : List Char} {nowMs : Nat} {nonces : List (String × Nat)}
  {requests : List (String × RequestEntry)}

theorem Keeps.nil (nowMs : Nat) : Keeps [] nowMs [] [] :=
  ⟨[], rfl, fun _ h => absurd h List.not_mem_nil, Nat.zero_le _, rfl, rfl⟩

theorem Keeps.size_le (h : Keeps file nowMs nonces requests) :
    byteLength file ≤ MAXIMUM_JOURNAL_BYTES := by
  obtain ⟨_, _, _, hsize, _⟩ := h
  exact hsize

/-- Later the file keeps what has still not expired. -/
theorem Keeps.later (h : Keeps file nowMs nonces requests) {later : Nat} (hle : nowMs ≤ later) :
    Keeps file later (nonces.filter fun e => later ≤ e.2)
      (requests.filter fun e => later ≤ e.2.expiresAt) := by
  obtain ⟨records, htext, hwell, hsize, rfl, rfl⟩ := h
  exact ⟨records, htext, hwell, hsize, liveNonces_later hle records,
    liveRequests_later hle records⟩

/-- What a file keeps has not expired. -/
theorem Keeps.live (h : Keeps file nowMs nonces requests) :
    (nonces.filter fun e => nowMs ≤ e.2) = nonces ∧
      (requests.filter fun e => nowMs ≤ e.2.expiresAt) = requests := by
  obtain ⟨records, htext, hwell, hsize, rfl, rfl⟩ := h
  exact ⟨(liveNonces_later (Nat.le_refl nowMs) records).symm,
    (liveRequests_later (Nat.le_refl nowMs) records).symm⟩

/-- An appended line is kept. -/
theorem Keeps.append (h : Keeps file nowMs nonces requests) {r : ReplayRecord}
    (hr : r.WellFormed) (hroom : byteLength file + byteLength r.line ≤ MAXIMUM_JOURNAL_BYTES) :
    Keeps (file ++ r.line) nowMs (nonces ++ liveNonces nowMs [r])
      (requests ++ liveRequests nowMs [r]) := by
  obtain ⟨records, htext, hwell, hsize, rfl, rfl⟩ := h
  refine ⟨records ++ [r], ?_, ?_, ?_, liveNonces_append _ _ _, liveRequests_append _ _ _⟩
  · rw [textOf_append, textOf_singleton, htext]
  · intro s hs
    rcases List.mem_append.mp hs with hs | hs
    · exact hwell s hs
    · rw [List.mem_singleton] at hs
      exact hs ▸ hr
  · rw [byteLength_append]
    exact hroom

end Keeping

/-- A file is read back as the claims it keeps. -/
theorem load_keeps {file : List Char} {nowMs : Nat} {nonces : List (String × Nat)}
    {requests : List (String × RequestEntry)} (h : Keeps file nowMs nonces requests)
    (hnonces : (nonces.map Prod.fst).Nodup) (hrequests : (requests.map Prod.fst).Nodup) :
    ∃ maps, load options file nowMs = some maps ∧ maps.nonces.entries = nonces ∧
      maps.requests.entries = requests := by
  obtain ⟨records, rfl, hwell, hsize, rfl, rfl⟩ := h
  have hload := load_textOf options hwell nowMs .empty
  obtain ⟨maps, hmaps, hn, hr⟩ :=
    @foldlM_loadRecord options records nowMs ClaimMaps.empty hnonces hrequests
  exact ⟨maps, by rw [load, hload, hmaps], hn, hr⟩

/-! ## Compaction -/

section Rebuilt

omit options

/-- The records of two lists of claims. -/
def rebuilt (nonces : List (String × Nat)) (requests : List (String × RequestEntry)) :
    List ReplayRecord :=
  nonces.map (fun e => .nonce e.1 e.2) ++
    requests.map (fun e => .request e.1 e.2.bodyCommitment e.2.expiresAt)

theorem liveNonces_rebuilt {nowMs : Nat} {nonces : List (String × Nat)}
    (requests : List (String × RequestEntry))
    (h : (nonces.filter fun e => nowMs ≤ e.2) = nonces) :
    liveNonces nowMs (rebuilt nonces requests) = nonces := by
  rw [rebuilt, liveNonces_append]
  have hrequests : liveNonces nowMs (requests.map fun e =>
      .request e.1 e.2.bodyCommitment e.2.expiresAt) = [] := by
    simp [liveNonces, ReplayRecord.nonceEntry?, List.filterMap_filter]
  have hnonces : liveNonces nowMs (nonces.map fun e => .nonce e.1 e.2) =
      nonces.filter fun e => nowMs ≤ e.2 := by
    rw [liveNonces, List.filter_map, List.filterMap_map]
    exact List.filterMap_some
  rw [hnonces, hrequests, h, List.append_nil]

theorem liveRequests_rebuilt {nowMs : Nat} (nonces : List (String × Nat))
    {requests : List (String × RequestEntry)}
    (h : (requests.filter fun e => nowMs ≤ e.2.expiresAt) = requests) :
    liveRequests nowMs (rebuilt nonces requests) = requests := by
  rw [rebuilt, liveRequests_append]
  have hnonces : liveRequests nowMs (nonces.map fun e => .nonce e.1 e.2) = [] := by
    simp [liveRequests, ReplayRecord.requestEntry?, List.filterMap_filter]
  have hrequests : liveRequests nowMs (requests.map fun e =>
      .request e.1 e.2.bodyCommitment e.2.expiresAt) =
      requests.filter fun e => nowMs ≤ e.2.expiresAt := by
    rw [liveRequests, List.filter_map, List.filterMap_map]
    exact List.filterMap_some
  rw [hnonces, hrequests, h, List.nil_append]

/-- Rebuilding drops lines and adds none. -/
theorem sum_rebuilt_le (size : ReplayRecord → Nat) (nowMs : Nat) (records : List ReplayRecord) :
    ((rebuilt (liveNonces nowMs records) (liveRequests nowMs records)).map size).sum ≤
      (records.map size).sum := by
  induction records with
  | nil => exact Nat.le_refl 0
  | cons r records ih =>
      rw [liveNonces_cons, liveRequests_cons]
      simp only [rebuilt, List.map_append, List.map_map, List.sum_append, List.map_cons,
        List.sum_cons] at ih ⊢
      cases r with
      | nonce key expiresAt =>
          rw [liveNonces_nonce, liveRequests_nonce]
          by_cases hlive : nowMs ≤ expiresAt
          · simp [hlive]
            omega
          · simp [hlive]
            omega
      | request key bodyCommitment expiresAt =>
          rw [liveNonces_request, liveRequests_request]
          by_cases hlive : nowMs ≤ expiresAt
          · simp [hlive]
            omega
          · simp [hlive]
            omega

theorem rebuilt_wellFormed {nowMs : Nat} {records : List ReplayRecord}
    (h : ∀ r ∈ records, r.WellFormed) :
    ∀ r ∈ rebuilt (liveNonces nowMs records) (liveRequests nowMs records), r.WellFormed := by
  intro r hr
  rcases List.mem_append.mp hr with hr | hr
  · obtain ⟨e, he, rfl⟩ := List.mem_map.mp hr
    obtain ⟨s, hs, hentry⟩ := List.mem_filterMap.mp he
    have hwell := h s (List.mem_filter.mp hs).1
    cases s with
    | nonce key expiresAt =>
        cases hentry
        exact hwell
    | request key bodyCommitment expiresAt => cases hentry
  · obtain ⟨e, he, rfl⟩ := List.mem_map.mp hr
    obtain ⟨s, hs, hentry⟩ := List.mem_filterMap.mp he
    have hwell := h s (List.mem_filter.mp hs).1
    cases s with
    | nonce key expiresAt => cases hentry
    | request key bodyCommitment expiresAt =>
        cases hentry
        exact hwell

/-- The rebuilt file keeps the same claims in no more bytes. -/
theorem Keeps.rebuild {file : List Char} {nowMs : Nat} {nonces : List (String × Nat)}
    {requests : List (String × RequestEntry)} (h : Keeps file nowMs nonces requests) :
    Keeps (textOf (rebuilt nonces requests)) nowMs nonces requests := by
  obtain ⟨hlivenonces, hliverequests⟩ := h.live
  obtain ⟨records, htext, hwell, hsize, rfl, rfl⟩ := h
  refine ⟨_, rfl, rebuilt_wellFormed hwell, ?_, liveNonces_rebuilt _ hlivenonces,
    liveRequests_rebuilt _ hliverequests⟩
  have hle := sum_rebuilt_le (fun r => byteLength r.line) nowMs records
  rw [htext, byteLength_textOf] at hsize
  rw [byteLength_textOf]
  omega

end Rebuilt

namespace ReplayJournal

section Operations

variable {j : ReplayJournal} {nowMs : Nat} {nonces : List (String × Nat)}
  {requests : List (String × RequestEntry)}

/-- The unexpired entries in memory are the given ones. -/
structure Recalls (j : ReplayJournal) (nowMs : Nat) (nonces : List (String × Nat))
    (requests : List (String × RequestEntry)) : Prop where
  nonces : (j.maps.nonces.entries.filter fun e => nowMs ≤ e.2) = nonces
  requests : (j.maps.requests.entries.filter fun e => nowMs ≤ e.2.expiresAt) = requests

theorem Recalls.later (h : Recalls j nowMs nonces requests) {later : Nat}
    (hle : nowMs ≤ later) :
    Recalls j later (nonces.filter fun e => later ≤ e.2)
      (requests.filter fun e => later ≤ e.2.expiresAt) := by
  constructor
  · rw [← h.nonces, List.filter_filter]
    refine List.filter_congr ?_
    intro e _
    by_cases hlater : later ≤ e.2
    · have hnow : nowMs ≤ e.2 := by omega
      simp [hlater, hnow]
    · simp [hlater]
  · rw [← h.requests, List.filter_filter]
    refine List.filter_congr ?_
    intro e _
    by_cases hlater : later ≤ e.2.expiresAt
    · have hnow : nowMs ≤ e.2.expiresAt := by omega
      simp [hlater, hnow]
    · simp [hlater]

/-- Pruning leaves the unexpired entries. -/
theorem entries_prune (j : ReplayJournal) (nowMs : Nat) :
    (j.prune nowMs).maps.nonces.entries = (j.maps.nonces.entries.filter fun e => nowMs ≤ e.2) ∧
      (j.prune nowMs).maps.requests.entries =
        j.maps.requests.entries.filter fun e => nowMs ≤ e.2.expiresAt := by
  constructor
  · refine List.filter_congr ?_
    intro e _
    show (!decide (e.2 < nowMs)) = decide (nowMs ≤ e.2)
    rw [← decide_not, decide_eq_decide, Nat.not_lt]
  · refine List.filter_congr ?_
    intro e _
    show (!decide (e.2.expiresAt < nowMs)) = decide (nowMs ≤ e.2.expiresAt)
    rw [← decide_not, decide_eq_decide, Nat.not_lt]

theorem Recalls.prune (h : Recalls j nowMs nonces requests) :
    (j.prune nowMs).maps.nonces.entries = nonces ∧
      (j.prune nowMs).maps.requests.entries = requests := by
  obtain ⟨hnonces, hrequests⟩ := entries_prune j nowMs
  exact ⟨hnonces.trans h.nonces, hrequests.trans h.requests⟩

/-- What a compaction does: the file keeps the same claims, and memory is pruned. -/
theorem compact_cases (hfile : Keeps j.file nowMs nonces requests)
    (hmemory : Recalls j nowMs nonces requests) (rename : DiskCall) :
    Keeps (j.compact nowMs rename).1.file nowMs nonces requests ∧
      (j.compact nowMs rename).1.maps = j.maps.prune nowMs ∧
      (j.compact nowMs rename).1.terminalFailure = j.terminalFailure ∧
      ((j.compact nowMs rename).2 = true ↔ rename = .done) := by
  obtain ⟨hnonces, hrequests⟩ := hmemory.prune
  have hrecords : (j.prune nowMs).maps.records = rebuilt nonces requests := by
    rw [ClaimMaps.records, hnonces, hrequests]
    rfl
  have hrebuilt := hfile.rebuild
  have hsize : ¬byteLength (serializeRecords (j.prune nowMs).maps.records) >
      MAXIMUM_JOURNAL_BYTES := by
    rw [hrecords, serializeRecords_eq_textOf]
    exact Nat.not_lt.mpr hrebuilt.size_le
  rw [← serializeRecords_eq_textOf, ← hrecords] at hrebuilt
  simp only [compact, if_neg hsize]
  cases rename with
  | done => exact ⟨hrebuilt, rfl, rfl, by simp⟩
  | failsBefore => exact ⟨hfile, rfl, rfl, by simp⟩
  | failsAfter => exact ⟨hrebuilt, rfl, rfl, by simp⟩

/-- Memory holds exactly the given entries. -/
structure Holds (j : ReplayJournal) (nonces : List (String × Nat))
    (requests : List (String × RequestEntry)) : Prop where
  nonces : j.maps.nonces.entries = nonces
  requests : j.maps.requests.entries = requests

theorem Recalls.holds_prune (h : Recalls j nowMs nonces requests) :
    Holds (j.prune nowMs) nonces requests :=
  ⟨h.prune.1, h.prune.2⟩

/-- Entries in memory that the file keeps have not expired. -/
theorem Holds.recalls (h : Holds j nonces requests) (hfile : Keeps j.file nowMs nonces requests) :
    Recalls j nowMs nonces requests := by
  obtain ⟨hnonces, hrequests⟩ := hfile.live
  constructor
  · rw [h.nonces, hnonces]
  · rw [h.requests, hrequests]

/-- The records that a claim has added to the file. -/
def added (written : Bool) (r : ReplayRecord) : List ReplayRecord :=
  if written then [r] else []

/-- The file after a claim that may have written its line. -/
def KeepsAdded (file : List Char) (nowMs : Nat) (nonces : List (String × Nat))
    (requests : List (String × RequestEntry)) (written : Bool) (r : ReplayRecord) : Prop :=
  Keeps file nowMs (nonces ++ liveNonces nowMs (added written r))
    (requests ++ liveRequests nowMs (added written r))

theorem keepsAdded_false {file : List Char} (h : Keeps file nowMs nonces requests)
    (r : ReplayRecord) : KeepsAdded file nowMs nonces requests false r := by
  have hnonces : nonces ++ liveNonces nowMs (added false r) = nonces := List.append_nil nonces
  have hrequests : requests ++ liveRequests nowMs (added false r) = requests :=
    List.append_nil requests
  rw [KeepsAdded, hnonces, hrequests]
  exact h

/-- What an append leaves behind, with room made or not. -/
structure AppendedWell (j : ReplayJournal) (nowMs : Nat) (nonces : List (String × Nat))
    (requests : List (String × RequestEntry)) (r : ReplayRecord) (disk : ClaimDisk)
    (a : Appended) : Prop where
  file : KeepsAdded a.journal.file nowMs nonces requests a.written r
  returned : a.returned = true → a.written = true ∧ Holds a.journal nonces requests ∧
    a.journal.terminalFailure = j.terminalFailure
  failed : a.returned = false → a.journal.terminalFailure = true
  healthy : disk.append = .done → a.written = true → a.returned = true

theorem appendLine_cases (hfile : Keeps j.file nowMs nonces requests)
    (hmemory : Holds j nonces requests) {r : ReplayRecord} (hr : r.WellFormed)
    (disk : ClaimDisk) : AppendedWell j nowMs nonces requests r disk (j.appendLine r disk) := by
  unfold appendLine
  by_cases hroom : byteLength j.file + byteLength r.line > MAXIMUM_JOURNAL_BYTES
  · rw [if_pos hroom]
    exact ⟨keepsAdded_false hfile r, fun h => Bool.noConfusion h, fun _ => rfl,
      fun _ h => Bool.noConfusion h⟩
  · rw [if_neg hroom]
    have happended := hfile.append hr (Nat.not_lt.mp hroom)
    cases hcall : disk.append with
    | done => exact ⟨happended, fun _ => ⟨rfl, ⟨hmemory.nonces, hmemory.requests⟩, rfl⟩,
        fun h => Bool.noConfusion h, fun _ _ => rfl⟩
    | failsBefore =>
        exact ⟨keepsAdded_false hfile r, fun h => Bool.noConfusion h, fun _ => rfl,
          fun _ h => Bool.noConfusion h⟩
    | failsAfter =>
        refine ⟨happended, fun h => Bool.noConfusion h, fun _ => rfl, ?_⟩
        intro hdone
        rw [hcall] at hdone
        cases hdone

theorem append_cases (hfile : Keeps j.file nowMs nonces requests)
    (hmemory : Holds j nonces requests) {r : ReplayRecord} (hr : r.WellFormed)
    (disk : ClaimDisk) :
    AppendedWell j nowMs nonces requests r disk (j.append r nowMs disk) := by
  unfold append
  by_cases hroom : byteLength j.file + byteLength r.line > MAXIMUM_JOURNAL_BYTES
  · rw [if_pos hroom]
    have hrecalls := hmemory.recalls hfile
    obtain ⟨hkept, hmaps, hfailure, -⟩ := compact_cases hfile hrecalls disk.compactBeforeAppend
    generalize j.compact nowMs disk.compactBeforeAppend = compacted at hkept hmaps hfailure
    obtain ⟨j', ok⟩ := compacted
    have hheld : Holds j' nonces requests := by
      have hpruned := hrecalls.holds_prune
      exact ⟨hmaps ▸ hpruned.nonces, hmaps ▸ hpruned.requests⟩
    cases ok with
    | true =>
        have happended := appendLine_cases hkept hheld hr disk
        exact ⟨happended.file,
          fun h => ⟨(happended.returned h).1, (happended.returned h).2.1,
            (happended.returned h).2.2.trans hfailure⟩,
          happended.failed, happended.healthy⟩
    | false => exact ⟨keepsAdded_false hkept r, fun h => Bool.noConfusion h, fun _ => rfl,
        fun _ h => Bool.noConfusion h⟩
  · rw [if_neg hroom]
    exact appendLine_cases hfile hmemory hr disk

/-- A compaction that may follow an append keeps the claims too. -/
theorem maybeCompactAfterAppend_cases (hfile : Keeps j.file nowMs nonces requests)
    (hmemory : Recalls j nowMs nonces requests) (disk : ClaimDisk) :
    Keeps (j.maybeCompactAfterAppend options nowMs disk).1.file nowMs nonces requests ∧
      ((j.maybeCompactAfterAppend options nowMs disk).2 = true →
        Recalls (j.maybeCompactAfterAppend options nowMs disk).1 nowMs nonces requests ∧
          (j.maybeCompactAfterAppend options nowMs disk).1.terminalFailure =
            j.terminalFailure) ∧
      ((j.maybeCompactAfterAppend options nowMs disk).2 = false →
        (j.maybeCompactAfterAppend options nowMs disk).1.terminalFailure = true) ∧
      (disk = .healthy → (j.maybeCompactAfterAppend options nowMs disk).2 = true) := by
  obtain ⟨hkept, hmaps, hfailure, hok⟩ := compact_cases hfile hmemory disk.compactAfterAppend
  unfold maybeCompactAfterAppend
  simp only
  split
  · rename_i hstat
    refine ⟨hfile, fun h => Bool.noConfusion h, fun _ => rfl, ?_⟩
    intro hdisk
    rw [hdisk] at hstat
    simp [ClaimDisk.healthy] at hstat
  split
  · generalize j.compact nowMs disk.compactAfterAppend = compacted at hkept hmaps hfailure hok
    obtain ⟨j', ok⟩ := compacted
    cases ok with
    | true =>
        have hpruned := hmemory.holds_prune
        have hheld : Holds j' nonces requests :=
          ⟨hmaps ▸ hpruned.nonces, hmaps ▸ hpruned.requests⟩
        exact ⟨hkept, fun _ => ⟨hheld.recalls hkept, hfailure⟩, fun h => Bool.noConfusion h,
          fun _ => rfl⟩
    | false =>
        refine ⟨hkept, fun h => Bool.noConfusion h, fun _ => rfl, ?_⟩
        intro hdisk
        exact absurd (hok.mpr (congrArg ClaimDisk.compactAfterAppend hdisk)) Bool.false_ne_true
  · exact ⟨hfile, fun _ => ⟨hmemory, rfl⟩, fun h => Bool.noConfusion h, fun _ => rfl⟩

/-- No entry in memory has the record's key. -/
def Fresh (nonces : List (String × Nat)) (requests : List (String × RequestEntry)) :
    ReplayRecord → Prop
  | .nonce key _ => key ∉ nonces.map Prod.fst
  | .request key _ _ => key ∉ requests.map Prod.fst

/-- Keeping a record in memory adds it to the unexpired entries if it has not expired. -/
theorem recalls_remember (hmemory : Holds j nonces requests)
    (hlive : Recalls j nowMs nonces requests) {r : ReplayRecord}
    (hfresh : Fresh nonces requests r) :
    Recalls (j.remember r) nowMs (nonces ++ liveNonces nowMs [r])
      (requests ++ liveRequests nowMs [r]) := by
  cases r with
  | nonce key expiresAt =>
      have hkey : key ∉ j.maps.nonces.entries.map Prod.fst := by
        rw [hmemory.nonces]
        exact hfresh
      have hset := InsertionMap.entries_set_of_notMem hkey expiresAt
      constructor
      · show ((j.maps.nonces.set key expiresAt).entries.filter fun e => nowMs ≤ e.2) = _
        rw [hset, List.filter_append, hlive.nonces, liveNonces_nonce]
        by_cases hnow : nowMs ≤ expiresAt
        · simp [hnow]
        · simp [hnow]
      · rw [liveRequests_nonce, List.append_nil]
        exact hlive.requests
  | request key bodyCommitment expiresAt =>
      have hkey : key ∉ j.maps.requests.entries.map Prod.fst := by
        rw [hmemory.requests]
        exact hfresh
      have hset := InsertionMap.entries_set_of_notMem hkey ⟨bodyCommitment, expiresAt⟩
      constructor
      · rw [liveNonces_request, List.append_nil]
        exact hlive.nonces
      · show ((j.maps.requests.set key ⟨bodyCommitment, expiresAt⟩).entries.filter
          fun e => nowMs ≤ e.2.expiresAt) = _
        rw [hset, List.filter_append, hlive.requests, liveRequests_request]
        by_cases hnow : nowMs ≤ expiresAt
        · simp [hnow]
        · simp [hnow]

/-- What a claim leaves behind. -/
structure ClaimedWell (nowMs : Nat) (nonces : List (String × Nat))
    (requests : List (String × RequestEntry)) (r : ReplayRecord) (disk : ClaimDisk)
    (c : Claimed) : Prop where
  file : KeepsAdded c.journal.file nowMs nonces requests c.written r
  granted : c.result = .ok () → c.written = true
  /-- Where the disk works, what was written was granted. -/
  healthy : disk = .healthy → c.written = true → c.result = .ok ()
  memory : c.journal.terminalFailure = false →
    Recalls c.journal nowMs (nonces ++ liveNonces nowMs (added c.written r))
      (requests ++ liveRequests nowMs (added c.written r))

theorem remember_file (j : ReplayJournal) (r : ReplayRecord) : (j.remember r).file = j.file := by
  cases r with
  | nonce key expiresAt => rfl
  | request key bodyCommitment expiresAt => rfl

/-- A claim with a new key. -/
theorem claim_cases (hfile : Keeps j.file nowMs nonces requests)
    (hmemory : Holds j nonces requests) {r : ReplayRecord}
    (hr : r.WellFormed) (hfresh : Fresh nonces requests r) (disk : ClaimDisk) :
    ClaimedWell nowMs nonces requests r disk (j.claim options r nowMs disk) := by
  have happended := append_cases hfile hmemory hr disk
  unfold claim
  generalize j.append r nowMs disk = a at happended
  obtain ⟨j', returned, written⟩ := a
  cases returned with
  | false =>
      refine ⟨happended.file, ?_, ?_, ?_⟩
      · intro h
        cases h
      · intro hdisk hwritten
        have hreturned := happended.healthy (congrArg ClaimDisk.append hdisk) hwritten
        cases hreturned
      · intro h
        exact absurd ((happended.failed rfl).symm.trans h) Bool.noConfusion
  | true =>
      obtain ⟨hwritten, hheld, -⟩ := happended.returned rfl
      have hkept := happended.file
      simp only at hwritten hkept hheld
      subst hwritten
      obtain ⟨hnonces, hrequests⟩ := hfile.live
      have hlive : Recalls j' nowMs nonces requests := by
        constructor
        · rw [hheld.nonces, hnonces]
        · rw [hheld.requests, hrequests]
      have hremembered := recalls_remember hheld hlive hfresh
      rw [KeepsAdded, ← remember_file j' r] at hkept
      obtain ⟨hfile', hok, hfailed, hhealthy⟩ :=
        maybeCompactAfterAppend_cases options hkept hremembered disk
      simp only [if_true]
      generalize (j'.remember r).maybeCompactAfterAppend options nowMs disk = compacted
        at hfile' hok hfailed hhealthy
      obtain ⟨j'', ok⟩ := compacted
      cases ok with
      | true => exact ⟨hfile', fun _ => rfl, fun _ _ => rfl, fun _ => (hok rfl).1⟩
      | false =>
          refine ⟨hfile', fun _ => rfl, ?_, ?_⟩
          · intro hdisk
            exact absurd (hhealthy hdisk) Bool.false_ne_true
          intro h
          exact absurd ((hfailed rfl).symm.trans h) Bool.noConfusion

theorem claimedWell_refused (hfile : Keeps j.file nowMs nonces requests)
    (hmemory : j.terminalFailure = false → Recalls j nowMs nonces requests)
    (r : ReplayRecord) (disk : ClaimDisk) (error : Thrown) :
    ClaimedWell nowMs nonces requests r disk ⟨j, .error error, false⟩ := by
  have hnonces : nonces ++ liveNonces nowMs (added false r) = nonces := List.append_nil nonces
  have hrequests : requests ++ liveRequests nowMs (added false r) = requests :=
    List.append_nil requests
  refine ⟨keepsAdded_false hfile r, ?_, ?_, ?_⟩
  · intro h
    cases h
  · intro _ h
    cases h
  · intro h
    rw [hnonces, hrequests]
    exact hmemory h

/-- Pruning keeps the unexpired entries. -/
theorem Recalls.recalls_prune (h : Recalls j nowMs nonces requests)
    (hfile : Keeps j.file nowMs nonces requests) :
    Recalls (j.prune nowMs) nowMs nonces requests :=
  h.holds_prune.recalls hfile

/-- A nonce whose claim has not expired is refused. -/
theorem claimNonce_refused (hhealthy : j.terminalFailure = false)
    (hmemory : Recalls j nowMs nonces requests) {nonce : String}
    (hclaimed : digestIdentifier options nonce ∈ nonces.map Prod.fst) (expiresAt : Nat)
    (disk : ClaimDisk) :
    j.claimNonce options nonce expiresAt nowMs disk =
      ⟨j.prune nowMs, .error nonceAlreadyUsed, false⟩ := by
  obtain ⟨e, he, hkey⟩ := List.mem_map.mp hclaimed
  have hlive : nowMs ≤ e.2 := by
    rw [← hmemory.nonces] at he
    exact of_decide_eq_true (List.mem_filter.mp he).2
  have hget : (j.prune nowMs).maps.nonces.get (digestIdentifier options nonce) = some e.2 := by
    rw [InsertionMap.get_eq_some_iff, hmemory.holds_prune.nonces, ← hkey]
    exact he
  simp [claimNonce, hhealthy, hget, hlive]

/-- A compaction never fails the journal by itself. -/
theorem compact_terminalFailure (j : ReplayJournal) (nowMs : Nat) (rename : DiskCall) :
    (j.compact nowMs rename).1.terminalFailure = j.terminalFailure := by
  unfold compact
  simp only
  split
  · rfl
  · cases rename with
    | done => rfl
    | failsBefore => rfl
    | failsAfter => rfl

theorem appendLine_running (j : ReplayJournal) (r : ReplayRecord) (disk : ClaimDisk)
    (h : (j.appendLine r disk).returned = true) :
    (j.appendLine r disk).journal.terminalFailure = j.terminalFailure := by
  unfold appendLine at h ⊢
  by_cases hroom : byteLength j.file + byteLength r.line > MAXIMUM_JOURNAL_BYTES
  · rw [if_pos hroom] at h
    cases h
  · rw [if_neg hroom] at h ⊢
    cases hcall : disk.append with
    | done => rfl
    | failsBefore =>
        rw [hcall] at h
        cases h
    | failsAfter =>
        rw [hcall] at h
        cases h

theorem append_running (j : ReplayJournal) (r : ReplayRecord) (nowMs : Nat) (disk : ClaimDisk)
    (h : (j.append r nowMs disk).returned = true) :
    (j.append r nowMs disk).journal.terminalFailure = j.terminalFailure := by
  unfold append at h ⊢
  by_cases hroom : byteLength j.file + byteLength r.line > MAXIMUM_JOURNAL_BYTES
  · rw [if_pos hroom] at h ⊢
    have hfailure := compact_terminalFailure j nowMs disk.compactBeforeAppend
    generalize j.compact nowMs disk.compactBeforeAppend = compacted at h hfailure ⊢
    obtain ⟨j', ok⟩ := compacted
    cases ok with
    | true => exact (appendLine_running j' r disk h).trans hfailure
    | false => cases h
  · rw [if_neg hroom] at h ⊢
    exact appendLine_running j r disk h

/-- A claim that returned leaves a running journal as it was. -/
theorem claim_running (j : ReplayJournal) (r : ReplayRecord) (disk : ClaimDisk)
    (h : (j.claim options r nowMs disk).result = .ok ()) :
    (j.claim options r nowMs disk).journal.terminalFailure = j.terminalFailure := by
  have happend := append_running j r nowMs disk
  unfold claim at h ⊢
  simp only at h ⊢
  generalize j.append r nowMs disk = a at h happend ⊢
  obtain ⟨j', returned, written⟩ := a
  cases returned with
  | false => cases h
  | true =>
      have hremember : (j'.remember r).terminalFailure = j.terminalFailure := by
        rw [← happend rfl]
        cases r with
        | nonce key expiresAt => rfl
        | request key bodyCommitment expiresAt => rfl
      have hcompact : ((j'.remember r).maybeCompactAfterAppend options nowMs disk).2 = true →
          ((j'.remember r).maybeCompactAfterAppend options nowMs disk).1.terminalFailure =
            j.terminalFailure := by
        unfold maybeCompactAfterAppend
        simp only
        intro hok
        split at hok
        · cases hok
        · rename_i hstat
          rw [if_neg hstat]
          split at hok
          · rename_i hdue
            rw [if_pos hdue]
            have hfailure :=
              compact_terminalFailure (j'.remember r) nowMs disk.compactAfterAppend
            generalize (j'.remember r).compact nowMs disk.compactAfterAppend = compacted
              at hok hfailure ⊢
            obtain ⟨j'', ok⟩ := compacted
            cases ok with
            | true => exact hfailure.trans hremember
            | false => cases hok
          · rename_i hdue
            rw [if_neg hdue]
            exact hremember
      simp only [if_true] at h ⊢
      generalize (j'.remember r).maybeCompactAfterAppend options nowMs disk = compacted
        at h hcompact ⊢
      obtain ⟨j'', ok⟩ := compacted
      cases ok with
      | true => exact hcompact rfl
      | false => cases h

/-- A nonce is claimed by a journal that runs, and runs on. -/
theorem claimNonce_running (j : ReplayJournal) (nonce : String) (expiresAt : Nat)
    (disk : ClaimDisk)
    (h : (j.claimNonce options nonce expiresAt nowMs disk).result = .ok ()) :
    (j.claimNonce options nonce expiresAt nowMs disk).journal.terminalFailure = false := by
  unfold claimNonce at h ⊢
  cases hhealthy : j.terminalFailure with
  | true =>
      rw [hhealthy] at h
      cases h
  | false =>
      rw [hhealthy] at h
      simp only [Bool.false_eq_true, if_false] at h ⊢
      split at h
      · cases h
      · rename_i hfree
        rw [if_neg hfree]
        exact (claim_running options (j.prune nowMs) _ disk h).trans hhealthy

/-- What a claim of a nonce leaves behind. -/
theorem claimNonce_cases (hfile : Keeps j.file nowMs nonces requests)
    (hmemory : j.terminalFailure = false → Recalls j nowMs nonces requests)
    (nonce : String) {expiresAt : Nat} (hsafe : expiresAt ≤ MAX_SAFE_INTEGER)
    (disk : ClaimDisk) :
    ClaimedWell nowMs nonces requests (.nonce (digestIdentifier options nonce) expiresAt) disk
        (j.claimNonce options nonce expiresAt nowMs disk) ∧
      ((j.claimNonce options nonce expiresAt nowMs disk).written = true →
        digestIdentifier options nonce ∉ nonces.map Prod.fst) := by
  cases hhealthy : j.terminalFailure with
  | true =>
      have hcall : j.claimNonce options nonce expiresAt nowMs disk =
          ⟨j, .error replayProtectionUnavailable, false⟩ := by
        simp [claimNonce, hhealthy]
      rw [hcall]
      exact ⟨claimedWell_refused hfile hmemory _ _ _, fun h => Bool.noConfusion h⟩
  | false =>
      have hrecalls := hmemory hhealthy
      have hheld := hrecalls.holds_prune
      by_cases hclaimed : digestIdentifier options nonce ∈ nonces.map Prod.fst
      · rw [claimNonce_refused options hhealthy hrecalls hclaimed]
        have hfile' : Keeps (j.prune nowMs).file nowMs nonces requests := hfile
        refine ⟨claimedWell_refused hfile' ?_ _ _ _, fun h => Bool.noConfusion h⟩
        intro _
        exact hrecalls.recalls_prune hfile
      · have hget : (j.prune nowMs).maps.nonces.get (digestIdentifier options nonce) = none := by
          rw [InsertionMap.get_eq_none_iff, hheld.nonces]
          exact hclaimed
        have hcall : j.claimNonce options nonce expiresAt nowMs disk =
            (j.prune nowMs).claim options (.nonce (digestIdentifier options nonce) expiresAt)
              nowMs disk := by
          simp [claimNonce, hhealthy, hget]
        have hwell : (ReplayRecord.nonce (digestIdentifier options nonce) expiresAt).WellFormed :=
          ⟨options.hashes.isHexDigest_sha256Hex nonce, hsafe⟩
        have hfile' : Keeps (j.prune nowMs).file nowMs nonces requests := hfile
        rw [hcall]
        exact ⟨claim_cases options hfile' hheld hwell hclaimed disk, fun _ => hclaimed⟩

/-- A request whose claim has not expired is refused, whatever its body. -/
theorem claimRequest_refused (hhealthy : j.terminalFailure = false)
    (hmemory : Recalls j nowMs nonces requests) {requestId bodySha256 : String}
    (hdigest : isHexDigest bodySha256 = true) {prior : RequestEntry}
    (hclaimed : (digestIdentifier options requestId, prior) ∈ requests) (expiresAt : Nat)
    (disk : ClaimDisk) :
    j.claimRequest options requestId bodySha256 expiresAt nowMs disk =
      ⟨j.prune nowMs, .error (if prior.bodyCommitment = createBodyCommitment options bodySha256
        then requestAlreadyAccepted else idempotencyConflict), false⟩ := by
  have hlive : nowMs ≤ prior.expiresAt := by
    rw [← hmemory.requests] at hclaimed
    exact of_decide_eq_true (List.mem_filter.mp hclaimed).2
  have hget : (j.prune nowMs).maps.requests.get (digestIdentifier options requestId) =
      some prior := by
    rw [InsertionMap.get_eq_some_iff, hmemory.holds_prune.requests]
    exact hclaimed
  have hfound : ((j.prune nowMs).maps.requests.get (digestIdentifier options requestId)).filter
      (fun prior => nowMs ≤ prior.expiresAt) = some prior := by
    rw [hget, Option.filter_eq_some_iff]
    exact ⟨rfl, decide_eq_true hlive⟩
  by_cases hbody : prior.bodyCommitment = createBodyCommitment options bodySha256
  · simp [claimRequest, hhealthy, hdigest, hfound, hbody]
  · simp [claimRequest, hhealthy, hdigest, hfound, hbody]

/-- What a claim of a request leaves behind. -/
theorem claimRequest_cases (hfile : Keeps j.file nowMs nonces requests)
    (hmemory : j.terminalFailure = false → Recalls j nowMs nonces requests)
    (requestId bodySha256 : String) {expiresAt : Nat} (hsafe : expiresAt ≤ MAX_SAFE_INTEGER)
    (disk : ClaimDisk) :
    ClaimedWell nowMs nonces requests
        (.request (digestIdentifier options requestId) (createBodyCommitment options bodySha256)
          expiresAt) disk
        (j.claimRequest options requestId bodySha256 expiresAt nowMs disk) ∧
      ((j.claimRequest options requestId bodySha256 expiresAt nowMs disk).written = true →
        digestIdentifier options requestId ∉ requests.map Prod.fst) := by
  cases hhealthy : j.terminalFailure with
  | true =>
      have hcall : j.claimRequest options requestId bodySha256 expiresAt nowMs disk =
          ⟨j, .error replayProtectionUnavailable, false⟩ := by
        simp [claimRequest, hhealthy]
      rw [hcall]
      exact ⟨claimedWell_refused hfile hmemory _ _ _, fun h => Bool.noConfusion h⟩
  | false =>
      have hrecalls := hmemory hhealthy
      have hheld := hrecalls.holds_prune
      have hpruned : (j.prune nowMs).terminalFailure = false →
          Recalls (j.prune nowMs) nowMs nonces requests := by
        intro _
        exact hrecalls.recalls_prune hfile
      have hfile' : Keeps (j.prune nowMs).file nowMs nonces requests := hfile
      cases hdigest : isHexDigest bodySha256 with
      | false =>
          have hcall : j.claimRequest options requestId bodySha256 expiresAt nowMs disk =
              ⟨j.prune nowMs, .error invalidBodyDigest, false⟩ := by
            simp [claimRequest, hhealthy, hdigest]
          rw [hcall]
          exact ⟨claimedWell_refused hfile' hpruned _ _ _, fun h => Bool.noConfusion h⟩
      | true =>
          by_cases hclaimed : digestIdentifier options requestId ∈ requests.map Prod.fst
          · obtain ⟨e, he, hkey⟩ := List.mem_map.mp hclaimed
            have hentry : (digestIdentifier options requestId, e.2) ∈ requests := hkey ▸ he
            rw [claimRequest_refused options hhealthy hrecalls hdigest hentry]
            exact ⟨claimedWell_refused hfile' hpruned _ _ _, fun h => Bool.noConfusion h⟩
          · have hget : (j.prune nowMs).maps.requests.get (digestIdentifier options requestId) =
                none := by
              rw [InsertionMap.get_eq_none_iff, hheld.requests]
              exact hclaimed
            have hcall : j.claimRequest options requestId bodySha256 expiresAt nowMs disk =
                (j.prune nowMs).claim options
                  (.request (digestIdentifier options requestId)
                    (createBodyCommitment options bodySha256) expiresAt) nowMs disk := by
              simp [claimRequest, hhealthy, hdigest, hget]
            have hwell : (ReplayRecord.request (digestIdentifier options requestId)
                (createBodyCommitment options bodySha256) expiresAt).WellFormed :=
              ⟨options.hashes.isHexDigest_sha256Hex requestId,
                options.hashes.isHexDigest_hmacSha256Hex _ _, hsafe⟩
            rw [hcall]
            exact ⟨claim_cases options hfile' hheld hwell hclaimed disk, fun _ => hclaimed⟩

/-- A compaction on request keeps the claims. -/
theorem compactNow_cases (hfile : Keeps j.file nowMs nonces requests)
    (hmemory : j.terminalFailure = false → Recalls j nowMs nonces requests)
    (rename : DiskCall) :
    Keeps (j.compactNow nowMs rename).1.file nowMs nonces requests ∧
      ((j.compactNow nowMs rename).1.terminalFailure = false →
        Recalls (j.compactNow nowMs rename).1 nowMs nonces requests) := by
  cases hhealthy : j.terminalFailure with
  | true =>
      have hcall : j.compactNow nowMs rename = (j, false) := by
        simp [compactNow, hhealthy]
      rw [hcall]
      exact ⟨hfile, hmemory⟩
  | false =>
      have hrecalls := hmemory hhealthy
      obtain ⟨hkept, hmaps, -, -⟩ := compact_cases hfile hrecalls rename
      unfold compactNow
      rw [hhealthy, if_neg Bool.false_ne_true]
      generalize j.compact nowMs rename = compacted at hkept hmaps
      obtain ⟨j', ok⟩ := compacted
      have hpruned := hrecalls.holds_prune
      have hheld : Holds j' nonces requests :=
        ⟨hmaps ▸ hpruned.nonces, hmaps ▸ hpruned.requests⟩
      cases ok with
      | true => exact ⟨hkept, fun _ => hheld.recalls hkept⟩
      | false =>
          refine ⟨hkept, ?_⟩
          intro h
          exact Bool.noConfusion h

end Operations

end ReplayJournal

/-- A start on a file that keeps claims with different keys: without a disk failure it
succeeds, and memory then holds exactly those claims. -/
theorem openJournal_cases {file : List Char} {nowMs : Nat} {nonces : List (String × Nat)}
    {requests : List (String × RequestEntry)} (hfile : Keeps file nowMs nonces requests)
    (hnonces : (nonces.map Prod.fst).Nodup) (hrequests : (requests.map Prod.fst).Nodup)
    (rename : DiskCall) :
    Keeps (openJournal options file nowMs rename).1 nowMs nonces requests ∧
      (rename = .done → (openJournal options file nowMs rename).2.isSome = true) ∧
      ∀ j, (openJournal options file nowMs rename).2 = some j →
        j.file = (openJournal options file nowMs rename).1 ∧ j.Holds nonces requests ∧
          j.terminalFailure = false := by
  obtain ⟨maps, hload, hn, hr⟩ := load_keeps options hfile hnonces hrequests
  have hsize : ¬byteLength file > MAXIMUM_JOURNAL_BYTES := Nat.not_lt.mpr hfile.size_le
  let started : ReplayJournal :=
    { maps, appendedSinceCompaction := 0, lastCompactedAt := nowMs, terminalFailure := false, file }
  have hheld : started.Holds nonces requests := ⟨hn, hr⟩
  have hkeeps : Keeps started.file nowMs nonces requests := hfile
  have hrecalls := hheld.recalls hkeeps
  obtain ⟨hkept, hmaps, hfailure, hok⟩ := ReplayJournal.compact_cases hkeeps hrecalls rename
  unfold openJournal
  rw [if_neg hsize, hload]
  simp only
  generalize started.compact nowMs rename = compacted at hkept hmaps hfailure hok ⊢
  obtain ⟨j', ok⟩ := compacted
  have hpruned := hrecalls.holds_prune
  cases ok with
  | true =>
      refine ⟨hkept, fun _ => rfl, ?_⟩
      intro j hj
      cases hj
      exact ⟨rfl, ⟨hmaps ▸ hpruned.nonces, hmaps ▸ hpruned.requests⟩, hfailure⟩
  | false =>
      refine ⟨hkept, ?_, ?_⟩
      · intro hdone
        exact absurd (hok.mpr hdone) Bool.false_ne_true
      · intro j hj
        cases hj

end SupplierNode
end TokenStreaming
