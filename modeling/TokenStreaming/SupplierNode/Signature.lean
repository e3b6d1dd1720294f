import TokenStreaming.Domain.Validation
import TokenStreaming.SupplierNode.ReplayJournal

/-!
# Supplier node - Signed gateway calls

A call of the gateway carries a bearer token, a timestamp, a nonce and a signature over
the body's digest.  What passes these checks is recorded once: the guard refuses a nonce
it has seen and lets the journal claim it until the timestamp has left the window.

Main results:

- Theorem {lit}`timestampMs_lt`: a checked timestamp has thirteen digits.
- Theorem {lit}`verifyAndRecord_cases`: what the guard does is what the journal's claim does.
-/

namespace TokenStreaming
namespace SupplierNode

open Domain

structure SignedGatewayCall where
  authorization : Option String
  timestamp : Option String
  nonce : Option String
  jobId : Option String
  signature : Option String
  rawBody : String
deriving DecidableEq

def authenticationFailed : Thrown :=
  .node ⟨.AUTHENTICATION_FAILED, "网关身份验证失败。", 401, false⟩

def requestExpired (message : String) : Thrown :=
  .node ⟨.REQUEST_EXPIRED, message, 401, false⟩

def signatureInvalid (message : String) : Thrown :=
  .node ⟨.SIGNATURE_INVALID, message, 401, false⟩

def invalidRequest (message : String) : Thrown :=
  .node ⟨.INVALID_REQUEST, message, 400, false⟩

/-- Throw the error unless the condition holds. -/
def demand (condition : Bool) (error : Thrown) : Except Thrown Unit :=
  if condition then .ok () else .error error

theorem demand_eq_ok {condition : Bool} {error : Thrown} {u : Unit} :
    demand condition error = .ok u ↔ condition = true := by
  cases condition <;> simp [demand]

/-! ## Patterns -/

/-- {lit}`/^\d{13}$/`. -/
def isTimestamp (value : String) : Bool :=
  value.toList.length == 13 && value.toList.all Char.isDigit

/-- {lit}`/^[A-Za-z0-9_-]{16,128}$/`. -/
def isNonce (value : String) : Bool :=
  16 ≤ value.toList.length && value.toList.length ≤ 128 &&
    value.toList.all fun c => isAsciiAlphanumeric c || c == '_' || c == '-'

/-- {lit}`/^[A-Za-z0-9][A-Za-z0-9._:-]{7,255}$/`. -/
def isJobId (value : String) : Bool :=
  match value.toList with
  | [] => false
  | first :: rest =>
      isAsciiAlphanumeric first && 7 ≤ rest.length && rest.length ≤ 255 &&
        rest.all fun c => isAsciiAlphanumeric c || c ∈ ['.', '_', ':', '-']

def requiredPattern (value : Option String) (pattern : String → Bool) (message : String) :
    Except Thrown String :=
  match value with
  | some value => if pattern value then .ok value else .error (invalidRequest message)
  | none => .error (invalidRequest message)

/-! ## Checks -/

variable (options : JournalOptions)

/-- The digests are compared, not the texts. -/
def safeTextEqual (left right : String) : Bool :=
  options.hashes.sha256Hex left == options.hashes.sha256Hex right

def parseBearer (value : Option String) : Except Thrown String :=
  match value with
  | none => .error authenticationFailed
  | some value =>
      if value.startsWith "Bearer " then
        let token := (value.drop "Bearer ".length).toString
        if token.isEmpty || 4096 < utf16Length token then .error authenticationFailed
        else .ok token
      else .error authenticationFailed

def createSupplierGatewaySignaturePayload (timestamp nonce jobId bodySha256 : String) : String :=
  String.intercalate "\n" [timestamp, nonce, jobId, bodySha256]

def createGatewaySignature (timestamp nonce jobId bodySha256 : String) : String :=
  options.hashes.hmacSha256Hex options.gatewayToken
    (createSupplierGatewaySignaturePayload timestamp nonce jobId bodySha256)

/-- A call that is signed, before its nonce is recorded. -/
structure CheckedCall where
  timestampMs : Nat
  nonce : String
  jobId : String
  bodySha256 : String
deriving DecidableEq

/-- The part of {lit}`verifySignedGatewayCall` before the guard. -/
def checkSignedGatewayCall (call : SignedGatewayCall) : Except Thrown CheckedCall := do
  let bearer ← parseBearer call.authorization
  demand (safeTextEqual options bearer options.gatewayToken) authenticationFailed
  let timestamp ← requiredPattern call.timestamp isTimestamp "请求时间戳无效。"
  let nonce ← requiredPattern call.nonce isNonce "请求 nonce 无效。"
  let jobId ← requiredPattern call.jobId isJobId "任务标识无效。"
  let signature ← requiredPattern call.signature isHexDigest "请求签名格式无效。"
  let timestampMs := Nat.ofDigitChars 10 timestamp.toList 0
  demand (timestampMs ≤ MAX_SAFE_INTEGER) (requestExpired "请求时间戳无效。")
  let bodySha256 := options.hashes.sha256Hex call.rawBody
  demand (safeTextEqual options signature
    (createGatewaySignature options timestamp nonce jobId bodySha256))
    (signatureInvalid "请求签名验证失败。")
  return { timestampMs, nonce, jobId, bodySha256 }

theorem ofDigitChars_lt {cs : List Char} (h : ∀ c ∈ cs, c.isDigit = true) {init k : Nat}
    (hinit : init < 10 ^ k) : Nat.ofDigitChars 10 cs init < 10 ^ (k + cs.length) := by
  induction cs generalizing init k with
  | nil => exact hinit
  | cons c cs ih =>
      have hdigit : c.toNat ≤ 57 ∧ 48 ≤ c.toNat := by
        have hc := h c List.mem_cons_self
        simp only [Char.isDigit, Bool.and_eq_true, decide_eq_true_eq] at hc
        exact ⟨hc.2, hc.1⟩
      have hzero : ('0' : Char).toNat = 48 := rfl
      have hnext : 10 * init + (c.toNat - ('0' : Char).toNat) < 10 ^ (k + 1) := by
        rw [Nat.pow_succ]
        omega
      rw [Nat.ofDigitChars_cons, List.length_cons, ← Nat.add_assoc, Nat.add_right_comm]
      exact ih (fun d hd => h d (List.mem_cons_of_mem c hd)) hnext

theorem requiredPattern_eq_ok {value : Option String} {pattern : String → Bool}
    {message text : String} (h : requiredPattern value pattern message = .ok text) :
    pattern text = true := by
  unfold requiredPattern at h
  split at h
  · split at h
    · rename_i hpattern
      cases h
      exact hpattern
    · cases h
  · cases h

/-- A checked timestamp has thirteen digits. -/
theorem timestampMs_lt {call : SignedGatewayCall} {checked : CheckedCall}
    (h : checkSignedGatewayCall options call = .ok checked) : checked.timestampMs < 10 ^ 13 := by
  simp only [checkSignedGatewayCall, Except.bind_eq_ok, Except.pure_eq_ok] at h
  obtain ⟨bearer, -, -, -, timestamp, htimestamp, nonce, -, jobId, -, signature, -, -, -, -, -,
    rfl⟩ := h
  have hpattern := requiredPattern_eq_ok htimestamp
  simp only [isTimestamp, Bool.and_eq_true, beq_iff_eq, List.all_eq_true] at hpattern
  have hlt := ofDigitChars_lt hpattern.2 (Nat.lt_of_lt_of_eq Nat.zero_lt_one (Nat.pow_zero 10).symm)
  rw [hpattern.1] at hlt
  exact hlt

/-! ## The guard -/

def replayWindowMs : Nat :=
  5 * 60000

def maximumEntries : Nat :=
  10000

/-- The journal with the guard in front of it. -/
structure ReplayGuard where
  seen : InsertionMap String Nat
  journal : ReplayJournal

/-- What a recording leaves behind; the last component tells whether a claim was written. -/
structure Recorded where
  guard : ReplayGuard
  result : Except Thrown Unit
  written : Bool

namespace ReplayGuard

def pruneSeen (g : ReplayGuard) (nowMs : Nat) : ReplayGuard :=
  { g with seen := g.seen.filter fun _ expiresAt => !(expiresAt < nowMs) }

def verifyAndRecord (g : ReplayGuard) (nonce : String) (timestampMs nowMs : Nat)
    (disk : ClaimDisk) : Recorded :=
  let g := g.pruneSeen nowMs
  if replayWindowMs < nowMs - timestampMs ∨ replayWindowMs < timestampMs - nowMs then
    ⟨g, .error (requestExpired "请求时间戳已过期。"), false⟩
  else if g.seen.has nonce then ⟨g, .error nonceAlreadyUsed, false⟩
  else if maximumEntries ≤ g.seen.size then
    ⟨g, .error (.node ⟨.CAPACITY_EXCEEDED, "重放保护容量已满，请稍后重试。", 503, true⟩), false⟩
  else
    let claimed := g.journal.claimNonce options nonce (timestampMs + replayWindowMs) nowMs disk
    match claimed.result with
    | .ok () =>
        ⟨⟨g.seen.set nonce (timestampMs + replayWindowMs), claimed.journal⟩, .ok (),
          claimed.written⟩
    | .error error => ⟨{ g with journal := claimed.journal }, .error error, claimed.written⟩

/-- How far a timestamp may be from the clock. -/
theorem verifyAndRecord_window {g : ReplayGuard} {nonce : String} {timestampMs nowMs : Nat}
    {disk : ClaimDisk}
    (h : (g.verifyAndRecord options nonce timestampMs nowMs disk).written = true) :
    nowMs ≤ timestampMs + replayWindowMs ∧ timestampMs ≤ nowMs + replayWindowMs := by
  unfold verifyAndRecord at h
  simp only at h
  split at h
  · cases h
  · rename_i hwindow
    omega

/-- The guard either leaves the journal alone and refuses, or it returns what the claim of the
nonce returns. -/
theorem verifyAndRecord_cases (g : ReplayGuard) (nonce : String) (timestampMs nowMs : Nat)
    (disk : ClaimDisk) :
    let recorded := g.verifyAndRecord options nonce timestampMs nowMs disk
    let claimed := g.journal.claimNonce options nonce (timestampMs + replayWindowMs) nowMs disk
    (recorded.guard.journal = g.journal ∧ recorded.written = false ∧
        ∃ error, recorded.result = .error error) ∨
      (recorded.guard.journal = claimed.journal ∧ recorded.written = claimed.written ∧
        recorded.result = claimed.result) := by
  simp only [verifyAndRecord]
  split
  · exact Or.inl ⟨rfl, rfl, _, rfl⟩
  split
  · exact Or.inl ⟨rfl, rfl, _, rfl⟩
  split
  · exact Or.inl ⟨rfl, rfl, _, rfl⟩
  right
  have hjournal : (g.pruneSeen nowMs).journal = g.journal := rfl
  rw [hjournal]
  split
  · rename_i hresult
    exact ⟨rfl, rfl, hresult.symm⟩
  · rename_i error hresult
    exact ⟨rfl, rfl, hresult.symm⟩

end ReplayGuard

end SupplierNode
end TokenStreaming
