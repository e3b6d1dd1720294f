import Mathlib.Data.List.Count
import TokenStreaming.Foundation.IsoInstant
import TokenStreaming.Foundation.TransitionSystem
import TokenStreaming.Server.Requests

/-!
# Server - The rate limiter

{lit}`enforceScopeRateLimit` counts the calls of a scope, an action and a fixed window in one
row of {lit}`api_rate_limits`.  A call is split at its statements: it reads the clock, performs
the batch that counts it and deletes some expired rows, and reads the row back.  Other calls and
the maintenance service run in between.

Main results:

- Theorem {lit}`Tallied.step`: a row that may still be read counts the calls of its window.
- Theorem {lit}`rate_limit_never_exceeded`: what returns within a window is at most its limit.

Each call site names an action with constants, so limit and window length are a function of
scope and action.  Instants have years of four digits.
-/

namespace TokenStreaming
namespace Server

open IsoInstant

/-! ## Rows -/

/-- The columns of the unique index. -/
structure BucketKey where
  scopeKey : String
  action : String
  windowStartedAt : String
deriving DecidableEq

/-- A row of {lit}`api_rate_limits`. -/
structure RateLimitRow where
  key : BucketKey
  requestCount : Nat
  expiresAt : String
deriving DecidableEq

/-- The row of a key. -/
def rowAt (rows : List RateLimitRow) (key : BucketKey) : Option RateLimitRow :=
  rows.find? fun row => decide (row.key = key)

/-- {lit}`INSERT … ON CONFLICT … DO UPDATE`. -/
def countRequest (key : BucketKey) (expiresAt : String) (rows : List RateLimitRow) :
    List RateLimitRow :=
  match rowAt rows key with
  | none => rows ++ [{ key := key, requestCount := 1, expiresAt := expiresAt }]
  | some _ => rows.map fun row =>
      if row.key = key then
        { row with requestCount := row.requestCount + 1, expiresAt := expiresAt }
      else row

/-- {lit}`DELETE … WHERE expires_at <= ? ORDER BY expires_at ASC LIMIT 100`. -/
def deleteSomeExpired (now : String) (rows : List RateLimitRow) : List RateLimitRow :=
  let expired := rows.filter fun row => decide (row.expiresAt ≤ now)
  let selected := (expired.mergeSort fun a b => decide (a.expiresAt ≤ b.expiresAt)).take 100
  rows.filter fun row => decide (row ∉ selected)

/-- The statement of the maintenance service. -/
def deleteExpired (now : String) (rows : List RateLimitRow) : List RateLimitRow :=
  rows.filter fun row => decide (¬ row.expiresAt ≤ now)

/-! ## Calls -/

/-- What a call site asks for: {lit}`maximumRequests` and {lit}`windowMilliseconds`. -/
structure RateLimitPolicy where
  maximumRequests : Nat
  windowMilliseconds : Nat
deriving DecidableEq

/-- How far a call has come. -/
inductive RateLimitProgress where
  | opened
  /-- The batch has been performed. -/
  | counted
  | returned (instant : Nat)
  | refused (error : ApiError)
deriving DecidableEq

/-- A call of {lit}`enforceScopeRateLimit`. -/
structure RateLimitCall where
  scopeKey : String
  action : String
  policy : RateLimitPolicy
  nowMilliseconds : Nat
  progress : RateLimitProgress
deriving DecidableEq

/-- A first character and a bounded number of others. -/
def matchesKeyPattern (first rest : Char → Bool) (least most : Nat) (value : String) : Bool :=
  match value.toList with
  | [] => false
  | c :: others =>
      first c && others.all rest && decide (least ≤ others.length) &&
        decide (others.length ≤ most)

/-- The checks of the arguments, with the messages of their errors. -/
def checkRateLimitArguments (scopeKey action : String) (policy : RateLimitPolicy) :
    Except String Unit :=
  if ¬ matchesKeyPattern Domain.isAsciiAlphanumeric
      (fun c => Domain.isAsciiAlphanumeric c || c ∈ ['.', '_', ':', '-']) 7 255 scopeKey then
    .error "Invalid rate-limit scope."
  else if ¬ matchesKeyPattern (fun c => 'a' ≤ c && c ≤ 'z')
      (fun c => ('a' ≤ c && c ≤ 'z') || ('0' ≤ c && c ≤ '9') || c ∈ ['.', '-']) 2 63 action then
    .error "Invalid rate-limit action."
  else if policy.maximumRequests > Domain.maxSafeInteger ∨ policy.maximumRequests < 1 then
    .error "Invalid rate-limit maximum."
  else if policy.windowMilliseconds > Domain.maxSafeInteger ∨ policy.windowMilliseconds < 1000 then
    .error "Invalid rate-limit window."
  else .ok ()

namespace RateLimitCall

/-- {lit}`bucketStart`. -/
def bucketStart (call : RateLimitCall) : Nat :=
  call.nowMilliseconds / call.policy.windowMilliseconds * call.policy.windowMilliseconds

def key (call : RateLimitCall) : BucketKey where
  scopeKey := call.scopeKey
  action := call.action
  windowStartedAt := toISOString call.bucketStart

def expiresAt (call : RateLimitCall) : String :=
  toISOString (call.bucketStart + call.policy.windowMilliseconds * 2)

/-- The batch: the call is counted, and some expired rows go. -/
def batch (call : RateLimitCall) (rows : List RateLimitRow) : List RateLimitRow :=
  deleteSomeExpired (toISOString call.nowMilliseconds) (countRequest call.key call.expiresAt rows)

/-- The read behind the batch and the comparison with the limit. -/
def answer (call : RateLimitCall) (rows : List RateLimitRow) : Request Unit :=
  let requestCount := ((rowAt rows call.key).map RateLimitRow.requestCount).getD
    (call.policy.maximumRequests + 1)
  if requestCount > call.policy.maximumRequests then
    .error { code := "RATE_LIMITED", message := "操作过于频繁，请稍后重试。", status := 429,
             retryable := true }
  else .ok ()

end RateLimitCall

/-! ## Interleavings -/

/-- The table, the clock and every call so far. -/
structure LimiterWorld where
  clock : Nat
  rows : List RateLimitRow
  calls : List RateLimitCall

def LimiterWorld.start (clock : Nat) : LimiterWorld where
  clock := clock
  rows := []
  calls := []

/-- One step of a call, of the maintenance service or of time. -/
inductive LimiterEvent where
  | passes (milliseconds : Nat)
  | opens (scopeKey action : String)
  | performsBatch (position : Nat)
  | readsBack (position : Nat)
  /-- The maintenance service, which read the clock some time ago. -/
  | maintains (age : Nat)

/-- The effect of an event; a call advances in the order of its statements. -/
def limiterStep (policies : String → String → RateLimitPolicy) (w : LimiterWorld) :
    LimiterEvent → LimiterWorld
  | .passes milliseconds => { w with clock := w.clock + milliseconds }
  | .opens scopeKey action =>
      match checkRateLimitArguments scopeKey action (policies scopeKey action) with
      | .error _ => w
      | .ok () => { w with calls := w.calls ++
          [{ scopeKey := scopeKey, action := action, policy := policies scopeKey action,
             nowMilliseconds := w.clock, progress := .opened }] }
  | .performsBatch position =>
      match w.calls[position]? with
      | none => w
      | some call =>
          if call.progress = .opened then
            { w with
              rows := call.batch w.rows
              calls := w.calls.set position { call with progress := .counted } }
          else w
  | .readsBack position =>
      match w.calls[position]? with
      | none => w
      | some call =>
          if call.progress = .counted then
            let progress :=
              match call.answer w.rows with
              | .ok () => .returned w.clock
              | .error error => .refused error
            { w with calls := w.calls.set position { call with progress := progress } }
          else w
  | .maintains age => { w with rows := deleteExpired (toISOString (w.clock - age)) w.rows }

/-! ## The row of a key -/

theorem rowAt_key {rows : List RateLimitRow} {key : BucketKey} {row : RateLimitRow}
    (h : rowAt rows key = some row) : row.key = key := by
  have hkey := List.find?_some h
  exact of_decide_eq_true hkey

/-- How often the row of a key has been counted. -/
def countAt (rows : List RateLimitRow) (key : BucketKey) : Nat :=
  ((rowAt rows key).map RateLimitRow.requestCount).getD 0

theorem rowAt_countRequest_self (key : BucketKey) (expiresAt : String)
    (rows : List RateLimitRow) :
    rowAt (countRequest key expiresAt rows) key =
      some { key := key, requestCount := countAt rows key + 1, expiresAt := expiresAt } := by
  unfold countRequest countAt
  cases hrow : rowAt rows key with
  | none =>
      have hnone : rows.find? (fun row => decide (row.key = key)) = none := hrow
      simp [rowAt, List.find?_append, hnone]
  | some row =>
      have hkey := rowAt_key hrow
      have hfind : rows.find? ((fun row : RateLimitRow => decide (row.key = key)) ∘ fun row =>
          if row.key = key then
            { row with requestCount := row.requestCount + 1, expiresAt := expiresAt }
          else row) = some row := by
        rw [← hrow]
        unfold rowAt
        congr 1
        funext r
        by_cases hr : r.key = key <;> simp [hr]
      change (rows.map fun row => if row.key = key then
        { row with requestCount := row.requestCount + 1, expiresAt := expiresAt }
        else row).find? (fun row => decide (row.key = key)) = _
      rw [List.find?_map, hfind]
      simp [hkey]

theorem rowAt_countRequest_of_ne {key other : BucketKey} (h : other ≠ key) (expiresAt : String)
    (rows : List RateLimitRow) :
    rowAt (countRequest key expiresAt rows) other = rowAt rows other := by
  unfold countRequest
  cases hrow : rowAt rows key with
  | none =>
      have hne : ¬ key = other := fun heq => h heq.symm
      simp [rowAt, List.find?_append, hne]
  | some row =>
      have hfind : ((fun row : RateLimitRow => decide (row.key = other)) ∘ fun row =>
          if row.key = key then
            { row with requestCount := row.requestCount + 1, expiresAt := expiresAt }
          else row) = fun row => decide (row.key = other) := by
        funext r
        by_cases hr : r.key = key <;> simp [hr]
      rw [rowAt, List.find?_map, hfind]
      change (rowAt rows other).map _ = rowAt rows other
      cases hother : rowAt rows other with
      | none => rfl
      | some found =>
          have hkey : ¬ found.key = key := by
            rw [rowAt_key hother]
            exact h
          simp [hkey]

/-- A deletion that keeps the row of a key. -/
theorem rowAt_filter {rows : List RateLimitRow} {key : BucketKey} {keeps : RateLimitRow → Bool}
    (h : ∀ row, rowAt rows key = some row → keeps row = true) :
    rowAt (rows.filter keeps) key = rowAt rows key := by
  unfold rowAt at *
  induction rows with
  | nil => rfl
  | cons row rows ih =>
      by_cases hkey : row.key = key
      · have hkeeps : keeps row = true := h row (by simp [hkey])
        simp [hkeeps, hkey]
      · have hrest : ∀ r, rows.find? (fun row => decide (row.key = key)) = some r →
            keeps r = true := fun r hr => h r (by simpa [hkey] using hr)
        by_cases hkeeps : keeps row = true
        · simpa [hkeeps, hkey] using ih hrest
        · simpa [hkeeps, hkey] using ih hrest

/-- Only an expired row is deleted. -/
theorem rowAt_deleteSomeExpired {rows : List RateLimitRow} {key : BucketKey} {now : String}
    (h : ∀ row, rowAt rows key = some row → ¬ row.expiresAt ≤ now) :
    rowAt (deleteSomeExpired now rows) key = rowAt rows key := by
  refine rowAt_filter fun row hrow => decide_eq_true fun hmem => h row hrow ?_
  have hsorted := (List.mem_mergeSort.mp (List.mem_of_mem_take hmem))
  exact of_decide_eq_true (List.mem_filter.mp hsorted).2

theorem rowAt_deleteExpired {rows : List RateLimitRow} {key : BucketKey} {now : String}
    (h : ∀ row, rowAt rows key = some row → ¬ row.expiresAt ≤ now) :
    rowAt (deleteExpired now rows) key = rowAt rows key :=
  rowAt_filter fun row hrow => decide_eq_true (h row hrow)

/-! ## The calls of a window -/

/-- A fixed window of a scope and an action. -/
structure Window where
  scopeKey : String
  action : String
  start : Nat
deriving DecidableEq

def Window.key (window : Window) : BucketKey where
  scopeKey := window.scopeKey
  action := window.action
  windowStartedAt := toISOString window.start

def RateLimitCall.window (call : RateLimitCall) : Window where
  scopeKey := call.scopeKey
  action := call.action
  start := call.bucketStart

/-- The calls of a window whose batch has been performed. -/
def RateLimitCall.isCounted (window : Window) (call : RateLimitCall) : Bool :=
  decide (call.window = window) && decide (call.progress ≠ .opened)

/-- The call returned before its window ended. -/
def RateLimitCall.hasReturned (window : Window) (call : RateLimitCall) : Bool :=
  decide (call.window = window) &&
    match call.progress with
    | .returned instant => decide (instant < window.start + call.policy.windowMilliseconds)
    | _ => false

def LimiterWorld.counted (w : LimiterWorld) (window : Window) : Nat :=
  w.calls.countP (RateLimitCall.isCounted window)

/-- How many calls of a window returned normally while it lasted. -/
def LimiterWorld.returned (w : LimiterWorld) (window : Window) : Nat :=
  w.calls.countP (RateLimitCall.hasReturned window)

theorem RateLimitCall.isCounted_of_hasReturned {window : Window} {call : RateLimitCall}
    (h : call.hasReturned window = true) : call.isCounted window = true := by
  unfold RateLimitCall.hasReturned at h
  unfold RateLimitCall.isCounted
  cases hprogress : call.progress <;> simp_all

theorem LimiterWorld.returned_le_counted (w : LimiterWorld) (window : Window) :
    w.returned window ≤ w.counted window :=
  List.countP_mono_left fun _ _ h => RateLimitCall.isCounted_of_hasReturned h

theorem toISOString_inj {s t : Nat} (hs : FourDigitYear s) (ht : FourDigitYear t)
    (h : toISOString s = toISOString t) : s = t := by
  rcases Nat.lt_trichotomy s t with hlt | heq | hgt
  · exact absurd h (ne_of_lt (toISOString_lt hlt ht))
  · exact heq
  · exact absurd h (ne_of_gt (toISOString_lt hgt hs))

/-- Windows that differ have different rows. -/
theorem Window.key_inj {a b : Window} (ha : FourDigitYear a.start) (hb : FourDigitYear b.start)
    (h : a.key = b.key) : a = b := by
  obtain ⟨scopeKey, action, start⟩ := a
  obtain ⟨scopeKey', action', start'⟩ := b
  simp only [Window.key, BucketKey.mk.injEq] at h
  have hstart : start = start' := toISOString_inj ha hb h.2.2
  rw [h.1, h.2.1, hstart]

/-! ## The invariant -/

variable (policies : String → String → RateLimitPolicy)

/-- The policy of a window. -/
def Window.policy (window : Window) : RateLimitPolicy :=
  policies window.scopeKey window.action

/-- The instant from which the row of a window may be deleted. -/
def Window.expires (window : Window) : Nat :=
  window.start + (window.policy policies).windowMilliseconds * 2

/-- The texts of the instants that matter up to now can be compared. -/
def Comparable (clock : Nat) : Prop :=
  ∀ scopeKey action, FourDigitYear (clock + (policies scopeKey action).windowMilliseconds * 2)

/-- The calls follow the policies and read the clock before now. -/
structure CallsKept (w : LimiterWorld) : Prop where
  policy : ∀ call ∈ w.calls, call.policy = policies call.scopeKey call.action
  past : ∀ call ∈ w.calls, call.nowMilliseconds ≤ w.clock

/-- The row of a window that has not expired counts its calls. -/
structure RowKept (w : LimiterWorld) (window : Window) : Prop where
  count : countAt w.rows window.key = w.counted window
  expires : ∀ row, rowAt w.rows window.key = some row →
    row.expiresAt = toISOString (window.expires policies)

/-- What holds along every run. -/
structure Tallied (w : LimiterWorld) : Prop where
  calls : CallsKept policies w
  rows : ∀ window : Window, FourDigitYear (window.expires policies) →
    w.clock < window.expires policies → RowKept policies w window
  bound : ∀ window : Window, FourDigitYear (window.expires policies) →
    w.returned window ≤ (window.policy policies).maximumRequests

variable {policies}

theorem RateLimitCall.bucketStart_le (call : RateLimitCall) :
    call.bucketStart ≤ call.nowMilliseconds :=
  Nat.div_mul_le_self ..

/-- The row of a window that has not expired stays when expired rows go. -/
theorem RowKept.not_le {w : LimiterWorld} {window : Window} {now : Nat}
    (h : RowKept policies w window) (hyear : FourDigitYear (window.expires policies))
    (hnow : now < window.expires policies) :
    ∀ row, rowAt w.rows window.key = some row → ¬ row.expiresAt ≤ toISOString now := by
  intro row hrow
  rw [h.expires row hrow]
  exact not_le_of_gt (toISOString_lt hnow hyear)

theorem Tallied.start (clock : Nat) : Tallied policies (.start clock) := by
  constructor
  · constructor
    · exact fun _ h => absurd h List.not_mem_nil
    · exact fun _ h => absurd h List.not_mem_nil
  · intro window _ _
    constructor
    · rfl
    · intro row hrow
      cases hrow
  · exact fun window _ => Nat.zero_le _

/-- The call at a position is one of the calls. -/
theorem mem_calls {w : LimiterWorld} {position : Nat} {call : RateLimitCall}
    (h : w.calls[position]? = some call) : call ∈ w.calls :=
  List.mem_of_getElem? h

/-- Advancing a call keeps what the calls promise. -/
theorem CallsKept.set {w : LimiterWorld} {position : Nat} {call : RateLimitCall}
    {rows : List RateLimitRow} (h : CallsKept policies w) (hcall : call ∈ w.calls)
    (progress : RateLimitProgress) :
    CallsKept policies { w with
      rows := rows
      calls := w.calls.set position { call with progress := progress } } := by
  constructor
  · intro other hother
    rcases List.mem_or_eq_of_mem_set hother with hold | rfl
    · exact h.policy other hold
    · exact h.policy call hcall
  · intro other hother
    rcases List.mem_or_eq_of_mem_set hother with hold | rfl
    · exact h.past other hold
    · exact h.past call hcall

/-- A count of the calls after one of them advanced. -/
theorem countP_advance {calls : List RateLimitCall} {position : Nat} {call : RateLimitCall}
    (hat : calls[position]? = some call) (next : RateLimitCall) (p : RateLimitCall → Bool) :
    (calls.set position next).countP p + (if p call then 1 else 0) =
      calls.countP p + (if p next then 1 else 0) := by
  obtain ⟨hlt, hget⟩ := List.getElem?_eq_some_iff.mp hat
  have hset := List.countP_set (p := p) (a := next) hlt
  rw [hget] at hset
  have hpos : p call = true → 1 ≤ calls.countP p := fun hp =>
    List.countP_pos_iff.mpr ⟨call, List.mem_of_getElem? hat, hp⟩
  by_cases hcall : p call = true
  · have hge := hpos hcall
    rw [if_pos hcall] at hset ⊢
    omega
  · rw [if_neg hcall] at hset ⊢
    omega

/-! ## Steps -/

/-- What a batch does to the row of a window that has not expired. -/
theorem RowKept.performsBatch {w : LimiterWorld} {position : Nat} {call : RateLimitCall}
    {window : Window} (hkept : CallsKept policies w) (hat : w.calls[position]? = some call)
    (hopened : call.progress = .opened) (hcomparable : Comparable policies w.clock)
    (hyear : FourDigitYear (window.expires policies)) (hlive : w.clock < window.expires policies)
    (h : RowKept policies w window) :
    RowKept policies { w with
      rows := call.batch w.rows
      calls := w.calls.set position { call with progress := .counted } } window := by
  have hpast := hkept.past call (mem_calls hat)
  have hpolicy := hkept.policy call (mem_calls hat)
  have hnow : call.nowMilliseconds < window.expires policies := by omega
  have hadvance := countP_advance hat { call with progress := .counted }
    (RateLimitCall.isCounted window)
  have hbefore : call.isCounted window = false := by
    simp [RateLimitCall.isCounted, hopened]
  rw [hbefore, if_neg Bool.false_ne_true, Nat.add_zero] at hadvance
  by_cases hwindow : call.window = window
  · -- the call counts in the row of its own window
    have hkey : window.key = call.key := by
      rw [← hwindow]
      rfl
    have hexpires : call.expiresAt = toISOString (window.expires policies) := by
      rw [← hwindow, Window.expires, Window.policy, RateLimitCall.expiresAt, hpolicy]
      rfl
    have hrow : rowAt (call.batch w.rows) window.key =
        some { key := call.key, requestCount := countAt w.rows call.key + 1,
               expiresAt := call.expiresAt } := by
      have hself := rowAt_countRequest_self call.key call.expiresAt w.rows
      rw [hkey, RateLimitCall.batch, rowAt_deleteSomeExpired, hself]
      intro row hrow
      rw [hself] at hrow
      obtain rfl := Option.some.inj hrow
      rw [hexpires]
      exact not_le_of_gt (toISOString_lt hnow hyear)
    have hafter : RateLimitCall.isCounted window { call with progress := .counted } = true := by
      simp [RateLimitCall.isCounted, ← hwindow, RateLimitCall.window, RateLimitCall.bucketStart]
    rw [hafter, if_pos rfl] at hadvance
    constructor
    · rw [countAt, hrow, LimiterWorld.counted, hadvance, ← hkey]
      exact congrArg (· + 1) h.count
    · intro row hfound
      rw [hrow] at hfound
      obtain rfl := Option.some.inj hfound
      exact hexpires
  · -- the row of any other window is neither counted nor deleted
    have hcallYear : FourDigitYear call.bucketStart := by
      have hle := call.bucketStart_le
      exact (hcomparable call.scopeKey call.action).of_le (by omega)
    have hwindowYear : FourDigitYear window.start := hyear.of_le (Nat.le_add_right ..)
    have hkey : window.key ≠ call.key := fun heq =>
      hwindow (Window.key_inj (a := call.window) hcallYear hwindowYear heq.symm)
    have hother := rowAt_countRequest_of_ne hkey call.expiresAt w.rows
    have hrow : rowAt (call.batch w.rows) window.key = rowAt w.rows window.key := by
      rw [RateLimitCall.batch, rowAt_deleteSomeExpired, hother]
      rw [hother]
      exact h.not_le hyear hnow
    have hafter : RateLimitCall.isCounted window { call with progress := .counted } = false := by
      have hsame : RateLimitCall.window { call with progress := .counted } = call.window := rfl
      simp [RateLimitCall.isCounted, hsame, hwindow]
    rw [hafter, if_neg Bool.false_ne_true, Nat.add_zero] at hadvance
    constructor
    · rw [countAt, hrow, LimiterWorld.counted, hadvance]
      exact h.count
    · rw [hrow]
      exact h.expires

/-- A call that has performed its batch stays counted. -/
theorem counted_readsBack {w : LimiterWorld} {position : Nat} {call : RateLimitCall}
    {window : Window} (hat : w.calls[position]? = some call)
    (hcounted : call.progress = .counted) {progress : RateLimitProgress}
    (hprogress : progress ≠ .opened) :
    (w.calls.set position { call with progress := progress }).countP
      (RateLimitCall.isCounted window) = w.counted window := by
  have hadvance := countP_advance hat { call with progress := progress }
    (RateLimitCall.isCounted window)
  have hsame : RateLimitCall.isCounted window { call with progress := progress } =
      call.isCounted window := by
    have hwindow : RateLimitCall.window { call with progress := progress } = call.window := rfl
    simp [RateLimitCall.isCounted, hwindow, hcounted, hprogress]
  rw [hsame] at hadvance
  exact Nat.add_right_cancel hadvance

/-- A call that returns in its window has read a count within the limit. -/
theorem counted_le_of_answer {w : LimiterWorld} {call : RateLimitCall} {window : Window}
    (hcall : call ∈ w.calls) (hkept : CallsKept policies w) (hwindow : call.window = window)
    (hcounted : call.progress = .counted) (hrow : RowKept policies w window)
    (hanswer : call.answer w.rows = .ok ()) :
    w.counted window ≤ (window.policy policies).maximumRequests := by
  have hpolicy : call.policy = window.policy policies := by
    rw [hkept.policy call hcall, ← hwindow]
    rfl
  have hkey : call.key = window.key := by
    rw [← hwindow]
    rfl
  have hcount := hrow.count
  have hpositive : 1 ≤ w.counted window :=
    List.countP_pos_iff.mpr ⟨call, hcall, by simp [RateLimitCall.isCounted, hwindow, hcounted]⟩
  unfold RateLimitCall.answer at hanswer
  rw [hkey, hpolicy] at hanswer
  unfold countAt at hcount
  cases hat : rowAt w.rows window.key with
  | none =>
      rw [hat] at hcount
      simp at hcount
      omega
  | some row =>
      rw [hat] at hcount hanswer
      simp only [Option.map_some, Option.getD_some] at hcount hanswer
      split at hanswer
      · cases hanswer
      · omega

/-- Reading back keeps the tally: who returns in the window is among the counted. -/
theorem Tallied.readsBack {w : LimiterWorld} {position : Nat} {call : RateLimitCall}
    (h : Tallied policies w) (hat : w.calls[position]? = some call)
    (hcounted : call.progress = .counted) :
    Tallied policies { w with
      calls := w.calls.set position
        { call with progress := match call.answer w.rows with
            | .ok () => .returned w.clock
            | .error error => .refused error } } := by
  have hbefore : ∀ window, call.hasReturned window = false := fun window => by
    simp [RateLimitCall.hasReturned, hcounted]
  cases hanswer : call.answer w.rows with
  | error error =>
      have hcount : ∀ window, (w.calls.set position { call with progress := .refused error }).countP
          (RateLimitCall.isCounted window) = w.counted window :=
        fun window => counted_readsBack hat hcounted (by simp)
      constructor
      · exact h.calls.set (mem_calls hat) _
      · intro window hyear hlive
        have hrow := h.rows window hyear hlive
        exact ⟨hrow.count.trans (hcount window).symm, hrow.expires⟩
      · intro window hyear
        have hadvance := countP_advance hat { call with progress := .refused error }
          (RateLimitCall.hasReturned window)
        have hafter : RateLimitCall.hasReturned window
            { call with progress := .refused error } = false := by
          simp [RateLimitCall.hasReturned]
        rw [hbefore, hafter] at hadvance
        rw [LimiterWorld.returned, Nat.add_right_cancel hadvance]
        exact h.bound window hyear
  | ok _ =>
      have hcount : ∀ window, (w.calls.set position
          { call with progress := .returned w.clock }).countP
          (RateLimitCall.isCounted window) = w.counted window :=
        fun window => counted_readsBack hat hcounted (by simp)
      constructor
      · exact h.calls.set (mem_calls hat) _
      · intro window hyear hlive
        have hrow := h.rows window hyear hlive
        exact ⟨hrow.count.trans (hcount window).symm, hrow.expires⟩
      · intro window hyear
        have hadvance := countP_advance hat { call with progress := .returned w.clock }
          (RateLimitCall.hasReturned window)
        by_cases hafter : RateLimitCall.hasReturned window
            { call with progress := .returned w.clock } = true
        · -- everything that has returned has been counted, and the count is within the limit
          have hfacts := hafter
          simp only [RateLimitCall.hasReturned, Bool.and_eq_true, decide_eq_true_eq] at hfacts
          have hwindow : call.window = window := hfacts.1
          have hlength : call.policy = window.policy policies := by
            rw [h.calls.policy call (mem_calls hat), ← hwindow]
            rfl
          have hlive : w.clock < window.expires policies := by
            have hlt := hfacts.2
            rw [hlength] at hlt
            unfold Window.expires
            omega
          have hle := counted_le_of_answer (mem_calls hat) h.calls hwindow hcounted
            (h.rows window hyear hlive) hanswer
          have hmono := LimiterWorld.returned_le_counted
            { w with calls := w.calls.set position { call with progress := .returned w.clock } }
            window
          rw [LimiterWorld.counted, hcount window] at hmono
          exact hmono.trans hle
        · rw [hbefore, if_neg Bool.false_ne_true, if_neg hafter] at hadvance
          rw [LimiterWorld.returned, Nat.add_right_cancel hadvance]
          exact h.bound window hyear

/-- Every step keeps the tally. -/
theorem Tallied.step {w : LimiterWorld} (event : LimiterEvent)
    (hcomparable : Comparable policies (limiterStep policies w event).clock)
    (h : Tallied policies w) : Tallied policies (limiterStep policies w event) := by
  cases event with
  | passes milliseconds =>
      constructor
      · constructor
        · exact h.calls.policy
        · exact fun call hcall => (h.calls.past call hcall).trans (Nat.le_add_right ..)
      · intro window hyear hlive
        have hbefore : w.clock < window.expires policies :=
          (Nat.le_add_right w.clock milliseconds).trans_lt hlive
        have hrow := h.rows window hyear hbefore
        exact ⟨hrow.count, hrow.expires⟩
      · exact h.bound
  | opens scopeKey action =>
      cases hcheck : checkRateLimitArguments scopeKey action (policies scopeKey action) with
      | error _ =>
          simp only [limiterStep, hcheck]
          exact h
      | ok _ =>
          -- a new call is neither counted nor has it returned
          simp only [limiterStep, hcheck]
          constructor
          · constructor
            · intro call hcall
              rcases List.mem_append.mp hcall with hold | hnew
              · exact h.calls.policy call hold
              · rw [List.mem_singleton.mp hnew]
            · intro call hcall
              rcases List.mem_append.mp hcall with hold | hnew
              · exact h.calls.past call hold
              · rw [List.mem_singleton.mp hnew]
          · intro window hyear hlive
            have hrow := h.rows window hyear hlive
            constructor
            · rw [hrow.count]
              simp [LimiterWorld.counted, List.countP_append, RateLimitCall.isCounted]
            · exact hrow.expires
          · intro window hyear
            have hbound := h.bound window hyear
            simpa [LimiterWorld.returned, List.countP_append, RateLimitCall.hasReturned] using hbound
  | performsBatch position =>
      cases hat : w.calls[position]? with
      | none =>
          simp only [limiterStep, hat]
          exact h
      | some call =>
          by_cases hopened : call.progress = .opened
          · simp only [limiterStep, hat, if_pos hopened] at hcomparable ⊢
            constructor
            · exact h.calls.set (mem_calls hat) .counted
            · intro window hyear hlive
              exact (h.rows window hyear hlive).performsBatch h.calls hat hopened hcomparable hyear
                hlive
            · intro window hyear
              have hadvance := countP_advance hat { call with progress := .counted }
                (RateLimitCall.hasReturned window)
              have hbefore : call.hasReturned window = false := by
                simp [RateLimitCall.hasReturned, hopened]
              have hafter : RateLimitCall.hasReturned window
                  { call with progress := .counted } = false := by
                simp [RateLimitCall.hasReturned]
              rw [hbefore, hafter] at hadvance
              rw [LimiterWorld.returned, Nat.add_right_cancel hadvance]
              exact h.bound window hyear
          · simp only [limiterStep, hat, if_neg hopened]
            exact h
  | readsBack position =>
      cases hat : w.calls[position]? with
      | none =>
          simp only [limiterStep, hat]
          exact h
      | some call =>
          by_cases hcounted : call.progress = .counted
          · simp only [limiterStep, hat, if_pos hcounted] at hcomparable ⊢
            exact h.readsBack hat hcounted
          · simp only [limiterStep, hat, if_neg hcounted]
            exact h
  | maintains age =>
      constructor
      · exact ⟨h.calls.policy, h.calls.past⟩
      · intro window hyear hlive
        have hrow := h.rows window hyear hlive
        have hnow : w.clock - age < window.expires policies := (Nat.sub_le ..).trans_lt hlive
        have hsame := rowAt_deleteExpired (hrow.not_le hyear hnow)
        constructor
        · show countAt (deleteExpired _ w.rows) window.key = w.counted window
          rw [countAt, hsame]
          exact hrow.count
        · show ∀ row, rowAt (deleteExpired _ w.rows) window.key = some row → _
          rw [hsame]
          exact hrow.expires
      · exact h.bound

/-- The clock does not run backwards. -/
theorem clock_le_limiterStep (policies : String → String → RateLimitPolicy) (w : LimiterWorld)
    (event : LimiterEvent) : w.clock ≤ (limiterStep policies w event).clock := by
  cases event with
  | passes milliseconds => exact Nat.le_add_right ..
  | opens scopeKey action =>
      simp only [limiterStep]
      split <;> exact le_rfl
  | performsBatch position =>
      simp only [limiterStep]
      split
      · exact le_rfl
      · split <;> exact le_rfl
  | readsBack position =>
      simp only [limiterStep]
      split
      · exact le_rfl
      · split <;> exact le_rfl
  | maintains age => exact le_rfl

/-- The tally holds along every run. -/
theorem Tallied.run {clock : Nat} {events : List LimiterEvent}
    (hcomparable : Comparable policies
      (TransitionSystem.run (limiterStep policies) (.start clock) events).clock) :
    Tallied policies (TransitionSystem.run (limiterStep policies) (.start clock) events) := by
  have hstep : ∀ w event, (Comparable policies w.clock → Tallied policies w) →
      Comparable policies (limiterStep policies w event).clock →
      Tallied policies (limiterStep policies w event) := by
    intro w event ih hafter
    have hle := clock_le_limiterStep policies w event
    refine Tallied.step event hafter (ih fun scopeKey action => ?_)
    exact (hafter scopeKey action).of_le (by omega)
  exact TransitionSystem.run_invariant
    (I := fun w => Comparable policies w.clock → Tallied policies w) hstep events
    (fun _ => .start clock) hcomparable

/-- A call leaves the rows of other windows alone, apart from expired ones. -/
theorem rowAt_limiterStep_of_ne {w : LimiterWorld} {position : Nat} {call : RateLimitCall}
    {key : BucketKey} (hat : w.calls[position]? = some call) (hkey : key ≠ call.key)
    {event : LimiterEvent}
    (hevent : event = .performsBatch position ∨ event = .readsBack position) :
    rowAt (limiterStep policies w event).rows key = rowAt w.rows key ∨
      ∃ row, rowAt w.rows key = some row ∧ row.expiresAt ≤ toISOString call.nowMilliseconds := by
  rcases hevent with rfl | rfl
  · by_cases hopened : call.progress = .opened
    · simp only [limiterStep, hat, if_pos hopened]
      have hother := rowAt_countRequest_of_ne hkey call.expiresAt w.rows
      by_cases hlive : ∀ row, rowAt w.rows key = some row →
          ¬ row.expiresAt ≤ toISOString call.nowMilliseconds
      · left
        rw [RateLimitCall.batch, rowAt_deleteSomeExpired, hother]
        rw [hother]
        exact hlive
      · right
        push Not at hlive
        exact hlive
    · left
      simp only [limiterStep, hat, if_neg hopened]
  · left
    by_cases hcounted : call.progress = .counted
    · simp only [limiterStep, hat, if_pos hcounted]
    · simp only [limiterStep, hat, if_neg hcounted]

/--
In every interleaving of calls, cleanups and time, what has returned normally of the calls of a
window while it lasted is at most the limit of its scope and action; and no step of a call,
whether it returns or is refused, changes the count of another window that has not expired.
-/
theorem rate_limit_never_exceeded (policies : String → String → RateLimitPolicy) (clock : Nat)
    (events : List LimiterEvent)
    (hcomparable : Comparable policies
      (TransitionSystem.run (limiterStep policies) (.start clock) events).clock) :
    (∀ scopeKey action start,
      (TransitionSystem.run (limiterStep policies) (.start clock) events).returned
        { scopeKey := scopeKey, action := action, start := start } ≤
      (policies scopeKey action).maximumRequests) ∧
    ∀ position call key,
      (TransitionSystem.run (limiterStep policies) (.start clock) events).calls[position]? =
        some call → key ≠ call.key →
      ∀ event, event = .performsBatch position ∨ event = .readsBack position →
        rowAt (TransitionSystem.run (limiterStep policies) (.start clock)
            (events ++ [event])).rows key =
          rowAt (TransitionSystem.run (limiterStep policies) (.start clock) events).rows key ∨
        ∃ row, rowAt (TransitionSystem.run (limiterStep policies) (.start clock) events).rows key =
          some row ∧ row.expiresAt ≤ toISOString call.nowMilliseconds := by
  have htallied := Tallied.run hcomparable
  generalize hw : TransitionSystem.run (limiterStep policies) (.start clock) events = w at *
  constructor
  · intro scopeKey action start
    by_cases hsome : w.returned { scopeKey := scopeKey, action := action, start := start } = 0
    · rw [hsome]
      exact Nat.zero_le _
    · -- a call of the window started by now, so its texts can be compared
      rcases List.countP_pos_iff.mp (Nat.pos_of_ne_zero hsome) with ⟨call, hcall, hreturned⟩
      have hwindow : call.window =
          { scopeKey := scopeKey, action := action, start := start } := by
        unfold RateLimitCall.hasReturned at hreturned
        exact of_decide_eq_true (Bool.and_eq_true_iff.mp hreturned).1
      have hstart : start ≤ w.clock := by
        have hle := call.bucketStart_le.trans (htallied.calls.past call hcall)
        have heq : call.bucketStart = start := congrArg Window.start hwindow
        rwa [heq] at hle
      refine htallied.bound _ ((hcomparable scopeKey action).of_le ?_)
      exact Nat.add_le_add_right hstart _
  · intro position call key hat hkey event hevent
    rw [TransitionSystem.run_append, hw]
    exact rowAt_limiterStep_of_ne hat hkey hevent

/-! ## A sample -/

/-- One call in each second. -/
def samplePolicies : String → String → RateLimitPolicy :=
  fun _ _ => { maximumRequests := 1, windowMilliseconds := 1000 }

/-- Two calls of a window, one behind the other at each statement. -/
def sampleLimiterEvents : List LimiterEvent :=
  [.opens "tenant-0001" "offer.create", .passes 5, .opens "tenant-0001" "offer.create",
    .performsBatch 0, .readsBack 0, .performsBatch 1, .maintains 0, .readsBack 1]

/-- The first call returns, the second is refused. -/
theorem rate_limit_never_exceeded_sample :
    (TransitionSystem.run (limiterStep samplePolicies) (.start 5000) sampleLimiterEvents).returned
      { scopeKey := "tenant-0001", action := "offer.create", start := 5000 } ≤ 1 ∧
    0 < (TransitionSystem.run (limiterStep samplePolicies) (.start 5000)
      sampleLimiterEvents).returned
      { scopeKey := "tenant-0001", action := "offer.create", start := 5000 } := by
  refine ⟨(rate_limit_never_exceeded samplePolicies 5000 sampleLimiterEvents ?_).1 "tenant-0001"
    "offer.create" 5000, ?_⟩
  · intro scopeKey action
    have hclock : (TransitionSystem.run (limiterStep samplePolicies) (.start 5000)
        sampleLimiterEvents).clock = 5005 := by
      decide +kernel
    rw [hclock]
    exact fourDigitYear_of_lt (by simp [samplePolicies])
  · decide +kernel

end Server
end TokenStreaming
