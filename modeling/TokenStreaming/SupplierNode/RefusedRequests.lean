import TokenStreaming.SupplierNode.RequestOnce

/-!
# Supplier node - Refused requests

A call can be refused for want of capacity before the provider is asked: while the node shuts
down, when the idempotency map is full, or by the capacity gate.  The first two come before the
id is claimed, the gate is asked behind the claim.  A later identical call that finds free
capacity is executed exactly when no claim of its id is in force.

Main results:

- Theorem {lit}`executes_iff_unclaimed`: which calls with free capacity are executed.
- Theorem {lit}`retry_executes_iff`: a refused request and its retry, after every run.
-/

namespace TokenStreaming
namespace SupplierNode

open Domain LiveClaims TransitionSystem

/-! ## Refusals and executions -/

/-- A retryable error for want of capacity. -/
def IsCapacityRefusal : Thrown → Prop
  | .node error => error.code = .CAPACITY_EXCEEDED ∧ error.retryable = true
  | .plain _ => False

/-- The call is answered with such an error, and the provider was not asked. -/
def RefusedEarly (after : RuntimeWorld × Reply) : Prop :=
  ∃ error, IsCapacityRefusal error ∧
    (after.2 = .thrown error ∨
      ∃ promise, (after.2 = .started promise ∨ after.2 = .joined promise) ∧
        after.1.promises[promise]? = some (.rejected error))

/-- The call gives the request to the provider, and completes with every valid result. -/
def Executes (config : SupplierNodeConfig) (request : SupplierGatewayInferenceRequest)
    (after : RuntimeWorld × Reply) : Prop :=
  ∃ promise, after.2 = .started promise ∧
    after.1.promises[promise]? = some (.pending request) ∧
    ∀ result completedMs,
      validateProviderResult result request.model request.maxOutputTokens = .ok () →
        (after.1.settle config promise (.ok result) completedMs).answer request.requestId
            promise =
          some ⟨200, .response (executionResponse config request result completedMs)⟩

/-- No claim of the id is in force. -/
def Unclaimed (options : JournalOptions) (journal : JournalWorld) (requestId : String) : Prop :=
  digestIdentifier options requestId ∉ (journal.liveRequests options).map Prod.fst

/-- A call that is verified and admitted by a node that serves. -/
structure Arrives (config : SupplierNodeConfig) (w : RuntimeWorld) (call : SignedGatewayCall)
    (nonceDisk : ClaimDisk) where
  guard : ReplayGuard
  node : w.journal.node = .up guard
  serving : w.draining = false
  checked : CheckedCall
  verified : (w.journal.verify config.journal guard call nonceDisk).2 = .ok checked
  verifiedGuard : ReplayGuard
  verifiedNode : (w.journal.verify config.journal guard call nonceDisk).1.node =
    .up verifiedGuard
  request : SupplierGatewayInferenceRequest
  admitted : admitRequest config call.rawBody checked = .ok request

/-- The idempotency map and the capacity gate have room for the call, and the journal can
write. -/
structure Arrives.FreeCapacity {config : SupplierNodeConfig} {w : RuntimeWorld}
    {call : SignedGatewayCall} {nonceDisk : ClaimDisk} (a : Arrives config w call nonceDisk)
    (requestDisk : ClaimDisk) (acquireMs : Nat) : Prop where
  room : (w.pruneIdempotency w.journal.clock).idempotency.size < maximumIdempotencyEntries
  gate : (w.capacity.acquire config.limits
    (a.request.input.utf8ByteSize + a.request.maxOutputTokens) acquireMs).2 = .ok ()
  journal : (a.verifiedGuard.journal.claimRequest config.journal a.request.requestId
    a.checked.bodySha256 (w.journal.clock + idempotencyTtlMs) w.journal.clock
    requestDisk).result ≠ .error replayProtectionUnavailable

/-! ## Claims of the journal -/

/-- A claim behind its checks succeeds unless the disk fails. -/
theorem ReplayJournal.claim_result (options : JournalOptions) (j : ReplayJournal)
    (record : ReplayRecord) (nowMs : Nat) (disk : ClaimDisk) :
    (j.claim options record nowMs disk).result = .ok () ∨
      (j.claim options record nowMs disk).result = .error replayProtectionUnavailable := by
  unfold ReplayJournal.claim
  dsimp only
  by_cases hreturned : (j.append record nowMs disk).returned = true
  · rw [if_pos hreturned]
    split
    · exact .inl rfl
    · exact .inr rfl
  · rw [if_neg hreturned]
    exact .inr rfl

/-- A request that is not claimed can be claimed unless the disk fails. -/
theorem ReplayJournal.claimRequest_free (options : JournalOptions) {j : ReplayJournal}
    {nowMs : Nat} {nonces : List (String × Nat)} {requests : List (String × RequestEntry)}
    (hhealthy : j.terminalFailure = false) (hmemory : Recalls j nowMs nonces requests)
    {requestId bodySha256 : String} (hdigest : isHexDigest bodySha256 = true)
    (hfree : digestIdentifier options requestId ∉ requests.map Prod.fst) (expiresAt : Nat)
    (disk : ClaimDisk) :
    (j.claimRequest options requestId bodySha256 expiresAt nowMs disk).result = .ok () ∨
      (j.claimRequest options requestId bodySha256 expiresAt nowMs disk).result =
        .error replayProtectionUnavailable := by
  have hget : (j.prune nowMs).maps.requests.get (digestIdentifier options requestId) =
      none := by
    rw [InsertionMap.get_eq_none_iff, hmemory.holds_prune.requests]
    exact hfree
  have hcall : j.claimRequest options requestId bodySha256 expiresAt nowMs disk =
      (j.prune nowMs).claim options
        (.request (digestIdentifier options requestId)
          (createBodyCommitment options bodySha256) expiresAt) nowMs disk := by
    simp [claimRequest, hhealthy, hdigest, hget]
  rw [hcall]
  exact claim_result ..

/-- The journal never throws for want of capacity. -/
theorem ReplayJournal.claimRequest_not_capacity (options : JournalOptions) (j : ReplayJournal)
    (requestId bodySha256 : String) (expiresAt nowMs : Nat) (disk : ClaimDisk) {error : Thrown}
    (h : (j.claimRequest options requestId bodySha256 expiresAt nowMs disk).result =
      .error error) : ¬ IsCapacityRefusal error := by
  have hunavailable : ¬ IsCapacityRefusal replayProtectionUnavailable := by
    rintro ⟨hcode, -⟩
    cases hcode
  unfold ReplayJournal.claimRequest at h
  dsimp only at h
  split at h
  · rw [← Except.error.inj h]
    exact hunavailable
  · split at h
    · rw [← Except.error.inj h]
      exact id
    · split at h
      · split at h
        · rw [← Except.error.inj h]
          rintro ⟨hcode, -⟩
          cases hcode
        · rw [← Except.error.inj h]
          rintro ⟨hcode, -⟩
          cases hcode
      · rcases claim_result options _ _ _ _ with hok | herror
        · rw [hok] at h
          cases h
        · rw [herror] at h
          rw [← Except.error.inj h]
          exact hunavailable

/-! ## Calls with free capacity -/

section Calls

variable {config : SupplierNodeConfig} {w : RuntimeWorld}

/-- Giving a request to the provider, with room in the gate. -/
theorem execute_of_acquire (request : SupplierGatewayInferenceRequest) {acquireMs : Nat}
    (h : (w.capacity.acquire config.limits
      (request.input.utf8ByteSize + request.maxOutputTokens) acquireMs).2 = .ok ()) :
    (w.execute config request acquireMs).promises = w.promises ++ [.pending request] := by
  unfold RuntimeWorld.execute
  dsimp only
  generalize w.capacity.acquire config.limits
    (request.input.utf8ByteSize + request.maxOutputTokens) acquireMs = acquired at h
  rcases acquired with ⟨capacity, result⟩
  dsimp only at h
  rw [h]

/-- A valid result of the provider completes a pending promise. -/
theorem settle_answer {request : SupplierGatewayInferenceRequest} {promise : Nat}
    (h : w.promises[promise]? = some (.pending request)) {result : SupplierProviderResult}
    (hvalid : validateProviderResult result request.model request.maxOutputTokens = .ok ())
    (completedMs : Nat) :
    (w.settle config promise (.ok result) completedMs).answer request.requestId promise =
      some ⟨200, .response (executionResponse config request result completedMs)⟩ := by
  have hlt : promise < w.promises.length := by
    by_contra hge
    rw [List.getElem?_eq_none (Nat.not_lt.mp hge)] at h
    cases h
  have hdone : completeExecution config request (.ok result) completedMs =
      ⟨200, .response (executionResponse config request result completedMs)⟩ := by
    unfold completeExecution
    dsimp only
    rw [hvalid]
  unfold RuntimeWorld.settle
  rw [h]
  unfold RuntimeWorld.answer
  dsimp only
  rw [List.getElem?_set_self hlt, hdone]

/-- A request without a claim has no entry in the map. -/
theorem Served.unclaimed_get (h : Served config.journal w) {requestId : String}
    (hfree : Unclaimed config.journal w.journal requestId) :
    (w.pruneIdempotency w.journal.clock).idempotency.get requestId = none := by
  cases hget : (w.pruneIdempotency w.journal.clock).idempotency.get requestId with
  | none => rfl
  | some entry =>
      rcases InsertionMap.get_filter_eq_some_iff.mp hget with ⟨hstored, hunexpired⟩
      have hkept : w.journal.clock ≤ entry.expiresAt := by
        rw [Bool.not_eq_true', decide_eq_false_iff_not] at hunexpired
        omega
      rcases h.entries _ (InsertionMap.get_eq_some_iff.mp hstored) with
        ⟨c, hc, hstarted, -, hid, -, hexpires⟩
      dsimp only at hstarted hid hexpires
      have hlive := h.mem_liveRequests hc hstarted (by omega)
      have hkey : digestIdentifier config.journal c.requestId ∈
          (w.journal.liveRequests config.journal).map Prod.fst :=
        List.mem_map_of_mem (f := Prod.fst) hlive
      rw [hid] at hkey
      exact absurd hkey hfree

/-- What an admitted call with free capacity does: it is executed when its id has no claim,
and else it makes no promise. -/
theorem Served.dispatch_executes_iff (h : Served config.journal w) {g : ReplayGuard}
    (hnode : w.journal.node = .up g) (hhealthy : g.journal.terminalFailure = false)
    (request : SupplierGatewayInferenceRequest) {bodySha256 : String}
    (hdigest : isHexDigest bodySha256 = true) (disk : ClaimDisk) (acquireMs : Nat)
    (hroom : (w.pruneIdempotency w.journal.clock).idempotency.size < maximumIdempotencyEntries)
    (hgate : (w.capacity.acquire config.limits
      (request.input.utf8ByteSize + request.maxOutputTokens) acquireMs).2 = .ok ())
    (hjournal : (g.journal.claimRequest config.journal request.requestId bodySha256
      (w.journal.clock + idempotencyTtlMs) w.journal.clock disk).result ≠
        .error replayProtectionUnavailable) :
    (Unclaimed config.journal w.journal request.requestId →
      (w.dispatch config g request bodySha256 disk acquireMs).2 = .started w.promises.length ∧
      (w.dispatch config g request bodySha256 disk acquireMs).1.promises =
        w.promises ++ [.pending request]) ∧
    (¬ Unclaimed config.journal w.journal request.requestId →
      ∀ promise, (w.dispatch config g request bodySha256 disk acquireMs).2 ≠
        .started promise) := by
  have hmemory := h.refines.memory g hnode hhealthy
  constructor
  · intro hfree
    have hget := h.unclaimed_get hfree
    have hclaimed : (g.journal.claimRequest config.journal request.requestId bodySha256
        (w.journal.clock + idempotencyTtlMs) w.journal.clock disk).result = .ok () := by
      rcases ReplayJournal.claimRequest_free config.journal hhealthy hmemory hdigest hfree _ disk
        with hok | herror
      · exact hok
      · exact absurd herror hjournal
    unfold RuntimeWorld.dispatch
    simp only [hget, if_neg (Nat.not_le.mpr hroom), hclaimed]
    refine ⟨rfl, ?_⟩
    exact execute_of_acquire request hgate
  · intro hclaimed promise
    unfold RuntimeWorld.dispatch
    dsimp only
    cases hget : (w.pruneIdempotency w.journal.clock).idempotency.get request.requestId with
    | some existing =>
        dsimp only
        split
        · exact thrown_ne_started _ _
        · exact joined_ne_started _ _
    | none =>
        dsimp only
        rw [if_neg (Nat.not_le.mpr hroom)]
        rcases List.mem_map.mp (not_not.mp hclaimed) with ⟨entry, hentry, hkey⟩
        have hmem : (digestIdentifier config.journal request.requestId, entry.2) ∈
            w.journal.liveRequests config.journal := by
          rw [← hkey]
          exact hentry
        rw [ReplayJournal.claimRequest_refused config.journal hhealthy hmemory hdigest hmem]
        exact thrown_ne_started _ _

theorem eq_mk_of_snd {α β : Type} {p : α × β} {b : β} (h : p.2 = b) : p = (p.1, b) := by
  rw [← h]

/-- A call that is verified and admitted is dispatched, and the reply recorded. -/
theorem handleInference_of_verified {g g' : ReplayGuard} {call : SignedGatewayCall}
    {nonceDisk : ClaimDisk} {journal : JournalWorld} {checked : CheckedCall}
    {request : SupplierGatewayInferenceRequest} (hserving : w.draining = false)
    (hverified : w.journal.verify config.journal g call nonceDisk = (journal, .ok checked))
    (hnode : journal.node = .up g') (hadmitted : admitRequest config call.rawBody checked =
      .ok request) (requestDisk : ClaimDisk) (acquireMs : Nat) :
    w.handleInference config g call nonceDisk requestDisk acquireMs =
      let after := { w with journal }.dispatch config g' request checked.bodySha256 requestDisk
        acquireMs
      (after.1.record request.requestId checked.bodySha256 after.2, after.2) := by
  unfold RuntimeWorld.handleInference
  rw [if_neg (by rw [hserving]; exact Bool.false_ne_true), hverified]
  simp only [hadmitted, hnode]

theorem Arrives.handleInference_eq {call : SignedGatewayCall} {nonceDisk : ClaimDisk}
    (a : Arrives config w call nonceDisk) (requestDisk : ClaimDisk) (acquireMs : Nat) :
    w.handleInference config a.guard call nonceDisk requestDisk acquireMs =
      let after := { w with journal := (w.journal.verify config.journal a.guard call
        nonceDisk).1 }.dispatch config a.verifiedGuard a.request a.checked.bodySha256 requestDisk
          acquireMs
      (after.1.record a.request.requestId a.checked.bodySha256 after.2, after.2) :=
  handleInference_of_verified a.serving (eq_mk_of_snd a.verified) a.verifiedNode a.admitted
    requestDisk acquireMs

/-- A call whose entry is in the map joins its promise. -/
theorem Arrives.joins {call : SignedGatewayCall} {nonceDisk : ClaimDisk}
    (a : Arrives config w call nonceDisk) {existing : IdempotencyEntry}
    (hentry : (w.pruneIdempotency w.journal.clock).idempotency.get a.request.requestId =
      some existing) (hsame : existing.bodySha256 = a.checked.bodySha256)
    (requestDisk : ClaimDisk) (acquireMs : Nat) :
    (w.handleInference config a.guard call nonceDisk requestDisk acquireMs).2 =
      .joined existing.result := by
  have hclock := (@verify_cases config.journal w.journal a.guard call nonceDisk).1
  rw [← hclock] at hentry
  rw [a.handleInference_eq requestDisk acquireMs]
  unfold RuntimeWorld.dispatch
  unfold RuntimeWorld.pruneIdempotency at hentry ⊢
  simp only [hentry, hsame, ne_eq, not_true_eq_false, if_false]

/-- A call with free capacity is executed exactly when no claim of its id is in force. -/
theorem executes_iff_unclaimed (h : Served config.journal w) {call : SignedGatewayCall}
    {nonceDisk requestDisk : ClaimDisk} {acquireMs : Nat} (a : Arrives config w call nonceDisk)
    (hfree : a.FreeCapacity requestDisk acquireMs) :
    Executes config a.request
        (w.handleInference config a.guard call nonceDisk requestDisk acquireMs) ↔
      Unclaimed config.journal w.journal a.request.requestId := by
  have hrefines := h.refines.verify a.node call nonceDisk
  rcases verify_cases a.guard call nonceDisk with ⟨hclock, hrequests, hrunning⟩
  have hdigest := verify_digest a.verified
  rcases hrunning a.checked a.verified with ⟨g', hup, hhealthy⟩
  rw [a.verifiedNode] at hup
  obtain rfl := Node.up.inj hup
  have hresult := a.handleInference_eq requestDisk acquireMs
  have hlive : (w.journal.verify config.journal a.guard call nonceDisk).1.liveRequests
      config.journal = w.journal.liveRequests config.journal := by
    unfold JournalWorld.liveRequests
    rw [hclock, hrequests]
  have hserved := h.withJournal hrefines (Nat.le_of_eq hclock.symm) hrequests
  rw [hresult]
  dsimp only
  have hroom := hfree.room
  have hjournal := hfree.journal
  rw [← hclock] at hroom hjournal
  rcases hserved.dispatch_executes_iff (w := { w with journal := (w.journal.verify config.journal
    a.guard call nonceDisk).1 }) a.verifiedNode hhealthy a.request hdigest requestDisk acquireMs
    hroom hfree.gate hjournal with ⟨hexecutes, hrefused⟩
  have hsame : Unclaimed config.journal (w.journal.verify config.journal a.guard call
      nonceDisk).1 a.request.requestId ↔
      Unclaimed config.journal w.journal a.request.requestId := by
    unfold Unclaimed
    rw [hlive]
  constructor
  · rintro ⟨promise, hstarted, -⟩
    by_contra hclaimed
    exact hrefused (fun hunclaimed => hclaimed (hsame.mp hunclaimed)) promise hstarted
  · intro hunclaimed
    rcases hexecutes (hsame.mpr hunclaimed) with ⟨hstarted, hpromises⟩
    have hpending : (RuntimeWorld.dispatch config { w with journal := (w.journal.verify
        config.journal a.guard call nonceDisk).1 } a.verifiedGuard a.request
        a.checked.bodySha256 requestDisk acquireMs).1.promises[w.promises.length]? =
        some (.pending a.request) := by
      rw [hpromises]
      exact List.getElem?_concat_length
    refine ⟨w.promises.length, hstarted, hpending, ?_⟩
    intro result completedMs hvalid
    exact settle_answer (w := RuntimeWorld.record _ _ _ _) hpending hvalid completedMs

/-! ## A refused call -/

theorem dispatch_calls (g : ReplayGuard) (request : SupplierGatewayInferenceRequest)
    (bodySha256 : String) (disk : ClaimDisk) (acquireMs : Nat) :
    (w.dispatch config g request bodySha256 disk acquireMs).1.calls = w.calls := by
  unfold RuntimeWorld.dispatch
  dsimp only
  split
  · split
    · rfl
    · rfl
  · split
    · rfl
    · split
      · rfl
      · exact (execute_cases config _ request acquireMs).2.2.2.1

theorem dispatch_clock (g : ReplayGuard) (request : SupplierGatewayInferenceRequest)
    (bodySha256 : String) (disk : ClaimDisk) (acquireMs : Nat) :
    (w.dispatch config g request bodySha256 disk acquireMs).1.journal.clock =
      w.journal.clock := by
  unfold RuntimeWorld.dispatch
  dsimp only
  split
  · split
    · rfl
    · rfl
  · split
    · rfl
    · split
      · rfl
      · have hsame := (execute_cases config
          { w.pruneIdempotency w.journal.clock with
            journal := w.journal.claimRequest config.journal g request.requestId bodySha256
              (w.journal.clock + idempotencyTtlMs) disk } request acquireMs).1
        have hclock := congrArg JournalWorld.clock hsame
        exact hclock

/-- An admitted call that is refused for want of capacity, with no promise, claims nothing. -/
theorem dispatch_thrown (g : ReplayGuard) (request : SupplierGatewayInferenceRequest)
    (bodySha256 : String) (disk : ClaimDisk) (acquireMs : Nat) {error : Thrown}
    (hthrown : (w.dispatch config g request bodySha256 disk acquireMs).2 = .thrown error)
    (hcapacity : IsCapacityRefusal error) :
    (w.dispatch config g request bodySha256 disk acquireMs).1.journal.requests =
      w.journal.requests := by
  unfold RuntimeWorld.dispatch at hthrown ⊢
  dsimp only at hthrown ⊢
  split
  · split
    · rfl
    · rfl
  · rename_i hget
    rw [hget] at hthrown
    dsimp only at hthrown
    split
    · rfl
    · rename_i hroom
      rw [if_neg hroom] at hthrown
      cases hclaimed : (g.journal.claimRequest config.journal request.requestId bodySha256
          (w.journal.clock + idempotencyTtlMs) w.journal.clock disk).result with
      | error other =>
          rw [hclaimed] at hthrown
          obtain rfl := Reply.thrown.inj hthrown
          exact absurd hcapacity
            (ReplayJournal.claimRequest_not_capacity config.journal g.journal _ _ _ _ _ hclaimed)
      | ok u =>
          rw [hclaimed] at hthrown
          cases hthrown

theorem admitRequest_parses {rawBody : String} {checked : CheckedCall}
    {request : SupplierGatewayInferenceRequest}
    (h : admitRequest config rawBody checked = .ok request) :
    parseInferenceRequest rawBody = .ok request := by
  simp only [admitRequest, Except.bind_eq_ok, Except.pure_eq_ok] at h
  rcases h with ⟨parsed, hparsed, _, -, _, -, rfl⟩
  exact hparsed

/-- The record of a call, and no other, joins the calls. -/
theorem handleInference_calls (g : ReplayGuard) (call : SignedGatewayCall)
    (nonceDisk requestDisk : ClaimDisk) (acquireMs : Nat) :
    w.calls <+: (w.handleInference config g call nonceDisk requestDisk acquireMs).1.calls ∧
      ∀ promise,
        (w.handleInference config g call nonceDisk requestDisk acquireMs).2 = .started promise →
        ∃ c ∈ (w.handleInference config g call nonceDisk requestDisk acquireMs).1.calls,
          c.reply = .started promise ∧ c.atMs = w.journal.clock ∧
          ∃ request, parseInferenceRequest call.rawBody = .ok request ∧
            c.requestId = request.requestId := by
  have hclock := (@verify_cases config.journal w.journal g call nonceDisk).1
  unfold RuntimeWorld.handleInference
  by_cases hdraining : w.draining = true
  · rw [if_pos hdraining]
    refine ⟨List.prefix_rfl, ?_⟩
    intro promise h
    cases h
  · rw [if_neg hdraining]
    generalize w.journal.verify config.journal g call nonceDisk = verified at hclock ⊢
    rcases verified with ⟨journal, result⟩
    cases result with
    | error error =>
        refine ⟨List.prefix_rfl, ?_⟩
        intro promise h
        cases h
    | ok checked =>
        dsimp only at hclock ⊢
        cases hadmitted : admitRequest config call.rawBody checked with
        | error error =>
            refine ⟨List.prefix_rfl, ?_⟩
            intro promise h
            cases h
        | ok request =>
            cases journal.node with
            | down file =>
                refine ⟨List.prefix_rfl, ?_⟩
                intro promise h
                cases h
            | up g' =>
                refine ⟨?_, ?_⟩
                · show w.calls <+: (RuntimeWorld.dispatch config { w with journal } g' request
                    checked.bodySha256 requestDisk acquireMs).1.calls ++ [_]
                  rw [dispatch_calls]
                  exact List.prefix_append _ _
                · intro promise h
                  refine ⟨_, List.mem_append_right _ (List.mem_singleton_self _), h, ?_,
                    request, admitRequest_parses hadmitted, rfl⟩
                  rw [← hclock]
                  exact dispatch_clock g' request checked.bodySha256 requestDisk acquireMs

/-- A call that is refused for want of capacity, with no promise, claims nothing. -/
theorem handleInference_thrown (g : ReplayGuard) (call : SignedGatewayCall)
    (nonceDisk requestDisk : ClaimDisk) (acquireMs : Nat) {error : Thrown}
    (hthrown : (w.handleInference config g call nonceDisk requestDisk acquireMs).2 =
      .thrown error) (hcapacity : IsCapacityRefusal error) :
    (w.handleInference config g call nonceDisk requestDisk acquireMs).1.journal.requests =
      w.journal.requests := by
  have hrequests :=
    (@verify_cases config.journal w.journal g call nonceDisk).2.1
  unfold RuntimeWorld.handleInference at hthrown ⊢
  by_cases hdraining : w.draining = true
  · rw [if_pos hdraining]
  · rw [if_neg hdraining] at hthrown ⊢
    generalize w.journal.verify config.journal g call nonceDisk = verified
      at hrequests hthrown ⊢
    rcases verified with ⟨journal, result⟩
    cases result with
    | error error => exact hrequests
    | ok checked =>
        dsimp only at hrequests hthrown ⊢
        cases hadmitted : admitRequest config call.rawBody checked with
        | error error => exact hrequests
        | ok request =>
            rw [hadmitted] at hthrown
            dsimp only at hthrown
            cases hnode : journal.node with
            | down file => exact hrequests
            | up g' =>
                rw [hnode] at hthrown
                rw [← hrequests]
                exact dispatch_thrown (w := { w with journal }) g' request checked.bodySha256
                  requestDisk acquireMs hthrown hcapacity

/-- The recorded calls stay recorded. -/
theorem calls_step (call : RuntimeCall) : w.calls <+: (runtimeStep config w call).calls := by
  cases call with
  | handleInference call nonceDisk requestDisk acquireMs =>
      unfold runtimeStep
      dsimp only
      split
      · exact (handleInference_calls _ call nonceDisk requestDisk acquireMs).1
      · exact List.prefix_rfl
  | handleAttestation call disk =>
      unfold runtimeStep
      dsimp only
      split
      · exact List.prefix_rfl
      · exact List.prefix_rfl
  | settle promise answer completedMs =>
      unfold runtimeStep RuntimeWorld.settle
      dsimp only
      split
      · exact List.prefix_rfl
      · exact List.prefix_rfl
  | _ => exact List.prefix_rfl

end Calls

/-- A request that was refused for want of capacity, before the provider was asked, and an
identical later call that arrives within its lifetime and finds free capacity: the later call
is executed exactly when no claim of the id is in force.  A refusal that makes no promise has
claimed nothing, and one by the capacity gate has left the claim of the refused call in
force. -/
theorem retry_executes_iff (config : SupplierNodeConfig) (clock : Nat)
    (before later : List RuntimeCall) {g : ReplayGuard} {first second : SignedGatewayCall}
    {nonceDisk requestDisk nonceDisk' requestDisk' : ClaimDisk} {acquireMs acquireMs' : Nat}
    {w w' : RuntimeWorld} {after : RuntimeWorld × Reply}
    (hw : w = run (runtimeStep config) (.initial clock) before)
    (hnode : w.journal.node = .up g)
    (hafter : after = w.handleInference config g first nonceDisk requestDisk acquireMs)
    (hrefused : RefusedEarly after)
    (hw' : w' = run (runtimeStep config) after.1 later)
    (hbody : second.rawBody = first.rawBody)
    (a : Arrives config w' second nonceDisk')
    (hfree : a.FreeCapacity requestDisk' acquireMs')
    (hlifetime : w'.journal.clock ≤ w.journal.clock + idempotencyTtlMs) :
    (Executes config a.request
        (w'.handleInference config a.guard second nonceDisk' requestDisk' acquireMs') ↔
      Unclaimed config.journal w'.journal a.request.requestId) ∧
    (∀ error, after.2 = .thrown error → after.1.journal.requests = w.journal.requests) ∧
    (∀ promise, after.2 = .started promise →
      ¬ Unclaimed config.journal w'.journal a.request.requestId) := by
  have hserved : Served config.journal w := by
    rw [hw]
    exact run_invariant (fun _ call h => h.step call) before (Served.initial clock)
  have hserved' : Served config.journal w' := by
    rw [hw', hafter]
    refine run_invariant (fun _ call h => h.step call) later ?_
    exact hserved.handleInference hnode first nonceDisk requestDisk acquireMs
  refine ⟨executes_iff_unclaimed hserved' a hfree, ?_, ?_⟩
  · intro error hthrown
    rcases hrefused with ⟨refusal, hcapacity, hsame | ⟨promise, hpromise | hpromise, -⟩⟩
    · rw [hafter] at hsame ⊢
      exact handleInference_thrown g first nonceDisk requestDisk acquireMs hsame hcapacity
    · rw [hthrown] at hpromise
      cases hpromise
    · rw [hthrown] at hpromise
      cases hpromise
  · intro promise hstarted hunclaimed
    rw [hafter] at hstarted
    rcases (handleInference_calls g first nonceDisk requestDisk acquireMs).2 promise hstarted
      with ⟨c, hc, hreply, htime, request, hparsed, hid⟩
    have hkept : c ∈ w'.calls := by
      rw [hw', hafter]
      refine run_invariant (I := fun v : RuntimeWorld => c ∈ v.calls) ?_ later hc
      exact fun _ call h => (calls_step call).subset h
    have hsame : request = a.request := by
      have hparsed' := admitRequest_parses a.admitted
      rw [hbody, hparsed] at hparsed'
      exact Except.ok.inj hparsed'
    have hlive := hserved'.mem_liveRequests hkept hreply (by omega)
    have hkey : digestIdentifier config.journal c.requestId ∈
        (w'.journal.liveRequests config.journal).map Prod.fst :=
      List.mem_map_of_mem (f := Prod.fst) hlive
    rw [hid, hsame] at hkey
    exact hunclaimed hkey

/-! ## A refusal by the capacity gate -/

/-- The part of {lit}`verify` that follows the check of a call. -/
def JournalWorld.recordChecked (options : JournalOptions) (w : JournalWorld) (g : ReplayGuard)
    (checked : CheckedCall) (disk : ClaimDisk) : JournalWorld × Except Thrown CheckedCall :=
  let recorded := g.verifyAndRecord options checked.nonce checked.timestampMs w.clock disk
  let w' := { w with node := .up recorded.guard }.recordNonce checked.nonce
    (checked.timestampMs + replayWindowMs) recorded.written recorded.result
  match recorded.result with
  | .ok () =>
      ({ w' with verified := w'.verified ++ [(checked.nonce, checked.timestampMs)] }, .ok checked)
  | .error error => (w', .error error)

theorem JournalWorld.verify_of_checked {options : JournalOptions} {call : SignedGatewayCall}
    {checked : CheckedCall} (h : checkSignedGatewayCall options call = .ok checked)
    (w : JournalWorld) (g : ReplayGuard) (disk : ClaimDisk) :
    w.verify options g call disk = w.recordChecked options g checked disk := by
  unfold JournalWorld.verify
  rw [h]
  rfl

def Node.isUp : Node → Bool
  | .up _ => true
  | .down _ => false

/-- The guard of a node that runs. -/
def Node.guard : Node → ReplayGuard
  | .up g => g
  | .down file =>
      { seen := .empty
        journal :=
          { maps := .empty
            appendedSinceCompaction := 0
            lastCompactedAt := 0
            terminalFailure := true
            file } }

theorem Node.eq_up {node : Node} (h : node.isUp = true) : node = .up node.guard := by
  cases node with
  | up g => rfl
  | down file => cases h

theorem isHexDigest_lookup {table : List (String × String)} {default : String}
    (htable : ∀ entry ∈ table, isHexDigest entry.2 = true) (hdefault : isHexDigest default = true)
    (key : String) : isHexDigest ((table.lookup key).getD default) = true := by
  induction table with
  | nil => exact hdefault
  | cons entry table ih =>
      rw [List.lookup_cons]
      cases key == entry.1 with
      | true => exact htable entry List.mem_cons_self
      | false => exact ih fun other hother => htable other (List.mem_cons_of_mem entry hother)

/-- The body of the sample request. -/
def retriedBody : String :=
  "\x7b\"protocol_version\":\"gongsuanyun.gateway.v3\",\"request_id\":\"request-0001\"," ++
    "\"model\":\"gpt-test\",\"input\":\"hello\",\"data_class\":\"P0\"," ++
    "\"max_output_tokens\":16,\"stream\":false\x7d"

def retriedDigests : List (String × String) :=
  [("gateway-token-5b1f0c6c2d7e4a90",
      "856b3fa57cdb7fef48f7c76f8568dffe92e93ee09b2cdf0ea3040459bfe437ac"),
    ("nonce-of-the-first-call",
      "87da49ad9444224459548233ad51daa7a2c530e81a06f39be4e482ea9732cceb"),
    ("nonce-of-the-second-call",
      "2c7462ae09fc7138151d4fb1f07bea741c6411d2cfaa297a76c6d3c3efe4701d"),
    ("request-0001", "c78de4e5dea7d4d0e2beb7ed031f772aebeffc2d87fe2848063bc6bee2dfd078"),
    ("0fb3ce0c1cbb00f26afc4c9ef806be823bb943c291effbe97390cafdbf111209",
      "ac7c5adf74dbf51fa88d8112e1cf12bb26f0bae694f702e025742f5ae7ac2513"),
    ("8c36be2b6d495cd1130b2b054d92cd44a2ad7fae97a92a99970d936f94ad8eab",
      "1a7ac4638a4ef4e5cfa972882bd69df25f613f670301177fa90d39f5f7c2c6d6")]

def retriedSignatures : List (String × String) :=
  [("1767225600000\nnonce-of-the-first-call\nrequest-0001\n" ++
        "25332c26a39ce31e5070f1d7705f3be30a9cdd1eb90a09bc38826760e4d97455",
      "0fb3ce0c1cbb00f26afc4c9ef806be823bb943c291effbe97390cafdbf111209"),
    ("1767225600000\nnonce-of-the-second-call\nrequest-0001\n" ++
        "25332c26a39ce31e5070f1d7705f3be30a9cdd1eb90a09bc38826760e4d97455",
      "8c36be2b6d495cd1130b2b054d92cd44a2ad7fae97a92a99970d936f94ad8eab")]

theorem retriedDigests_hex : ∀ entry ∈ retriedDigests, isHexDigest entry.2 = true := by
  simp only [retriedDigests, List.forall_mem_cons]
  refine ⟨?_, ?_, ?_, ?_, ?_, ?_, List.forall_mem_nil _⟩ <;>
    exact isHexDigest_ofList (by decide +kernel)

theorem retriedSignatures_hex : ∀ entry ∈ retriedSignatures, isHexDigest entry.2 = true := by
  simp only [retriedSignatures, List.forall_mem_cons]
  refine ⟨?_, ?_, List.forall_mem_nil _⟩ <;> exact isHexDigest_ofList (by decide +kernel)

/-- The digests of the texts of the sample; the body and the commitment to it stand last. -/
def retriedHashes : Hashes where
  sha256Hex value := (retriedDigests.lookup value).getD
    "25332c26a39ce31e5070f1d7705f3be30a9cdd1eb90a09bc38826760e4d97455"
  hmacSha256Hex _ message := (retriedSignatures.lookup message).getD
    "5d5e37e57d7dce0f2d3d105c5243f69d1612af05c2beafbd8248ce8e621a6bc4"
  isHexDigest_sha256Hex :=
    isHexDigest_lookup retriedDigests_hex (isHexDigest_ofList (by decide +kernel))
  isHexDigest_hmacSha256Hex _ :=
    isHexDigest_lookup retriedSignatures_hex (isHexDigest_ofList (by decide +kernel))

theorem defaultInterval_bounds : 1000 ≤ DEFAULT_COMPACTION_INTERVAL_MILLISECONDS ∧
    DEFAULT_COMPACTION_INTERVAL_MILLISECONDS ≤ 60 * 60000 := by
  decide

/-- A node that executes one request at a time. -/
def retriedConfig : SupplierNodeConfig where
  journal :=
    { hashes := retriedHashes
      gatewayToken := "gateway-token-5b1f0c6c2d7e4a90"
      compactionIntervalMilliseconds := DEFAULT_COMPACTION_INTERVAL_MILLISECONDS
      interval_bounds := defaultInterval_bounds }
  providerId := "provider-a"
  allowedModels := ["gpt-test"]
  allowedDataClasses := [.p0, .p1]
  limits :=
    { requestsPerMinute := 60
      tokensPerMinute := 100000
      concurrency := 1
      maxOutputTokens := 4096
      maxInputBytes := 65536 }

def retriedCall (nonce signature : String) : SignedGatewayCall where
  authorization := some "Bearer gateway-token-5b1f0c6c2d7e4a90"
  timestamp := some "1767225600000"
  nonce := some nonce
  jobId := some "request-0001"
  signature := some signature
  rawBody := retriedBody

def refusedCall : SignedGatewayCall :=
  retriedCall "nonce-of-the-first-call"
    "0fb3ce0c1cbb00f26afc4c9ef806be823bb943c291effbe97390cafdbf111209"

/-- The same request, signed anew. -/
def laterCall : SignedGatewayCall :=
  retriedCall "nonce-of-the-second-call"
    "8c36be2b6d495cd1130b2b054d92cd44a2ad7fae97a92a99970d936f94ad8eab"

/-- A node whose only place is taken by a segment of an artifact. -/
def busyWorld : RuntimeWorld :=
  run (runtimeStep retriedConfig) (.initial 1767225600000)
    [.start .done, .artifactAcquire 1 1767225600000]

def refusedWorld : RuntimeWorld × Reply :=
  busyWorld.handleInference retriedConfig busyWorld.journal.node.guard refusedCall .healthy
    .healthy 1767225600000

/-- A second later the place is free. -/
def freedWorld : RuntimeWorld :=
  run (runtimeStep retriedConfig) refusedWorld.1 [.artifactRelease, .wait 1000]

def refusal : Thrown :=
  .node ⟨.CAPACITY_EXCEEDED, "供应节点并发容量已满。", 429, true⟩

def laterChecked : CheckedCall where
  timestampMs := 1767225600000
  nonce := "nonce-of-the-second-call"
  jobId := "request-0001"
  bodySha256 := "25332c26a39ce31e5070f1d7705f3be30a9cdd1eb90a09bc38826760e4d97455"

def laterVerified : JournalWorld × Except Thrown CheckedCall :=
  freedWorld.journal.verify retriedConfig.journal freedWorld.journal.node.guard laterCall .healthy

/-- The request of the body. -/
def retriedRequest : SupplierGatewayInferenceRequest where
  requestId := "request-0001"
  model := "gpt-test"
  input := "hello"
  dataClass := .p0
  maxOutputTokens := 16

theorem retriedBody_parses : parseInferenceRequest retriedBody = .ok retriedRequest := by
  have htext : retriedBody = String.ofList _ ++ String.ofList _ ++ String.ofList _ := rfl
  rw [parseInferenceRequest, htext, String.toList_append, String.toList_append,
    String.toList_ofList, String.toList_ofList, String.toList_ofList]
  decide +kernel

theorem retriedBody_admitted {checked : CheckedCall} (h : checked.jobId = "request-0001") :
    admitRequest retriedConfig retriedBody checked = .ok retriedRequest := by
  have hvalid : validateRequestAgainstConfig retriedConfig retriedRequest = .ok () := by
    decide +kernel
  have hjob : demand (retriedRequest.requestId == checked.jobId)
      (signatureInvalid "请求体任务标识与签名标识不一致。") = .ok () := by
    rw [h]
    rfl
  simp only [admitRequest, Except.bind_eq_ok, Except.pure_eq_ok]
  exact ⟨retriedRequest, retriedBody_parses, (), hjob, (), hvalid, rfl⟩

def refusedChecked : CheckedCall :=
  { laterChecked with nonce := "nonce-of-the-first-call" }

def refusedVerified : JournalWorld × Except Thrown CheckedCall :=
  busyWorld.journal.recordChecked retriedConfig.journal busyWorld.journal.node.guard
    refusedChecked .healthy

/-- The refused call behind its checks. -/
def refusedDispatch : RuntimeWorld × Reply :=
  { busyWorld with journal := refusedVerified.1 }.dispatch retriedConfig
    refusedVerified.1.node.guard retriedRequest laterChecked.bodySha256 .healthy 1767225600000

/-- What the node computes for the two calls up to the refusal, one after the other. -/
theorem refusedCall_computed :
    checkSignedGatewayCall retriedConfig.journal refusedCall = .ok refusedChecked ∧
    checkSignedGatewayCall retriedConfig.journal laterCall = .ok laterChecked ∧
    (busyWorld.journal.node.isUp = true ∧ busyWorld.draining = false ∧
      refusedVerified.2 = .ok refusedChecked ∧ refusedVerified.1.node.isUp = true) ∧
    refusedDispatch.2 = .started 0 ∧
      refusedDispatch.1.promises[0]? = some (.rejected refusal) := by
  refine ⟨?_, ?_, ?_, ?_⟩
  · decide +kernel
  · decide +kernel
  · decide +kernel
  · decide +kernel

theorem refusedCall_checked :
    checkSignedGatewayCall retriedConfig.journal refusedCall = .ok refusedChecked :=
  refusedCall_computed.1

theorem laterCall_checked :
    checkSignedGatewayCall retriedConfig.journal laterCall = .ok laterChecked :=
  refusedCall_computed.2.1

theorem refusedVerified_eq : busyWorld.journal.verify retriedConfig.journal
    busyWorld.journal.node.guard refusedCall .healthy = refusedVerified :=
  JournalWorld.verify_of_checked refusedCall_checked ..

theorem refusedCall_verified :
    busyWorld.journal.node.isUp = true ∧ busyWorld.draining = false ∧
      refusedVerified.2 = .ok refusedChecked ∧ refusedVerified.1.node.isUp = true :=
  refusedCall_computed.2.2.1

theorem busyWorld_up : busyWorld.journal.node = .up busyWorld.journal.node.guard :=
  Node.eq_up refusedCall_verified.1

theorem refusedWorld_eq : refusedWorld =
    (refusedDispatch.1.record "request-0001" laterChecked.bodySha256 refusedDispatch.2,
      refusedDispatch.2) := by
  have hverified : busyWorld.journal.verify retriedConfig.journal busyWorld.journal.node.guard
      refusedCall .healthy = (refusedVerified.1, .ok refusedChecked) := by
    rw [refusedVerified_eq]
    exact eq_mk_of_snd refusedCall_verified.2.2.1
  exact handleInference_of_verified refusedCall_verified.2.1 hverified
    (Node.eq_up refusedCall_verified.2.2.2) (retriedBody_admitted rfl) .healthy 1767225600000

theorem refusedDispatch_reply : refusedDispatch.2 = .started 0 ∧
    refusedDispatch.1.promises[0]? = some (.rejected refusal) :=
  refusedCall_computed.2.2.2

/-- A promise that is rejected at once for want of capacity. -/
theorem refusedEarly_record {w : RuntimeWorld} {requestId bodySha256 : String} {reply : Reply}
    {promise : Nat} {error : Thrown} (hcapacity : IsCapacityRefusal error)
    (hreply : reply = .started promise)
    (hrejected : w.promises[promise]? = some (.rejected error)) :
    RefusedEarly (w.record requestId bodySha256 reply, reply) :=
  ⟨error, hcapacity, .inr ⟨promise, .inl hreply, hrejected⟩⟩

theorem refusedWorld_refused : RefusedEarly refusedWorld := by
  have hcapacity : IsCapacityRefusal refusal := ⟨rfl, rfl⟩
  rw [refusedWorld_eq]
  exact refusedEarly_record hcapacity refusedDispatch_reply.1 refusedDispatch_reply.2

theorem freedWorld_eq : freedWorld =
    run (runtimeStep retriedConfig)
      (refusedDispatch.1.record "request-0001" laterChecked.bodySha256 refusedDispatch.2)
      [.artifactRelease, .wait 1000] := by
  rw [freedWorld, refusedWorld_eq]

/-- The state in which the later call arrives, and what the node computes for the call in it. -/
theorem laterCall_computed :
    ((freedWorld.journal.node.isUp = true ∧ freedWorld.draining = false ∧
      freedWorld.journal.clock ≤ busyWorld.journal.clock + idempotencyTtlMs) ∧
    (freedWorld.pruneIdempotency freedWorld.journal.clock).idempotency.entries =
      [("request-0001", ⟨laterChecked.bodySha256, 1767225600000 + idempotencyTtlMs, 0⟩)] ∧
    (freedWorld.capacity.acquire retriedConfig.limits ("hello".utf8ByteSize + 16)
      1767225601000).2 = .ok ()) ∧
    laterVerified.2 = .ok laterChecked ∧ laterVerified.1.node.isUp = true ∧
    (laterVerified.1.node.guard.journal.claimRequest retriedConfig.journal "request-0001"
      laterChecked.bodySha256 (freedWorld.journal.clock + idempotencyTtlMs)
      freedWorld.journal.clock .healthy).result ≠ .error replayProtectionUnavailable := by
  constructor
  · rw [freedWorld_eq]
    decide +kernel
  · rw [laterVerified, JournalWorld.verify_of_checked laterCall_checked, freedWorld_eq]
    decide +kernel

theorem freedWorld_facts :
    (freedWorld.journal.node.isUp = true ∧ freedWorld.draining = false ∧
      freedWorld.journal.clock ≤ busyWorld.journal.clock + idempotencyTtlMs) ∧
    (freedWorld.pruneIdempotency freedWorld.journal.clock).idempotency.entries =
      [("request-0001", ⟨laterChecked.bodySha256, 1767225600000 + idempotencyTtlMs, 0⟩)] ∧
    (freedWorld.capacity.acquire retriedConfig.limits ("hello".utf8ByteSize + 16)
      1767225601000).2 = .ok () :=
  laterCall_computed.1

theorem laterCall_verified :
    laterVerified.2 = .ok laterChecked ∧ laterVerified.1.node.isUp = true ∧
    (laterVerified.1.node.guard.journal.claimRequest retriedConfig.journal "request-0001"
      laterChecked.bodySha256 (freedWorld.journal.clock + idempotencyTtlMs)
      freedWorld.journal.clock .healthy).result ≠ .error replayProtectionUnavailable :=
  laterCall_computed.2

def laterArrival : Arrives retriedConfig freedWorld laterCall .healthy where
  guard := freedWorld.journal.node.guard
  node := Node.eq_up freedWorld_facts.1.1
  serving := freedWorld_facts.1.2.1
  checked := laterChecked
  verified := laterCall_verified.1
  verifiedGuard := laterVerified.1.node.guard
  verifiedNode := Node.eq_up laterCall_verified.2.1
  request :=
    { requestId := "request-0001"
      model := "gpt-test"
      input := "hello"
      dataClass := .p0
      maxOutputTokens := 16 }
  admitted := retriedBody_admitted rfl

theorem freedWorld_room :
    (freedWorld.pruneIdempotency freedWorld.journal.clock).idempotency.size <
      maximumIdempotencyEntries := by
  rw [InsertionMap.size, freedWorld_facts.2.1]
  decide

theorem laterArrival_free : laterArrival.FreeCapacity .healthy 1767225601000 where
  room := freedWorld_room
  gate := freedWorld_facts.2.2
  journal := laterCall_verified.2.2

/-- The later call is answered with the promise of the refused one. -/
theorem laterCall_joins :
    (freedWorld.handleInference retriedConfig freedWorld.journal.node.guard laterCall .healthy
      .healthy 1767225601000).2 = .joined 0 := by
  have hentry : (freedWorld.pruneIdempotency freedWorld.journal.clock).idempotency.get
      laterArrival.request.requestId =
      some ⟨laterChecked.bodySha256, 1767225600000 + idempotencyTtlMs, 0⟩ := by
    rw [InsertionMap.get_eq_some_iff, freedWorld_facts.2.1]
    exact List.mem_cons_self
  exact laterArrival.joins hentry rfl .healthy 1767225601000

theorem retry_executes_iff_sample :
    (Executes retriedConfig laterArrival.request
        (freedWorld.handleInference retriedConfig laterArrival.guard laterCall .healthy .healthy
          1767225601000) ↔
      Unclaimed retriedConfig.journal freedWorld.journal laterArrival.request.requestId) ∧
    (∀ error, refusedWorld.2 = .thrown error →
      refusedWorld.1.journal.requests = busyWorld.journal.requests) ∧
    (∀ promise, refusedWorld.2 = .started promise →
      ¬ Unclaimed retriedConfig.journal freedWorld.journal laterArrival.request.requestId) := by
  have hbusy : busyWorld = run (runtimeStep retriedConfig) (.initial 1767225600000)
      [.start .done, .artifactAcquire 1 1767225600000] := rfl
  have hrefused : refusedWorld = busyWorld.handleInference retriedConfig
      busyWorld.journal.node.guard refusedCall .healthy .healthy 1767225600000 := rfl
  have hfreed : freedWorld = run (runtimeStep retriedConfig) refusedWorld.1
      [.artifactRelease, .wait 1000] := rfl
  have hbody : laterCall.rawBody = refusedCall.rawBody := rfl
  have hlifetime : freedWorld.journal.clock ≤ busyWorld.journal.clock + idempotencyTtlMs :=
    freedWorld_facts.1.2.2
  exact retry_executes_iff retriedConfig _ _ _ hbusy busyWorld_up hrefused
    refusedWorld_refused hfreed hbody laterArrival laterArrival_free hlifetime

/-- The gate refused the request; a second later, with the place free, the same request is
answered with the old refusal. -/
theorem refused_request_burns_its_id :
    RefusedEarly refusedWorld ∧ laterCall.rawBody = refusedCall.rawBody ∧
      freedWorld.journal.clock ≤ busyWorld.journal.clock + idempotencyTtlMs ∧
      laterArrival.FreeCapacity .healthy 1767225601000 ∧
      (freedWorld.handleInference retriedConfig laterArrival.guard laterCall .healthy .healthy
        1767225601000).2 = .joined 0 ∧
      ¬ Executes retriedConfig laterArrival.request
        (freedWorld.handleInference retriedConfig laterArrival.guard laterCall .healthy .healthy
          1767225601000) := by
  refine ⟨refusedWorld_refused, rfl, freedWorld_facts.1.2.2, laterArrival_free,
    laterCall_joins, ?_⟩
  rintro ⟨promise, hstarted, -⟩
  have hjoined : (freedWorld.handleInference retriedConfig laterArrival.guard laterCall .healthy
      .healthy 1767225601000).2 = .joined 0 := laterCall_joins
  rw [hjoined] at hstarted
  cases hstarted

end SupplierNode
end TokenStreaming
