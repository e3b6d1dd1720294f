import TokenStreaming.Foundation.LiveClaims
import TokenStreaming.Foundation.TransitionSystem
import TokenStreaming.SupplierNode.Signature

/-!
# Supplier node - The journal over restarts

A node is started, claims nonces and requests, is stopped at any moment and started
again; disk calls may fail on either side of their effect.  The history beside the node
lists the claims whose line reached the file.  The file, the memory of a running node and
the memory after a start all hold the claims of the history that have not expired.

Main results:

- Theorem {lit}`Refines.step`: every call keeps the three forms equal.
- Theorem {lit}`replay_journal_refines`: what holds after every sequence of calls.
-/

namespace TokenStreaming
namespace SupplierNode

open LiveClaims TransitionSystem

/-- A node is running, or only its file is there. -/
inductive Node where
  | down (file : List Char)
  | up (guard : ReplayGuard)

def Node.file : Node → List Char
  | .down file => file
  | .up g => g.journal.file

/-- The latest time a date can have. -/
def MAXIMUM_TIME : Nat :=
  8640000000000000

/-- A node with the history of its claims. -/
structure JournalWorld where
  clock : Nat
  node : Node
  /-- The nonces whose line was written. -/
  nonces : List (Claim String)
  /-- The requests whose line was written, with the digests of their bodies. -/
  requests : List (Claim (String × String))
  /-- The nonces and requests whose claim returned. -/
  acceptedNonces : List (Claim String)
  acceptedRequests : List (Claim (String × String))
  /-- The nonces and timestamps of the signed calls that passed. -/
  verified : List (String × Nat)

/-- A time that can be written as an expiry. -/
abbrev SafeInstant : Type :=
  { n : Nat // n ≤ MAX_SAFE_INTEGER }

inductive JournalCall where
  | wait (milliseconds : Nat)
  | stop
  | start (rename : DiskCall)
  | claimNonce (nonce : String) (expiresAt : SafeInstant) (disk : ClaimDisk)
  | claimRequest (requestId bodySha256 : String) (expiresAt : SafeInstant) (disk : ClaimDisk)
  | verify (call : SignedGatewayCall) (disk : ClaimDisk)
  | prune
  | compactNow (rename : DiskCall)

variable (options : JournalOptions)

namespace JournalWorld

/-- No node has run yet, and there is no line in the file. -/
def initial (clock : Nat) : JournalWorld where
  clock := min clock MAXIMUM_TIME
  node := .down []
  nonces := []
  requests := []
  acceptedNonces := []
  acceptedRequests := []
  verified := []

/-- Record the claim of a nonce. -/
def recordNonce (w : JournalWorld) (nonce : String) (expiresAt : Nat) (written : Bool)
    (result : Except Thrown Unit) : JournalWorld :=
  let claim : Claim String := ⟨nonce, w.clock, expiresAt⟩
  { w with
    nonces := if written then w.nonces ++ [claim] else w.nonces
    acceptedNonces := if result = .ok () then w.acceptedNonces ++ [claim] else w.acceptedNonces }

/-- Record the claim of a request. -/
def recordRequest (w : JournalWorld) (requestId bodySha256 : String) (expiresAt : Nat)
    (written : Bool) (result : Except Thrown Unit) : JournalWorld :=
  let claim : Claim (String × String) := ⟨(requestId, bodySha256), w.clock, expiresAt⟩
  { w with
    requests := if written then w.requests ++ [claim] else w.requests
    acceptedRequests :=
      if result = .ok () then w.acceptedRequests ++ [claim] else w.acceptedRequests }

def wait (w : JournalWorld) (milliseconds : Nat) : JournalWorld :=
  { w with clock := min (w.clock + milliseconds) MAXIMUM_TIME }

def stop (w : JournalWorld) : JournalWorld :=
  { w with node := .down w.node.file }

/-- Start a node on the file; a node that was running is gone. -/
def start (w : JournalWorld) (rename : DiskCall) : JournalWorld :=
  match openJournal options w.node.file w.clock rename with
  | (_, some journal) => { w with node := .up ⟨.empty, journal⟩ }
  | (file, none) => { w with node := .down file }

def claimNonce (w : JournalWorld) (g : ReplayGuard) (nonce : String) (expiresAt : Nat)
    (disk : ClaimDisk) : JournalWorld :=
  let claimed := g.journal.claimNonce options nonce expiresAt w.clock disk
  { w with node := .up { g with journal := claimed.journal } }.recordNonce nonce expiresAt
    claimed.written claimed.result

def claimRequest (w : JournalWorld) (g : ReplayGuard) (requestId bodySha256 : String)
    (expiresAt : Nat) (disk : ClaimDisk) : JournalWorld :=
  let claimed := g.journal.claimRequest options requestId bodySha256 expiresAt w.clock disk
  { w with node := .up { g with journal := claimed.journal } }.recordRequest requestId bodySha256
    expiresAt claimed.written claimed.result

/-- The call is checked and its nonce recorded. -/
def verify (w : JournalWorld) (g : ReplayGuard) (call : SignedGatewayCall) (disk : ClaimDisk) :
    JournalWorld × Except Thrown CheckedCall :=
  match checkSignedGatewayCall options call with
  | .error error => (w, .error error)
  | .ok checked =>
      let recorded :=
        g.verifyAndRecord options checked.nonce checked.timestampMs w.clock disk
      let w' := { w with node := .up recorded.guard }.recordNonce checked.nonce
        (checked.timestampMs + replayWindowMs) recorded.written recorded.result
      match recorded.result with
      | .ok () =>
          ({ w' with verified := w'.verified ++ [(checked.nonce, checked.timestampMs)] },
            .ok checked)
      | .error error => (w', .error error)

end JournalWorld

/-- One call; a call of a node that is not running does nothing. -/
def journalStep (w : JournalWorld) (call : JournalCall) : JournalWorld :=
  match call with
  | .wait milliseconds => w.wait milliseconds
  | .stop => w.stop
  | .start rename => w.start options rename
  | .claimNonce nonce expiresAt disk =>
      match w.node with
      | .up g => w.claimNonce options g nonce expiresAt disk
      | .down _ => w
  | .claimRequest requestId bodySha256 expiresAt disk =>
      match w.node with
      | .up g => w.claimRequest options g requestId bodySha256 expiresAt disk
      | .down _ => w
  | .verify signed disk =>
      match w.node with
      | .up g => (w.verify options g signed disk).1
      | .down _ => w
  | .prune =>
      match w.node with
      | .up g => { w with node := .up { g with journal := g.journal.prune w.clock } }
      | .down _ => w
  | .compactNow rename =>
      match w.node with
      | .up g => { w with node := .up { g with journal := (g.journal.compactNow w.clock rename).1 } }
      | .down _ => w

/-! ## The three forms of the claims -/

/-- A nonce's claim as the journal stores it. -/
def nonceEntry (c : Claim String) : String × Nat :=
  (digestIdentifier options c.subject, c.expiresAt)

/-- A request's claim as the journal stores it. -/
def requestEntry (c : Claim (String × String)) : String × RequestEntry :=
  (digestIdentifier options c.subject.1,
    ⟨createBodyCommitment options c.subject.2, c.expiresAt⟩)

def JournalWorld.liveNonces (w : JournalWorld) : List (String × Nat) :=
  (live w.clock w.nonces).map (nonceEntry options)

def JournalWorld.liveRequests (w : JournalWorld) : List (String × RequestEntry) :=
  (live w.clock w.requests).map (requestEntry options)

/-- The file and the memory hold the claims of the history that have not expired. -/
structure Refines (w : JournalWorld) : Prop where
  clock : w.clock ≤ MAXIMUM_TIME
  file : Keeps w.node.file w.clock (w.liveNonces options) (w.liveRequests options)
  memory : ∀ g, w.node = .up g → g.journal.terminalFailure = false →
    g.journal.Recalls w.clock (w.liveNonces options) (w.liveRequests options)
  nonceHistory : Exclusive (digestIdentifier options) w.nonces
  requestHistory : Exclusive (fun s : String × String => digestIdentifier options s.1) w.requests
  nonceTimes : ∀ c ∈ w.nonces, c.grantedAt ≤ w.clock
  requestTimes : ∀ c ∈ w.requests, c.grantedAt ≤ w.clock
  acceptedNonces : w.acceptedNonces.Sublist w.nonces
  acceptedRequests : w.acceptedRequests.Sublist w.requests
  verified : w.verified.Nodup
  verifiedClaims : ∀ v ∈ w.verified, ∃ c ∈ w.nonces,
    c.subject = v.1 ∧ c.expiresAt = v.2 + replayWindowMs

variable {options} {w : JournalWorld}

theorem Refines.nodup_nonces (h : Refines options w) :
    ((w.liveNonces options).map Prod.fst).Nodup := by
  have hnodup := h.nonceHistory.nodup_live h.nonceTimes
  rw [JournalWorld.liveNonces, List.map_map]
  exact hnodup

theorem Refines.nodup_requests (h : Refines options w) :
    ((w.liveRequests options).map Prod.fst).Nodup := by
  have hnodup := h.requestHistory.nodup_live h.requestTimes
  rw [JournalWorld.liveRequests, List.map_map]
  exact hnodup

theorem Refines.initial (clock : Nat) : Refines options (.initial clock) where
  clock := Nat.min_le_right clock MAXIMUM_TIME
  file := Keeps.nil _
  memory := by
    intro g hg
    cases hg
  nonceHistory := Exclusive.nil _
  requestHistory := Exclusive.nil _
  nonceTimes := by
    intro c hc
    cases hc
  requestTimes := by
    intro c hc
    cases hc
  acceptedNonces := List.Sublist.refl _
  acceptedRequests := List.Sublist.refl _
  verified := List.nodup_nil
  verifiedClaims := by
    intro v hv
    cases hv

/-! ## Time -/

/-- The claims that hold later are among those that hold now. -/
theorem map_live_later {α β : Type} (entry : Claim α → β) (expiry : β → Nat)
    (hentry : ∀ c, expiry (entry c) = c.expiresAt) {now later : Nat} (hle : now ≤ later)
    (claims : List (Claim α)) :
    (live later claims).map entry =
      ((live now claims).map entry).filter fun e => later ≤ expiry e := by
  rw [← live_live hle claims, List.filter_map, live]
  congr 1
  refine List.filter_congr ?_
  intro c _
  show decide (later ≤ c.expiresAt) = decide (later ≤ expiry (entry c))
  rw [hentry]

theorem Refines.wait (h : Refines options w) (milliseconds : Nat) :
    Refines options (w.wait milliseconds) := by
  have hle : w.clock ≤ (w.wait milliseconds).clock := by
    have hbound := h.clock
    show w.clock ≤ min (w.clock + milliseconds) MAXIMUM_TIME
    omega
  have hnonces : (w.wait milliseconds).liveNonces options =
      (w.liveNonces options).filter fun e => (w.wait milliseconds).clock ≤ e.2 :=
    map_live_later (nonceEntry options) Prod.snd (fun _ => rfl) hle w.nonces
  have hrequests : (w.wait milliseconds).liveRequests options =
      (w.liveRequests options).filter fun e => (w.wait milliseconds).clock ≤ e.2.expiresAt :=
    map_live_later (requestEntry options) (fun e => e.2.expiresAt) (fun _ => rfl) hle w.requests
  exact
    { h with
      clock := Nat.min_le_right _ _
      file := by
        rw [hnonces, hrequests]
        exact h.file.later hle
      memory := by
        intro g hg hhealthy
        rw [hnonces, hrequests]
        exact (h.memory g hg hhealthy).later hle
      nonceTimes := fun c hc => (h.nonceTimes c hc).trans hle
      requestTimes := fun c hc => (h.requestTimes c hc).trans hle }

/-! ## Starts and stops -/

theorem Refines.stop (h : Refines options w) : Refines options w.stop :=
  { h with
    file := h.file
    memory := by
      intro g hg
      cases hg }

/-- A start reads back the claims that have not expired. -/
theorem Refines.start (h : Refines options w) (rename : DiskCall) :
    Refines options (w.start options rename) := by
  obtain ⟨hkept, -, hopened⟩ :=
    openJournal_cases options h.file h.nodup_nonces h.nodup_requests rename
  unfold JournalWorld.start
  generalize openJournal options w.node.file w.clock rename = opened at hkept hopened
  obtain ⟨file, journal⟩ := opened
  cases journal with
  | none =>
      exact
        { h with
          file := hkept
          memory := by
            intro g hg
            cases hg }
  | some j =>
      obtain ⟨hfile, hheld, -⟩ := hopened j rfl
      have hkeeps : Keeps j.file w.clock (w.liveNonces options) (w.liveRequests options) := by
        rw [hfile]
        exact hkept
      exact
        { h with
          file := hkeeps
          memory := by
            intro g hg _
            cases hg
            exact hheld.recalls hkeeps }

/-! ## Claims -/

/-- A new claim is the last of those that hold. -/
theorem liveNonces_concat (nonce : String) (expiresAt : Nat) :
    (live w.clock (w.nonces ++ [⟨nonce, w.clock, expiresAt⟩])).map (nonceEntry options) =
      w.liveNonces options ++
        liveNonces w.clock [.nonce (digestIdentifier options nonce) expiresAt] := by
  rw [live_append, List.map_append, liveNonces_nonce]
  by_cases hlive : w.clock ≤ expiresAt
  · simp [live, hlive, JournalWorld.liveNonces, nonceEntry]
  · simp [live, hlive, JournalWorld.liveNonces]

theorem liveRequests_concat (requestId bodySha256 : String) (expiresAt : Nat) :
    (live w.clock (w.requests ++ [⟨(requestId, bodySha256), w.clock, expiresAt⟩])).map
        (requestEntry options) =
      w.liveRequests options ++
        liveRequests w.clock [.request (digestIdentifier options requestId)
          (createBodyCommitment options bodySha256) expiresAt] := by
  rw [live_append, List.map_append, liveRequests_request]
  by_cases hlive : w.clock ≤ expiresAt
  · simp [live, hlive, JournalWorld.liveRequests, requestEntry]
  · simp [live, hlive, JournalWorld.liveRequests]

/-- A key outside the claims that hold can be granted. -/
theorem free_of_notMem_liveNonces {nonce : String}
    (h : digestIdentifier options nonce ∉ (w.liveNonces options).map Prod.fst) :
    ∀ d ∈ live w.clock w.nonces,
      digestIdentifier options d.subject ≠ digestIdentifier options nonce := by
  intro d hd heq
  refine h (List.mem_map.mpr ⟨nonceEntry options d, ?_, heq⟩)
  exact List.mem_map.mpr ⟨d, hd, rfl⟩

theorem free_of_notMem_liveRequests {requestId : String}
    (h : digestIdentifier options requestId ∉ (w.liveRequests options).map Prod.fst) :
    ∀ d ∈ live w.clock w.requests,
      digestIdentifier options d.subject.1 ≠ digestIdentifier options requestId := by
  intro d hd heq
  refine h (List.mem_map.mpr ⟨requestEntry options d, ?_, heq⟩)
  exact List.mem_map.mpr ⟨d, hd, rfl⟩

open ReplayJournal

theorem append_liveNonces_added (nonces : List (String × Nat)) (nowMs : Nat) (r : ReplayRecord) :
    nonces ++ SupplierNode.liveNonces nowMs (added false r) = nonces :=
  List.append_nil nonces

theorem append_liveRequests_added (requests : List (String × RequestEntry)) (nowMs : Nat)
    (r : ReplayRecord) : requests ++ SupplierNode.liveRequests nowMs (added false r) = requests :=
  List.append_nil requests

theorem sublist_of_accepted {α : Type} {accepted claims : List α} (h : accepted.Sublist claims)
    (c : α) (ok : Prop) [Decidable ok] :
    (if ok then accepted ++ [c] else accepted).Sublist (claims ++ [c]) := by
  by_cases hok : ok
  · rw [if_pos hok]
    exact h.append (List.Sublist.refl [c])
  · rw [if_neg hok]
    exact h.trans (List.sublist_append_left claims [c])

/-- The node after a claim that wrote nothing. -/
theorem Refines.unwritten (h : Refines options w) {g : ReplayGuard} {c : Claimed}
    {r : ReplayRecord} {disk : ClaimDisk}
    (hwell : ClaimedWell w.clock (w.liveNonces options) (w.liveRequests options) r disk c)
    (hwritten : c.written = false) (hjournal : g.journal = c.journal) :
    Refines options { w with node := .up g } ∧ c.result ≠ .ok () := by
  have hfile := hwell.file
  have hmemory := hwell.memory
  rw [← hjournal] at hfile hmemory
  rw [hwritten, KeepsAdded, append_liveNonces_added, append_liveRequests_added] at hfile
  rw [hwritten, append_liveNonces_added, append_liveRequests_added] at hmemory
  constructor
  · exact
      { h with
        file := hfile
        memory := by
          intro g' hg'
          cases hg'
          exact hmemory }
  · intro hok
    rw [hwell.granted hok] at hwritten
    cases hwritten

/-- The claim of a nonce keeps the three forms equal. -/
theorem Refines.recordNonce (h : Refines options w) {g : ReplayGuard} {nonce : String}
    {expiresAt : Nat} {disk : ClaimDisk} {c : Claimed}
    (hwell : ClaimedWell w.clock (w.liveNonces options) (w.liveRequests options)
      (.nonce (digestIdentifier options nonce) expiresAt) disk c)
    (hfresh : c.written = true →
      digestIdentifier options nonce ∉ (w.liveNonces options).map Prod.fst)
    (hjournal : g.journal = c.journal) :
    Refines options
      ({ w with node := .up g }.recordNonce nonce expiresAt c.written c.result) := by
  cases hwritten : c.written with
  | false =>
      obtain ⟨hrefines, hresult⟩ := h.unwritten hwell hwritten hjournal
      simp only [JournalWorld.recordNonce, if_neg hresult]
      exact hrefines
  | true =>
      have hfile := hwell.file
      have hmemory := hwell.memory
      rw [← hjournal] at hfile hmemory
      rw [hwritten, KeepsAdded] at hfile
      rw [hwritten] at hmemory
      have hnonces := @liveNonces_concat options w nonce expiresAt
      have hadded : added true (.nonce (digestIdentifier options nonce) expiresAt) =
          [.nonce (digestIdentifier options nonce) expiresAt] := rfl
      have hnone := liveRequests_nonce w.clock (digestIdentifier options nonce) expiresAt
      rw [hadded, ← hnonces, hnone, List.append_nil] at hfile
      rw [hadded, ← hnonces, hnone, List.append_nil] at hmemory
      exact
        { h with
          file := hfile
          memory := by
            intro g' hg'
            cases hg'
            exact hmemory
          nonceHistory := h.nonceHistory.grant (free_of_notMem_liveNonces (hfresh hwritten))
          nonceTimes := by
            intro d hd
            rcases List.mem_append.mp hd with hd | hd
            · exact h.nonceTimes d hd
            · rw [List.mem_singleton] at hd
              rw [hd]
              exact Nat.le_refl w.clock
          acceptedNonces := sublist_of_accepted h.acceptedNonces _ _
          verifiedClaims := by
            intro v hv
            obtain ⟨d, hd, hclaim⟩ := h.verifiedClaims v hv
            exact ⟨d, List.mem_append_left _ hd, hclaim⟩ }

/-- The claim of a request keeps the three forms equal. -/
theorem Refines.recordRequest (h : Refines options w) {g : ReplayGuard}
    {requestId bodySha256 : String} {expiresAt : Nat} {disk : ClaimDisk} {c : Claimed}
    (hwell : ClaimedWell w.clock (w.liveNonces options) (w.liveRequests options)
      (.request (digestIdentifier options requestId) (createBodyCommitment options bodySha256)
        expiresAt) disk c)
    (hfresh : c.written = true →
      digestIdentifier options requestId ∉ (w.liveRequests options).map Prod.fst)
    (hjournal : g.journal = c.journal) :
    Refines options
      ({ w with node := .up g }.recordRequest requestId bodySha256 expiresAt c.written
        c.result) := by
  cases hwritten : c.written with
  | false =>
      obtain ⟨hrefines, hresult⟩ := h.unwritten hwell hwritten hjournal
      simp only [JournalWorld.recordRequest, if_neg hresult]
      exact hrefines
  | true =>
      have hfile := hwell.file
      have hmemory := hwell.memory
      rw [← hjournal] at hfile hmemory
      rw [hwritten, KeepsAdded] at hfile
      rw [hwritten] at hmemory
      have hrequests := @liveRequests_concat options w requestId bodySha256 expiresAt
      have hadded : added true (.request (digestIdentifier options requestId)
          (createBodyCommitment options bodySha256) expiresAt) =
          [.request (digestIdentifier options requestId)
            (createBodyCommitment options bodySha256) expiresAt] := rfl
      have hnone := liveNonces_request w.clock (digestIdentifier options requestId)
        (createBodyCommitment options bodySha256) expiresAt
      rw [hadded, ← hrequests, hnone, List.append_nil] at hfile
      rw [hadded, ← hrequests, hnone, List.append_nil] at hmemory
      exact
        { h with
          file := hfile
          memory := by
            intro g' hg'
            cases hg'
            exact hmemory
          requestHistory :=
            h.requestHistory.grant (free_of_notMem_liveRequests (hfresh hwritten))
          requestTimes := by
            intro d hd
            rcases List.mem_append.mp hd with hd | hd
            · exact h.requestTimes d hd
            · rw [List.mem_singleton] at hd
              rw [hd]
              exact Nat.le_refl w.clock
          acceptedRequests := sublist_of_accepted h.acceptedRequests _ _ }

theorem Refines.claimNonce (h : Refines options w) {g : ReplayGuard} (hnode : w.node = .up g)
    (nonce : String) {expiresAt : Nat} (hsafe : expiresAt ≤ MAX_SAFE_INTEGER)
    (disk : ClaimDisk) : Refines options (w.claimNonce options g nonce expiresAt disk) := by
  have hfile := h.file
  rw [hnode] at hfile
  obtain ⟨hwell, hfresh⟩ :=
    claimNonce_cases options hfile (h.memory g hnode) nonce hsafe disk
  exact h.recordNonce hwell hfresh rfl

theorem Refines.claimRequest (h : Refines options w) {g : ReplayGuard} (hnode : w.node = .up g)
    (requestId bodySha256 : String) {expiresAt : Nat} (hsafe : expiresAt ≤ MAX_SAFE_INTEGER)
    (disk : ClaimDisk) :
    Refines options (w.claimRequest options g requestId bodySha256 expiresAt disk) := by
  have hfile := h.file
  rw [hnode] at hfile
  obtain ⟨hwell, hfresh⟩ :=
    claimRequest_cases options hfile (h.memory g hnode) requestId bodySha256 hsafe disk
  exact h.recordRequest hwell hfresh rfl

/-! ## Signed calls -/

/-- A guard around the same journal changes nothing. -/
theorem Refines.sameJournal (h : Refines options w) {g g' : ReplayGuard}
    (hnode : w.node = .up g) (hjournal : g'.journal = g.journal) :
    Refines options { w with node := .up g' } := by
  have hfile := h.file
  have hmemory := h.memory g hnode
  rw [hnode] at hfile
  rw [← hjournal] at hmemory
  exact
    { h with
      file := by
        show Keeps g'.journal.file _ _ _
        rw [hjournal]
        exact hfile
      memory := by
        intro g'' hg''
        cases hg''
        exact hmemory }

/-- A signed call whose claim still holds is not verified again. -/
theorem Refines.notMem_verified (h : Refines options w) {nonce : String} {timestampMs : Nat}
    (hwindow : w.clock ≤ timestampMs + replayWindowMs)
    (hfresh : digestIdentifier options nonce ∉ (w.liveNonces options).map Prod.fst) :
    (nonce, timestampMs) ∉ w.verified := by
  intro hmem
  obtain ⟨c, hc, hsubject, hexpires⟩ := h.verifiedClaims _ hmem
  simp only at hsubject hexpires
  have hlive : c ∈ live w.clock w.nonces := mem_live.mpr ⟨hc, hexpires ▸ hwindow⟩
  exact free_of_notMem_liveNonces hfresh c hlive (by rw [hsubject])

theorem Refines.verify (h : Refines options w) {g : ReplayGuard} (hnode : w.node = .up g)
    (call : SignedGatewayCall) (disk : ClaimDisk) :
    Refines options (w.verify options g call disk).1 := by
  unfold JournalWorld.verify
  cases hchecked : checkSignedGatewayCall options call with
  | error error => exact h
  | ok checked =>
      have hdigits := timestampMs_lt options hchecked
      have hsafe : checked.timestampMs + replayWindowMs ≤ MAX_SAFE_INTEGER := by
        simp only [replayWindowMs, MAX_SAFE_INTEGER]
        omega
      have hfile := h.file
      rw [hnode] at hfile
      obtain ⟨hwell, hfresh⟩ :=
        claimNonce_cases options hfile (h.memory g hnode) checked.nonce hsafe disk
      have hcases := g.verifyAndRecord_cases options checked.nonce checked.timestampMs w.clock disk
      have hwindow := @ReplayGuard.verifyAndRecord_window options g checked.nonce
        checked.timestampMs w.clock disk
      simp only
      generalize g.verifyAndRecord options checked.nonce checked.timestampMs w.clock disk = r
        at hcases hwindow
      rcases hcases with ⟨hjournal, hwritten, error, hresult⟩ | ⟨hjournal, hwritten, hresult⟩
      · -- the guard refused the call without asking the journal
        have hrefines := h.sameJournal hnode hjournal
        rw [hresult, hwritten]
        simp only [JournalWorld.recordNonce]
        exact hrefines
      · have hrefines := h.recordNonce hwell hfresh hjournal
        rw [← hwritten, ← hresult] at hrefines
        cases hok : r.result with
        | error error =>
            rw [hok] at hrefines
            exact hrefines
        | ok u =>
            rw [hok] at hrefines
            have hclaimed := hwell.granted (hresult ▸ hok)
            have hmember := h.notMem_verified (hwindow (hwritten.trans hclaimed)).1
              (hfresh hclaimed)
            have hnonces : ({ w with node := .up r.guard }.recordNonce checked.nonce
                (checked.timestampMs + replayWindowMs) r.written (.ok ())).nonces =
                w.nonces ++ [⟨checked.nonce, w.clock, checked.timestampMs + replayWindowMs⟩] := by
              rw [hwritten, hclaimed]
              rfl
            exact
              { hrefines with
                verified := by
                  refine List.nodup_append.mpr ⟨h.verified, List.nodup_singleton _, ?_⟩
                  intro v hv v' hv' heq
                  rw [List.mem_singleton] at hv'
                  rw [heq, hv'] at hv
                  exact hmember hv
                verifiedClaims := by
                  intro v hv
                  rcases List.mem_append.mp hv with hv | hv
                  · exact hrefines.verifiedClaims v hv
                  · rw [List.mem_singleton] at hv
                    refine ⟨⟨checked.nonce, w.clock, checked.timestampMs + replayWindowMs⟩, ?_, ?_⟩
                    · show _ ∈ ({ w with node := .up r.guard }.recordNonce checked.nonce
                        (checked.timestampMs + replayWindowMs) r.written (.ok ())).nonces
                      rw [hnonces]
                      exact List.mem_append_right _ (List.mem_singleton_self _)
                    · rw [hv]
                      exact ⟨rfl, rfl⟩ }

/-! ## Runs -/

/-- Every call keeps the three forms equal. -/
theorem Refines.step (h : Refines options w) (call : JournalCall) :
    Refines options (journalStep options w call) := by
  cases call with
  | wait milliseconds => exact h.wait milliseconds
  | stop => exact h.stop
  | start rename => exact h.start rename
  | claimNonce nonce expiresAt disk =>
      simp only [journalStep]
      split
      · rename_i g hnode
        exact h.claimNonce hnode nonce expiresAt.property disk
      · exact h
  | claimRequest requestId bodySha256 expiresAt disk =>
      simp only [journalStep]
      split
      · rename_i g hnode
        exact h.claimRequest hnode requestId bodySha256 expiresAt.property disk
      · exact h
  | verify call disk =>
      simp only [journalStep]
      split
      · rename_i g hnode
        exact h.verify hnode call disk
      · exact h
  | prune =>
      simp only [journalStep]
      split
      · rename_i g hnode
        have hfile := h.file
        rw [hnode] at hfile
        exact
          { h with
            file := hfile
            memory := by
              intro g' hg' hhealthy
              cases hg'
              exact (h.memory g hnode hhealthy).recalls_prune hfile }
      · exact h
  | compactNow rename =>
      simp only [journalStep]
      split
      · rename_i g hnode
        have hfile := h.file
        rw [hnode] at hfile
        obtain ⟨hkept, hmemory⟩ := compactNow_cases hfile (h.memory g hnode) rename
        exact
          { h with
            file := hkept
            memory := by
              intro g' hg'
              cases hg'
              exact hmemory }
      · exact h

theorem Refines.run (h : Refines options w) (calls : List JournalCall) :
    Refines options (run (journalStep options) w calls) :=
  run_invariant (fun _ call h => h.step call) calls h

/-! ## A working disk -/

/-- Every disk call of the call succeeds. -/
def JournalCall.DiskWorks : JournalCall → Prop
  | .claimNonce _ _ disk => disk = .healthy
  | .claimRequest _ _ _ disk => disk = .healthy
  | .verify _ disk => disk = .healthy
  | .start rename => rename = .done
  | .compactNow rename => rename = .done
  | _ => True

/-- Every claim that was written was granted to its caller. -/
def JournalWorld.Exact (w : JournalWorld) : Prop :=
  w.acceptedNonces = w.nonces ∧ w.acceptedRequests = w.requests

theorem ReplayJournal.ClaimedWell.granted_iff {nowMs : Nat} {nonces : List (String × Nat)}
    {requests : List (String × RequestEntry)} {r : ReplayRecord} {disk : ClaimDisk} {c : Claimed}
    (hwell : ClaimedWell nowMs nonces requests r disk c) (hdisk : disk = .healthy) :
    c.result = .ok () ↔ c.written = true :=
  ⟨hwell.granted, hwell.healthy hdisk⟩

theorem JournalWorld.Exact.recordNonce (h : w.Exact) (node : Node) (nonce : String)
    (expiresAt : Nat) {written : Bool} {result : Except Thrown Unit}
    (hiff : result = .ok () ↔ written = true) :
    ({ w with node }.recordNonce nonce expiresAt written result).Exact := by
  obtain ⟨hnonces, hrequests⟩ := h
  constructor
  · cases written with
    | true => simp [JournalWorld.recordNonce, hiff.mpr rfl, hnonces]
    | false =>
        have hresult : result ≠ .ok () := by
          intro hok
          cases hiff.mp hok
        simp [JournalWorld.recordNonce, hresult, hnonces]
  · exact hrequests

theorem JournalWorld.Exact.recordRequest (h : w.Exact) (node : Node)
    (requestId bodySha256 : String) (expiresAt : Nat) {written : Bool}
    {result : Except Thrown Unit} (hiff : result = .ok () ↔ written = true) :
    ({ w with node }.recordRequest requestId bodySha256 expiresAt written result).Exact := by
  obtain ⟨hnonces, hrequests⟩ := h
  constructor
  · exact hnonces
  · cases written with
    | true => simp [JournalWorld.recordRequest, hiff.mpr rfl, hrequests]
    | false =>
        have hresult : result ≠ .ok () := by
          intro hok
          cases hiff.mp hok
        simp [JournalWorld.recordRequest, hresult, hrequests]

theorem JournalWorld.Exact.verify (h : w.Exact) (hrefines : Refines options w) {g : ReplayGuard}
    (hnode : w.node = .up g) (call : SignedGatewayCall) :
    (w.verify options g call .healthy).1.Exact := by
  unfold JournalWorld.verify
  cases hchecked : checkSignedGatewayCall options call with
  | error error => exact h
  | ok checked =>
      have hdigits := timestampMs_lt options hchecked
      have hsafe : checked.timestampMs + replayWindowMs ≤ MAX_SAFE_INTEGER := by
        simp only [replayWindowMs, MAX_SAFE_INTEGER]
        omega
      have hfile := hrefines.file
      rw [hnode] at hfile
      have hwell := (claimNonce_cases options hfile (hrefines.memory g hnode) checked.nonce hsafe
        .healthy).1
      have hcases :=
        g.verifyAndRecord_cases options checked.nonce checked.timestampMs w.clock .healthy
      simp only
      generalize g.verifyAndRecord options checked.nonce checked.timestampMs w.clock .healthy = r
        at hcases
      have hiff : r.result = .ok () ↔ r.written = true := by
        rcases hcases with ⟨-, hwritten, error, hresult⟩ | ⟨-, hwritten, hresult⟩
        · simp [hwritten, hresult]
        · rw [hwritten, hresult]
          exact hwell.granted_iff rfl
      have hexact := h.recordNonce (.up r.guard) checked.nonce
        (checked.timestampMs + replayWindowMs) hiff
      cases hok : r.result with
      | error error =>
          rw [hok] at hexact
          exact hexact
      | ok u =>
          rw [hok] at hexact
          exact hexact

theorem JournalWorld.Exact.step (h : w.Exact) (hrefines : Refines options w)
    {call : JournalCall} (hworks : call.DiskWorks) : (journalStep options w call).Exact := by
  cases call with
  | wait milliseconds => exact h
  | stop => exact h
  | start rename =>
      simp only [journalStep, JournalWorld.start]
      split
      · exact h
      · exact h
  | claimNonce nonce expiresAt disk =>
      simp only [journalStep]
      split
      · rename_i g hnode
        have hfile := hrefines.file
        rw [hnode] at hfile
        have hwell := (claimNonce_cases options hfile (hrefines.memory g hnode) nonce
          expiresAt.property disk).1
        exact h.recordNonce _ nonce expiresAt.val (hwell.granted_iff hworks)
      · exact h
  | claimRequest requestId bodySha256 expiresAt disk =>
      simp only [journalStep]
      split
      · rename_i g hnode
        have hfile := hrefines.file
        rw [hnode] at hfile
        have hwell := (claimRequest_cases options hfile (hrefines.memory g hnode) requestId
          bodySha256 expiresAt.property disk).1
        exact h.recordRequest _ requestId bodySha256 expiresAt.val (hwell.granted_iff hworks)
      · exact h
  | verify call disk =>
      simp only [journalStep]
      split
      · rename_i g hnode
        rw [show disk = .healthy from hworks]
        exact h.verify hrefines hnode call
      · exact h
  | prune =>
      simp only [journalStep]
      split
      · exact h
      · exact h
  | compactNow rename =>
      simp only [journalStep]
      split
      · exact h
      · exact h

/-- Where the disk works, the claims of the history are those that were granted. -/
theorem exact_run (clock : Nat) {calls : List JournalCall}
    (h : ∀ call ∈ calls, call.DiskWorks) :
    (run (journalStep options) (.initial clock) calls).Exact := by
  have hkeep : ∀ (w : JournalWorld), Refines options w → w.Exact →
      (run (journalStep options) w calls).Exact := by
    induction calls with
    | nil => exact fun w _ hexact => hexact
    | cons call calls ih =>
        intro w hrefines hexact
        exact ih (fun c hc => h c (List.mem_cons_of_mem call hc)) _ (hrefines.step call)
          (hexact.step hrefines (h call List.mem_cons_self))
  exact hkeep _ (Refines.initial clock) ⟨rfl, rfl⟩

/-! ## The result -/

/-- What the journal does for the claims of its history. -/
structure SafeClaims (options : JournalOptions) (w : JournalWorld) : Prop where
  /-- A start finds exactly the claims that have not expired. -/
  loads : ∃ j, (openJournal options w.node.file w.clock .done).2 = some j ∧
    j.Holds (w.liveNonces options) (w.liveRequests options)
  /-- So does a running node whose disk has not failed. -/
  recalls : ∀ g, w.node = .up g → g.journal.terminalFailure = false →
    (g.journal.prune w.clock).Holds (w.liveNonces options) (w.liveRequests options)
  /-- It refuses every claim that still holds. -/
  refusesNonce : ∀ g, w.node = .up g → g.journal.terminalFailure = false →
    ∀ c ∈ live w.clock w.nonces, ∀ expiresAt disk,
      (g.journal.claimNonce options c.subject expiresAt w.clock disk).result =
        .error nonceAlreadyUsed
  refusesRequest : ∀ g, w.node = .up g → g.journal.terminalFailure = false →
    ∀ c ∈ live w.clock w.requests, ∀ bodySha256, isHexDigest bodySha256 = true →
      ∀ expiresAt disk,
      (g.journal.claimRequest options c.subject.1 bodySha256 expiresAt w.clock disk).result =
        .error (if createBodyCommitment options c.subject.2 =
            createBodyCommitment options bodySha256
          then requestAlreadyAccepted else idempotencyConflict)
  /-- A nonce, or a request id with any body, is claimed again only after its claim expired. -/
  nonces : Exclusive (fun nonce : String => nonce) w.nonces
  requests : Exclusive (fun request : String × String => request.1) w.requests
  /-- What was accepted was claimed. -/
  acceptedNonces : w.acceptedNonces.Sublist w.nonces
  acceptedRequests : w.acceptedRequests.Sublist w.requests
  /-- No signed call passes twice. -/
  verified : w.verified.Nodup

theorem Refines.safeClaims (h : Refines options w) : SafeClaims options w where
  loads := by
    obtain ⟨-, hstarts, hopened⟩ :=
      openJournal_cases options h.file h.nodup_nonces h.nodup_requests .done
    obtain ⟨j, hj⟩ := Option.isSome_iff_exists.mp (hstarts rfl)
    exact ⟨j, hj, (hopened j hj).2.1⟩
  recalls := by
    intro g hnode hhealthy
    exact (h.memory g hnode hhealthy).holds_prune
  refusesNonce := by
    intro g hnode hhealthy c hc expiresAt disk
    have hmember : digestIdentifier options c.subject ∈ (w.liveNonces options).map Prod.fst :=
      List.mem_map.mpr ⟨nonceEntry options c, List.mem_map.mpr ⟨c, hc, rfl⟩, rfl⟩
    rw [claimNonce_refused options hhealthy (h.memory g hnode hhealthy) hmember]
  refusesRequest := by
    intro g hnode hhealthy c hc bodySha256 hdigest expiresAt disk
    have hmember : requestEntry options c ∈ w.liveRequests options :=
      List.mem_map.mpr ⟨c, hc, rfl⟩
    have hrefused := claimRequest_refused options hhealthy (h.memory g hnode hhealthy) hdigest
      hmember expiresAt disk
    rw [hrefused]
  nonces := h.nonceHistory.of_key fun a b hab => congrArg (digestIdentifier options) hab
  requests := h.requestHistory.of_key fun a b hab => congrArg (digestIdentifier options) hab
  acceptedNonces := h.acceptedNonces
  acceptedRequests := h.acceptedRequests
  verified := h.verified

/-- After every sequence of claims, compactions, disk failures and restarts, the journal is
the set of claims that were written and have not expired; where the disk works, these are
the claims that were granted. -/
theorem replay_journal_refines (options : JournalOptions) (clock : Nat)
    (calls : List JournalCall) :
    SafeClaims options (run (journalStep options) (.initial clock) calls) ∧
      ((∀ call ∈ calls, call.DiskWorks) →
        (run (journalStep options) (.initial clock) calls).Exact) := by
  constructor
  · exact ((Refines.initial clock).run calls).safeClaims
  · exact exact_run clock

end SupplierNode
end TokenStreaming
