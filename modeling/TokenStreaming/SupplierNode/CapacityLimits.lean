import TokenStreaming.Foundation.TransitionSystem
import TokenStreaming.SupplierNode.Runtime

/-!
# Supplier node - The limits of the capacity gate

The gate keeps the admissions of the last minute and prunes them when it is asked again.
What it forgets lies outside of every window that a later admission belongs to, so the
entries it sums are those that count.

Main results:

- Theorem {lit}`Gated.step`: one call keeps the three limits.
- Theorem {lit}`gate_enforces_limits`: all of it, along every run in which time passes.
-/

namespace TokenStreaming
namespace SupplierNode

open TransitionSystem

/-! ## The gate and its closures -/

/-- An admission, with the variable of the closure that {lit}`acquire` returned. -/
structure Acquisition where
  entry : CapacityEntry
  released : Bool
deriving DecidableEq

/-- A gate with everything it has ever admitted. -/
structure GateWorld where
  gate : CapacityGate
  acquisitions : List Acquisition
  /-- The latest instant the gate was given. -/
  clock : Nat
deriving DecidableEq

def GateWorld.initial (clock : Nat) : GateWorld where
  gate := ⟨[], 0⟩
  acquisitions := []
  clock := clock

inductive GateCall where
  | acquire (estimatedTokens nowMs : Nat)
  /-- A call of the closure of an admission. -/
  | release (slot : Nat)

/-- What an {lit}`acquire` answers. -/
def GateWorld.acquireResult (limits : NodeLimits) (w : GateWorld) (estimatedTokens nowMs : Nat) :
    Except Thrown Unit :=
  (w.gate.acquire limits estimatedTokens nowMs).2

def GateWorld.acquire (limits : NodeLimits) (w : GateWorld) (estimatedTokens nowMs : Nat) :
    GateWorld where
  gate := (w.gate.acquire limits estimatedTokens nowMs).1
  acquisitions :=
    match w.acquireResult limits estimatedTokens nowMs with
    | .ok () => w.acquisitions ++ [⟨⟨nowMs, estimatedTokens⟩, false⟩]
    | .error _ => w.acquisitions
  clock := nowMs

def GateWorld.release (w : GateWorld) (slot : Nat) : GateWorld :=
  match w.acquisitions[slot]? with
  | some acquisition =>
      if acquisition.released then w
      else
        { w with
          gate := w.gate.release
          acquisitions := w.acquisitions.set slot { acquisition with released := true } }
  | none => w

def gateStep (limits : NodeLimits) (w : GateWorld) : GateCall → GateWorld
  | .acquire estimatedTokens nowMs => w.acquire limits estimatedTokens nowMs
  | .release slot => w.release slot

/-- The clock does not run backwards. -/
def GateCall.InTime (w : GateWorld) : GateCall → Prop
  | .acquire _ nowMs => w.clock ≤ nowMs
  | .release _ => True

instance (w : GateWorld) (call : GateCall) : Decidable (call.InTime w) := by
  cases call with
  | acquire estimatedTokens nowMs => exact inferInstanceAs (Decidable (w.clock ≤ nowMs))
  | release slot => exact inferInstanceAs (Decidable True)

/-- The admissions of the minute that begins at an instant. -/
def GateWorld.minute (w : GateWorld) (start : Nat) : List CapacityEntry :=
  (w.acquisitions.map Acquisition.entry).filter fun entry =>
    decide (start ≤ entry.occurredAt) && decide (entry.occurredAt < start + 60000)

/-- The slots that were acquired and not released. -/
def GateWorld.unreleased (w : GateWorld) : Nat :=
  w.acquisitions.countP fun acquisition => !acquisition.released

/-- No minute and no instant exceeds its limits. -/
structure WithinLimits (limits : NodeLimits) (w : GateWorld) : Prop where
  requests : ∀ start, (w.minute start).length ≤ limits.requestsPerMinute
  tokens : ∀ start, ((w.minute start).map CapacityEntry.tokens).sum ≤ limits.tokensPerMinute
  slots : w.unreleased ≤ limits.concurrency

/-! ## One call -/

/-- The gate after some calls: its entries are the admissions that still count, its counter
the slots in use. -/
structure Gated (limits : NodeLimits) (w : GateWorld) : Prop where
  counted : ∃ forgotten, w.acquisitions.map Acquisition.entry = forgotten ++ w.gate.entries ∧
    ∀ entry ∈ forgotten, entry.occurredAt + 60000 ≤ w.clock
  active : w.gate.active = w.unreleased
  limits : WithinLimits limits w

theorem Gated.initial (limits : NodeLimits) (clock : Nat) :
    Gated limits (GateWorld.initial clock) where
  counted := ⟨[], rfl, by simp⟩
  active := rfl
  limits := ⟨fun _ => Nat.zero_le _, fun _ => Nat.zero_le _, Nat.zero_le _⟩

/-- Pruning forgets admissions of at least a minute ago. -/
theorem prune_counted {entries : List CapacityEntry} {gate : CapacityGate} {clock nowMs : Nat}
    (h : ∃ forgotten, entries = forgotten ++ gate.entries ∧
      ∀ entry ∈ forgotten, entry.occurredAt + 60000 ≤ clock) (hclock : clock ≤ nowMs) :
    ∃ forgotten, entries = forgotten ++ (gate.prune nowMs).entries ∧
      ∀ entry ∈ forgotten, entry.occurredAt + 60000 ≤ nowMs := by
  rcases h with ⟨forgotten, hentries, hold⟩
  refine ⟨forgotten ++ gate.entries.takeWhile fun entry => entry.occurredAt + 60000 ≤ nowMs,
    ?_, ?_⟩
  · rw [hentries, List.append_assoc, CapacityGate.prune, List.takeWhile_append_dropWhile]
  · intro entry hentry
    rcases List.mem_append.mp hentry with hentry | hentry
    · exact (hold entry hentry).trans hclock
    · exact of_decide_eq_true (List.all_eq_true.mp List.all_takeWhile entry hentry)

/-- What an admission has checked. -/
theorem acquire_ok {limits : NodeLimits} {gate : CapacityGate} {estimatedTokens nowMs : Nat}
    (h : (gate.acquire limits estimatedTokens nowMs).2 = .ok ()) :
    gate.active < limits.concurrency ∧
      (gate.prune nowMs).entries.length < limits.requestsPerMinute ∧
      ((gate.prune nowMs).entries.map CapacityEntry.tokens).sum + estimatedTokens ≤
        limits.tokensPerMinute ∧
      (gate.acquire limits estimatedTokens nowMs).1 =
        ⟨(gate.prune nowMs).entries ++ [⟨nowMs, estimatedTokens⟩], gate.active + 1⟩ := by
  have hactive : (gate.prune nowMs).active = gate.active := rfl
  unfold CapacityGate.acquire at h ⊢
  simp only [hactive] at h ⊢
  by_cases hslots : limits.concurrency ≤ gate.active
  · simp [hslots] at h
  · by_cases hminute : limits.requestsPerMinute ≤ (gate.prune nowMs).entries.length ∨
        limits.tokensPerMinute <
          ((gate.prune nowMs).entries.map CapacityEntry.tokens).sum + estimatedTokens
    · simp [hslots, hminute] at h
    · simp only [hslots, hminute, if_false, and_true]
      omega

/-- A refusal only prunes. -/
theorem acquire_error {limits : NodeLimits} {gate : CapacityGate} {estimatedTokens nowMs : Nat}
    {error : Thrown} (h : (gate.acquire limits estimatedTokens nowMs).2 = .error error) :
    (gate.acquire limits estimatedTokens nowMs).1 = gate.prune nowMs := by
  unfold CapacityGate.acquire at h ⊢
  by_cases hslots : limits.concurrency ≤ (gate.prune nowMs).active
  · simp [hslots]
  · by_cases hminute : limits.requestsPerMinute ≤ (gate.prune nowMs).entries.length ∨
        limits.tokensPerMinute <
          ((gate.prune nowMs).entries.map CapacityEntry.tokens).sum + estimatedTokens
    · simp [hslots, hminute]
    · simp [hslots, hminute] at h

/-- What a minute counts when the gate admits an entry that falls into it. -/
theorem minute_of_counted {w : GateWorld} {forgotten entries : List CapacityEntry} {nowMs start : Nat}
    (hentries : w.acquisitions.map Acquisition.entry = forgotten ++ entries)
    (hold : ∀ entry ∈ forgotten, entry.occurredAt + 60000 ≤ nowMs) (hnow : nowMs < start + 60000) :
    w.minute start = entries.filter fun entry =>
      decide (start ≤ entry.occurredAt) && decide (entry.occurredAt < start + 60000) := by
  have hnone : forgotten.filter (fun entry =>
      decide (start ≤ entry.occurredAt) && decide (entry.occurredAt < start + 60000)) = [] := by
    refine List.filter_eq_nil_iff.mpr fun entry hentry hcounted => ?_
    have hago := hold entry hentry
    simp only [Bool.and_eq_true, decide_eq_true_eq] at hcounted
    omega
  rw [GateWorld.minute, hentries, List.filter_append, hnone, List.nil_append]

/-- The tokens of some of the entries. -/
theorem tokens_filter_le (p : CapacityEntry → Bool) (entries : List CapacityEntry) :
    ((entries.filter p).map CapacityEntry.tokens).sum ≤
      (entries.map CapacityEntry.tokens).sum := by
  induction entries with
  | nil => exact Nat.le_refl _
  | cons entry entries ih =>
      by_cases hp : p entry = true
      · rw [List.filter_cons_of_pos hp]
        simp only [List.map_cons, List.sum_cons]
        omega
      · rw [List.filter_cons_of_neg hp]
        simp only [List.map_cons, List.sum_cons]
        omega

theorem Gated.admitted {limits : NodeLimits} {w : GateWorld} (h : Gated limits w)
    {estimatedTokens nowMs : Nat} (htime : w.clock ≤ nowMs)
    (hok : w.acquireResult limits estimatedTokens nowMs = .ok ()) :
    Gated limits (w.acquire limits estimatedTokens nowMs) := by
  obtain ⟨hslots, hrequests, htokens, hgate⟩ := acquire_ok hok
  rcases prune_counted h.counted htime with ⟨forgotten, hentries, hold⟩
  have hadded : (w.acquire limits estimatedTokens nowMs).acquisitions =
      w.acquisitions ++ [⟨⟨nowMs, estimatedTokens⟩, false⟩] := by
    simp only [GateWorld.acquire, hok]
  have hunreleased : (w.acquire limits estimatedTokens nowMs).unreleased = w.unreleased + 1 := by
    rw [GateWorld.unreleased, hadded, List.countP_append]
    rfl
  -- a minute grows by the new entry, if that falls into it
  have hminute : ∀ start, (w.acquire limits estimatedTokens nowMs).minute start = w.minute start ∨
      nowMs < start + 60000 ∧ (w.acquire limits estimatedTokens nowMs).minute start =
        w.minute start ++ [⟨nowMs, estimatedTokens⟩] := by
    intro start
    unfold GateWorld.minute
    rw [hadded, List.map_append, List.filter_append]
    by_cases hin : start ≤ nowMs ∧ nowMs < start + 60000
    · right
      exact ⟨hin.2, by simp [hin]⟩
    · left
      simp only [List.map_cons, List.map_nil]
      rw [List.filter_cons_of_neg (by simpa using hin), List.filter_nil, List.append_nil]
  refine
    { counted := ⟨forgotten, ?_, hold⟩
      active := ?_
      limits := ⟨fun start => ?_, fun start => ?_, ?_⟩ }
  · rw [hadded, List.map_append, hentries, GateWorld.acquire, hgate, List.append_assoc]
    rfl
  · rw [hunreleased, GateWorld.acquire, hgate, ← h.active]
  · rcases hminute start with hsame | ⟨hnow, hgrown⟩
    · rw [hsame]
      exact h.limits.requests start
    · rw [hgrown, minute_of_counted hentries hold hnow, List.length_append]
      have hle := List.length_filter_le (fun entry : CapacityEntry =>
        decide (start ≤ entry.occurredAt) && decide (entry.occurredAt < start + 60000))
        (w.gate.prune nowMs).entries
      simp only [List.length_cons, List.length_nil]
      omega
  · rcases hminute start with hsame | ⟨hnow, hgrown⟩
    · rw [hsame]
      exact h.limits.tokens start
    · rw [hgrown, minute_of_counted hentries hold hnow, List.map_append, List.sum_append]
      have hle := tokens_filter_le (fun entry : CapacityEntry =>
        decide (start ≤ entry.occurredAt) && decide (entry.occurredAt < start + 60000))
        (w.gate.prune nowMs).entries
      simp only [List.map_cons, List.map_nil, List.sum_cons, List.sum_nil]
      omega
  · rw [hunreleased, ← h.active]
    exact hslots

theorem Gated.refused {limits : NodeLimits} {w : GateWorld} (h : Gated limits w)
    {estimatedTokens nowMs : Nat} (htime : w.clock ≤ nowMs) {error : Thrown}
    (herror : w.acquireResult limits estimatedTokens nowMs = .error error) :
    Gated limits (w.acquire limits estimatedTokens nowMs) := by
  have hgate := acquire_error herror
  have hsame : (w.acquire limits estimatedTokens nowMs).acquisitions = w.acquisitions := by
    simp only [GateWorld.acquire, herror]
  refine
    { counted := ?_
      active := ?_
      limits := ⟨fun start => ?_, fun start => ?_, ?_⟩ }
  · rcases prune_counted h.counted htime with ⟨forgotten, hentries, hold⟩
    refine ⟨forgotten, ?_, hold⟩
    rw [hsame, hentries, GateWorld.acquire, hgate]
  · rw [GateWorld.unreleased, hsame, GateWorld.acquire, hgate]
    exact h.active
  · rw [GateWorld.minute, hsame]
    exact h.limits.requests start
  · rw [GateWorld.minute, hsame]
    exact h.limits.tokens start
  · rw [GateWorld.unreleased, hsame]
    exact h.limits.slots

/-- Releasing changes no entry. -/
theorem release_entries (w : GateWorld) (slot : Nat) :
    (w.release slot).acquisitions.map Acquisition.entry =
      w.acquisitions.map Acquisition.entry := by
  unfold GateWorld.release
  split
  · rename_i acquisition hslot
    split
    · rfl
    · obtain ⟨hlength, rfl⟩ := List.getElem?_eq_some_iff.mp hslot
      have hlength' : slot < (w.acquisitions.map Acquisition.entry).length := by simpa using hlength
      have hentry : (w.acquisitions.map Acquisition.entry)[slot] = w.acquisitions[slot].entry :=
        List.getElem_map ..
      rw [List.map_set]
      show (w.acquisitions.map Acquisition.entry).set slot w.acquisitions[slot].entry = _
      rw [← hentry, List.set_getElem_self]
  · rfl

/-- A slot in use that becomes free. -/
theorem countP_set_released {acquisitions : List Acquisition} {slot : Nat}
    {acquisition : Acquisition} (hslot : acquisitions[slot]? = some acquisition)
    (hheld : acquisition.released = false) :
    (acquisitions.set slot { acquisition with released := true }).countP
        (fun a => !a.released) + 1 =
      acquisitions.countP fun a => !a.released := by
  induction acquisitions generalizing slot with
  | nil => simp at hslot
  | cons head acquisitions ih =>
      cases slot with
      | zero =>
          simp only [List.getElem?_cons_zero, Option.some.injEq] at hslot
          subst hslot
          simp [hheld]
      | succ slot =>
          simp only [List.getElem?_cons_succ] at hslot
          have hrest := ih hslot
          simp only [List.set_cons_succ, List.countP_cons]
          omega

theorem Gated.release {limits : NodeLimits} {w : GateWorld} (h : Gated limits w) (slot : Nat) :
    Gated limits (w.release slot) := by
  have hentries := release_entries w slot
  have hminute : ∀ start, (w.release slot).minute start = w.minute start := fun start => by
    rw [GateWorld.minute, hentries, GateWorld.minute]
  have hgate : (w.release slot).gate.entries = w.gate.entries ∧
      (w.release slot).clock = w.clock ∧
      (w.release slot).gate.active = (w.release slot).unreleased ∧
      (w.release slot).unreleased ≤ w.unreleased := by
    unfold GateWorld.release
    split
    · rename_i acquisition hslot
      by_cases hreleased : acquisition.released = true
      · rw [if_pos hreleased]
        exact ⟨rfl, rfl, h.active, Nat.le_refl _⟩
      · rw [if_neg hreleased]
        have hcount := countP_set_released hslot (Bool.eq_false_iff.mpr hreleased)
        have hactive := h.active
        simp only [GateWorld.unreleased, CapacityGate.release] at hactive ⊢
        exact ⟨trivial, trivial, by omega, by omega⟩
    · exact ⟨rfl, rfl, h.active, Nat.le_refl _⟩
  obtain ⟨hkept, hclock, hactive, hle⟩ := hgate
  refine
    { counted := ?_
      active := hactive
      limits := ⟨fun start => ?_, fun start => ?_, hle.trans h.limits.slots⟩ }
  · rw [hentries, hkept, hclock]
    exact h.counted
  · rw [hminute]
    exact h.limits.requests start
  · rw [hminute]
    exact h.limits.tokens start

theorem Gated.step {limits : NodeLimits} {w : GateWorld} (h : Gated limits w) {call : GateCall}
    (htime : call.InTime w) : Gated limits (gateStep limits w call) := by
  cases call with
  | acquire estimatedTokens nowMs =>
      cases hresult : w.acquireResult limits estimatedTokens nowMs with
      | ok _ => exact h.admitted htime hresult
      | error error => exact h.refused htime hresult
  | release slot => exact h.release slot

/-! ## Repeated releases and refusals -/

/-- A closure does something once. -/
theorem release_release (w : GateWorld) (slot : Nat) :
    (w.release slot).release slot = w.release slot := by
  cases hslot : w.acquisitions[slot]? with
  | none => simp [GateWorld.release, hslot]
  | some acquisition =>
      by_cases hreleased : acquisition.released = true
      · simp [GateWorld.release, hslot, hreleased]
      · have hfirst : w.release slot =
            { w with
              gate := w.gate.release
              acquisitions := w.acquisitions.set slot { acquisition with released := true } } := by
          simp only [GateWorld.release, hslot, if_neg hreleased]
        rw [hfirst]
        unfold GateWorld.release
        rw [List.getElem?_set_self (List.getElem?_eq_some_iff.mp hslot).1]
        rfl

/-- What the calls answer, one answer for each {lit}`acquire`. -/
def gateAnswers (limits : NodeLimits) : GateWorld → List GateCall → List (Except Thrown Unit)
  | _, [] => []
  | w, .acquire estimatedTokens nowMs :: calls =>
      w.acquireResult limits estimatedTokens nowMs ::
        gateAnswers limits (w.acquire limits estimatedTokens nowMs) calls
  | w, .release slot :: calls => gateAnswers limits (w.release slot) calls

/-- The second world differs from the first by pruning only. -/
structure PrunedFrom (w pruned : GateWorld) : Prop where
  acquisitions : pruned.acquisitions = w.acquisitions
  active : pruned.gate.active = w.gate.active
  later : w.clock ≤ pruned.clock
  entries : ∀ nowMs, pruned.clock ≤ nowMs → pruned.gate.prune nowMs = w.gate.prune nowMs

/-- What was pruned would be pruned later. -/
theorem prune_prune (gate : CapacityGate) {earlier nowMs : Nat} (h : earlier ≤ nowMs) :
    (gate.prune earlier).prune nowMs = gate.prune nowMs := by
  unfold CapacityGate.prune
  simp only [CapacityGate.mk.injEq, and_true]
  induction gate.entries with
  | nil => rfl
  | cons entry entries ih =>
      by_cases hago : entry.occurredAt + 60000 ≤ earlier
      · have hlater : entry.occurredAt + 60000 ≤ nowMs := hago.trans h
        rw [List.dropWhile_cons_of_pos (by simpa using hago),
          List.dropWhile_cons_of_pos (by simpa using hlater)]
        exact ih
      · rw [List.dropWhile_cons_of_neg (by simpa using hago)]

theorem acquire_of_prune {limits : NodeLimits} {gate gate' : CapacityGate}
    {estimatedTokens nowMs : Nat} (h : gate'.prune nowMs = gate.prune nowMs) :
    gate'.acquire limits estimatedTokens nowMs = gate.acquire limits estimatedTokens nowMs := by
  unfold CapacityGate.acquire
  rw [h]

/-- Pruning earlier changes no later answer. -/
theorem PrunedFrom.answers {limits : NodeLimits} {w pruned : GateWorld} (h : PrunedFrom w pruned)
    {calls : List GateCall} (htime : EveryStep (gateStep limits) (fun w call => call.InTime w)
      pruned calls) : gateAnswers limits pruned calls = gateAnswers limits w calls := by
  induction calls generalizing w pruned with
  | nil => rfl
  | cons call calls ih =>
      cases call with
      | acquire estimatedTokens nowMs =>
          have hgate : pruned.gate.acquire limits estimatedTokens nowMs =
              w.gate.acquire limits estimatedTokens nowMs :=
            acquire_of_prune (h.entries nowMs htime.1)
          have hsame : pruned.acquire limits estimatedTokens nowMs =
              w.acquire limits estimatedTokens nowMs := by
            unfold GateWorld.acquire GateWorld.acquireResult
            rw [hgate, h.acquisitions]
          have hresult : pruned.acquireResult limits estimatedTokens nowMs =
              w.acquireResult limits estimatedTokens nowMs := congrArg Prod.snd hgate
          rw [gateAnswers, gateAnswers, hsame, hresult]
      | release slot =>
          refine ih ?_ htime.2
          unfold GateWorld.release
          rw [h.acquisitions]
          split
          · split
            · exact h
            · refine
                { acquisitions := rfl
                  active := ?_
                  later := h.later
                  entries := fun nowMs hnow => ?_ }
              · simp only [CapacityGate.release, h.active]
              · have hentries := congrArg CapacityGate.entries (h.entries nowMs hnow)
                simp only [CapacityGate.prune, CapacityGate.release, CapacityGate.mk.injEq,
                  h.active, and_true] at hentries ⊢
                exact hentries
          · exact h

/-- A refusal is forgotten. -/
theorem refused_answers {limits : NodeLimits} {w : GateWorld} {estimatedTokens nowMs : Nat}
    {error : Thrown} (htime : w.clock ≤ nowMs)
    (herror : w.acquireResult limits estimatedTokens nowMs = .error error) {calls : List GateCall}
    (hlater : EveryStep (gateStep limits) (fun w call => call.InTime w)
      (gateStep limits w (.acquire estimatedTokens nowMs)) calls) :
    gateAnswers limits (gateStep limits w (.acquire estimatedTokens nowMs)) calls =
      gateAnswers limits w calls := by
  have hgate := acquire_error herror
  refine PrunedFrom.answers
    { acquisitions := ?_
      active := ?_
      later := htime
      entries := fun instant hinstant => ?_ } hlater
  · simp only [gateStep, GateWorld.acquire, herror]
  · simp only [gateStep, GateWorld.acquire, hgate]
    rfl
  · simp only [gateStep, GateWorld.acquire, hgate]
    exact prune_prune _ hinstant

/--
Along every run in which time passes the gate admits no more requests and tokens in any
minute and no more unreleased slots than its limits, a second release does nothing, and a
refusal changes no later answer.
-/
theorem gate_enforces_limits (limits : NodeLimits) (clock : Nat) (calls : List GateCall)
    (htime : EveryStep (gateStep limits) (fun w call => call.InTime w) (GateWorld.initial clock)
      calls) (w : GateWorld) (hw : w = run (gateStep limits) (GateWorld.initial clock) calls) :
    WithinLimits limits w ∧ w.gate.active = w.unreleased ∧
      (∀ slot, gateStep limits (gateStep limits w (.release slot)) (.release slot) =
        gateStep limits w (.release slot)) ∧
      ∀ estimatedTokens nowMs error later, w.clock ≤ nowMs →
        w.acquireResult limits estimatedTokens nowMs = .error error →
        EveryStep (gateStep limits) (fun w call => call.InTime w)
          (gateStep limits w (.acquire estimatedTokens nowMs)) later →
        gateAnswers limits (gateStep limits w (.acquire estimatedTokens nowMs)) later =
          gateAnswers limits w later := by
  have hgated : Gated limits w := by
    rw [hw]
    exact run_invariant_of_everyStep (fun _ _ hmeets hgated => hgated.step hmeets) htime
      (Gated.initial limits clock)
  refine ⟨hgated.limits, hgated.active, fun slot => release_release w slot, ?_⟩
  intro estimatedTokens nowMs error later hnow herror hlater
  exact refused_answers hnow herror hlater

/-- A minute of two requests: the third is refused, and a minute later there is room. -/
def sampleGateCalls : List GateCall :=
  [.acquire 10 0, .acquire 10 1, .release 0, .release 0, .acquire 10 2, .acquire 10 60000]

def sampleGateLimits : NodeLimits where
  requestsPerMinute := 2
  tokensPerMinute := 100
  concurrency := 2
  maxOutputTokens := 10
  maxInputBytes := 10

theorem gate_enforces_limits_sample :
    WithinLimits sampleGateLimits
        (run (gateStep sampleGateLimits) (GateWorld.initial 0) sampleGateCalls) ∧
      gateAnswers sampleGateLimits (gateStep sampleGateLimits
          (run (gateStep sampleGateLimits) (GateWorld.initial 0) (sampleGateCalls.take 4))
            (.acquire 10 2)) [.acquire 10 60000] =
        gateAnswers sampleGateLimits
          (run (gateStep sampleGateLimits) (GateWorld.initial 0) (sampleGateCalls.take 4))
          [.acquire 10 60000] := by
  constructor
  · exact (gate_enforces_limits sampleGateLimits 0 sampleGateCalls (by decide) _ rfl).1
  · exact (gate_enforces_limits sampleGateLimits 0 (sampleGateCalls.take 4) (by decide) _
      rfl).2.2.2 10 2 _ [.acquire 10 60000] (by decide) rfl (by decide)

end SupplierNode
end TokenStreaming
