import Mathlib.Data.List.Basic

/-!
# Foundation - Runs of a transition system

A transition system is a total step function on states and calls; a run folds
the step over a list of calls.  The lemmas here turn facts about one step into
facts about every run.

Main results:

- Theorem {lit}`run_invariant`: a property that every step preserves holds
  after every run.
- Theorem {lit}`run_invariant_of_everyStep`: the same, when only the steps that
  meet a condition preserve the property.
- Theorem {lit}`run_related`: a reflexive and transitive relation between a
  state and its successor relates the ends of every run.
- Theorem {lit}`exists_change`: what becomes true along a run becomes true at one call.
-/

namespace TokenStreaming
namespace TransitionSystem

variable {State Call : Type} {step : State → Call → State}

/-- Perform the calls from left to right. -/
def run (step : State → Call → State) (s : State) (calls : List Call) : State :=
  calls.foldl step s

@[simp]
theorem run_nil (s : State) : run step s [] = s :=
  rfl

@[simp]
theorem run_cons (s : State) (c : Call) (calls : List Call) :
    run step s (c :: calls) = run step (step s c) calls :=
  rfl

theorem run_append (s : State) (first second : List Call) :
    run step s (first ++ second) = run step (run step s first) second :=
  List.foldl_append ..

/-- Every call of the run is performed in a state that meets the condition. -/
def EveryStep (step : State → Call → State) (Meets : State → Call → Prop) :
    State → List Call → Prop
  | _, [] => True
  | s, c :: calls => Meets s c ∧ EveryStep step Meets (step s c) calls

instance EveryStep.decidable {Meets : State → Call → Prop}
    [∀ s c, Decidable (Meets s c)] (s : State) (calls : List Call) :
    Decidable (EveryStep step Meets s calls) :=
  match calls with
  | [] => isTrue trivial
  | c :: calls =>
      have : Decidable (EveryStep step Meets (step s c) calls) :=
        EveryStep.decidable (step s c) calls
      inferInstanceAs (Decidable (Meets s c ∧ EveryStep step Meets (step s c) calls))

theorem EveryStep.append {Meets : State → Call → Prop} {s : State} {first second : List Call} :
    EveryStep step Meets s (first ++ second) ↔
      EveryStep step Meets s first ∧ EveryStep step Meets (run step s first) second := by
  induction first generalizing s with
  | nil => simp [EveryStep]
  | cons c first ih => simp [EveryStep, ih, and_assoc]

theorem EveryStep.and {First Second : State → Call → Prop} {s : State} {calls : List Call}
    (hfirst : EveryStep step First s calls) (hsecond : EveryStep step Second s calls) :
    EveryStep step (fun s c => First s c ∧ Second s c) s calls := by
  induction calls generalizing s with
  | nil => trivial
  | cons c calls ih =>
      exact ⟨⟨hfirst.1, hsecond.1⟩, ih hfirst.2 hsecond.2⟩

/-- A condition the calls meet in every state. -/
theorem EveryStep.of_forall {Meets : State → Call → Prop} {calls : List Call}
    (h : ∀ c ∈ calls, ∀ s, Meets s c) (s : State) : EveryStep step Meets s calls := by
  induction calls generalizing s with
  | nil => trivial
  | cons c calls ih =>
      have hhead := h c List.mem_cons_self s
      exact ⟨hhead, ih (fun d hd => h d (List.mem_cons_of_mem _ hd)) _⟩

/-- The rule of conditional invariants. -/
theorem run_invariant_of_everyStep {Meets : State → Call → Prop} {I : State → Prop}
    (hstep : ∀ s c, Meets s c → I s → I (step s c)) {s : State} {calls : List Call}
    (hmeets : EveryStep step Meets s calls) (h0 : I s) : I (run step s calls) := by
  induction calls generalizing s with
  | nil => exact h0
  | cons c calls ih => exact ih hmeets.2 (hstep s c hmeets.1 h0)

/-- The rule of invariants. -/
theorem run_invariant {I : State → Prop} (hstep : ∀ s c, I s → I (step s c)) {s : State}
    (calls : List Call) (h0 : I s) : I (run step s calls) := by
  induction calls generalizing s with
  | nil => exact h0
  | cons c calls ih => exact ih (hstep s c h0)

/-- A relation that every step extends relates the ends of a run. -/
theorem run_related {R : State → State → Prop} {I : State → Prop}
    (hrefl : ∀ s, R s s) (htrans : ∀ a b c, R a b → R b c → R a c)
    (hinv : ∀ s c, I s → I (step s c)) (hstep : ∀ s c, I s → R s (step s c))
    {s : State} (calls : List Call) (h0 : I s) : R s (run step s calls) := by
  induction calls generalizing s with
  | nil => exact hrefl s
  | cons c calls ih => exact htrans _ _ _ (hstep s c h0) (ih (hinv s c h0))

/-! ## Positions of a run -/

/-- The state before the call at a position. -/
def stateAt (step : State → Call → State) (s : State) (calls : List Call) (n : Nat) : State :=
  run step s (calls.take n)

@[simp]
theorem stateAt_zero (s : State) (calls : List Call) : stateAt step s calls 0 = s :=
  rfl

/-- The call at a position leads to the next state. -/
theorem stateAt_succ {s : State} {calls : List Call} {n : Nat} {c : Call}
    (h : calls[n]? = some c) :
    stateAt step s calls (n + 1) = step (stateAt step s calls n) c := by
  have htake : calls.take (n + 1) = calls.take n ++ [c] := by
    rw [List.take_add_one, h]
    rfl
  rw [stateAt, htake, run_append]
  rfl

/-- Behind the last call nothing changes. -/
theorem stateAt_succ_of_none {s : State} {calls : List Call} {n : Nat}
    (h : calls[n]? = none) : stateAt step s calls (n + 1) = stateAt step s calls n := by
  have hlength : calls.length ≤ n := List.getElem?_eq_none_iff.mp h
  rw [stateAt, stateAt, List.take_of_length_le hlength, List.take_of_length_le (by omega)]

/-- A later position is reached by the calls in between. -/
theorem stateAt_of_le {s : State} {calls : List Call} {i j : Nat} (h : i ≤ j) :
    stateAt step s calls j = run step (stateAt step s calls i) ((calls.take j).drop i) := by
  have hsplit : calls.take j = calls.take i ++ (calls.take j).drop i := by
    rw [show calls.take i = (calls.take j).take i by rw [List.take_take, Nat.min_eq_left h],
      List.take_append_drop]
  rw [stateAt, stateAt, ← run_append, ← hsplit]

/-- What holds at a position and not at the beginning becomes true at some call. -/
theorem exists_change {P : State → Prop} {s : State} {calls : List Call} {n : Nat}
    (h0 : ¬ P s) (hn : P (stateAt step s calls n)) :
    ∃ i c, i < n ∧ calls[i]? = some c ∧ ¬ P (stateAt step s calls i) ∧
      P (step (stateAt step s calls i) c) := by
  induction n with
  | zero => exact absurd hn h0
  | succ n ih =>
      by_cases hbefore : P (stateAt step s calls n)
      · obtain ⟨i, c, hi, hc, hnot, hyes⟩ := ih hbefore
        exact ⟨i, c, by omega, hc, hnot, hyes⟩
      · cases hc : calls[n]? with
        | none =>
            rw [stateAt_succ_of_none hc] at hn
            exact absurd hn hbefore
        | some c =>
            rw [stateAt_succ hc] at hn
            exact ⟨n, c, by omega, hc, hbefore, hn⟩

end TransitionSystem
end TokenStreaming
