import TokenStreaming.Foundation.Effects

/-!
# Foundation - Programs that do not look at their log

A program over a log may add events to it without looking at it.  What it adds and how it ends
are then the same behind every log, and runs can be compared by what they add.

Main results:

- Theorem {lit}`Emits.unique`: what a program adds and how it ends are determined.
- Theorem {lit}`Oblivious.bind`: sequences of such programs.
- Theorem {lit}`Emits.of_bind`: how a sequence ends.
-/

namespace TokenStreaming
namespace Effects

variable {Event ε α β : Type}

/-- Behind every log the program adds the events and ends with the result. -/
def Emits (program : Program (List Event) ε α) (new : List Event) (result : Except ε α) : Prop :=
  ∀ log, program log =
    match result with
    | .ok a => .ok a (log ++ new)
    | .error e => .error e (log ++ new)

/-- The program does the same behind every log. -/
def Oblivious (program : Program (List Event) ε α) : Prop :=
  ∃ new result, Emits program new result

namespace Emits

variable {program : Program (List Event) ε α} {next : α → Program (List Event) ε β}
  {new new' : List Event} {a : α} {e : ε} {result : Except ε α} {result' : Except ε β}

theorem unique {other : Except ε α} (h : Emits program new result)
    (h' : Emits program new' other) : new = new' ∧ result = other := by
  have hlog := (h []).symm.trans (h' [])
  cases result with
  | ok a =>
      cases other with
      | ok b =>
          simp only [List.nil_append, EStateM.Result.ok.injEq] at hlog
          exact ⟨hlog.2, by rw [hlog.1]⟩
      | error e => cases hlog
  | error e =>
      cases other with
      | ok b => cases hlog
      | error e' =>
          simp only [List.nil_append, EStateM.Result.error.injEq] at hlog
          exact ⟨hlog.2, by rw [hlog.1]⟩

theorem pure (a : α) : Emits (Pure.pure a : Program (List Event) ε α) [] (.ok a) := by
  intro log
  rw [List.append_nil]
  rfl

theorem throw (e : ε) : Emits (MonadExcept.throw e : Program (List Event) ε α) [] (.error e) := by
  intro log
  rw [List.append_nil]
  rfl

theorem bind (h : Emits program new (.ok a)) (hnext : Emits (next a) new' result') :
    Emits (program >>= next) (new ++ new') result' := by
  intro log
  show EStateM.bind program next log = _
  unfold EStateM.bind
  rw [h log]
  dsimp only
  rw [hnext (log ++ new), List.append_assoc]

theorem bind_error (h : Emits program new (.error e)) :
    Emits (program >>= next) new (.error e) := by
  intro log
  show EStateM.bind program next log = _
  unfold EStateM.bind
  rw [h log]

/-- A handler that throws another exception. -/
theorem tryCatch_throw {f : ε → ε} (h : Emits program new result) :
    Emits (MonadExcept.tryCatch program fun e => MonadExcept.throw (f e)) new
      (result.mapError f) := by
  intro log
  show EStateM.tryCatch program (fun e => MonadExcept.throw (f e)) log = _
  unfold EStateM.tryCatch
  rw [h log]
  cases result with
  | ok a => rfl
  | error e => rfl

/-- A program that adds one event. -/
theorem emit (event : Event) :
    Emits (modify fun log => log ++ [event] : Program (List Event) ε PUnit) [event] (.ok ()) :=
  fun _ => rfl

/-- An answer that does not depend on the log. -/
theorem ask {answer : List Event → Except ε α} (h : ∀ log, answer log = result) :
    Emits (Effects.ask answer) [] result := by
  intro log
  cases result with
  | ok a => simp [Effects.ask, h log]
  | error e => simp [Effects.ask, h log]

theorem failIf_pos {condition : Prop} [Decidable condition] (h : condition) :
    Emits (Effects.failIf condition e : Program (List Event) ε Unit) [] (.error e) := by
  unfold Effects.failIf
  rw [if_pos h]
  exact throw e

theorem failIf_neg {condition : Prop} [Decidable condition] (h : ¬ condition) :
    Emits (Effects.failIf condition e : Program (List Event) ε Unit) [] (.ok ()) := by
  unfold Effects.failIf
  rw [if_neg h]
  exact pure ()

/-- A program that looks at the log and does not use it. -/
theorem get_bind {next : List Event → Program (List Event) ε α}
    (h : ∀ log, Emits (next log) new result) :
    Emits ((MonadState.get : Program (List Event) ε (List Event)) >>= next) new result :=
  fun log => h log log

end Emits

namespace Oblivious

variable {program : Program (List Event) ε α} {next : α → Program (List Event) ε β}

theorem pure (a : α) : Oblivious (Pure.pure a : Program (List Event) ε α) :=
  ⟨[], _, .pure a⟩

theorem throw (e : ε) : Oblivious (MonadExcept.throw e : Program (List Event) ε α) :=
  ⟨[], _, .throw e⟩

theorem bind (h : Oblivious program) (hnext : ∀ a, Oblivious (next a)) :
    Oblivious (program >>= next) := by
  rcases h with ⟨new, result, h⟩
  cases result with
  | error e => exact ⟨new, _, h.bind_error⟩
  | ok a =>
      rcases hnext a with ⟨new', result', hnext⟩
      exact ⟨new ++ new', result', h.bind hnext⟩

end Oblivious

/-- A sequence ends with the error of its first part, or goes on behind it. -/
theorem Emits.of_bind {program : Program (List Event) ε α} {next : α → Program (List Event) ε β}
    {new : List Event} {result : Except ε β} (hfirst : Oblivious program)
    (hnext : ∀ a, Oblivious (next a)) (h : Emits (program >>= next) new result) :
    (∃ e, Emits program new (.error e) ∧ result = .error e) ∨
      ∃ a new₁ new₂, Emits program new₁ (.ok a) ∧ Emits (next a) new₂ result ∧
        new = new₁ ++ new₂ := by
  rcases hfirst with ⟨new₁, first, hfirst⟩
  cases first with
  | error e =>
      rcases h.unique hfirst.bind_error with ⟨rfl, rfl⟩
      exact .inl ⟨e, hfirst, rfl⟩
  | ok a =>
      rcases hnext a with ⟨new₂, second, hsecond⟩
      rcases h.unique (hfirst.bind hsecond) with ⟨rfl, rfl⟩
      exact .inr ⟨a, new₁, new₂, hfirst, hsecond, rfl⟩

end Effects
end TokenStreaming
