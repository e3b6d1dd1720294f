import Mathlib.Data.List.Basic

/-!
# Foundation - Programs with state and exceptions

A program changes a state and returns or throws; what it did before it threw stays done.
Its surroundings answer it, with a value or an exception that may depend on everything that
has happened.  A triple says what holds behind a return and what behind a throw.

Main results:

- Theorems {lit}`Triple.bind` and {lit}`Triple.tryCatch`: sequences and handlers.
- Theorem {lit}`Triple.forM`: an invariant of a loop over a list.
- Theorem {lit}`Returns.bind`: what the returns of a sequence satisfy.
- Theorem {lit}`logged_append`: a law of logs holds of one more event.
-/

namespace TokenStreaming
namespace Effects

variable {σ ε α β : Type}

/-- A program over a state. -/
abbrev Program (σ ε α : Type) := EStateM ε σ α

/-- The answer of the surroundings, which see the state. -/
def ask (answer : σ → Except ε α) : Program σ ε α := fun s =>
  match answer s with
  | .ok a => .ok a s
  | .error e => .error e s

/-- A check that throws. -/
def failIf (condition : Prop) [Decidable condition] (e : ε) : Program σ ε Unit :=
  if condition then throw e else pure ()

/-- The state a run ends in. -/
def finalState (program : Program σ ε α) (s : σ) : σ :=
  match program s with
  | .ok _ s' => s'
  | .error _ s' => s'

/-- What a run returns or throws. -/
def outcome (program : Program σ ε α) (s : σ) : Except ε α :=
  match program s with
  | .ok a _ => .ok a
  | .error e _ => .error e

/-- From the precondition, a return leads to the first postcondition and a throw to the
second. -/
def Triple (P : σ → Prop) (program : Program σ ε α) (Q : α → σ → Prop) (E : ε → σ → Prop) :
    Prop :=
  ∀ s, P s →
    match program s with
    | .ok a s' => Q a s'
    | .error e s' => E e s'

namespace Triple

variable {P P' : σ → Prop} {Q Q' : α → σ → Prop} {E E' : ε → σ → Prop}

/-- A property behind every return and every throw is one of the state in which a run ends. -/
theorem finalState {program : Program σ ε α} {s : σ} {I : σ → Prop}
    (h : Triple P program (fun _ => I) (fun _ => I)) (hs : P s) :
    I (Effects.finalState program s) := by
  have hrun := h s hs
  unfold Effects.finalState
  cases hresult : program s with
  | ok a s' =>
      rw [hresult] at hrun
      exact hrun
  | error e s' =>
      rw [hresult] at hrun
      exact hrun

/-- A relation between what a run returns or throws and the state it ends in. -/
theorem outcome {program : Program σ ε α} {s : σ} {R : Except ε α → σ → Prop}
    (h : Triple P program (fun a => R (.ok a)) (fun e => R (.error e))) (hs : P s) :
    R (Effects.outcome program s) (Effects.finalState program s) := by
  have hrun := h s hs
  unfold Effects.outcome Effects.finalState
  cases hresult : program s with
  | ok a s' =>
      rw [hresult] at hrun
      exact hrun
  | error e s' =>
      rw [hresult] at hrun
      exact hrun

/-- The rule of consequence. -/
theorem weaken {program : Program σ ε α} (h : Triple P program Q E) (hpre : ∀ s, P' s → P s)
    (hpost : ∀ a s, Q a s → Q' a s) (hthrow : ∀ e s, E e s → E' e s) :
    Triple P' program Q' E' := by
  intro s hs
  have hrun := h s (hpre s hs)
  cases hresult : program s with
  | ok a s' =>
      rw [hresult] at hrun
      exact hpost a s' hrun
  | error e s' =>
      rw [hresult] at hrun
      exact hthrow e s' hrun

/-- It is enough to look at every state of the precondition by itself. -/
theorem of_state {program : Program σ ε α}
    (h : ∀ s, P s → Triple (fun s' => s' = s) program Q E) : Triple P program Q E :=
  fun s hs => h s hs s rfl

/-- A fact of the precondition that is not about the state. -/
theorem of_fact {φ : Prop} {program : Program σ ε α} (h : φ → Triple P program Q E) :
    Triple (fun s => φ ∧ P s) program Q E :=
  fun s hs => h hs.1 s hs.2

theorem pure {a : α} (h : ∀ s, P s → Q a s) :
    Triple P (Pure.pure a : Program σ ε α) Q E :=
  fun s hs => h s hs

theorem throw {e : ε} (h : ∀ s, P s → E e s) :
    Triple P (MonadExcept.throw e : Program σ ε α) Q E :=
  fun s hs => h s hs

theorem bind {R : α → σ → Prop} {Q : β → σ → Prop} {program : Program σ ε α}
    {next : α → Program σ ε β} (hfirst : Triple P program R E)
    (hnext : ∀ a, Triple (R a) (next a) Q E) : Triple P (program >>= next) Q E := by
  intro s hs
  have hrun := hfirst s hs
  show match EStateM.bind program next s with
    | .ok b s' => Q b s'
    | .error e s' => E e s'
  unfold EStateM.bind
  cases hresult : program s with
  | ok a s' =>
      rw [hresult] at hrun
      exact hnext a s' hrun
  | error e s' =>
      rw [hresult] at hrun
      exact hrun

theorem tryCatch {R : ε → σ → Prop} {program : Program σ ε α} {handler : ε → Program σ ε α}
    (hbody : Triple P program Q R) (hhandler : ∀ e, Triple (R e) (handler e) Q E) :
    Triple P (MonadExcept.tryCatch program handler) Q E := by
  intro s hs
  have hrun := hbody s hs
  show match EStateM.tryCatch program handler s with
    | .ok a s' => Q a s'
    | .error e s' => E e s'
  unfold EStateM.tryCatch
  cases hresult : program s with
  | ok a s' =>
      rw [hresult] at hrun
      exact hrun
  | error e s' =>
      rw [hresult] at hrun
      exact hhandler e s' hrun

theorem modify {f : σ → σ} {Q : PUnit → σ → Prop} (h : ∀ s, P s → Q () (f s)) :
    Triple P (modify f : Program σ ε PUnit) Q E :=
  fun s hs => h s hs

theorem get {Q : σ → σ → Prop} (h : ∀ s, P s → Q s s) :
    Triple P (MonadState.get : Program σ ε σ) Q E :=
  fun s hs => h s hs

/-- A program that looks at the state first. -/
theorem get_bind {Q : β → σ → Prop} {next : σ → Program σ ε β}
    (h : ∀ a, P a → Triple (fun s => s = a) (next a) Q E) :
    Triple P ((MonadState.get : Program σ ε σ) >>= next) Q E :=
  fun s hs => h s hs s rfl

theorem ask {answer : σ → Except ε α} (hok : ∀ s a, P s → answer s = .ok a → Q a s)
    (herror : ∀ s e, P s → answer s = .error e → E e s) :
    Triple P (Effects.ask answer) Q E := by
  intro s hs
  unfold Effects.ask
  cases hanswer : answer s with
  | ok a => exact hok s a hs hanswer
  | error e => exact herror s e hs hanswer

theorem failIf {condition : Prop} [Decidable condition] {e : ε} {Q : Unit → σ → Prop}
    (hthrow : ∀ s, P s → condition → E e s) (hpass : ∀ s, P s → ¬ condition → Q () s) :
    Triple P (Effects.failIf condition e) Q E := by
  unfold Effects.failIf
  by_cases h : condition
  · rw [if_pos h]
    exact throw fun s hs => hthrow s hs h
  · rw [if_neg h]
    exact pure fun s hs => hpass s hs h

/-- An invariant of the body is one of the loop. -/
theorem forM {I : σ → Prop} {body : α → Program σ ε PUnit} {items : List α}
    (h : ∀ a ∈ items, Triple I (body a) (fun _ => I) E) :
    Triple I (items.forM body) (fun _ => I) E := by
  induction items with
  | nil => exact pure fun _ hs => hs
  | cons a items ih =>
      have hrest := ih fun b hb => h b (List.mem_cons_of_mem a hb)
      exact bind (h a List.mem_cons_self) fun _ => hrest

end Triple

/-- Whatever the program returns, from any state, has a property. -/
def Returns (program : Program σ ε α) (Q : α → Prop) : Prop :=
  Triple (fun _ => True) program (fun a _ => Q a) fun _ _ => True

namespace Returns

theorem pure {a : α} {Q : α → Prop} (h : Q a) : Returns (Pure.pure a : Program σ ε α) Q :=
  Triple.pure fun _ _ => h

theorem throw {e : ε} {Q : α → Prop} :
    Returns (MonadExcept.throw e : Program σ ε α) Q :=
  Triple.throw fun _ _ => trivial

theorem bind {program : Program σ ε α} {next : α → Program σ ε β} {R : α → Prop}
    {Q : β → Prop} (hfirst : Returns program R) (hnext : ∀ a, R a → Returns (next a) Q) :
    Returns (program >>= next) Q := by
  refine Triple.bind hfirst fun a => ?_
  intro s ha
  exact hnext a ha s trivial

/-- What an answer is depends on a state. -/
theorem ask {answer : σ → Except ε α} :
    Returns (Effects.ask answer) fun a => ∃ s, answer s = .ok a :=
  Triple.ask (fun s _ _ hanswer => ⟨s, hanswer⟩) fun _ _ _ _ => trivial

/-- Of a step whose result says nothing. -/
theorem step {program : Program σ ε α} : Returns program fun _ => True := by
  intro s _
  cases program s with
  | ok a s' => trivial
  | error e s' => trivial

theorem weaken {program : Program σ ε α} {Q Q' : α → Prop} (h : Returns program Q)
    (hpost : ∀ a, Q a → Q' a) : Returns program Q' :=
  Triple.weaken h (fun _ h => h) (fun a _ ha => hpost a ha) fun _ _ h => h

end Returns

/-! ## Logs -/

/-- Every event of the log stands in a relation to the log before it. -/
def Logged {Event : Type} (R : List Event → Event → Prop) (log : List Event) : Prop :=
  ∀ before e after, log = before ++ e :: after → R before e

theorem logged_nil {Event : Type} {R : List Event → Event → Prop} : Logged R [] := by
  intro before e after h
  simp at h

theorem logged_append {Event : Type} {R : List Event → Event → Prop} {log : List Event}
    {e : Event} : Logged R (log ++ [e]) ↔ Logged R log ∧ R log e := by
  constructor
  · intro h
    constructor
    · intro before e' after hlog
      refine h before e' (after ++ [e]) ?_
      rw [hlog, List.append_assoc, List.cons_append]
    · exact h log e [] rfl
  · rintro ⟨hlog, he⟩ before e' after heq
    rcases List.eq_nil_or_concat' after with rfl | ⟨after, last, rfl⟩
    · rcases List.append_inj' heq rfl with ⟨rfl, hsame⟩
      rw [← List.singleton_inj.mp hsame]
      exact he
    · rw [← List.cons_append, ← List.append_assoc] at heq
      rcases List.append_inj' heq rfl with ⟨hbefore, -⟩
      exact hlog before e' after hbefore

/-- Every one of the new events stands in the relation to what comes before it. -/
def LoggedFrom {Event : Type} (R : List Event → Event → Prop) (log new : List Event) : Prop :=
  ∀ before e after, new = before ++ e :: after → R (log ++ before) e

namespace LoggedFrom

variable {Event : Type} {R : List Event → Event → Prop} {log new new' : List Event} {e : Event}

theorem nil : LoggedFrom R log [] := by
  intro before e after h
  simp at h

theorem cons (he : R log e) (hnew : LoggedFrom R (log ++ [e]) new) :
    LoggedFrom R log (e :: new) := by
  intro before e' after h
  cases before with
  | nil =>
      rw [List.nil_append, List.cons.injEq] at h
      rw [List.append_nil, ← h.1]
      exact he
  | cons first before =>
      rw [List.cons_append, List.cons.injEq] at h
      have hrest := hnew before e' after h.2
      rw [List.append_assoc, List.singleton_append, h.1] at hrest
      exact hrest

theorem append (hnew : LoggedFrom R log new) (hnew' : LoggedFrom R (log ++ new) new') :
    LoggedFrom R log (new ++ new') := by
  induction new generalizing log with
  | nil =>
      rw [List.append_nil] at hnew'
      exact hnew'
  | cons first new ih =>
      refine cons (by simpa using hnew [] first new rfl) (ih ?_ ?_)
      · intro before e' after h
        have hrest := hnew (first :: before) e' after (by rw [h, List.cons_append])
        rwa [List.append_assoc, List.singleton_append]
      · rwa [List.append_assoc, List.singleton_append]

/-- Events that the relation says nothing about. -/
theorem of_forall (h : ∀ e ∈ new, ∀ before, R before e) : LoggedFrom R log new := by
  intro before e after hnew
  apply h
  rw [hnew]
  exact List.mem_append_right before List.mem_cons_self

end LoggedFrom

/-- The law of an event, by its place. -/
theorem Logged.getElem? {Event : Type} {R : List Event → Event → Prop} {log : List Event}
    (h : Logged R log) {n : Nat} {e : Event} (he : log[n]? = some e) : R (log.take n) e := by
  rcases List.getElem?_eq_some_iff.mp he with ⟨hn, rfl⟩
  apply h (log.take n) log[n] (log.drop (n + 1))
  rw [← List.drop_eq_getElem_cons hn, List.take_append_drop]

/-- A law of logs, of a log and what is new in it. -/
theorem Logged.append {Event : Type} {R : List Event → Event → Prop} {log new : List Event}
    (h : Logged R log) (hnew : LoggedFrom R log new) : Logged R (log ++ new) := by
  have hlog : LoggedFrom R [] log := h
  have hall : LoggedFrom R [] (log ++ new) := hlog.append hnew
  exact hall

end Effects
end TokenStreaming
