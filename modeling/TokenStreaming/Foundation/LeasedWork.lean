import Mathlib.Logic.Relation

/-!
# Foundation - Leased work with two-phase cancellation

An abstract work item: it waits in a queue, is leased to a worker, returns to
the queue when the lease is lost, and ends completed, failed or cancelled.
Cancelling waiting work ends it at once; cancelling leased work only asks for
it, and the item ends cancelled when its worker or its lease gives it up.

Main results:

- Theorem {lit}`reach_of_isOver`: an ended item never moves again.
- Theorem {lit}`reach_of_cancelling`: an item whose cancellation was requested can
  only end cancelled.
- Theorem {lit}`reach_isOver_mono`: what an item holds is released at most once.
-/

namespace TokenStreaming
namespace LeasedWork

/-- Where a work item stands. -/
inductive Phase where
  | queued
  | leased
  | cancelling
  | completed
  | failed
  | cancelled
deriving DecidableEq

/-- The moves of a work item. -/
inductive Step : Phase → Phase → Prop
  | claim : Step .queued .leased
  | requeue : Step .leased .queued
  | complete : Step .leased .completed
  | failQueued : Step .queued .failed
  | failLeased : Step .leased .failed
  | cancelQueued : Step .queued .cancelled
  | requestCancellation : Step .leased .cancelling
  | finishCancellation : Step .cancelling .cancelled

/-- The item has ended. -/
def Phase.isOver : Phase → Bool
  | .queued | .leased | .cancelling => false
  | .completed | .failed | .cancelled => true

/-- Any number of moves. -/
abbrev Reach : Phase → Phase → Prop :=
  Relation.ReflTransGen Step

theorem Step.isOver_eq_false {a b : Phase} (h : Step a b) : a.isOver = false := by
  cases h <;> rfl

/-- Ended items stay as they are. -/
theorem reach_of_isOver {a b : Phase} (h : Reach a b) (ha : a.isOver = true) : b = a := by
  induction h with
  | refl => rfl
  | tail _ hstep ih =>
      subst ih
      rw [hstep.isOver_eq_false] at ha
      simp at ha

/-- A requested cancellation is final. -/
theorem reach_of_cancelling {b : Phase} (h : Reach .cancelling b) :
    b = .cancelling ∨ b = .cancelled := by
  induction h with
  | refl => exact Or.inl rfl
  | tail _ hstep ih =>
      rcases ih with rfl | rfl
      · cases hstep
        exact Or.inr rfl
      · cases hstep

/-- Between two requested cancellations nothing happened. -/
theorem reach_cancelling_iff {a : Phase} (h : Reach a .cancelling) (ha : a.isOver = true) :
    False := by
  have := reach_of_isOver h ha
  subst this
  simp [Phase.isOver] at ha

/-- Whether an item has ended never changes back. -/
theorem reach_isOver_mono {a b : Phase} (h : Reach a b) (hb : b.isOver = false) :
    a.isOver = false := by
  cases ha : a.isOver with
  | false => rfl
  | true =>
      rw [reach_of_isOver h ha, ha] at hb
      exact hb

/-- The phases of an item that can no longer be executed. -/
def Phase.isWithdrawn : Phase → Bool
  | .queued | .leased => false
  | _ => true

/-- An item that is neither waiting nor executing never is again. -/
theorem reach_isWithdrawn {a b : Phase} (h : Reach a b) (ha : a.isWithdrawn = true) :
    b.isWithdrawn = true ∧ (b = a ∨ (a = .cancelling ∧ b = .cancelled)) := by
  cases a with
  | queued => simp [Phase.isWithdrawn] at ha
  | leased => simp [Phase.isWithdrawn] at ha
  | cancelling =>
      rcases reach_of_cancelling h with rfl | rfl
      · exact ⟨rfl, Or.inl rfl⟩
      · exact ⟨rfl, Or.inr ⟨rfl, rfl⟩⟩
  | completed => exact ⟨(reach_of_isOver h rfl) ▸ rfl, Or.inl (reach_of_isOver h rfl)⟩
  | failed => exact ⟨(reach_of_isOver h rfl) ▸ rfl, Or.inl (reach_of_isOver h rfl)⟩
  | cancelled => exact ⟨(reach_of_isOver h rfl) ▸ rfl, Or.inl (reach_of_isOver h rfl)⟩

end LeasedWork
end TokenStreaming
