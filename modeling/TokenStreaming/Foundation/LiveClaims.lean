import Mathlib.Data.List.Nodup

/-!
# Foundation - Claims that hold until they expire

A history of granted claims.  Each claim names its subject, the time it was granted
and the last moment it holds; a subject is known by a key.  A history is exclusive
when a key is granted again only after its earlier claim has expired.

Main results:

- Theorem {lit}`Exclusive.grant`: granting where no claim holds keeps the history
  exclusive.
- Theorem {lit}`Exclusive.nodup_live`: at any later moment at most one claim holds
  for a key.
- Theorem {lit}`live_live`: forgetting expired claims early loses nothing.
-/

namespace TokenStreaming
namespace LiveClaims

variable {α κ : Type}

/-- One granted claim. -/
structure Claim (α : Type) where
  subject : α
  grantedAt : Nat
  expiresAt : Nat

/-- The claims that hold at a moment, the last one included. -/
def live (now : Nat) (claims : List (Claim α)) : List (Claim α) :=
  claims.filter fun c => now ≤ c.expiresAt

theorem mem_live {now : Nat} {claims : List (Claim α)} {c : Claim α} :
    c ∈ live now claims ↔ c ∈ claims ∧ now ≤ c.expiresAt := by
  rw [live, List.mem_filter, decide_eq_true_eq]

@[simp]
theorem live_nil (now : Nat) : live now ([] : List (Claim α)) = [] :=
  rfl

theorem live_append (now : Nat) (claims more : List (Claim α)) :
    live now (claims ++ more) = live now claims ++ live now more := by
  exact List.filter_append claims more

/-- Forgetting expired claims early loses nothing. -/
theorem live_live {now later : Nat} (h : now ≤ later) (claims : List (Claim α)) :
    live later (live now claims) = live later claims := by
  rw [live, live, live, List.filter_filter]
  refine List.filter_congr ?_
  intro c _
  by_cases hlater : later ≤ c.expiresAt
  · have hnow : now ≤ c.expiresAt := by omega
    simp [hlater, hnow]
  · simp [hlater]

/-- A key is granted again only after its earlier claim has expired. -/
def Exclusive (key : α → κ) (claims : List (Claim α)) : Prop :=
  claims.Pairwise fun earlier later =>
    key earlier.subject = key later.subject → earlier.expiresAt < later.grantedAt

theorem Exclusive.nil (key : α → κ) : Exclusive key [] :=
  List.Pairwise.nil

/-- A claim is granted where none holds for its key. -/
theorem Exclusive.grant {key : α → κ} {claims : List (Claim α)} (h : Exclusive key claims)
    {c : Claim α} (hfree : ∀ d ∈ live c.grantedAt claims, key d.subject ≠ key c.subject) :
    Exclusive key (claims ++ [c]) := by
  refine List.pairwise_append.mpr ⟨h, List.pairwise_singleton _ _, ?_⟩
  intro d hd c' hc' hkey
  rw [List.mem_singleton] at hc'
  subst hc'
  by_cases hlive : c'.grantedAt ≤ d.expiresAt
  · exact absurd hkey (hfree d (mem_live.mpr ⟨hd, hlive⟩))
  · omega

/-- At most one claim holds for a key. -/
theorem Exclusive.nodup_live {key : α → κ} {claims : List (Claim α)} {now : Nat}
    (h : Exclusive key claims) (hpast : ∀ c ∈ claims, c.grantedAt ≤ now) :
    ((live now claims).map fun c => key c.subject).Nodup := by
  induction claims with
  | nil => exact List.nodup_nil
  | cons c claims ih =>
      have hrest := ih h.of_cons fun d hd => hpast d (List.mem_cons_of_mem c hd)
      by_cases hlive : now ≤ c.expiresAt
      · have hkeep : live now (c :: claims) = c :: live now claims := by
          simp [live, hlive]
        rw [hkeep, List.map_cons, List.nodup_cons]
        refine ⟨?_, hrest⟩
        intro hmem
        obtain ⟨d, hd, hkey⟩ := List.mem_map.mp hmem
        have hclaim := (mem_live.mp hd).1
        have hlater := List.rel_of_pairwise_cons h hclaim hkey.symm
        have hgranted := hpast d (List.mem_cons_of_mem c hclaim)
        omega
      · have hdrop : live now (c :: claims) = live now claims := by
          simp [live, hlive]
        rw [hdrop]
        exact hrest

/-- A coarser key keeps claims apart only if a finer one does. -/
theorem Exclusive.of_key {key : α → κ} {claims : List (Claim α)} (h : Exclusive key claims)
    {β : Type} {id : α → β} (hkey : ∀ a b, id a = id b → key a = key b) :
    Exclusive id claims := by
  refine List.Pairwise.imp ?_ h
  intro c d hexpired heq
  exact hexpired (hkey _ _ heq)

end LiveClaims
end TokenStreaming
