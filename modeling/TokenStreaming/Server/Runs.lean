import TokenStreaming.Server.Reachability

/-!
# Control plane - States along a run

The states a run passes through, and what reads of earlier states know of later
ones.  Snapshots are kept newest first, so a read of a smaller age observes a
later state.

Main results:

- Theorem {lit}`World.along_follows`: later states of a run follow earlier ones.
- Theorem {lit}`Reachable.reads_follow`: so do the states observed by later reads.
- Theorem {lit}`observed_after`: what a later state may observe was observable before, or
  follows.
-/

namespace TokenStreaming
namespace Server

open Relational TransitionSystem

/-- The state of a run from an empty database before the call at a position. -/
def World.along (clock : Nat) (deployment : Deployment) (calls : List Call) (n : Nat) : World :=
  stateAt step (World.start clock deployment) calls n

section Along

variable {clock : Nat} {deployment : Deployment} {calls : List Call} {i j n : Nat}

theorem World.along_succ {call : Call} (h : calls[n]? = some call) :
    World.along clock deployment calls (n + 1) =
      step (World.along clock deployment calls n) call :=
  stateAt_succ h

theorem World.along_reachable (n : Nat) : Reachable (World.along clock deployment calls n) :=
  ⟨clock, deployment, calls.take n, rfl⟩

/-- A later state of a run is reached by the calls in between. -/
theorem World.along_of_le (h : i ≤ j) :
    World.along clock deployment calls j =
      run step (World.along clock deployment calls i) ((calls.take j).drop i) :=
  stateAt_of_le h

theorem World.along_follows (h : i ≤ j) :
    Follows (World.along clock deployment calls i).db (World.along clock deployment calls j).db := by
  rw [World.along_of_le h]
  exact run_follows (World.along_reachable i) _

/-- What can be observed stays observable. -/
theorem World.along_snapshots (h : i ≤ j) :
    (World.along clock deployment calls i).snapshots ⊆
      (World.along clock deployment calls j).snapshots := by
  rw [World.along_of_le h]
  have hinv : ∀ (w : World) (call : Call), Reachable w → Reachable (step w call) :=
    fun _ call hw => hw.step call
  have hstep : ∀ (w : World) (call : Call), Reachable w →
      w.snapshots ⊆ (step w call).snapshots :=
    fun _ call hw => (hw.stepped call).snapshots_subset
  have hsubset := run_related (R := fun a b : World => a.snapshots ⊆ b.snapshots)
    (fun _ => List.Subset.refl _) (fun _ _ _ => List.Subset.trans) hinv hstep
    ((calls.take j).drop i)
    (World.along_reachable i : Reachable (World.along clock deployment calls i))
  exact hsubset

/-- What holds at a position and not at the start began to hold at one call before it. -/
theorem World.exists_change {P : World → Prop} (h0 : ¬ P (World.start clock deployment))
    (hn : P (World.along clock deployment calls n)) :
    ∃ m call, m < n ∧ calls[m]? = some call ∧ ¬ P (World.along clock deployment calls m) ∧
      P (World.along clock deployment calls (m + 1)) := by
  obtain ⟨m, call, hlt, hat, hbefore, hafter⟩ := TransitionSystem.exists_change h0 hn
  refine ⟨m, call, hlt, hat, hbefore, ?_⟩
  rw [World.along_succ hat]
  exact hafter

end Along

section Service

variable {w : World} {request : ServiceRequest} {ages : List Nat}

/-- What a request with new values does to the database: what its batch does. -/
theorem step_service_ok {batch : Batch} (hfresh : w.isFresh request.uuids = true)
    (h : request.batch w.deployment (w.reads ages) = .ok batch) :
    (step w (.service ages request)).db = (w.result batch).getD w.db := by
  have hcall : w.isFresh (Call.service ages request).uuids = true := hfresh
  unfold step
  rw [if_pos hcall]
  cases hresult : w.result batch with
  | none => simp [World.apply, World.perform, h, World.send, hresult, World.draw]
  | some db => simp [World.apply, World.perform, h, World.send, hresult, World.draw, World.commit]

/-- A refused request leaves the database alone. -/
theorem step_service_error {e : ApiError}
    (h : request.batch w.deployment (w.reads ages) = .error e) :
    (step w (.service ages request)).db = w.db := by
  unfold step
  split
  · simp [World.apply, World.perform, h, World.draw]
  · rfl

end Service

/-- Snapshots are kept in the order of the run, newest first. -/
theorem Reachable.snapshots_ordered {w : World} (h : Reachable w) :
    w.snapshots.Pairwise fun later earlier => Follows earlier later := by
  refine h.induction
    (P := fun w => w.snapshots.Pairwise fun later earlier => Follows earlier later) ?_ ?_
  · intro clock deployment
    simp [World.snapshots, World.start]
  · intro w call hw ih
    have hfollows := (hw.step call).sound.follows
    cases hw.stepped call with
    | idle hdb hpast => rwa [World.snapshots, hdb, hpast]
    | clock instant _ _ hpast =>
        rw [World.snapshots, hpast] at hfollows ⊢
        exact List.pairwise_cons.mpr
          ⟨fun snap hsnap => hfollows snap (List.mem_cons_of_mem _ hsnap), ih⟩
    | sent batch _ _ _ hpast =>
        rw [World.snapshots, hpast] at hfollows ⊢
        exact List.pairwise_cons.mpr
          ⟨fun snap hsnap => hfollows snap (List.mem_cons_of_mem _ hsnap), ih⟩

/-- A later read observes a later state. -/
theorem Reachable.reads_follow {w : World} (h : Reachable w) {ages : List Nat} {j k : Nat}
    (hle : ages.getD k 0 ≤ ages.getD j 0) (hlength : ages.getD j 0 < w.snapshots.length) :
    Follows (w.reads ages j) (w.reads ages k) := by
  have hearlier : w.reads ages j = w.snapshots.get ⟨ages.getD j 0, hlength⟩ := by
    rw [World.reads, List.getD_eq_getElem?_getD, List.getElem?_eq_getElem hlength]
    rfl
  have hlater : w.reads ages k =
      w.snapshots.get ⟨ages.getD k 0, lt_of_le_of_lt hle hlength⟩ := by
    rw [World.reads, List.getD_eq_getElem?_getD,
      List.getElem?_eq_getElem (lt_of_le_of_lt hle hlength)]
    rfl
  rw [hearlier, hlater]
  rcases Nat.lt_or_eq_of_le hle with hlt | heq
  · exact List.pairwise_iff_get.mp h.snapshots_ordered _ _ hlt
  · simp only [heq]
    exact Follows.refl _

/-- What a later state may observe was observable before, or follows. -/
theorem observed_after {w : World} (h : Reachable w) (calls : List Call) {snap : MarketplaceDb}
    (hsnap : snap ∈ (run step w calls).snapshots) : snap ∈ w.snapshots ∨ Follows w.db snap := by
  have hstep : ∀ (v : World) (call : Call),
      (Reachable v ∧ Follows w.db v.db ∧
        ∀ snap ∈ v.snapshots, snap ∈ w.snapshots ∨ Follows w.db snap) →
      Reachable (step v call) ∧ Follows w.db (step v call).db ∧
        ∀ snap ∈ (step v call).snapshots, snap ∈ w.snapshots ∨ Follows w.db snap := by
    rintro v call ⟨hv, hfollows, hold⟩
    have hnext := hfollows.trans (hv.stepped call).follows
    refine ⟨hv.step call, hnext, fun snap hsnap => ?_⟩
    rcases (hv.stepped call).snapshots_eq hsnap with rfl | hmem
    · exact Or.inr hnext
    · exact hold snap hmem
  have hall := run_invariant hstep calls ⟨h, Follows.refl _, fun snap hsnap => Or.inl hsnap⟩
  exact hall.2.2 snap hsnap

/-- A state observed at some position and not observable at another was entered behind that. -/
theorem World.follows_of_unobserved {clock : Nat} {deployment : Deployment} {calls : List Call}
    {n sent : Nat} {snap : MarketplaceDb}
    (hsnap : snap ∈ (World.along clock deployment calls sent).snapshots)
    (hnew : snap ∉ (World.along clock deployment calls n).snapshots) :
    Follows (World.along clock deployment calls (n + 1)).db snap := by
  by_cases hle : sent ≤ n
  · exact absurd (World.along_snapshots hle hsnap) hnew
  · have hlater : n + 1 ≤ sent := by omega
    rw [World.along_of_le hlater] at hsnap
    rcases observed_after (World.along_reachable (n + 1)) _ hsnap with hmem | hfollows
    · cases hcall : calls[n]? with
      | none =>
          have hsame : World.along clock deployment calls (n + 1) =
              World.along clock deployment calls n := stateAt_succ_of_none hcall
          rw [hsame] at hmem
          exact absurd hmem hnew
      | some call =>
          rw [World.along_succ hcall] at hmem ⊢
          have hnow : Reachable (World.along clock deployment calls n) :=
            World.along_reachable n
          have hstepped := hnow.stepped call
          rcases hstepped.snapshots_eq hmem with rfl | hold
          · exact Follows.refl _
          · exact absurd hold hnew
    · exact hfollows

end Server
end TokenStreaming
