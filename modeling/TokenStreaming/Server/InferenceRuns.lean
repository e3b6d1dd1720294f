import TokenStreaming.Server.Reachability

/-!
# Control plane - Inferences in flight

{lit}`runInference` keeps its local variables from the reservation of its job to
its settlement.  While it may still settle, its job is stored with the tenants
it remembers, has not been completed, and belongs to no other inference.

Main results:

- Theorem {lit}`step_inferences`: how the inferences in flight change.
- Theorem {lit}`Reachable.runsStored`: open inferences and their jobs agree.
-/

namespace TokenStreaming
namespace Server

open Relational Domain TransitionSystem

/-- The inference may still send its completion. -/
def InferencePhase.isOpen : InferencePhase → Bool
  | .reserved | .dispatched => true
  | .settled | .closed => false

/-! ## Steps of inferences -/

/-- How the inferences in flight change across a step. -/
inductive InferencesStepped (w : World) (w' : World) : Prop
  | same (h : w'.inferences = w.inferences)
  | begun (run : InferenceRun) (idempotencyKey : String) (reservationExpiresAt : Nat)
      (hresult : w.result (reservationBatch run idempotencyKey reservationExpiresAt) = some w'.db)
      (hchanges : batchChanges w.db (reservationBatch run idempotencyKey reservationExpiresAt) =
        [1])
      (h : w'.inferences = w.inferences ++ [{ run, phase := .reserved }])
  | moved (index : Nat) (run : InferenceRun) (old new : InferencePhase)
      (hget : w.inferences[index]? = some { run, phase := old })
      (hopen : new.isOpen = true → old.isOpen = true)
      (h : w'.inferences = w.inferences.set index { run, phase := new })

theorem apply_inferences (w : World) (call : Call) : InferencesStepped w (w.apply call) := by
  cases call with
  | setClock instant => exact .same rfl
  | deploy deployment =>
      simp only [World.apply]
      split <;> exact .same rfl
  | service ages request =>
      refine .same ?_
      simp only [World.apply, World.perform]
      split
      · exact w.send_inferences _
      · rfl
  | reserveInference ages identity input idempotencyKey jobUuid =>
      simp only [World.apply, World.reserve]
      split
      · rename_i run batch hreserve
        obtain ⟨-, -, expires, rfl⟩ := reserveInference_eq_ok hreserve
        split
        · rename_i db hresult
          split
          · rename_i hchanges
            exact .begun run idempotencyKey expires hresult hchanges rfl
          · exact .same rfl
        · exact .same rfl
      · exact .same rfl
  | dispatchInference index =>
      simp only [World.apply, World.dispatch]
      split
      · rename_i run hget
        exact .moved index run .reserved _ hget (fun _ => rfl) rfl
      · exact .same rfl
  | settleInference ages index result outputIv uuids =>
      simp only [World.apply, World.settle]
      split
      · rename_i run hget
        split
        · exact .moved index run .dispatched .settled hget (fun _ => rfl) rfl
        · exact .same rfl
      · exact .same rfl
  | failInference ages index code =>
      simp only [World.apply, World.failInference]
      split
      · rename_i run phase hget
        split
        · exact .moved index run phase .closed hget (fun h => by simp [InferencePhase.isOpen] at h)
            rfl
        · exact .same rfl
      · exact .same rfl
  | authenticateAgent ages request =>
      simp only [World.apply, World.authenticate]
      split <;> exact .same rfl
  | advanceAgent index =>
      simp only [World.apply, World.advanceAgent]
      split
      · exact .same rfl
      · split <;> exact .same rfl

theorem step_inferences (w : World) (call : Call) : InferencesStepped w (step w call) := by
  unfold step
  split
  · cases apply_inferences w call with
    | same h => exact .same h
    | begun run idempotencyKey expires hresult hchanges h =>
        exact .begun run idempotencyKey expires hresult hchanges h
    | moved index run old new hget hopen h => exact .moved index run old new hget hopen h
  · exact .same rfl

/-- A settlement that was sent closes its inference. -/
theorem settle_inferences {w : World} {ages : List Nat} {index : Nat} {run : InferenceRun}
    {result : GatewayResult} {outputIv : String} {uuids : CompletionUuids}
    {s : InferenceSettlement}
    (hrun : w.inferences[index]? = some { run, phase := .dispatched })
    (hsettle : settleInference (w.reads ages) w.deployment.keyrings.credential w.deployment.policy
      run result outputIv = .ok s) (huuids : uuids.Fresh w) :
    (step w (.settleInference ages index result outputIv uuids)).inferences =
      w.inferences.set index { run, phase := .settled } := by
  have hfresh : w.isFresh (Call.settleInference ages index result outputIv uuids).uuids = true :=
    World.isFresh_eq.mpr ⟨huuids.nodup, huuids.isNew, huuids.plain⟩
  unfold step
  rw [if_pos hfresh]
  simp only [World.draw, World.apply, World.settle, hrun, hsettle, World.sendFor]

/-! ## Jobs of open inferences -/

/-- The job a run reserved. -/
structure InferenceRun.Owns (run : InferenceRun) (job : InferenceJobRow) : Prop where
  jobId : job.jobId = run.jobId
  buyer : job.buyerTenantId = run.identity.tenantId
  supplier : job.supplierTenantId = run.selected.supplier.tenantId

theorem InferenceRun.Owns.move {run : InferenceRun} {a b : InferenceJobRow} (h : run.Owns a)
    (hterms : b.terms = a.terms) : run.Owns b where
  jobId := (congrArg JobTerms.jobId hterms).trans h.jobId
  buyer := (congrArg JobTerms.buyerTenantId hterms).trans h.buyer
  supplier := (congrArg JobTerms.supplierTenantId hterms).trans h.supplier

/-- The run's job is stored and not completed. -/
def InferenceRun.IsPending (run : InferenceRun) (db : MarketplaceDb) : Prop :=
  ∃ job ∈ db.rows .inferenceJobs, run.Owns job ∧ job.status ≠ .completed

theorem InferenceRun.IsPending.of_quiet {run : InferenceRun} {a b : MarketplaceDb}
    {New : InferenceJobRow → Prop} (h : run.IsPending a)
    (hjobs : Evolves JobQuiet New (a.rows .inferenceJobs) (b.rows .inferenceJobs)) :
    run.IsPending b := by
  obtain ⟨job, hjob, howns, hpending⟩ := h
  obtain ⟨job', hjob', hmove⟩ := hjobs.of_mem_old hjob
  exact ⟨job', hjob', howns.move hmove.terms, fun hc => hpending (hmove.notCompleted hc)⟩

theorem InferenceRun.IsPending.of_rows {run : InferenceRun} {a b : MarketplaceDb}
    (h : run.IsPending a) (hrows : b.rows .inferenceJobs = a.rows .inferenceJobs) :
    run.IsPending b := by
  unfold InferenceRun.IsPending
  rw [hrows]
  exact h

theorem Commanded.isPending {w : World} {t : MarketplaceTable} {s : MarketplaceStatement}
    (hcommanded : Commanded w t s) {run : InferenceRun} {a b : MarketplaceDb}
    (h : run.IsPending a) (hs : s.apply a = some b) : run.IsPending b := by
  by_cases ht : t = .inferenceJobs
  · subst ht
    exact h.of_quiet (hcommanded.jobStatement.respects a b hs)
  · refine h.of_rows (Statement.apply_rows_of_ne hs ?_)
    rw [hcommanded.table_eq]
    exact fun heq => ht heq.symm

/-- A completion of another job. -/
theorem completion_isPending {run : InferenceRun} {s : InferenceSettlement}
    {uuids : CompletionUuids} {a b : MarketplaceDb} (h : run.IsPending a)
    (hne : run.jobId ≠ s.run.jobId) (hrun : runBatch a (completionBatch s uuids) = some b) :
    run.IsPending b := by
  simp only [completionBatch, List.cons_append, List.nil_append] at hrun
  obtain ⟨mid, hupdate, hrest⟩ := runBatch_cons_eq_some.mp hrun
  have hmid : run.IsPending mid := by
    obtain ⟨job, hjob, howns, hpending⟩ := h
    refine ⟨job, ?_, howns, hpending⟩
    rw [Statement.update_rows hupdate]
    refine List.mem_map.mpr ⟨job, hjob, if_neg ?_⟩
    intro hsel
    simp only [InferenceCompletion.admits, Bool.and_eq_true, beq_iff_eq] at hsel
    exact hne (howns.jobId.symm.trans hsel.1.1.1.1)
  refine hmid.of_rows (runBatch_rows_of_ne hrest ?_)
  intro statement hmem
  simp only [List.mem_cons] at hmem
  rcases hmem with rfl | rfl | rfl | rfl | rfl | hfee
  · exact MarketplaceTable.noConfusion
  · exact MarketplaceTable.noConfusion
  · exact MarketplaceTable.noConfusion
  · exact MarketplaceTable.noConfusion
  · exact MarketplaceTable.noConfusion
  · split at hfee
    · simp at hfee
    · rw [List.mem_singleton.mp hfee]
      exact MarketplaceTable.noConfusion

/-- A completion of an artifact task writes no job. -/
theorem artifactCompletion_jobs {s : ArtifactSettlement} {uuids : CompletionUuids}
    {a b : MarketplaceDb} (hrun : runBatch a (artifactCompletionBatch s uuids) = some b) :
    b.rows .inferenceJobs = a.rows .inferenceJobs := by
  refine runBatch_rows_of_ne hrun fun statement hmem => ?_
  simp only [artifactCompletionBatch, List.cons_append, List.nil_append, List.mem_cons] at hmem
  rcases hmem with rfl | rfl | rfl | rfl | rfl | rfl | rfl | hfee
  · exact MarketplaceTable.noConfusion
  · exact MarketplaceTable.noConfusion
  · exact MarketplaceTable.noConfusion
  · exact MarketplaceTable.noConfusion
  · exact MarketplaceTable.noConfusion
  · exact MarketplaceTable.noConfusion
  · exact MarketplaceTable.noConfusion
  · split at hfee
    · simp at hfee
    · rw [List.mem_singleton.mp hfee]
      exact MarketplaceTable.noConfusion

/-- Open inferences and the stored jobs agree. -/
structure World.RunsStored (w : World) : Prop where
  pending : ∀ (index : Nat) (run : InferenceRun) (phase : InferencePhase),
    w.inferences[index]? = some { run, phase } → phase.isOpen = true → run.IsPending w.db
  distinct : ∀ (i j : Nat) (run other : InferenceRun) (phase phase' : InferencePhase),
    w.inferences[i]? = some { run, phase } → w.inferences[j]? = some { run := other, phase := phase' } →
      phase.isOpen = true → phase'.isOpen = true → run.jobId = other.jobId → i = j

/-- A reservation that changed one row stored the run's job, which was not stored before. -/
theorem reservation_stores {run : InferenceRun} {idempotencyKey : String}
    {reservationExpiresAt : Nat} {a b : MarketplaceDb}
    (hrun : runBatch a (reservationBatch run idempotencyKey reservationExpiresAt) = some b)
    (hchanges : batchChanges a (reservationBatch run idempotencyKey reservationExpiresAt) = [1]) :
    (∀ old ∈ a.rows .inferenceJobs, old.jobId ≠ run.jobId) ∧
      b.rows .inferenceJobs =
        a.rows .inferenceJobs ++ [run.row idempotencyKey reservationExpiresAt] := by
  obtain ⟨mid, hinsert, hrest⟩ := runBatch_cons_eq_some.mp hrun
  obtain rfl : mid = b := by simpa using hrest
  rcases Statement.insertOrIgnore_cases hinsert rfl with rfl | ⟨-, hfresh, rfl⟩
  · have hlength : ((reserveInferenceJobSql (run.row idempotencyKey reservationExpiresAt)
        run.demand run.selected.offer.concurrency).changes mid) = 0 := by
      have hrows := congrArg (fun db => (db.rows .inferenceJobs).length) (Option.some.inj hinsert)
      simp only [Database.withRows_rows] at hrows
      simp only [reserveInferenceJobSql, Statement.changes]
      omega
    simp [reservationBatch, batchChanges, hlength] at hchanges
  · refine ⟨fun old hold heq => ?_, by rw [Database.withRows_rows]⟩
    have hclash := hfresh old hold
    simp [clashes, marketplaceKeys, InferenceRun.row, heq] at hclash

/-- Jobs of open inferences survive every step but their own settlement. -/
theorem step_isPending {w : World} (hw : Reachable w) (call : Call) (h : w.RunsStored)
    {index : Nat} {run : InferenceRun} {phase new : InferencePhase}
    (hget : w.inferences[index]? = some { run, phase }) (hopen : phase.isOpen = true)
    (hget' : (step w call).inferences[index]? = some { run, phase := new })
    (hopen' : new.isOpen = true) : run.IsPending (step w call).db := by
  have hpending := h.pending index run phase hget hopen
  cases hw.stepped call with
  | idle hdb _ =>
      rw [hdb]
      exact hpending
  | clock instant _ hdb _ =>
      rw [hdb]
      exact hpending
  | sent batch hsent hrun _ _ =>
      cases hsent with
      | command hcommand =>
          exact hcommand.preserves hw.sound hrun
            (fun _ _ _ _ hcommanded _ _ hp hs => hcommanded.isPending hp hs) hpending
      | inferenceCompletion ages settled other result outputIv s uuids hother hsettle huuids =>
          have hset := settle_inferences hother hsettle huuids
          have hne : index ≠ settled := by
            rintro rfl
            rw [hset, List.getElem?_set_self (List.getElem?_eq_some_iff.mp hother).1] at hget'
            obtain ⟨-, rfl⟩ := InferenceInFlight.mk.inj (Option.some.inj hget')
            simp [InferencePhase.isOpen] at hopen'
          have hrunId : s.run = other := by
            simp only [settleInference, Except.bind_eq_ok, demand_eq_ok, exists_unit,
              found_eq_ok, uncaught_eq_ok, Except.pure_eq_ok] at hsettle
            obtain ⟨_, _, _, _, amounts, _, _, rfl⟩ := hsettle
            rfl
          refine completion_isPending hpending ?_ hrun
          rw [hrunId]
          exact fun heq => hne (h.distinct index settled run other phase .dispatched hget hother
            hopen rfl heq)
      | artifactCompletion s uuids _ _ _ _ _ _ _ _ _ =>
          exact hpending.of_rows (artifactCompletion_jobs hrun)

theorem step_runsStored {w : World} (hw : Reachable w) (call : Call) (h : w.RunsStored) :
    (step w call).RunsStored := by
  cases step_inferences w call with
  | same heq =>
      refine ⟨fun index run phase hget hopen => ?_, fun i j => ?_⟩
      · exact step_isPending hw call h (by rwa [heq] at hget) hopen hget hopen
      · rw [heq]
        exact h.distinct i j
  | begun begun idempotencyKey expires hresult hchanges heq =>
      obtain ⟨hnew, hrows⟩ := reservation_stores (World.result_eq_some.mp hresult).1 hchanges
      have hold : ∀ {i : Nat} {run : InferenceRun} {phase : InferencePhase},
          (step w call).inferences[i]? = some { run, phase } →
            w.inferences[i]? = some { run, phase } ∨ (i = w.inferences.length ∧ run = begun) := by
        intro i run phase hget
        rw [heq, List.getElem?_append] at hget
        split at hget
        · exact Or.inl hget
        · rename_i hi
          rw [List.getElem?_singleton] at hget
          split at hget
          · obtain ⟨rfl, -⟩ := InferenceInFlight.mk.inj (Option.some.inj hget)
            exact Or.inr ⟨by omega, rfl⟩
          · simp at hget
      have hdistinct : ∀ {i : Nat} {run : InferenceRun} {phase : InferencePhase},
          w.inferences[i]? = some { run, phase } → phase.isOpen = true →
            run.jobId ≠ begun.jobId := by
        intro i run phase hget hopen hid
        obtain ⟨job, hjob, howns, -⟩ := h.pending i run phase hget hopen
        exact hnew job hjob (howns.jobId.trans hid)
      refine ⟨fun index run phase hget hopen => ?_, ?_⟩
      · rcases hold hget with hold | ⟨-, rfl⟩
        · exact step_isPending hw call h hold hopen hget hopen
        · refine ⟨run.row idempotencyKey expires, by rw [hrows]; simp, ⟨rfl, rfl, rfl⟩, ?_⟩
          simp [InferenceRun.row]
      · intro i j run other phase phase' hi hj hopen hopen' hid
        rcases hold hi with hi' | ⟨rfl, rfl⟩
        · rcases hold hj with hj' | ⟨rfl, rfl⟩
          · exact h.distinct i j run other phase phase' hi' hj' hopen hopen' hid
          · exact absurd hid (hdistinct hi' hopen)
        · rcases hold hj with hj' | ⟨rfl, rfl⟩
          · exact absurd hid.symm (hdistinct hj' hopen')
          · rfl
  | moved index moved old new hget hphase heq =>
      have hlength := (List.getElem?_eq_some_iff.mp hget).1
      -- an open entry was open before, under the same run
      have hold : ∀ {i : Nat} {run : InferenceRun} {phase : InferencePhase},
          (step w call).inferences[i]? = some { run, phase } → phase.isOpen = true →
            ∃ before : InferencePhase, w.inferences[i]? = some { run, phase := before } ∧
              before.isOpen = true := by
        intro i run phase hi hopen
        rw [heq] at hi
        by_cases hindex : index = i
        · subst hindex
          rw [List.getElem?_set_self hlength] at hi
          obtain ⟨rfl, rfl⟩ := InferenceInFlight.mk.inj (Option.some.inj hi)
          exact ⟨old, hget, hphase hopen⟩
        · rw [List.getElem?_set_ne hindex] at hi
          exact ⟨phase, hi, hopen⟩
      refine ⟨fun i run phase hi hopen => ?_, ?_⟩
      · obtain ⟨before, hbefore, hopenBefore⟩ := hold hi hopen
        exact step_isPending hw call h hbefore hopenBefore hi hopen
      · intro i j run other phase phase' hi hj hopen hopen' hid
        obtain ⟨before, hbefore, hopenBefore⟩ := hold hi hopen
        obtain ⟨before', hbefore', hopenBefore'⟩ := hold hj hopen'
        exact h.distinct i j run other before before' hbefore hbefore' hopenBefore hopenBefore' hid

/-- In every reachable state, open inferences and their jobs agree. -/
theorem Reachable.runsStored {w : World} (h : Reachable w) : w.RunsStored := by
  refine h.induction (fun clock deployment => ⟨?_, ?_⟩) fun w call hw ih =>
    step_runsStored hw call ih
  · simp [World.start]
  · simp [World.start]

end Server
end TokenStreaming
