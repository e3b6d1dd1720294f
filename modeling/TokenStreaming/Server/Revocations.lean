import TokenStreaming.Server.AuthorizationBindings
import TokenStreaming.Server.Footprints

/-!
# Control plane - Revocation is final

No request binds new work to a revoked authorization, so the tasks it has are
the ones it had when it was revoked, and these are withdrawn.

Main results:

- Theorem {lit}`run_bound_old`: a revoked authorization gets no new tasks.
- Theorem {lit}`revocation_is_final`: what is left to the tasks of a revoked authorization.
-/

namespace TokenStreaming
namespace Server

open Relational Domain TransitionSystem

/-! ## Bound tasks -/

/-- A revoked request stays revoked. -/
theorem Follows.revoked {a b : MarketplaceDb} (h : Follows a b) {r : AuthorizationRow}
    (hr : r ∈ a.rows .authorizationRequests) (hrevoked : r.status = .revoked) :
    ∃ r' ∈ b.rows .authorizationRequests, r'.requestId = r.requestId ∧ r'.status = .revoked := by
  obtain ⟨r', hr', hmove⟩ := h.requests.of_mem_old hr
  have hstatus := hmove.status
  rw [hrevoked] at hstatus
  exact ⟨r', hr', congrArg RequestTerms.requestId hmove.terms, hstatus.of_revoked⟩

/-- The tasks bound to the request come from earlier tasks. -/
def BoundFrom (requestId : String) (before db : MarketplaceDb) : Prop :=
  ∀ task' ∈ db.rows .artifactTasks, task'.authorizationRequestId = requestId →
    ∃ task ∈ before.rows .artifactTasks, TaskMove task task'

theorem BoundFrom.refl (requestId : String) (db : MarketplaceDb) : BoundFrom requestId db db :=
  fun task htask _ => ⟨task, htask, TaskMove.refl task⟩

theorem BoundFrom.trans {requestId : String} {a b c : MarketplaceDb}
    (hab : BoundFrom requestId a b) (hbc : BoundFrom requestId b c) :
    BoundFrom requestId a c := by
  intro task'' htask'' hbound
  obtain ⟨task', htask', hmove'⟩ := hbc task'' htask'' hbound
  have hterms : task'.authorizationRequestId = requestId :=
    (congrArg TaskTerms.authorizationRequestId hmove'.terms).symm.trans hbound
  obtain ⟨task, htask, hmove⟩ := hab task' htask' hterms
  exact ⟨task, htask, hmove.trans hmove'⟩

/-- A statement binds no new task to a revoked request. -/
theorem Issued.boundFrom {w : World} {s : MarketplaceStatement} (h : Issued w s.table s)
    {a b : MarketplaceDb} (hconsistent : Consistent a) {r : AuthorizationRow}
    (hr : r ∈ a.rows .authorizationRequests) (hrevoked : r.status = .revoked)
    (hs : s.apply a = some b) : BoundFrom r.requestId a b := by
  intro task' htask' hbound
  have hmoves : Evolves TaskMove (fun _ => False) (a.rows .artifactTasks)
      (b.rows .artifactTasks) → ∃ task ∈ a.rows .artifactTasks, TaskMove task task' := by
    intro hevolves
    exact (hevolves.of_mem_new htask').resolve_right id
  by_cases ht : s.table = .artifactTasks
  · rw [ht] at h
    rcases h.task_cases with hkind | ⟨c, rfl⟩
    · cases hkind with
      | reserve task d maximumActiveTasks hnew _ hauthorization =>
          rcases Statement.insertOrIgnore_cases hs rfl with rfl | ⟨hguard, -, heq⟩
          · exact ⟨task', htask', TaskMove.refl task'⟩
          rw [heq, Database.withRows_rows] at htask'
          rcases List.mem_append.mp htask' with hold | hrow
          · exact ⟨task', hold, TaskMove.refl task'⟩
          · -- the reservation joins an approved request, and the bound one is revoked
            obtain rfl := List.mem_singleton.mp hrow
            simp only [Bool.and_eq_true, decide_eq_true_eq] at hguard
            obtain ⟨r', hr', hid, happroved, -⟩ := offerAdmits_standing hguard.1.1.2
            have hsame : r' = r :=
              request_unique hconsistent hr' hr (by rw [hid, hauthorization, hbound])
            rw [← hsame, happroved] at hrevoked
            simp at hrevoked
      | claim c => exact hmoves (claimArtifactTaskSql_move c b hs)
      | quiet selects assign hquiet =>
          refine hmoves ?_
          exact Statement.update_respects TaskMove.refl
            (fun task _ hsel => (hquiet a task hsel).toTaskMove) b hs
    · exact hmoves (completeArtifactTaskSql_move c b hs)
  · refine hmoves ?_
    rw [Statement.apply_rows_of_ne hs (Ne.symm ht)]
    exact Evolves.refl TaskMove.refl _

/-- A step binds no new task to a revoked request. -/
theorem step_bound_old {w : World} (hw : Reachable w) (call : Call) {r : AuthorizationRow}
    (hr : r ∈ w.db.rows .authorizationRequests) (hrevoked : r.status = .revoked) :
    BoundFrom r.requestId w.db (step w call).db := by
  cases hw.stepped call with
  | idle hdb _ =>
      rw [hdb]
      exact .refl _ _
  | clock instant _ hdb _ =>
      rw [hdb]
      exact .refl _ _
  | sent batch hsent hrun _ _ =>
      refine hsent.preserves (P := BoundFrom r.requestId w.db) hw.sound hrun ?_ (.refl _ _)
      intro t s a b hissued hconsistent hfollows hbefore hs
      obtain ⟨r', hr', hid, hrevoked'⟩ := hfollows.revoked hr hrevoked
      have hstatement : Issued w s.table s := by
        rw [hissued.table_eq]
        exact hissued
      have hnext := hstatement.boundFrom hconsistent hr' hrevoked' hs
      rw [hid] at hnext
      exact hbefore.trans hnext

/-- A revoked authorization gets no new tasks in any run. -/
theorem run_bound_old {w : World} (hw : Reachable w) (calls : List Call) {r : AuthorizationRow}
    (hr : r ∈ w.db.rows .authorizationRequests) (hrevoked : r.status = .revoked) :
    BoundFrom r.requestId w.db (run step w calls).db := by
  induction calls generalizing w r with
  | nil => exact .refl _ _
  | cons call calls ih =>
      obtain ⟨r', hr', hid, hrevoked'⟩ := (hw.stepped call).follows.revoked hr hrevoked
      have hrest := ih (hw.step call) hr' hrevoked'
      rw [hid] at hrest
      exact (step_bound_old hw call hr hrevoked).trans hrest

/-! ## The revoking step -/

/-- A revocation neither completes, fails nor requeues a leased task. -/
theorem revocationBatch_leased {c : LifecycleCommand} {request : AuthorizationRow}
    {supplierVersion : Nat} {reasonCode : String} {event : SupplierEvent} {a b : MarketplaceDb}
    (hrun : runBatch a (revocationBatch c request supplierVersion reasonCode event) = some b) :
    ∀ task ∈ a.rows .artifactTasks, task.status.isLeased = true →
      ∃ task' ∈ b.rows .artifactTasks, task'.taskId = task.taskId ∧ task'.status = task.status := by
  intro task htask hleased
  have hall := runBatch_induction
    (P := fun d : MarketplaceDb => ∃ task' ∈ d.rows .artifactTasks,
      task'.taskId = task.taskId ∧ task'.status = task.status) hrun ⟨task, htask, rfl, rfl⟩ ?_
  · exact hall
  · rintro s hs d d' ⟨old, hold, hid, hstatus⟩ happly
    by_cases ht : MarketplaceTable.artifactTasks = s.table
    · have hoccupied : old.status.isLeased = true := by rw [hstatus]; exact hleased
      simp only [revocationBatch, List.mem_cons, List.not_mem_nil, or_false] at hs
      rcases hs with rfl | rfl | rfl | rfl | rfl | rfl | rfl | rfl | rfl | rfl
      case inr.inr.inr.inr.inr.inr.inl =>
        rw [Statement.update_rows happly]
        refine ⟨old, List.mem_map.mpr ⟨old, hold, if_neg ?_⟩, hid, hstatus⟩
        intro hsel
        simp only [Bool.and_eq_true, beq_iff_eq] at hsel
        rw [hsel.1.1.2] at hoccupied
        simp [ArtifactTaskStatus.isLeased] at hoccupied
      case inr.inr.inr.inr.inr.inr.inr.inl =>
        rw [Statement.update_rows happly]
        exact ⟨_, List.mem_map.mpr ⟨old, hold, rfl⟩, by split <;> exact hid,
          by split <;> exact hstatus⟩
      all_goals exact MarketplaceTable.noConfusion ht
    · rw [Statement.apply_rows_of_ne happly ht]
      exact ⟨old, hold, hid, hstatus⟩

/-- A rotation revokes nothing. -/
theorem rotationBatch_revoked {c : LifecycleCommand} {generation encrypted : EncryptedCredential}
    {supplierVersion : Nat} {activeLookup : CredentialLookupDigest} {lookup : TokenLookup}
    {a b : MarketplaceDb}
    (hrun : runBatch a (rotationBatch c generation encrypted supplierVersion activeLookup lookup) =
      some b) :
    ∀ r ∈ b.rows .authorizationRequests, r.status = .revoked →
      r ∈ a.rows .authorizationRequests := by
  have hall := runBatch_induction
    (P := fun d : MarketplaceDb => ∀ r ∈ d.rows .authorizationRequests, r.status = .revoked →
      r ∈ a.rows .authorizationRequests) hrun (fun _ hmem _ => hmem) ?_
  · exact hall
  · intro s hs d d' hd happly r hr hrevoked
    by_cases ht : MarketplaceTable.authorizationRequests = s.table
    · refine hd r ?_ hrevoked
      simp only [rotationBatch, List.mem_cons, List.not_mem_nil, or_false] at hs
      rcases hs with rfl | rfl | rfl | rfl | rfl | rfl
      case inr.inr.inl =>
        rw [Statement.update_rows happly] at hr
        obtain ⟨old, hold, rfl⟩ := List.mem_map.mp hr
        split at hrevoked <;> rename_i hsel
        · -- a rotated row is approved
          simp only [LifecycleCommand.rotates, Bool.and_eq_true, beq_iff_eq] at hsel
          rw [hsel.1.1.1.1.1.1.2] at hrevoked
          simp at hrevoked
        · rw [if_neg hsel]
          exact hold
      all_goals exact MarketplaceTable.noConfusion ht
    · rw [Statement.apply_rows_of_ne happly ht] at hr
      exact hd r hr hrevoked

/-- Only a revocation revokes. -/
theorem step_revokes {w : World} (hw : Reachable w) (call : Call) {r : AuthorizationRow}
    (hr : r ∈ (step w call).db.rows .authorizationRequests) (hrevoked : r.status = .revoked) :
    (∃ old ∈ w.db.rows .authorizationRequests, old.requestId = r.requestId ∧
      old.status = .revoked) ∨
    ∀ task ∈ w.db.rows .artifactTasks, task.status.isLeased = true →
      ∃ task' ∈ (step w call).db.rows .artifactTasks,
        task'.taskId = task.taskId ∧ task'.status = task.status := by
  cases hw.stepped call with
  | idle hdb _ =>
      rw [hdb] at hr
      exact Or.inl ⟨r, hr, rfl, hrevoked⟩
  | clock instant _ hdb _ =>
      rw [hdb] at hr
      exact Or.inl ⟨r, hr, rfl, hrevoked⟩
  | sent batch hsent hrun _ _ =>
      rcases hsent.steady with hsteady | hdisplacement
      · exact Or.inl ((standing_of_steady hsteady hrun).revoked r hr hrevoked)
      · cases hdisplacement with
        | revocation c request supplierVersion reasonCode event =>
            exact Or.inr (revocationBatch_leased hrun)
        | rotation c generation encrypted supplierVersion activeLookup lookup =>
            exact Or.inl ⟨r, rotationBatch_revoked hrun r hr hrevoked, rfl, hrevoked⟩

/-! ## After the revocation -/

theorem ArtifactTaskRow.phase_eq_cancelling (t : ArtifactTaskRow) :
    t.phase = .cancelling ↔
      t.status.isLeased = true ∧ t.cancellationRequestedAt.isSome = true := by
  unfold phase
  cases t.status <;> cases t.cancellationRequestedAt.isSome <;>
    simp [ArtifactTaskStatus.isLeased]

/-- What holds of a task of a revoked authorization, compared with an earlier state. -/
structure RevokedTask (db db' : MarketplaceDb) (task task' : ArtifactTaskRow) : Prop where
  sameTask : task'.taskId = task.taskId
  /-- It is neither queued nor requeued. -/
  notQueued : task'.status ≠ .queued
  /-- It is not claimed: a lease it still has is the old one, and its end is requested. -/
  leased : task'.status.isLeased = true →
    task'.status = task.status ∧ task'.attempt = task.attempt ∧
      task'.cancellationRequestedAt.isSome = true
  /-- Its status stays or ends a lease as cancelled; so it is not completed. -/
  status : task'.status = task.status ∨
    task.status.isLeased = true ∧ task'.status = .cancelled
  /-- No ledger entry is written for it. -/
  entries : entriesOf db' task.taskId = entriesOf db task.taskId

/-- Withdrawn tasks change in no other way. -/
theorem WithdrawnRun.revokedTask {db db' : MarketplaceDb} {task task' : ArtifactTaskRow}
    (h : WithdrawnRun db db' task task') (hwithdrawn : task.phase.isWithdrawn = true) :
    RevokedTask db db' task task' := by
  have hafter := h.isWithdrawn hwithdrawn
  have hmove := h.move
  have hleased : task'.status.isLeased = true → task'.phase = .cancelling := by
    intro hlease
    rcases task'.phase_of_isLeased.mp hlease with hphase | hphase
    · rw [hphase] at hafter
      simp [LeasedWork.Phase.isWithdrawn] at hafter
    · exact hphase
  have hsame : task'.phase = task.phase → task'.status = task.status := by
    intro hphase
    cases hbefore : task.phase with
    | queued => simp [hbefore, LeasedWork.Phase.isWithdrawn] at hwithdrawn
    | leased => simp [hbefore, LeasedWork.Phase.isWithdrawn] at hwithdrawn
    | cancelling => exact hmove.pending hbefore (hphase.trans hbefore)
    | completed =>
        rw [task.phase_eq_completed.mp hbefore, task'.phase_eq_completed.mp (hphase.trans hbefore)]
    | cancelled =>
        rw [task.phase_eq_cancelled.mp hbefore, task'.phase_eq_cancelled.mp (hphase.trans hbefore)]
    | failed =>
        rw [task.phase_eq_failed.mp hbefore, task'.phase_eq_failed.mp (hphase.trans hbefore)]
  refine ⟨congrArg TaskTerms.taskId hmove.terms, ?_, ?_, ?_, h.entries⟩
  · intro hqueued
    rw [task'.phase_eq_queued.mpr hqueued] at hafter
    simp [LeasedWork.Phase.isWithdrawn] at hafter
  · intro hlease
    have hphase := hleased hlease
    rcases h.phase with heq | ⟨-, hcancelled⟩
    · have hflag := (task.phase_eq_cancelling.mp (heq.symm.trans hphase)).2
      refine ⟨hsame heq, (hmove.kept hflag).2, ?_⟩
      rw [(hmove.kept hflag).1]
      exact hflag
    · rw [hphase] at hcancelled
      simp at hcancelled
  · rcases h.phase with heq | ⟨hcancelling, hcancelled⟩
    · exact Or.inl (hsame heq)
    · exact Or.inr ⟨(task.phase_eq_cancelling.mp hcancelling).1,
        task'.phase_eq_cancelled.mp hcancelled⟩

/--
Once an authorization is revoked it stays so.  In every later state its tasks are
the ones it had at that time, and none of them was queued, claimed, completed or
charged since.  A task that was leased when the authorization was revoked is
leased with a pending cancellation or cancelled.
-/
theorem revocation_is_final (w : World) (hw : Reachable w) (r : AuthorizationRow)
    (hr : r ∈ w.db.rows .authorizationRequests) (hrevoked : r.status = .revoked)
    (calls : List Call) :
    (∃ r' ∈ (run step w calls).db.rows .authorizationRequests,
      r'.requestId = r.requestId ∧ r'.status = .revoked) ∧
    (∀ task' ∈ (run step w calls).db.rows .artifactTasks,
      task'.authorizationRequestId = r.requestId →
        ∃ task ∈ w.db.rows .artifactTasks,
          RevokedTask w.db (run step w calls).db task task') ∧
    ∀ before call, Reachable before → w = step before call →
      (∀ old ∈ before.db.rows .authorizationRequests, old.requestId = r.requestId →
        old.status ≠ .revoked) →
      ∀ task ∈ before.db.rows .artifactTasks, task.authorizationRequestId = r.requestId →
        task.status.isLeased = true →
        ∃ task' ∈ (run step w calls).db.rows .artifactTasks, task'.taskId = task.taskId ∧
          (task'.status = .cancelled ∨
            task'.status.isLeased = true ∧ task'.cancellationRequestedAt.isSome = true) := by
  refine ⟨(run_follows hw calls).revoked hr hrevoked, ?_, ?_⟩
  · intro task' htask' hbound
    obtain ⟨task, htask, hmove⟩ := run_bound_old hw calls hr hrevoked task' htask' hbound
    have hbefore : task.authorizationRequestId = r.requestId :=
      (congrArg TaskTerms.authorizationRequestId hmove.terms).symm.trans hbound
    have hwithdrawn := hw.bindings.isWithdrawn hr hrevoked htask hbefore
    obtain ⟨last, hlast, hrun⟩ := withdrawn_run hw calls htask hwithdrawn
    have hsame : last = task' := by
      refine task_unique (hw.after calls).consistent hlast htask' ?_
      exact (congrArg TaskTerms.taskId hrun.move.terms).trans
        (congrArg TaskTerms.taskId hmove.terms).symm
    rw [hsame] at hrun
    exact ⟨task, htask, hrun.revokedTask hwithdrawn⟩
  · rintro before call hbefore rfl hnot task htask hbound hleased
    rcases step_revokes hbefore call hr hrevoked with ⟨old, hold, hid, hrevokedOld⟩ | hkept
    · exact absurd hrevokedOld (hnot old hold hid)
    · obtain ⟨next, hnext, hid, hstatus⟩ := hkept task htask hleased
      obtain ⟨moved, hmoved, hmove⟩ :=
        (hbefore.stepped call).follows.tasks.of_mem_old htask
      have hsame : moved = next := by
        refine task_unique hw.consistent hmoved hnext ?_
        exact (congrArg TaskTerms.taskId hmove.terms).trans hid.symm
      have hnextBound : next.authorizationRequestId = r.requestId := by
        rw [← hsame]
        exact (congrArg TaskTerms.authorizationRequestId hmove.terms).trans hbound
      have hwithdrawn := hw.bindings.isWithdrawn hr hrevoked hnext hnextBound
      obtain ⟨last, hlast, hrun⟩ := withdrawn_run hw calls hnext hwithdrawn
      have hlater := hrun.revokedTask hwithdrawn
      refine ⟨last, hlast, hlater.sameTask.trans hid, ?_⟩
      rcases hlater.status with hstill | ⟨-, hcancelled⟩
      · have hlastLeased : last.status.isLeased = true := by
          rw [hstill, hstatus]
          exact hleased
        exact Or.inr ⟨hlastLeased, (hlater.leased hlastLeased).2.2⟩
      · exact Or.inl hcancelled

/-- The sample supplier revokes its authorization while the sample task is running. -/
def sampleRevocation : Call :=
  .service [] (.revokeAuthorization sampleSupplier "authorization-request-a1" "revoke-1"
    "SUPPLIER_REQUEST" "r2" "e9")

/-- After the revocation the sweep can only leave the sample task pending or cancel it. -/
theorem revocation_is_final_sample :
    ∃ r ∈ (step (sampleArtifactWorld 8) sampleRevocation).db.rows .authorizationRequests,
      r.status = .revoked ∧
      ∀ task' ∈ (run step (step (sampleArtifactWorld 8) sampleRevocation)
          [.service [] .sweepArtifactTasks]).db.rows .artifactTasks,
        task'.authorizationRequestId = r.requestId →
          ∃ task ∈ (step (sampleArtifactWorld 8) sampleRevocation).db.rows .artifactTasks,
            RevokedTask (step (sampleArtifactWorld 8) sampleRevocation).db
              (run step (step (sampleArtifactWorld 8) sampleRevocation)
                [.service [] .sweepArtifactTasks]).db task task' := by
  have hany : ((step (sampleArtifactWorld 8) sampleRevocation).db.rows
      .authorizationRequests).any (fun r => r.status == .revoked) = true := by
    rw [sampleArtifactWorld_eq]
    decide +kernel
  obtain ⟨r, hr, hsel⟩ := List.any_eq_true.mp hany
  rw [beq_iff_eq] at hsel
  have hfinal := revocation_is_final _ ((sampleArtifactWorld_reachable 8).step sampleRevocation)
    r hr hsel [.service [] .sweepArtifactTasks]
  exact ⟨r, hr, hsel, hfinal.2.1⟩

end Server
end TokenStreaming
