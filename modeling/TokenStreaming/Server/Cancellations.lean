import TokenStreaming.Server.Settlements
import TokenStreaming.Server.Footprints

/-!
# Control plane - Withdrawn tasks and cancellation

A task that is neither waiting nor executing is withdrawn: it never executes
again, nothing more is written to the ledger for it, and the only move left to
it is the end of a pending cancellation.  A task whose cancellation was requested
is withdrawn.

Main results:

- Theorem {lit}`withdrawn_run`: what is left to a withdrawn task.
- Theorem {lit}`cancellation_is_final`: what is left to a cancelled one.
-/

namespace TokenStreaming
namespace Server

open Relational Domain TransitionSystem

/-! ## Withdrawn tasks -/

/-- Over any run a withdrawn task is not executed, charged or settled. -/
structure WithdrawnRun (db db' : MarketplaceDb) (task task' : ArtifactTaskRow) : Prop where
  move : TaskMove task task'
  phase : task'.phase = task.phase ∨ task.phase = .cancelling ∧ task'.phase = .cancelled
  entries : entriesOf db' task.taskId = entriesOf db task.taskId

theorem WithdrawnRun.isWithdrawn {db db' : MarketplaceDb} {task task' : ArtifactTaskRow}
    (h : WithdrawnRun db db' task task') (htask : task.phase.isWithdrawn = true) :
    task'.phase.isWithdrawn = true := by
  rcases h.phase with hsame | ⟨-, hcancelled⟩
  · rw [hsame]
    exact htask
  · rw [hcancelled]
    rfl

theorem WithdrawnRun.trans {a b c : MarketplaceDb} {x y z : ArtifactTaskRow}
    (hxy : WithdrawnRun a b x y) (hyz : WithdrawnRun b c y z) : WithdrawnRun a c x z where
  move := hxy.move.trans hyz.move
  phase := by
    rcases hxy.phase with hsame | ⟨hx, hy⟩
    · rw [← hsame]
      exact hyz.phase
    · rcases hyz.phase with hsame | ⟨hpending, -⟩
      · exact Or.inr ⟨hx, hsame.trans hy⟩
      · simp [hy] at hpending
  entries := by
    have hid : y.taskId = x.taskId := congrArg TaskTerms.taskId hxy.move.terms
    rw [← hxy.entries, ← hid]
    exact hyz.entries

/-- A withdrawn task is not completed by a step. -/
theorem step_withdrawn {w : World} (hw : Reachable w) (call : Call) {task : ArtifactTaskRow}
    (htask : task ∈ w.db.rows .artifactTasks) (hwithdrawn : task.phase.isWithdrawn = true) :
    ∃ task' ∈ (step w call).db.rows .artifactTasks,
      WithdrawnRun w.db (step w call).db task task' := by
  obtain ⟨task', htask', hmove⟩ := (hw.stepped call).follows.tasks.of_mem_old htask
  have hphase := (LeasedWork.reach_isWithdrawn hmove.phase hwithdrawn).2
  refine ⟨task', htask', hmove, hphase, ?_⟩
  rcases step_entriesOf hw call task.taskId with hsame | ⟨⟨item, hitem, hid, hopen⟩, hdone⟩
  · exact hsame
  · -- the task would have been completed by this step
    exfalso
    obtain ⟨done, hmem, hdoneId, hcompleted⟩ := hdone
    have hkept := (hw.step call).bookKept
    have hsame : done = task'.item := by
      refine itemsOf_unique (hw.step call).consistent hkept.named hmem
        (List.mem_append_right _ (List.mem_map_of_mem htask')) (hdoneId.trans ?_)
      exact (congrArg TaskTerms.taskId hmove.terms).symm
    have hopenTask : item = task.item :=
      itemsOf_unique hw.consistent hw.bookKept.named hitem
        (List.mem_append_right _ (List.mem_map_of_mem htask)) hid
    have hafter : task'.phase = .completed := by
      rw [hsame] at hcompleted
      exact task'.phase_eq_completed.mpr (by simpa [ArtifactTaskRow.item] using hcompleted)
    have hbefore : task.phase ≠ .completed := by
      rw [hopenTask] at hopen
      intro hcontra
      simp [ArtifactTaskRow.item, task.phase_eq_completed.mp hcontra] at hopen
    rcases hphase with heq | ⟨-, hcancelled⟩
    · exact hbefore (heq.symm.trans hafter)
    · simp [hafter] at hcancelled

/-- A withdrawn task stays withdrawn over every run. -/
theorem withdrawn_run {w : World} (hw : Reachable w) (calls : List Call) {task : ArtifactTaskRow}
    (htask : task ∈ w.db.rows .artifactTasks) (hwithdrawn : task.phase.isWithdrawn = true) :
    ∃ task' ∈ (run step w calls).db.rows .artifactTasks,
      WithdrawnRun w.db (run step w calls).db task task' := by
  induction calls generalizing w task with
  | nil => exact ⟨task, htask, TaskMove.refl task, Or.inl rfl, rfl⟩
  | cons call calls ih =>
      obtain ⟨next, hnext, hstep⟩ := step_withdrawn hw call htask hwithdrawn
      obtain ⟨last, hlast, hrest⟩ := ih (hw.step call) hnext (hstep.isWithdrawn hwithdrawn)
      exact ⟨last, hlast, hstep.trans hrest⟩

/-! ## Requested cancellations -/

/-- Tasks with a requested cancellation are withdrawn, and only completed tasks are charged. -/
structure TaskSound (task : ArtifactTaskRow) : Prop where
  flagged : task.cancellationRequestedAt.isSome = true →
    task.phase = .cancelling ∨ task.phase = .cancelled
  charged : task.chargeMicros.isSome = true → task.status = .completed

theorem TaskMove.sound {a b : ArtifactTaskRow} (h : TaskMove a b) (ha : TaskSound a) :
    TaskSound b where
  flagged := fun hflag => by
    cases hold : a.cancellationRequestedAt with
    | none => exact h.requested hold hflag
    | some instant =>
        have hphase := h.phase
        rcases ha.flagged (by simp [hold]) with hcancelling | hcancelled
        · rw [hcancelling] at hphase
          exact LeasedWork.reach_of_cancelling hphase
        · rw [hcancelled] at hphase
          exact Or.inr (LeasedWork.reach_of_isOver hphase rfl)
  charged := fun hcharge => by
    by_contra hnot
    rw [h.charge hnot] at hcharge
    have hphase := h.phase
    rw [a.phase_eq_completed.mpr (ha.charged hcharge)] at hphase
    exact hnot (b.phase_eq_completed.mp (LeasedWork.reach_of_isOver hphase rfl))

theorem TaskNew.sound {w : World} {task : ArtifactTaskRow} (h : TaskNew w task) :
    TaskSound task where
  flagged := fun hflag => by simp [h.unflagged] at hflag
  charged := fun hcharge => by simp [h.uncharged] at hcharge

/-- All tasks of a reachable state are sound. -/
theorem Reachable.tasksSound {w : World} (h : Reachable w) :
    ∀ task ∈ w.db.rows .artifactTasks, TaskSound task := by
  refine h.snapshots (P := fun db => ∀ task ∈ db.rows .artifactTasks, TaskSound task) ?_
    (fun _ _ hdb => hdb) ?_ w.db w.db_mem
  · simp [MarketplaceDb.empty]
  · intro w call batch db hw hold hsent hrun _
    refine hsent.preserves (P := fun db => ∀ task ∈ db.rows .artifactTasks, TaskSound task)
      hw.sound hrun ?_ (hold _ w.db_mem)
    intro t s a b hissued _ _ ha hs task htask
    rcases (hissued.tasks_respect a b hs).of_mem_new htask with ⟨old, hmem, hmove⟩ | hnew
    · exact hmove.sound (ha old hmem)
    · exact hnew.sound

/-- What holds of a task after its cancellation was requested. -/
structure CancellationFinal (db : MarketplaceDb) (task task' : ArtifactTaskRow) : Prop where
  /-- The request stays, and the task is not claimed again. -/
  requested : task'.cancellationRequestedAt = task.cancellationRequestedAt ∧
    task'.attempt = task.attempt
  /-- It is not queued, completed or failed; its status changes to cancelled or not at all. -/
  status : (task'.status = .claimed ∨ task'.status = .running ∨ task'.status = .cancelled) ∧
    (task'.status = task.status ∨ task'.status = .cancelled)
  /-- It is never charged. -/
  uncharged : task'.chargeMicros = none ∧ entriesOf db task.taskId = []
  /-- Its reservation is held until the move to cancelled and is released by it. -/
  reservation : task'.heldFor task.buyerTenantId =
    if task'.status = .cancelled then 0 else task.reservedChargeMicros

/-- The phases of a requested cancellation, by status. -/
theorem ArtifactTaskRow.status_of_flagged {task : ArtifactTaskRow}
    (h : task.phase = .cancelling ∨ task.phase = .cancelled) :
    task.status.isLeased = true ∧ task.phase = .cancelling ∨ task.status = .cancelled := by
  rcases h with hcancelling | hcancelled
  · exact Or.inl ⟨task.phase_of_isLeased.mpr (Or.inr hcancelling), hcancelling⟩
  · exact Or.inr (task.phase_eq_cancelled.mp hcancelled)

/--
From the moment its cancellation is requested, whatever requests follow, a task
keeps the request, is neither claimed, requeued, completed nor charged, moves at
most to cancelled, and holds its reservation exactly until then.
-/
theorem cancellation_is_final (w : World) (hw : Reachable w) (task : ArtifactTaskRow)
    (htask : task ∈ w.db.rows .artifactTasks)
    (hflag : task.cancellationRequestedAt.isSome = true) (calls : List Call) :
    ∃ task' ∈ (run step w calls).db.rows .artifactTasks, task'.taskId = task.taskId ∧
      CancellationFinal (run step w calls).db task task' := by
  have hphase := (hw.tasksSound task htask).flagged hflag
  have hwithdrawn : task.phase.isWithdrawn = true := by
    rcases hphase with h | h <;> simp [h, LeasedWork.Phase.isWithdrawn]
  obtain ⟨task', htask', hrun⟩ := withdrawn_run hw calls htask hwithdrawn
  have hmove := hrun.move
  have hkept := hmove.kept hflag
  have hafter := hw.after calls
  have hphase' := (hafter.tasksSound task' htask').flagged (by rw [hkept.1]; exact hflag)
  have hnotCompleted : task'.status ≠ .completed := by
    intro hcompleted
    rw [← task'.phase_eq_completed] at hcompleted
    rcases hphase' with h | h <;> simp [hcompleted] at h
  have hterms := hmove.terms
  refine ⟨task', htask', congrArg TaskTerms.taskId hterms, ⟨hkept, ?_, ?_, ?_⟩⟩
  · rcases ArtifactTaskRow.status_of_flagged hphase' with ⟨hleased, hpending⟩ | hcancelled
    · have hsame : task'.status = task.status := by
        rcases hrun.phase with heq | ⟨-, heq⟩
        · exact hmove.pending (heq.symm.trans hpending) hpending
        · simp [hpending] at heq
      refine ⟨?_, Or.inl hsame⟩
      cases hstatus : task'.status <;> simp [hstatus, ArtifactTaskStatus.isLeased] at hleased ⊢
    · exact ⟨Or.inr (Or.inr hcancelled), Or.inr hcancelled⟩
  · refine ⟨?_, ?_⟩
    · cases hcharge : task'.chargeMicros with
      | none => rfl
      | some charge =>
          exact absurd ((hafter.tasksSound task' htask').charged (by simp [hcharge])) hnotCompleted
    · have hid : task'.taskId = task.taskId := congrArg TaskTerms.taskId hterms
      have hiff := (hafter.bookKept.exactlyOnce hafter.consistent
        (List.mem_append_right _ (List.mem_map_of_mem htask'))).2.1
      have hitem : task'.item.id = task.taskId := hid
      rw [hitem] at hiff
      by_contra hentries
      exact hnotCompleted (by simpa [ArtifactTaskRow.item] using hiff.mp hentries)
  · have hbuyer : task'.buyerTenantId = task.buyerTenantId :=
      congrArg TaskTerms.buyerTenantId hterms
    have hreserved : task'.reservedChargeMicros = task.reservedChargeMicros :=
      congrArg TaskTerms.reservedChargeMicros hterms
    rcases ArtifactTaskRow.status_of_flagged hphase' with ⟨hleased, -⟩ | hcancelled
    · have hnot : task'.status ≠ .cancelled := by
        intro hcancelled
        simp [hcancelled, ArtifactTaskStatus.isLeased] at hleased
      have hholds : task'.status.holdsReservation = true := by
        cases hstatus : task'.status <;>
          simp [hstatus, ArtifactTaskStatus.isLeased, ArtifactTaskStatus.holdsReservation]
            at hleased ⊢
      rw [if_neg hnot, ArtifactTaskRow.heldFor, if_pos ⟨hbuyer, hholds⟩, hreserved]
    · simp [ArtifactTaskRow.heldFor, hcancelled, ArtifactTaskStatus.holdsReservation]

/-- The cancelled sample task stays cancelled or pending, whatever follows. -/
theorem cancellation_is_final_sample :
    ∃ task ∈ (sampleArtifactWorld 10).db.rows .artifactTasks, task.status = .running ∧
      ∃ task' ∈ (run step (sampleArtifactWorld 10) [.service [] .sweepArtifactTasks]).db.rows
          .artifactTasks, task'.taskId = task.taskId ∧
        CancellationFinal (run step (sampleArtifactWorld 10) [.service [] .sweepArtifactTasks]).db
          task task' := by
  have hany : ((sampleArtifactWorld 10).db.rows .artifactTasks).any (fun task =>
      task.status == .running && task.cancellationRequestedAt.isSome) = true := by
    rw [sampleArtifactWorld_eq]
    decide +kernel
  obtain ⟨task, htask, hsel⟩ := List.any_eq_true.mp hany
  simp only [Bool.and_eq_true, beq_iff_eq] at hsel
  exact ⟨task, htask, hsel.1, cancellation_is_final (sampleArtifactWorld 10)
    (sampleArtifactWorld_reachable 10) task htask hsel.2 [.service [] .sweepArtifactTasks]⟩

end Server
end TokenStreaming
