import TokenStreaming.Foundation.LeasedWork
import TokenStreaming.Server.Inventory

/-!
# Control plane - Life of an artifact task

The artifact task table refines the abstract leased work item: the phase of a
row is its status together with its cancellation flag, and every statement moves
every row along the abstract steps.

Main results:

- Theorem {lit}`Issued.task_cases`: what a statement may do to the task table.
- Theorem {lit}`Issued.tasks_respect`: every statement moves tasks by {lit}`TaskMove`.
-/

namespace TokenStreaming
namespace Server

open Relational Domain

/-! ## Phases and terms -/

/-- The phase of a stored task. -/
def ArtifactTaskRow.phase (t : ArtifactTaskRow) : LeasedWork.Phase :=
  match t.status with
  | .queued => .queued
  | .claimed | .running => if t.cancellationRequestedAt.isSome then .cancelling else .leased
  | .completed => .completed
  | .failed => .failed
  | .cancelled => .cancelled

/-- The columns a reservation fixes for the life of the task. -/
structure TaskTerms where
  taskId : String
  buyerTenantId : String
  supplierTenantId : String
  offerId : String
  authorizationRequestId : String
  authorizationRevision : Nat
  artifactId : String
  idempotencyKey : String
  model : String
  privacyMode : MarketplacePrivacyMode
  maxTotalTokens : Nat
  reservedChargeMicros : Nat
  createdAt : Nat

def ArtifactTaskRow.terms (t : ArtifactTaskRow) : TaskTerms where
  taskId := t.taskId
  buyerTenantId := t.buyerTenantId
  supplierTenantId := t.supplierTenantId
  offerId := t.offerId
  authorizationRequestId := t.authorizationRequestId
  authorizationRevision := t.authorizationRevision
  artifactId := t.artifactId
  idempotencyKey := t.idempotencyKey
  model := t.model
  privacyMode := t.privacyMode
  maxTotalTokens := t.maxTotalTokens
  reservedChargeMicros := t.reservedChargeMicros
  createdAt := t.createdAt

theorem ArtifactTaskRow.phase_isOver (t : ArtifactTaskRow) :
    t.phase.isOver = !t.status.holdsReservation := by
  unfold phase
  cases t.status <;> cases t.cancellationRequestedAt.isSome <;>
    simp [LeasedWork.Phase.isOver, ArtifactTaskStatus.holdsReservation]

theorem ArtifactTaskRow.phase_eq_completed (t : ArtifactTaskRow) :
    t.phase = .completed ↔ t.status = .completed := by
  unfold phase
  cases t.status <;> cases t.cancellationRequestedAt.isSome <;> simp

theorem ArtifactTaskRow.phase_eq_cancelled (t : ArtifactTaskRow) :
    t.phase = .cancelled ↔ t.status = .cancelled := by
  unfold phase
  cases t.status <;> cases t.cancellationRequestedAt.isSome <;> simp

theorem ArtifactTaskRow.phase_eq_failed (t : ArtifactTaskRow) :
    t.phase = .failed ↔ t.status = .failed := by
  unfold phase
  cases t.status <;> cases t.cancellationRequestedAt.isSome <;> simp

theorem ArtifactTaskRow.phase_eq_queued (t : ArtifactTaskRow) :
    t.phase = .queued ↔ t.status = .queued := by
  unfold phase
  cases t.status <;> cases t.cancellationRequestedAt.isSome <;> simp

/-- A leased task stands in one of the two leased phases. -/
theorem ArtifactTaskRow.phase_of_isLeased (t : ArtifactTaskRow) :
    t.status.isLeased = true ↔ t.phase = .leased ∨ t.phase = .cancelling := by
  unfold phase
  cases t.status <;> cases t.cancellationRequestedAt.isSome <;>
    simp [ArtifactTaskStatus.isLeased]

/-- A leased task without a cancellation. -/
theorem ArtifactTaskRow.phase_of_isExecuting {t : ArtifactTaskRow}
    (h : t.status.isLeased = true) (hflag : t.cancellationRequestedAt = none) :
    t.phase = .leased := by
  unfold phase
  cases hs : t.status <;> simp_all [ArtifactTaskStatus.isLeased]

/-- A leased task with a cancellation. -/
theorem ArtifactTaskRow.phase_of_awaitsCancellation {t : ArtifactTaskRow}
    (h : t.status.isLeased = true) (hflag : t.cancellationRequestedAt.isSome = true) :
    t.phase = .cancelling := by
  unfold phase
  cases hs : t.status <;> simp_all [ArtifactTaskStatus.isLeased]

/-! ## Moves -/

/-- How a stored task may change over any number of statements. -/
structure TaskMove (a b : ArtifactTaskRow) : Prop where
  terms : b.terms = a.terms
  phase : LeasedWork.Reach a.phase b.phase
  /-- A requested cancellation stays, and no further attempt begins. -/
  kept : a.cancellationRequestedAt.isSome = true →
    b.cancellationRequestedAt = a.cancellationRequestedAt ∧ b.attempt = a.attempt
  /-- A cancellation is requested by entering one of the two cancelled phases. -/
  requested : a.cancellationRequestedAt = none → b.cancellationRequestedAt.isSome = true →
    b.phase = .cancelling ∨ b.phase = .cancelled
  /-- While a cancellation is pending the status stands still. -/
  pending : a.phase = .cancelling → b.phase = .cancelling → b.status = a.status
  /-- Only a completion writes a charge. -/
  charge : b.status ≠ .completed → b.chargeMicros = a.chargeMicros
  /-- The columns of an ended task that its settlement refers to. -/
  settled : a.phase.isOver = true →
    b.chargeMicros = a.chargeMicros ∧ b.completedAt = a.completedAt

theorem TaskMove.refl (t : ArtifactTaskRow) : TaskMove t t where
  terms := rfl
  phase := .refl
  kept := fun _ => ⟨rfl, rfl⟩
  requested := fun hn hs => by simp [hn] at hs
  pending := fun _ _ => rfl
  charge := fun _ => rfl
  settled := fun _ => ⟨rfl, rfl⟩

theorem TaskMove.trans {a b c : ArtifactTaskRow} (hab : TaskMove a b) (hbc : TaskMove b c) :
    TaskMove a c where
  terms := hbc.terms.trans hab.terms
  phase := hab.phase.trans hbc.phase
  kept := fun h => by
    obtain ⟨hflag, hattempt⟩ := hab.kept h
    obtain ⟨hflag', hattempt'⟩ := hbc.kept (by rw [hflag]; exact h)
    exact ⟨hflag'.trans hflag, hattempt'.trans hattempt⟩
  requested := fun hn hs => by
    cases hb : b.cancellationRequestedAt with
    | none => exact hbc.requested hb hs
    | some instant =>
        have hphase := hbc.phase
        rcases hab.requested hn (by simp [hb]) with hcan | hcan
        · rw [hcan] at hphase
          exact LeasedWork.reach_of_cancelling hphase
        · rw [hcan] at hphase
          exact Or.inr (LeasedWork.reach_of_isOver hphase rfl)
  pending := fun ha hc => by
    have hb : b.phase = .cancelling := by
      have hab' := hab.phase
      rw [ha] at hab'
      rcases LeasedWork.reach_of_cancelling hab' with hb | hb
      · exact hb
      · have hbc' := hbc.phase
        rw [hb, hc] at hbc'
        have := LeasedWork.reach_of_isOver hbc' rfl
        simp at this
    rw [hbc.pending hb hc, hab.pending ha hb]
  charge := fun hc => by
    have hb : b.status ≠ .completed := by
      intro hb
      have hphase := hbc.phase
      rw [b.phase_eq_completed.mpr hb] at hphase
      exact hc (c.phase_eq_completed.mp (LeasedWork.reach_of_isOver hphase rfl))
    rw [hbc.charge hc, hab.charge hb]
  settled := fun ha => by
    have hb : b.phase.isOver = true := by
      rw [LeasedWork.reach_of_isOver hab.phase ha]
      exact ha
    rw [(hbc.settled hb).1, (hbc.settled hb).2]
    exact hab.settled ha

/-- A move that neither leases nor completes the task. -/
structure TaskQuiet (a b : ArtifactTaskRow) : Prop extends TaskMove a b where
  notLeased : b.status.isLeased = true → a.status.isLeased = true
  notCompleted : b.status = .completed → a.status = .completed

/-- The row of a new task. -/
structure TaskNew (w : World) (t : ArtifactTaskRow) : Prop where
  isNew : ∃ uuid, uuid ∉ w.drawn ∧ t.taskId = "artifact-task-" ++ uuid
  status : t.status = .queued
  unflagged : t.cancellationRequestedAt = none
  uncharged : t.chargeMicros = none

/-- Updates that change none of the columns a move speaks about. -/
theorem TaskQuiet.of_same {a b : ArtifactTaskRow} (hterms : b.terms = a.terms)
    (hstatus : b.status = a.status)
    (hflag : b.cancellationRequestedAt = a.cancellationRequestedAt)
    (hattempt : b.attempt = a.attempt) (hcharge : b.chargeMicros = a.chargeMicros)
    (hcompleted : b.completedAt = a.completedAt) : TaskQuiet a b := by
  have hphase : b.phase = a.phase := by simp [ArtifactTaskRow.phase, hstatus, hflag]
  exact
    { terms := hterms
      phase := by rw [hphase]
      kept := fun _ => ⟨hflag, hattempt⟩
      requested := fun hn hs => by simp [hflag, hn] at hs
      pending := fun _ _ => hstatus
      charge := fun _ => hcharge
      settled := fun _ => ⟨hcharge, hcompleted⟩
      notLeased := fun h => by rwa [hstatus] at h
      notCompleted := fun h => by rwa [hstatus] at h }

/-- Updates that take one abstract step from a task that has not ended. -/
theorem TaskMove.of_step {a b : ArtifactTaskRow} (hterms : b.terms = a.terms)
    (hstep : LeasedWork.Step a.phase b.phase)
    (hkept : a.cancellationRequestedAt.isSome = true →
      b.cancellationRequestedAt = a.cancellationRequestedAt ∧ b.attempt = a.attempt)
    (hrequested : a.cancellationRequestedAt = none → b.cancellationRequestedAt.isSome = true →
      b.phase = .cancelling ∨ b.phase = .cancelled)
    (hcharge : b.status ≠ .completed → b.chargeMicros = a.chargeMicros) : TaskMove a b where
  terms := hterms
  phase := .single hstep
  kept := hkept
  requested := hrequested
  pending := fun ha hb => by
    rw [ha, hb] at hstep
    cases hstep
  charge := hcharge
  settled := fun ha => by
    rw [hstep.isOver_eq_false] at ha
    simp at ha

/-- Updates that end or requeue a task. -/
theorem TaskQuiet.of_step {a b : ArtifactTaskRow} (hterms : b.terms = a.terms)
    (hstep : LeasedWork.Step a.phase b.phase)
    (hflag : b.cancellationRequestedAt = a.cancellationRequestedAt)
    (hattempt : b.attempt = a.attempt) (hcharge : b.chargeMicros = a.chargeMicros)
    (hleased : b.status.isLeased = false) (hcompleted : b.status ≠ .completed) :
    TaskQuiet a b where
  toTaskMove := TaskMove.of_step hterms hstep (fun _ => ⟨hflag, hattempt⟩)
    (fun hn hs => by simp [hflag, hn] at hs) fun _ => hcharge
  notLeased := fun h => by simp [hleased] at h
  notCompleted := fun h => absurd h hcompleted

/-! ## Statements -/

theorem cancelArtifactTaskSql_quiet (c : CancellationCommand) {t : ArtifactTaskRow}
    (h : c.targets t = true) : TaskQuiet t (c.request t) := by
  simp only [CancellationCommand.targets, Bool.and_eq_true, beq_iff_eq,
    Option.isNone_iff_eq_none] at h
  obtain ⟨⟨-, hholds⟩, hflag⟩ := h
  by_cases hqueued : t.status = .queued
  · have hb : (c.request t).phase = .cancelled := by
      simp [CancellationCommand.request, hqueued, ArtifactTaskRow.phase]
    refine
      { toTaskMove := TaskMove.of_step rfl ?_ (fun hs => by simp [hflag] at hs)
          (fun _ _ => Or.inr hb) fun _ => rfl
        notLeased := fun h => ?_
        notCompleted := fun h => ?_ }
    · rw [hb, t.phase_eq_queued.mpr hqueued]
      exact .cancelQueued
    · simp [CancellationCommand.request, hqueued, ArtifactTaskStatus.isLeased] at h
    · simp [CancellationCommand.request, hqueued] at h
  · have hstatus : (c.request t).status = t.status := by
      simp [CancellationCommand.request, hqueued]
    have hleased : t.status.isLeased = true := by
      revert hholds hqueued
      cases t.status <;> simp [ArtifactTaskStatus.holdsReservation, ArtifactTaskStatus.isLeased]
    have hb : (c.request t).phase = .cancelling :=
      ArtifactTaskRow.phase_of_awaitsCancellation (by rw [hstatus]; exact hleased) rfl
    refine
      { toTaskMove := TaskMove.of_step rfl ?_ (fun hs => by simp [hflag] at hs)
          (fun _ _ => Or.inl hb) fun _ => rfl
        notLeased := fun _ => hleased
        notCompleted := fun h => by rwa [hstatus] at h }
    rw [hb, ArtifactTaskRow.phase_of_isExecuting hleased hflag]
    exact .requestCancellation

theorem cancelLeased_quiet (c : LifecycleCommand) {t : ArtifactTaskRow}
    (hleased : t.status.isLeased = true) (hflag : t.cancellationRequestedAt = none) :
    TaskQuiet t
      { t with
        cancellationRequestedAt := some c.now
        instructionCiphertext := .cleared
        instructionIv := ""
        errorCode := some "AUTHORIZATION_REVOKED_PENDING"
        updatedAt := c.now } := by
  refine
    { toTaskMove := TaskMove.of_step rfl ?_ (fun hs => by simp [hflag] at hs)
        (fun _ _ => Or.inl (ArtifactTaskRow.phase_of_awaitsCancellation hleased rfl)) fun _ => rfl
      notLeased := fun _ => hleased
      notCompleted := fun h => h }
  rw [ArtifactTaskRow.phase_of_isExecuting hleased hflag,
    ArtifactTaskRow.phase_of_awaitsCancellation (by exact hleased) rfl]
  exact .requestCancellation

/-- The kinds of statements on the task table, completions apart. -/
inductive TaskStatement (w : World) : MarketplaceStatement → Prop
  | reserve (task : ArtifactTaskRow) (d : OfferDemand) (maximumActiveTasks : Nat)
      (hnew : TaskNew w task) (hoffer : d.offerId = task.offerId)
      (hauthorization : d.authorizationRequestId = task.authorizationRequestId) :
      TaskStatement w (reserveArtifactTaskSql task d maximumActiveTasks)
  | claim (c : TaskClaim) : TaskStatement w (claimArtifactTaskSql c)
  | quiet (selects : MarketplaceDb → ArtifactTaskRow → Bool)
      (assign : MarketplaceDb → ArtifactTaskRow → ArtifactTaskRow)
      (h : ∀ db t, selects db t = true → TaskQuiet t (assign db t)) :
      TaskStatement w (.update .artifactTasks selects assign)

/-- Every routine statement on the task table but a reservation or a claim is quiet. -/
theorem Routine.taskStatement {w : World} {s : MarketplaceStatement}
    (h : Routine w .artifactTasks s) : TaskStatement w s := by
  cases h with
  | free _ hfree => simp [freeTables] at hfree
  | reserveTask identity input selected artifact taskId idempotencyKey iv charge now maximum hid =>
      exact .reserve _ _ _ ⟨hid, rfl, rfl, rfl⟩ rfl rfl
  | cancelTask c =>
      refine .quiet _ _ fun db t ht => ?_
      simp only [Bool.and_eq_true] at ht
      exact cancelArtifactTaskSql_quiet c ht.1
  | endCancelled selects now keepCompletedAt clearInstruction =>
      refine .quiet _ _ fun db t ht => ?_
      simp only [ArtifactTaskRow.awaitsCancellation, Bool.and_eq_true] at ht
      refine .of_step rfl ?_ rfl rfl rfl rfl (by simp)
      rw [ArtifactTaskRow.phase_of_awaitsCancellation ht.1.2 ht.1.1]
      exact .finishCancellation
  | requeue selects now _ =>
      refine .quiet _ _ fun db t ht => ?_
      simp only [ArtifactTaskRow.isExecuting, Bool.and_eq_true, Option.isNone_iff_eq_none] at ht
      refine .of_step rfl ?_ rfl rfl rfl rfl (by simp)
      rw [ArtifactTaskRow.phase_of_isExecuting ht.1.1 ht.1.2]
      exact .requeue
  | exhaust selects code now =>
      refine .quiet _ _ fun db t ht => ?_
      simp only [ArtifactTaskRow.isExecuting, Bool.and_eq_true, Bool.or_eq_true, beq_iff_eq,
        Option.isNone_iff_eq_none] at ht
      refine .of_step rfl ?_ rfl rfl rfl rfl (by simp)
      rcases ht.1 with hqueued | ⟨hleased, hflag⟩
      · rw [t.phase_eq_queued.mpr hqueued]
        exact .failQueued
      · rw [ArtifactTaskRow.phase_of_isExecuting hleased hflag]
        exact .failLeased
  | purgeTaskOutputs now => exact .quiet _ _ fun _ _ _ => .of_same rfl rfl rfl rfl rfl rfl
  | failTask taskId supplierTenantId leaseDigest code retry now row _ _ =>
      refine .quiet _ _ fun db t ht => ?_
      simp only [ArtifactTaskRow.isHeldWith, Bool.and_eq_true, Option.isNone_iff_eq_none] at ht
      obtain ⟨-, ⟨⟨⟨⟨-, hleased⟩, hflag⟩, -⟩, -⟩⟩ := ht
      cases retry with
      | true =>
          refine .of_step rfl ?_ rfl rfl rfl rfl (by simp)
          rw [ArtifactTaskRow.phase_of_isExecuting hleased hflag]
          exact .requeue
      | false =>
          refine .of_step rfl ?_ rfl rfl rfl rfl (by simp)
          rw [ArtifactTaskRow.phase_of_isExecuting hleased hflag]
          exact .failLeased
  | purgeQueuedTask taskId buyerTenantId now =>
      refine .quiet _ _ fun db t ht => ?_
      simp only [Bool.and_eq_true, beq_iff_eq, Option.isNone_iff_eq_none] at ht
      refine
        { toTaskMove := TaskMove.of_step rfl ?_ (fun hs => by simp [ht.2] at hs)
            (fun _ _ => Or.inr rfl) fun _ => rfl
          notLeased := fun hl => by simp [ArtifactTaskStatus.isLeased] at hl
          notCompleted := fun hc => by simp at hc }
      rw [t.phase_eq_queued.mpr ht.1.2]
      exact .cancelQueued
  | purgeFinishedTask taskId buyerTenantId now =>
      exact .quiet _ _ fun _ _ _ => .of_same rfl rfl rfl rfl rfl rfl
  | markPurged taskId buyerTenantId now =>
      exact .quiet _ _ fun _ _ _ => .of_same rfl rfl rfl rfl rfl rfl

theorem Commanded.taskStatement {w : World} {s : MarketplaceStatement}
    (h : Commanded w .artifactTasks s) : TaskStatement w s := by
  cases h with
  | routine h => exact h.taskStatement
  | claimTask c leaseToken _ => exact .claim c
  | checkpoint c row _ _ =>
      refine .quiet _ _ fun db t ht => ?_
      simp only [ArtifactTaskRow.isHeldWith, Bool.and_eq_true, Option.isNone_iff_eq_none] at ht
      obtain ⟨⟨-, ⟨⟨⟨⟨-, hleased⟩, hflag⟩, -⟩, -⟩⟩, -⟩ := ht
      have ha := ArtifactTaskRow.phase_of_isExecuting hleased hflag
      have hb : ArtifactTaskRow.phase
          { t with
            status := .running
            completedSegments := c.completedSegments
            totalSegments := some c.totalSegments
            processedBytes := c.processedBytes
            inputTokens := some c.inputTokens
            outputTokens := some c.outputTokens
            totalTokens := some c.totalTokens
            leaseExpiresAt := some c.leaseExpiresAt
            updatedAt := c.now } = .leased :=
        ArtifactTaskRow.phase_of_isExecuting rfl hflag
      exact
        { terms := rfl
          phase := by rw [ha, hb]
          kept := fun hs => by simp [hflag] at hs
          requested := fun _ hs => by simp [hflag] at hs
          pending := fun hp => by simp [ha] at hp
          charge := fun _ => rfl
          settled := fun hover => by simp [ha, LeasedWork.Phase.isOver] at hover
          notLeased := fun _ => hleased
          notCompleted := fun hc => by simp at hc }
  | failQueued c =>
      refine .quiet _ _ fun db t ht => ?_
      simp only [Bool.and_eq_true, beq_iff_eq, Option.isNone_iff_eq_none] at ht
      refine .of_step rfl ?_ rfl rfl rfl rfl (by simp)
      rw [t.phase_eq_queued.mpr ht.1.1.2]
      exact .failQueued
  | cancelLeased c =>
      refine .quiet _ _ fun db t ht => ?_
      simp only [Bool.and_eq_true, beq_iff_eq, Option.isNone_iff_eq_none] at ht
      exact cancelLeased_quiet c ht.1.1.2 ht.1.2

/-- A statement on the task table completes a task or is of one of the other kinds. -/
theorem Issued.task_cases {w : World} {s : MarketplaceStatement}
    (h : Issued w .artifactTasks s) :
    TaskStatement w s ∨ ∃ c, s = completeArtifactTaskSql c := by
  cases h with
  | commanded h => exact .inl h.taskStatement
  | completeTask c => exact .inr ⟨c, rfl⟩

/-- A claim moves the task it claims from the queue to a worker. -/
theorem claimArtifactTaskSql_move {New : ArtifactTaskRow → Prop} (c : TaskClaim)
    {db : MarketplaceDb} :
    (claimArtifactTaskSql c).Respects db .artifactTasks TaskMove New := by
  refine Statement.update_respects TaskMove.refl fun t _ ht => ?_
  simp only [Bool.and_eq_true, beq_iff_eq, Option.isNone_iff_eq_none] at ht
  obtain ⟨⟨⟨⟨-, hqueued⟩, hflag⟩, -⟩, -⟩ := ht
  refine TaskMove.of_step rfl ?_ (fun hs => by simp [hflag] at hs) (fun _ hs => ?_) fun _ => rfl
  · rw [t.phase_eq_queued.mpr hqueued,
      ArtifactTaskRow.phase_of_isExecuting (by exact rfl) (by exact hflag)]
    exact .claim
  · simp [hflag] at hs

/-- A completion ends the task it completes. -/
theorem completeArtifactTaskSql_move {New : ArtifactTaskRow → Prop} (c : ArtifactCompletion)
    {db : MarketplaceDb} :
    (completeArtifactTaskSql c).Respects db .artifactTasks TaskMove New := by
  refine Statement.update_respects TaskMove.refl fun t _ ht => ?_
  simp only [ArtifactCompletion.admits, ArtifactTaskRow.isHeldWith, Bool.and_eq_true,
    Option.isNone_iff_eq_none] at ht
  obtain ⟨⟨⟨⟨-, ⟨⟨⟨⟨-, hleased⟩, hflag⟩, -⟩, -⟩⟩, -⟩, -⟩, -⟩ := ht
  refine TaskMove.of_step rfl ?_ (fun hs => by simp [hflag] at hs) (fun _ hs => ?_)
    fun hs => absurd rfl hs
  · rw [ArtifactTaskRow.phase_of_isExecuting hleased hflag,
      (c.record t).phase_eq_completed.mpr rfl]
    exact .complete
  · simp [ArtifactCompletion.record, hflag] at hs

/-- Every statement moves tasks along the abstract steps and adds only queued ones. -/
theorem Issued.tasks_respect {w : World} {t : MarketplaceTable} {s : MarketplaceStatement}
    (h : Issued w t s) (db : MarketplaceDb) :
    s.Respects db .artifactTasks TaskMove (TaskNew w) := by
  by_cases ht : t = .artifactTasks
  · subst ht
    rcases h.task_cases with hs | ⟨c, rfl⟩
    · cases hs with
      | reserve task d maximumActiveTasks hnew _ _ =>
          refine Statement.insertOrIgnore_respects TaskMove.refl fun r hr => ?_
          split at hr
          · rw [List.mem_singleton.mp hr]
            exact hnew
          · simp at hr
      | claim c => exact claimArtifactTaskSql_move c
      | quiet selects assign hquiet =>
          exact Statement.update_respects TaskMove.refl fun r _ hr => (hquiet db r hr).toTaskMove
    · exact completeArtifactTaskSql_move c
  · refine Statement.respects_of_ne TaskMove.refl ?_
    rw [h.table_eq]
    exact fun hne => ht hne.symm

end Server
end TokenStreaming
