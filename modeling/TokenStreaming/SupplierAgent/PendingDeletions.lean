import TokenStreaming.SupplierAgent.ArtifactWorker

/-!
# Supplier agent - Pending deletions of checkpoints

Work on a task ends when its completion is accepted or when a failure is sent that may not be
retried.  From then on the deletion of its checkpoint is owed, until it succeeds.  Between the
rounds of the worker the queue of pending deletions holds exactly what is owed, and a claim is
sent only behind a flush that emptied it.

Main results:

- Theorem {lit}`deleteTerminalCheckpointOrQueue_triple`: an owed deletion is done or queued.
- Theorem {lit}`run_settled`: the queue holds what is owed, after any number of rounds.
- Theorem {lit}`terminal_work_forgotten`: checkpoints of ended work are deleted before the
  next claim, none of these deletions is lost, and no other task is affected.
-/

namespace TokenStreaming
namespace SupplierAgent

open SupplierNode Effects ArtifactWorker

/-! ## What is owed -/

/-- The event ends the work on the task. -/
def EndsWork (taskId : String) : WorkerEvent → Prop
  | .completionAccepted accepted => accepted = taskId
  | .failureSent request => request.taskId = taskId ∧ request.retryable = false
  | _ => False

/-- The work on the task has ended and its checkpoint was not deleted since. -/
def Owed (taskId : String) (trace : List WorkerEvent) : Prop :=
  ∃ before ending after, trace = before ++ ending :: after ∧ EndsWork taskId ending ∧
    .checkpointDeleted (checkpointName taskId) ∉ after

/-- The task assigned last starts from its beginning. -/
def Restarts (taskId : String) (trace : List WorkerEvent) : Prop :=
  ∃ before assignment after, trace = before ++ .assigned assignment :: after ∧
    (∀ later, .assigned later ∉ after) ∧ assignment.taskId = taskId ∧
    assignment.resumeFromSegment = 0

/-- Claims are sent when nothing is owed; a checkpoint is deleted because that is owed, or
because its task starts again. -/
def Lawful (before : List WorkerEvent) : WorkerEvent → Prop
  | .claimSent _ => ∀ taskId, ¬ Owed taskId before
  | .checkpointDeleted name =>
      ∃ taskId, name = checkpointName taskId ∧ (Owed taskId before ∨ Restarts taskId before)
  | _ => True

theorem checkpointName_injective {t u : String} (h : checkpointName t = checkpointName u) :
    t = u := by
  have hlist : t.toList ++ CHECKPOINT_SUFFIX.toList = u.toList ++ CHECKPOINT_SUFFIX.toList := by
    rw [← String.toList_append, ← String.toList_append]
    exact congrArg String.toList h
  exact String.toList_inj.mp (List.append_cancel_right hlist)

theorem not_owed_nil (taskId : String) : ¬ Owed taskId [] := by
  rintro ⟨before, ending, after, h, -⟩
  simp at h

/-- One more event ends the work or leaves what is owed but for a deletion. -/
theorem owed_append {taskId : String} {trace : List WorkerEvent} {e : WorkerEvent} :
    Owed taskId (trace ++ [e]) ↔
      EndsWork taskId e ∨
        (Owed taskId trace ∧ e ≠ .checkpointDeleted (checkpointName taskId)) := by
  constructor
  · rintro ⟨before, ending, after, htrace, hends, hkept⟩
    rcases List.eq_nil_or_concat' after with rfl | ⟨after, last, rfl⟩
    · rcases List.append_inj' htrace rfl with ⟨-, hsame⟩
      left
      rw [List.singleton_inj.mp hsame]
      exact hends
    · rw [← List.cons_append, ← List.append_assoc] at htrace
      rcases List.append_inj' htrace rfl with ⟨hbefore, hsame⟩
      rw [List.mem_append, List.mem_singleton, not_or] at hkept
      right
      constructor
      · exact ⟨before, ending, after, hbefore, hends, hkept.1⟩
      · rw [List.singleton_inj.mp hsame]
        exact fun heq => hkept.2 heq.symm
  · rintro (hends | ⟨⟨before, ending, after, htrace, hends, hkept⟩, hother⟩)
    · exact ⟨trace, e, [], rfl, hends, List.not_mem_nil⟩
    · refine ⟨before, ending, after ++ [e], ?_, hends, ?_⟩
      · rw [htrace, List.append_assoc, List.cons_append]
      · rw [List.mem_append, List.mem_singleton, not_or]
        exact ⟨hkept, fun heq => hother heq.symm⟩

/-- The event neither ends work nor deletes a checkpoint, and it is no claim. -/
def Neutral : WorkerEvent → Prop
  | .assigned _ | .checkpointSent _ | .completionSent _ => True
  | .failureSent request => request.retryable = true
  | _ => False

theorem Neutral.lawful {e : WorkerEvent} (h : Neutral e) (before : List WorkerEvent) :
    Lawful before e := by
  cases e <;> first | exact trivial | exact h.elim

theorem owed_append_neutral {taskId : String} {trace : List WorkerEvent} {e : WorkerEvent}
    (h : Neutral e) : Owed taskId (trace ++ [e]) ↔ Owed taskId trace := by
  have hends : ¬ EndsWork taskId e := by
    cases e with
    | failureSent request =>
        rintro ⟨-, hfinal⟩
        have hretryable : request.retryable = true := h
        rw [hfinal] at hretryable
        cases hretryable
    | completionAccepted accepted => exact h.elim
    | _ => exact id
  have hother : e ≠ .checkpointDeleted (checkpointName taskId) := by
    rintro rfl
    exact h
  rw [owed_append]
  constructor
  · rintro (hnow | ⟨howed, -⟩)
    · exact absurd hnow hends
    · exact howed
  · intro howed
    exact .inr ⟨howed, hother⟩

/-! ## Invariants of the worker -/

/-- A property of the queue, the flag and the log. -/
def Of (I : List String → Bool → List WorkerEvent → Prop) (w : WorkerWorld) : Prop :=
  I w.pendingTerminalCheckpointDeletes w.completionAccepted w.trace

/-- Every event so far was lawful, the queue has no duplicates, and it holds what is owed but
for the tasks that are spared. -/
structure Balanced (spared : String → Prop) (pending : List String)
    (trace : List WorkerEvent) : Prop where
  lawful : Logged Lawful trace
  nodup : pending.Nodup
  owed : ∀ taskId, Owed taskId trace ↔ taskId ∈ pending ∨ spared taskId

/-- The state between the rounds. -/
def Settled (pending : List String) (_ : Bool) (trace : List WorkerEvent) : Prop :=
  Balanced (fun _ => False) pending trace

/-- The state behind a flush. -/
def Clear (pending : List String) (_ : Bool) (trace : List WorkerEvent) : Prop :=
  Balanced (fun _ => False) pending trace ∧ pending = []

/-- The assignment is the last one. -/
def Current (assignment : SupplierArtifactAssignment) (trace : List WorkerEvent) : Prop :=
  ∃ before after, trace = before ++ .assigned assignment :: after ∧
    ∀ later, .assigned later ∉ after

/-- The state of the work on a task. -/
def Working (assignment : SupplierArtifactAssignment) (pending : List String)
    (accepted : Bool) (trace : List WorkerEvent) : Prop :=
  Clear pending accepted trace ∧ Current assignment trace ∧ accepted = false

/-- What the {lit}`catch` block of {lit}`processTask` finds. -/
def Interrupted (assignment : SupplierArtifactAssignment) (pending : List String)
    (accepted : Bool) (trace : List WorkerEvent) : Prop :=
  (accepted = true ∧ Settled pending accepted trace) ∨
    Working assignment pending accepted trace

theorem Balanced.log_neutral {spared : String → Prop} {pending : List String}
    {trace : List WorkerEvent} {e : WorkerEvent} (h : Balanced spared pending trace)
    (he : Neutral e) : Balanced spared pending (trace ++ [e]) where
  lawful := logged_append.mpr ⟨h.lawful, he.lawful trace⟩
  nodup := h.nodup
  owed taskId := (owed_append_neutral he).trans (h.owed taskId)

theorem Current.append {assignment : SupplierArtifactAssignment} {trace : List WorkerEvent}
    {e : WorkerEvent} (h : Current assignment trace) (he : ∀ later, e ≠ .assigned later) :
    Current assignment (trace ++ [e]) := by
  rcases h with ⟨before, after, htrace, hlast⟩
  refine ⟨before, after ++ [e], ?_, ?_⟩
  · rw [htrace, List.append_assoc, List.cons_append]
  · intro later
    rw [List.mem_append, List.mem_singleton, not_or]
    exact ⟨hlast later, fun heq => he later heq.symm⟩

/-- The event that ends the work on a task leaves its deletion to be done. -/
theorem Balanced.log_ending {pending : List String} {trace : List WorkerEvent}
    {e : WorkerEvent} {taskId : String} (h : Balanced (fun _ => False) pending trace)
    (hends : ∀ u, EndsWork u e ↔ u = taskId) (hlawful : Lawful trace e)
    (hother : ∀ name, e ≠ .checkpointDeleted name) :
    Balanced (fun u => u = taskId) pending (trace ++ [e]) where
  lawful := logged_append.mpr ⟨h.lawful, hlawful⟩
  nodup := h.nodup
  owed u := by
    rw [owed_append, hends, h.owed]
    constructor
    · rintro (hnow | ⟨hpending | hfalse, -⟩)
      · exact .inr hnow
      · exact .inl hpending
      · exact hfalse.elim
    · rintro (hpending | hnow)
      · exact .inr ⟨.inl hpending, hother _⟩
      · exact .inl hnow

/-! ## Rules for the programs -/

variable {options : SupplierArtifactWorkerOptions} {surroundings : WorkerSurroundings}
  {I J : List String → Bool → List WorkerEvent → Prop}

theorem consult_triple {α : Type} (answer : WorkerWorld → α) {E : WorkerError → WorkerWorld → Prop} :
    Triple (Of I) (consult answer) (fun _ => Of I) E := by
  unfold consult
  refine Triple.bind (Triple.get (Q := fun _ => Of I) fun _ h => h) fun _ => ?_
  refine Triple.bind (Triple.modify (Q := fun _ => Of I) fun _ h => h) fun _ => ?_
  exact Triple.pure fun _ h => h

theorem await_triple {α : Type} (answer : WorkerWorld → Except WorkerError α) :
    Triple (Of I) (await answer) (fun _ => Of I) (fun _ => Of I) := by
  unfold await
  refine Triple.bind (consult_triple answer) fun _ => ?_
  exact Triple.ask (fun _ _ h _ => h) fun _ _ h _ => h

theorem setStatus_triple
    (change : SupplierArtifactWorkerStatus → SupplierArtifactWorkerStatus) :
    Triple (Of I) (setStatus surroundings change) (fun _ => Of I) (fun _ => Of I) := by
  unfold setStatus
  refine Triple.bind (Triple.modify (Q := fun _ => Of I) fun _ h => h) fun _ => ?_
  exact await_triple _

theorem log_triple {e : WorkerEvent} {E : WorkerError → WorkerWorld → Prop}
    (h : ∀ pending accepted trace, I pending accepted trace →
      J pending accepted (trace ++ [e])) :
    Triple (Of I) (log e) (fun _ => Of J) E :=
  Triple.modify fun w hw => h _ _ w.trace hw

theorem file_triple (taskId : String) :
    Triple (Of I) (file taskId) (fun name w => name = checkpointName taskId ∧ Of I w)
      (fun _ => Of I) := by
  unfold file
  refine Triple.bind (R := fun _ => Of I) ?_ fun _ => ?_
  · exact Triple.failIf (fun _ h _ => h) fun _ h _ => h
  · exact Triple.pure fun _ h => ⟨rfl, h⟩

theorem read_triple (taskId : String) :
    Triple (Of I) (ArtifactWorker.read options surroundings taskId) (fun _ => Of I)
      (fun _ => Of I) := by
  unfold ArtifactWorker.read
  refine Triple.bind (file_triple taskId) fun _ => ?_
  exact (await_triple _).weaken (fun _ h => h.2) (fun _ _ h => h) fun _ _ h => h

theorem write_triple (taskId : String) (checkpoint : SupplierArtifactCheckpointState) :
    Triple (Of I) (write options surroundings taskId checkpoint) (fun _ => Of I)
      (fun _ => Of I) := by
  unfold write
  refine Triple.bind (file_triple taskId) fun _ => ?_
  exact (await_triple _).weaken (fun _ h => h.2) (fun _ _ h => h) fun _ _ h => h

/-- A deletion logs the file of its task, or it throws. -/
theorem delete_triple (taskId : String)
    (h : ∀ pending accepted trace, I pending accepted trace →
      J pending accepted (trace ++ [.checkpointDeleted (checkpointName taskId)])) :
    Triple (Of I) (delete surroundings taskId) (fun _ => Of J) (fun _ => Of I) := by
  unfold delete
  refine Triple.bind (file_triple taskId) fun name => ?_
  intro w hw
  rcases hw with ⟨rfl, hw⟩
  revert w
  refine Triple.bind (R := fun _ => Of I) (consult_triple _) fun outcome => ?_
  refine Triple.bind (R := fun _ => Of I) ?_ fun _ => ?_
  · exact Triple.failIf (fun _ hI _ => hI) fun _ hI _ => hI
  · exact log_triple h

/-! ## Deletions -/

/-- An owed deletion is lawful, and it is owed no more. -/
theorem Balanced.log_deleted {pending : List String} {trace : List WorkerEvent}
    {taskId : String} (h : Balanced (fun u => u = taskId) pending trace) :
    Balanced (fun _ => False) (pending.filter fun p => p ≠ taskId)
      (trace ++ [.checkpointDeleted (checkpointName taskId)]) where
  lawful := by
    refine logged_append.mpr ⟨h.lawful, taskId, rfl, .inl ?_⟩
    exact (h.owed taskId).mpr (.inr rfl)
  nodup := h.nodup.filter _
  owed u := by
    have hsame : (.checkpointDeleted (checkpointName taskId) : WorkerEvent) ≠
        .checkpointDeleted (checkpointName u) ↔ u ≠ taskId := by
      constructor
      · rintro hne rfl
        exact hne rfl
      · intro hne heq
        have hname := WorkerEvent.checkpointDeleted.inj heq
        exact hne (checkpointName_injective hname).symm
    rw [owed_append, h.owed, hsame, List.mem_filter, decide_eq_true_iff]
    constructor
    · rintro (hends | ⟨hpending | hspared, hne⟩)
      · exact hends.elim
      · exact .inl ⟨hpending, hne⟩
      · exact absurd hspared hne
    · rintro (⟨hpending, hne⟩ | hfalse)
      · exact .inr ⟨.inl hpending, hne⟩
      · exact hfalse.elim

theorem Balanced.enqueue {w : WorkerWorld} {taskId : String}
    (h : Balanced (fun u => u = taskId) w.pendingTerminalCheckpointDeletes w.trace) :
    Balanced (fun _ => False) (enqueue taskId w).pendingTerminalCheckpointDeletes
      (enqueue taskId w).trace := by
  unfold ArtifactWorker.enqueue
  by_cases hmem : taskId ∈ w.pendingTerminalCheckpointDeletes
  · rw [if_pos hmem]
    refine ⟨h.lawful, h.nodup, fun u => ?_⟩
    rw [h.owed, or_false]
    constructor
    · rintro (hpending | rfl)
      · exact hpending
      · exact hmem
    · exact Or.inl
  · rw [if_neg hmem]
    refine ⟨h.lawful, ?_, fun u => ?_⟩
    · rw [List.nodup_append]
      refine ⟨h.nodup, List.nodup_singleton _, ?_⟩
      intro u hu v hv heq
      rw [heq, List.mem_singleton.mp hv] at hu
      exact hmem hu
    · rw [h.owed, or_false, List.mem_append, List.mem_singleton]

/-- An owed deletion is done or queued. -/
theorem deleteTerminalCheckpointOrQueue_triple (taskId : String) (queue : List String)
    (flag : Bool) :
    Triple
      (Of fun pending accepted trace => Balanced (fun u => u = taskId) pending trace ∧
        pending = queue ∧ accepted = flag)
      (deleteTerminalCheckpointOrQueue surroundings taskId)
      (fun _ => Of fun pending accepted trace => Settled pending accepted trace ∧
        pending = queue.filter (fun p => p ≠ taskId) ∧ accepted = flag)
      (fun _ => Of fun pending accepted trace => Settled pending accepted trace ∧
        accepted = flag) := by
  unfold deleteTerminalCheckpointOrQueue
  refine Triple.tryCatch (R := fun _ => Of fun pending accepted trace =>
    Balanced (fun u => u = taskId) pending trace ∧ pending = queue ∧ accepted = flag) ?_ ?_
  · refine Triple.bind (delete_triple (J := fun pending accepted trace =>
      Balanced (fun _ => False) (pending.filter fun p => p ≠ taskId) trace ∧
        pending = queue ∧ accepted = flag) taskId ?_) fun _ => ?_
    · rintro pending accepted trace ⟨hbalanced, hqueue, hflag⟩
      exact ⟨hbalanced.log_deleted, hqueue, hflag⟩
    · refine Triple.modify ?_
      rintro w ⟨hbalanced, hqueue, hflag⟩
      refine ⟨hbalanced, ?_, hflag⟩
      show w.pendingTerminalCheckpointDeletes.filter _ = _
      rw [hqueue]
  · intro error
    refine Triple.bind (R := fun _ => Of fun pending accepted trace =>
      Settled pending accepted trace ∧ accepted = flag) ?_ fun _ => ?_
    · refine Triple.modify ?_
      rintro w ⟨hbalanced, -, hflag⟩
      refine ⟨hbalanced.enqueue, ?_⟩
      rw [← hflag]
      unfold ArtifactWorker.enqueue
      split <;> rfl
    · exact Triple.throw fun _ h => h

theorem Balanced.spare_member {pending : List String} {trace : List WorkerEvent}
    {taskId : String} (h : Balanced (fun _ => False) pending trace) (hmem : taskId ∈ pending) :
    Balanced (fun u => u = taskId) pending trace where
  lawful := h.lawful
  nodup := h.nodup
  owed u := by
    rw [h.owed, or_false]
    constructor
    · exact Or.inl
    · rintro (hpending | rfl)
      · exact hpending
      · exact hmem

/-- A flush empties the queue, or it throws and the rest stays queued. -/
theorem flush_triple (queue : List String) :
    Triple
      (Of fun pending accepted trace => Settled pending accepted trace ∧ pending = queue)
      (queue.forM (deleteTerminalCheckpointOrQueue surroundings))
      (fun _ => Of Clear) (fun _ => Of Settled) := by
  induction queue with
  | nil => exact Triple.pure fun _ h => h
  | cons taskId queue ih =>
      refine Triple.bind (R := fun _ => Of fun pending accepted trace =>
        Settled pending accepted trace ∧ pending = queue) ?_ fun _ => ih
      refine Triple.of_state fun w hw => ?_
      rcases hw with ⟨hsettled, hqueue⟩
      have hmem : taskId ∈ w.pendingTerminalCheckpointDeletes := by
        rw [hqueue]
        exact List.mem_cons_self
      -- the queue has no duplicates, so the deletion leaves the rest of the copy
      have hrest : (taskId :: queue).filter (fun p => p ≠ taskId) = queue := by
        have hnodup := hsettled.nodup
        rw [hqueue, List.nodup_cons] at hnodup
        rw [List.filter_cons_of_neg (by simp)]
        refine List.filter_eq_self.mpr fun p hp => ?_
        rw [decide_eq_true_iff]
        rintro rfl
        exact hnodup.1 hp
      refine (deleteTerminalCheckpointOrQueue_triple taskId (taskId :: queue)
        w.completionAccepted).weaken ?_ ?_ ?_
      · rintro _ rfl
        exact ⟨hsettled.spare_member hmem, hqueue, rfl⟩
      · rintro _ w' ⟨hdone, hfiltered, -⟩
        rw [hrest] at hfiltered
        exact ⟨hdone, hfiltered⟩
      · rintro _ w' ⟨hkept, -⟩
        exact hkept

theorem flushTerminalCheckpointDeletes_triple :
    Triple (Of Settled) (flushTerminalCheckpointDeletes surroundings) (fun _ => Of Clear)
      (fun _ => Of Settled) := by
  unfold flushTerminalCheckpointDeletes
  refine Triple.bind (R := fun world w => Of Settled w ∧ world = w) ?_ fun world => ?_
  · exact Triple.get fun _ h => ⟨h, rfl⟩
  · refine (flush_triple world.pendingTerminalCheckpointDeletes).weaken ?_ (fun _ _ h => h)
      fun _ _ h => h
    rintro w ⟨hsettled, rfl⟩
    exact ⟨hsettled, rfl⟩

/-! ## Work on a task -/

variable {assignment : SupplierArtifactAssignment}

theorem Working.log_neutral {pending : List String} {accepted : Bool}
    {trace : List WorkerEvent} {e : WorkerEvent} (h : Working assignment pending accepted trace)
    (he : Neutral e) (hother : ∀ later, e ≠ .assigned later) :
    Working assignment pending accepted (trace ++ [e]) :=
  ⟨⟨h.1.1.log_neutral he, h.1.2⟩, h.2.1.append hother, h.2.2⟩

/-- The checkpoint of a task that starts again may be deleted while nothing is owed. -/
theorem Working.log_deleted {pending : List String} {accepted : Bool}
    {trace : List WorkerEvent} (h : Working assignment pending accepted trace)
    (hrestart : assignment.resumeFromSegment = 0) :
    Working assignment pending accepted
      (trace ++ [.checkpointDeleted (checkpointName assignment.taskId)]) := by
  rcases h with ⟨⟨hbalanced, hempty⟩, hcurrent, haccepted⟩
  have hnone : ∀ u, ¬ Owed u trace := by
    intro u howed
    rcases (hbalanced.owed u).mp howed with hmem | hfalse
    · rw [hempty] at hmem
      exact List.not_mem_nil hmem
    · exact hfalse
  refine ⟨⟨⟨?_, hbalanced.nodup, fun u => ?_⟩, hempty⟩, ?_, haccepted⟩
  · refine logged_append.mpr ⟨hbalanced.lawful, assignment.taskId, rfl, .inr ?_⟩
    rcases hcurrent with ⟨before, after, htrace, hlast⟩
    exact ⟨before, assignment, after, htrace, hlast, rfl, hrestart⟩
  · rw [owed_append, ← hbalanced.owed u]
    constructor
    · rintro (hends | ⟨howed, -⟩)
      · exact hends.elim
      · exact howed
    · intro howed
      exact absurd howed (hnone u)
  · exact hcurrent.append fun _ => WorkerEvent.noConfusion

theorem sendCheckpoint_triple (progress : SupplierArtifactProgress) :
    Triple (Of (Working assignment)) (sendCheckpoint surroundings assignment progress)
      (fun _ => Of (Working assignment)) (fun _ => Of (Working assignment)) := by
  unfold sendCheckpoint
  refine Triple.bind (consult_triple _) fun _ => ?_
  refine Triple.bind (log_triple (J := Working assignment) ?_) fun _ => await_triple _
  intro pending accepted trace h
  exact h.log_neutral trivial fun _ => WorkerEvent.noConfusion

theorem onCheckpoint_triple (next : SupplierArtifactCheckpointState × SupplierArtifactProgress) :
    Triple (Of (Working assignment)) (onCheckpoint options surroundings assignment next)
      (fun _ => Of (Working assignment)) (fun _ => Of (Working assignment)) := by
  unfold onCheckpoint
  refine Triple.bind (write_triple _ _) fun _ => ?_
  refine Triple.bind (sendCheckpoint_triple _) fun _ => ?_
  exact setStatus_triple _

theorem executeArtifactTask_triple (checkpoint : Option SupplierArtifactCheckpointState) :
    Triple (Of (Working assignment))
      (executeArtifactTask options surroundings assignment checkpoint)
      (fun _ => Of (Working assignment)) (fun _ => Of (Working assignment)) := by
  unfold executeArtifactTask
  refine Triple.bind (consult_triple _) fun execution => ?_
  refine Triple.bind (Triple.forM fun next _ => onCheckpoint_triple next) fun _ => ?_
  exact Triple.ask (fun _ _ h _ => h) fun _ _ h _ => h

theorem storedCheckpoint_triple :
    Triple (Of (Working assignment)) (storedCheckpoint options surroundings assignment)
      (fun _ => Of (Working assignment)) (fun _ => Of (Working assignment)) := by
  unfold storedCheckpoint
  refine Triple.bind (read_triple _) fun stored => ?_
  by_cases hrestart : assignment.resumeFromSegment = 0 ∧ stored.isSome
  · rw [if_pos hrestart]
    refine Triple.bind (delete_triple (J := Working assignment) _ ?_) fun _ => ?_
    · intro pending accepted trace h
      exact h.log_deleted hrestart.1
    · exact Triple.pure fun _ h => h
  · rw [if_neg hrestart]
    exact Triple.pure fun _ h => h

theorem sendCompletion_triple (result : SupplierArtifactExecutionResult) :
    Triple (Of (Working assignment)) (sendCompletion surroundings assignment result)
      (fun _ => Of (Working assignment)) (fun _ => Of (Working assignment)) := by
  unfold sendCompletion
  refine Triple.bind (consult_triple _) fun _ => ?_
  refine Triple.bind (log_triple (J := Working assignment) ?_) fun _ => await_triple _
  intro pending accepted trace h
  exact h.log_neutral trivial fun _ => WorkerEvent.noConfusion

/-- An attempt ends with an accepted completion whose checkpoint is deleted or queued, or it is
interrupted while the task is in work. -/
theorem attemptTask_triple :
    Triple (Of (Working assignment)) (attemptTask options surroundings assignment)
      (fun _ => Of Settled) (fun _ => Of (Interrupted assignment)) := by
  have hworking : ∀ (e : WorkerError) w, Of (Working assignment) w →
      Of (Interrupted assignment) w := fun _ _ h => .inr h
  have haccepted : ∀ w, Of (fun pending accepted trace =>
      Settled pending accepted trace ∧ accepted = true) w → Of (Interrupted assignment) w :=
    fun _ h => .inl ⟨h.2, h.1⟩
  unfold attemptTask
  refine Triple.bind (storedCheckpoint_triple.weaken (fun _ h => h) (fun _ _ h => h) hworking)
    fun stored => ?_
  refine Triple.bind (R := fun _ => Of (Working assignment)) ?_ fun _ => ?_
  · exact Triple.failIf (fun w h _ => .inr h) fun _ h _ => h
  refine Triple.bind ((executeArtifactTask_triple _).weaken (fun _ h => h) (fun _ _ h => h)
    hworking) fun result => ?_
  refine Triple.bind ((sendCompletion_triple result).weaken (fun _ h => h) (fun _ _ h => h)
    hworking) fun _ => ?_
  -- the completion is accepted: from here on the deletion is owed
  refine Triple.bind (log_triple (J := fun pending _ trace =>
    Balanced (fun u => u = assignment.taskId) pending trace ∧ pending = []) ?_) fun _ => ?_
  · rintro pending accepted trace ⟨⟨hbalanced, hempty⟩, -, -⟩
    refine ⟨hbalanced.log_ending ?_ trivial fun _ => WorkerEvent.noConfusion, hempty⟩
    intro u
    exact eq_comm
  refine Triple.bind (R := fun _ => Of fun pending accepted trace =>
    Balanced (fun u => u = assignment.taskId) pending trace ∧ pending = [] ∧
      accepted = true) ?_ fun _ => ?_
  · exact Triple.modify fun _ h => ⟨h.1, h.2, rfl⟩
  refine Triple.bind (R := fun _ => Of fun pending accepted trace =>
    Settled pending accepted trace ∧ accepted = true) ?_ fun _ => ?_
  · refine (deleteTerminalCheckpointOrQueue_triple _ [] true).weaken (fun _ h => h) ?_ ?_
    · rintro _ w ⟨hsettled, -, hflag⟩
      exact ⟨hsettled, hflag⟩
    · exact fun _ w h => haccepted w h
  refine Triple.bind (consult_triple _) fun now => ?_
  exact (setStatus_triple _).weaken (fun _ h => h) (fun _ _ h => h.1) fun _ w h => haccepted w h

theorem Balanced.log_failure {pending : List String} {trace : List WorkerEvent}
    (h : Balanced (fun _ => False) pending trace)
    (request : SupplierArtifactTaskFailureRequest) :
    Balanced (fun u => request.retryable = false ∧ u = request.taskId) pending
      (trace ++ [.failureSent request]) := by
  cases hretryable : request.retryable with
  | true =>
      have hkept := h.log_neutral (e := .failureSent request) hretryable
      refine ⟨hkept.lawful, hkept.nodup, fun u => (hkept.owed u).trans ?_⟩
      simp
  | false =>
      have hends : ∀ u, EndsWork u (.failureSent request) ↔ u = request.taskId := by
        intro u
        constructor
        · rintro ⟨htask, -⟩
          exact htask.symm
        · rintro rfl
          exact ⟨rfl, hretryable⟩
      have hended := h.log_ending hends trivial fun _ => WorkerEvent.noConfusion
      refine ⟨hended.lawful, hended.nodup, fun u => (hended.owed u).trans ?_⟩
      simp

/-- Behind the report of a failure, its deletion is owed unless it may be retried. -/
theorem sendFailure_triple (code : String) (retryable : Bool) :
    Triple (Of (Working assignment)) (sendFailure surroundings assignment code retryable)
      (fun _ => Of fun pending _ trace =>
        Balanced (fun u => retryable = false ∧ u = assignment.taskId) pending trace ∧
          pending = [])
      (fun _ => Of fun pending _ trace =>
        Balanced (fun u => retryable = false ∧ u = assignment.taskId) pending trace ∧
          pending = []) := by
  unfold sendFailure
  refine Triple.bind (consult_triple _) fun _ => ?_
  refine Triple.bind (log_triple ?_) fun _ => await_triple _
  rintro pending accepted trace ⟨⟨hbalanced, hempty⟩, -, -⟩
  exact ⟨hbalanced.log_failure (failureRequest assignment code retryable _), hempty⟩

/-- However the failure is reported, the deletion of a final one is done or queued. -/
theorem reportFailure_triple (error : WorkerError) :
    Triple (Of (Working assignment)) (reportFailure surroundings assignment error)
      (fun _ => Of Settled) (fun _ => Of Settled) := by
  unfold reportFailure
  refine Triple.bind (R := fun _ => Of fun pending _ trace =>
    Balanced (fun u => error.retryable = false ∧ u = assignment.taskId) pending trace ∧
      pending = []) ?_ fun _ => ?_
  · refine Triple.tryCatch (sendFailure_triple _ _) fun _ => ?_
    exact Triple.pure fun _ h => h
  · by_cases hretryable : error.retryable = true
    · rw [if_pos hretryable]
      refine Triple.pure ?_
      rintro w ⟨hbalanced, -⟩
      refine ⟨hbalanced.lawful, hbalanced.nodup, fun u => (hbalanced.owed u).trans ?_⟩
      simp [hretryable]
    · rw [if_neg hretryable]
      refine Triple.of_state fun w hw => ?_
      rcases hw with ⟨hbalanced, hempty⟩
      refine (deleteTerminalCheckpointOrQueue_triple assignment.taskId []
        w.completionAccepted).weaken ?_ (fun _ _ h => h.1) fun _ _ h => h.1
      rintro _ rfl
      refine ⟨⟨hbalanced.lawful, hbalanced.nodup, fun u => (hbalanced.owed u).trans ?_⟩,
        hempty, rfl⟩
      simp [hretryable]

theorem reportUnlessAccepted_triple (error : WorkerError) :
    Triple (Of (Interrupted assignment)) (reportUnlessAccepted surroundings assignment error)
      (fun _ => Of Settled) (fun _ => Of Settled) := by
  unfold reportUnlessAccepted
  refine Triple.bind (R := fun world w => Of (Interrupted assignment) w ∧ world = w) ?_
    fun world => ?_
  · exact Triple.get fun _ h => ⟨h, rfl⟩
  by_cases haccepted : world.completionAccepted = true
  · rw [if_pos haccepted]
    refine Triple.pure ?_
    rintro w ⟨⟨-, hsettled⟩ | ⟨⟨hsettled, -⟩, -, -⟩, -⟩
    · exact hsettled
    · exact hsettled
  · rw [if_neg haccepted]
    refine (reportFailure_triple error).weaken ?_ (fun _ _ h => h) fun _ _ h => h
    rintro w ⟨⟨hflag, -⟩ | hworking, rfl⟩
    · exact absurd hflag haccepted
    · exact hworking

theorem abandonTask_triple (error : WorkerError) :
    Triple (Of (Interrupted assignment)) (abandonTask surroundings assignment error)
      (fun _ => Of Settled) (fun _ => Of Settled) := by
  unfold abandonTask
  refine Triple.bind (reportUnlessAccepted_triple error) fun _ => ?_
  refine Triple.bind (setStatus_triple _) fun _ => ?_
  exact Triple.throw fun _ h => h

/-- However the work on a task ends, what is owed is queued. -/
theorem processTask_triple :
    Triple (Of fun pending accepted trace => Clear pending accepted trace ∧
        Current assignment trace)
      (processTask options surroundings assignment) (fun _ => Of Settled)
      (fun _ => Of Settled) := by
  unfold processTask
  refine Triple.bind ((setStatus_triple _).weaken (fun _ h => h) (fun _ _ h => h)
    fun _ _ h => h.1.1) fun _ => ?_
  refine Triple.bind (R := fun _ => Of (Working assignment)) ?_ fun _ => ?_
  · exact Triple.modify fun _ h => ⟨h.1, h.2, rfl⟩
  exact Triple.tryCatch attemptTask_triple abandonTask_triple

/-! ## Rounds -/

/-- A round sends its claim when nothing is owed. -/
theorem pollOnce_triple :
    Triple (Of Settled) (pollOnce options surroundings) (fun _ => Of Settled)
      (fun _ => Of Settled) := by
  have hclear : ∀ (e : WorkerError) w, Of Clear w → Of Settled w := fun _ _ h => h.1
  unfold pollOnce
  refine Triple.bind flushTerminalCheckpointDeletes_triple fun _ => ?_
  refine Triple.bind ((await_triple _).weaken (fun _ h => h) (fun _ _ h => h) hclear)
    fun cleanup => ?_
  refine Triple.bind (R := fun _ => Of Clear) ?_ fun _ => ?_
  · exact Triple.failIf (fun _ h _ => h.1) fun _ h _ => h
  refine Triple.bind (consult_triple _) fun id => ?_
  refine Triple.bind (log_triple (J := Clear) ?_) fun _ => ?_
  · rintro pending accepted trace ⟨hbalanced, hempty⟩
    have hnone : ∀ u, ¬ Owed u trace := by
      intro u howed
      rcases (hbalanced.owed u).mp howed with hmem | hfalse
      · rw [hempty] at hmem
        exact List.not_mem_nil hmem
      · exact hfalse
    refine ⟨⟨logged_append.mpr ⟨hbalanced.lawful, hnone⟩, hbalanced.nodup, fun u => ?_⟩,
      hempty⟩
    rw [owed_append, ← hbalanced.owed u]
    constructor
    · rintro (hends | ⟨howed, -⟩)
      · exact hends.elim
      · exact howed
    · intro howed
      exact absurd howed (hnone u)
  refine Triple.bind ((await_triple _).weaken (fun _ h => h) (fun _ _ h => h) hclear)
    fun result => ?_
  refine Triple.bind (R := fun _ => Of Clear) ?_ fun _ => ?_
  · exact Triple.failIf (fun _ h _ => h.1) fun _ h _ => h
  cases result.task with
  | none => exact Triple.pure fun _ h => h.1
  | some assignment =>
      refine Triple.bind (log_triple (J := fun pending accepted trace =>
        Clear pending accepted trace ∧ Current assignment trace) ?_) fun _ => ?_
      · rintro pending accepted trace ⟨hbalanced, hempty⟩
        refine ⟨⟨hbalanced.log_neutral trivial, hempty⟩, trace, [], rfl, ?_⟩
        exact fun _ => List.not_mem_nil
      refine Triple.bind processTask_triple fun _ => ?_
      exact Triple.pure fun _ h => h

theorem loopBody_triple :
    Triple (Of Settled) (loopBody options surroundings) (fun _ => Of Settled)
      (fun _ => Of Settled) := by
  unfold loopBody
  refine Triple.tryCatch (R := fun _ => Of Settled) ?_ fun error => ?_
  · refine Triple.bind (setStatus_triple _) fun _ => ?_
    refine Triple.bind pollOnce_triple fun _ => ?_
    exact Triple.pure fun _ h => h
  · refine Triple.bind (consult_triple _) fun aborted => ?_
    by_cases hleave : aborted = true
    · rw [if_pos hleave]
      exact Triple.pure fun _ h => h
    · rw [if_neg hleave]
      refine Triple.bind (setStatus_triple _) fun _ => ?_
      exact Triple.pure fun _ h => h

theorem loop_triple (rounds : Nat) :
    Triple (Of Settled) (loop options surroundings rounds) (fun _ => Of Settled)
      (fun _ => Of Settled) := by
  induction rounds with
  | zero => exact Triple.pure fun _ h => h
  | succ rounds ih =>
      unfold loop
      refine Triple.bind (consult_triple _) fun aborted => ?_
      by_cases hstop : aborted = true
      · rw [if_pos hstop]
        exact Triple.pure fun _ h => h
      · rw [if_neg hstop]
        refine Triple.bind loopBody_triple fun left => ?_
        by_cases hleft : left = true
        · rw [if_pos hleft]
          exact Triple.pure fun _ h => h
        · rw [if_neg hleft]
          exact ih

/-- After any number of rounds, the queue holds what is owed. -/
theorem run_settled (options : SupplierArtifactWorkerOptions)
    (surroundings : WorkerSurroundings) (rounds : Nat) :
    Of Settled (runWorker options surroundings rounds) := by
  have hstart : Of Settled {} := by
    refine ⟨logged_nil, List.nodup_nil, fun u => ?_⟩
    rw [or_false]
    exact ⟨fun howed => absurd howed (not_owed_nil u), fun hmem => absurd hmem List.not_mem_nil⟩
  have hrun : Triple (Of Settled) (start options surroundings rounds) (fun _ => Of Settled)
      (fun _ => Of Settled) := by
    unfold start
    refine Triple.bind (setStatus_triple _) fun _ => ?_
    exact loop_triple rounds
  exact hrun.finalState hstart

/-- In every run of a worker: a claim sent behind the end of the work on a task comes behind a
deletion of that task's checkpoint, the deletions still owed are those queued, and every
deleted checkpoint is that of a task for which this was owed, or of the task in work when it
starts again. -/
theorem terminal_work_forgotten (options : SupplierArtifactWorkerOptions)
    (surroundings : WorkerSurroundings) (rounds : Nat) :
    (∀ taskId before ending between request after,
      (runWorker options surroundings rounds).trace =
          before ++ ending :: between ++ .claimSent request :: after →
        EndsWork taskId ending → .checkpointDeleted (checkpointName taskId) ∈ between) ∧
    (∀ taskId, Owed taskId (runWorker options surroundings rounds).trace ↔
      taskId ∈ (runWorker options surroundings rounds).pendingTerminalCheckpointDeletes) ∧
    (∀ before name after,
      (runWorker options surroundings rounds).trace =
          before ++ .checkpointDeleted name :: after →
        ∃ taskId, name = checkpointName taskId ∧
          (Owed taskId before ∨ Restarts taskId before)) := by
  have hsettled := run_settled options surroundings rounds
  refine ⟨?_, ?_, ?_⟩
  · intro taskId before ending between request after htrace hends
    have hlawful := hsettled.lawful _ _ _ htrace
    by_contra hkept
    exact hlawful taskId ⟨before, ending, between, rfl, hends, hkept⟩
  · intro taskId
    rw [hsettled.owed taskId, or_false]
  · intro before name after htrace
    exact hsettled.lawful _ _ _ htrace

/-! ## A run -/

def sampleOptions : SupplierArtifactWorkerOptions where
  workerId := "worker"
  gatewayToken := "token"
  providerId := "provider"
  allowedModels := ["model"]
  maxArtifactBytes := 10

def sampleAssignment : SupplierArtifactAssignment where
  protocolVersion := SUPPLIER_ARTIFACT_WORKER_PROTOCOL_VERSION
  taskId := "task-0001"
  leaseToken := "lease"
  resumeFromSegment := 1
  privacyMode := "standard"
  model := "model"
  instruction := "Summarize."
  dataClass := .p0
  maxOutputTokens := 16
  maxTotalTokens := 64
  artifact := ⟨"artifact-0001", "notes.txt", "text/plain", 1, "m", []⟩

/-- Every claim is answered with a task whose checkpoint is missing, no report arrives, and at
first no file can be removed. -/
def sampleSurroundings : WorkerSurroundings where
  aborted _ := false
  randomId _ := "id"
  now _ := "2026-01-01T00:00:00.000Z"
  onStatus _ _ := .ok ()
  unlink _ w := if w.consulted < 20 then .failed else .removed
  cleanupExpired _ := .ok ⟨0, 0, 0⟩
  read _ _ _ := .ok none
  write _ _ _ _ := .ok ()
  claim request _ := .accepted
    { protocolVersion := SUPPLIER_ARTIFACT_WORKER_PROTOCOL_VERSION
      requestId := request.requestId
      task := some sampleAssignment
      retryAfterMs := 0 }
  checkpoint _ _ := .accepted ()
  complete _ _ := .accepted ()
  fail _ _ := .unreachable false
  execution _ _ _ := ⟨[], .error {}⟩

/-- The second round fails at its flush, and the third claims again behind the deletion. -/
example :
    (runWorker sampleOptions sampleSurroundings 2).pendingTerminalCheckpointDeletes =
        ["task-0001"] ∧
      (runWorker sampleOptions sampleSurroundings 2).trace.length = 3 ∧
      (runWorker sampleOptions sampleSurroundings 3).pendingTerminalCheckpointDeletes = [] ∧
      .checkpointDeleted "task-0001.checkpoint.json" ∈
        (runWorker sampleOptions sampleSurroundings 3).trace := by
  decide +kernel

end SupplierAgent
end TokenStreaming
