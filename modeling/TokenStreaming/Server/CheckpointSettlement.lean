import TokenStreaming.Server.ArtifactEvidence
import TokenStreaming.Server.Settlements
import TokenStreaming.Server.TaskProgress

/-!
# Control plane - Settlement of the last checkpoint

A completion bills the usage it reports itself and records the number of segments its
evidence signs.  The stored checkpoint is compared with the progress the completion read;
of the report only the total of its tokens is, and of the evidence only its usage.

Main results:

- Theorem {lit}`Reachable.checkpointed`: the progress of an unfinished task is its last
  checkpoint, up to the segments a claim wrote.
- Theorem {lit}`settles_last_checkpoint`: which completions settle the last checkpoint.
-/

namespace TokenStreaming
namespace Server

open Relational Domain TransitionSystem

/-! ## Accepted checkpoints -/

def CheckpointRow.progress (checkpoint : CheckpointRow) : TaskProgress where
  completedSegments := checkpoint.completedSegments
  totalSegments := some checkpoint.totalSegments
  processedBytes := checkpoint.processedBytes
  inputTokens := some checkpoint.inputTokens
  outputTokens := some checkpoint.outputTokens
  totalTokens := some checkpoint.totalTokens

/-- The checkpoint of a task that was accepted last. -/
def lastCheckpoint (db : MarketplaceDb) (taskId : String) : Option CheckpointRow :=
  ((db.rows .artifactTaskCheckpoints).filter fun checkpoint =>
    checkpoint.taskId == taskId).getLast?

theorem lastCheckpoint_congr {a b : MarketplaceDb}
    (h : b.rows .artifactTaskCheckpoints = a.rows .artifactTaskCheckpoints) (taskId : String) :
    lastCheckpoint b taskId = lastCheckpoint a taskId := by
  unfold lastCheckpoint
  rw [h]

/-- The row a checkpoint adds. -/
def TaskCheckpoint.row (c : TaskCheckpoint) (checkpointId : String) : CheckpointRow where
  checkpointId := checkpointId
  taskId := c.taskId
  attempt := c.attempt
  completedSegments := c.completedSegments
  totalSegments := c.totalSegments
  processedBytes := c.processedBytes
  inputTokens := c.inputTokens
  outputTokens := c.outputTokens
  totalTokens := c.totalTokens
  occurredAt := c.now

/-- A task that shows a checkpoint has its progress. -/
theorem TaskCheckpoint.progress_of_isRecorded {c : TaskCheckpoint} {task : ArtifactTaskRow}
    (h : c.isRecorded task = true) (checkpointId : String) :
    task.taskId = c.taskId ∧ task.progress = (c.row checkpointId).progress := by
  simp only [TaskCheckpoint.isRecorded, Bool.and_eq_true, beq_iff_eq] at h
  obtain ⟨⟨⟨⟨⟨⟨⟨⟨⟨⟨hid, -⟩, -⟩, -⟩, -⟩, hcompleted⟩, htotal⟩, hbytes⟩, hinput⟩, houtput⟩,
    htokens⟩ := h
  refine ⟨hid, ?_⟩
  simp [ArtifactTaskRow.progress, CheckpointRow.progress, TaskCheckpoint.row, hcompleted, htotal,
    hbytes, hinput, houtput, htokens]

/-- A batch of a checkpoint: the update, and a row if some task shows the checkpoint. -/
theorem checkpointBatch_effect {c : TaskCheckpoint} {checkpointUuid : String}
    {a b : MarketplaceDb} (hrun : runBatch a (checkpointBatch c checkpointUuid) = some b) :
    ∃ mid, (checkpointArtifactTaskSql c).apply a = some mid ∧
      b.rows .artifactTasks = mid.rows .artifactTasks ∧
      (((b.rows .artifactTasks).any c.isRecorded = false ∧
          b.rows .artifactTaskCheckpoints = a.rows .artifactTaskCheckpoints) ∨
        ((b.rows .artifactTasks).any c.isRecorded = true ∧
          b.rows .artifactTaskCheckpoints = a.rows .artifactTaskCheckpoints ++
            [c.row ("artifact-checkpoint-" ++ checkpointUuid)])) := by
  obtain ⟨mid, hupdate, hrest⟩ := runBatch_cons_eq_some.mp hrun
  obtain ⟨last, hinsert, hrest'⟩ := runBatch_cons_eq_some.mp hrest
  obtain rfl := Option.some.inj hrest'
  have htasks : last.rows .artifactTasks = mid.rows .artifactTasks :=
    Statement.apply_rows_of_ne hinsert MarketplaceTable.noConfusion
  have hsame : mid.rows .artifactTaskCheckpoints = a.rows .artifactTaskCheckpoints :=
    Statement.apply_rows_of_ne hupdate MarketplaceTable.noConfusion
  refine ⟨mid, hupdate, htasks, ?_⟩
  rw [htasks]
  rcases Statement.insert_cases hinsert rfl with ⟨hnone, rfl⟩ | ⟨hany, -, heq⟩
  · exact Or.inl ⟨hnone, hsame⟩
  · refine Or.inr ⟨hany, ?_⟩
    rw [heq, Database.withRows_rows, hsame]
    rfl

/-! ## The invariant -/

/--
The progress of a task is its last checkpoint, unless it has reported nothing.  A claim
takes its first segment from the candidate it read, which may be an older row, so the
completed segments are left out.
-/
def Checkpointed (db : MarketplaceDb) (task : ArtifactTaskRow) : Prop :=
  task.totalTokens.isSome = true → ∃ last, lastCheckpoint db task.taskId = some last ∧
    task.progress = { last.progress with completedSegments := task.completedSegments }

theorem Checkpointed.congr {a b : MarketplaceDb} {task task' : ArtifactTaskRow}
    (h : Checkpointed a task) (hid : task'.taskId = task.taskId)
    (hlast : lastCheckpoint b task.taskId = lastCheckpoint a task.taskId)
    (hprogress : task'.progress =
      { task.progress with completedSegments := task'.completedSegments }) :
    Checkpointed b task' := by
  intro hreported
  have htotal : task'.totalTokens = task.totalTokens := congrArg TaskProgress.totalTokens hprogress
  obtain ⟨last, hsome, hsame⟩ := h (by rwa [htotal] at hreported)
  refine ⟨last, ?_, ?_⟩
  · rw [hid, hlast, hsome]
  · rw [hprogress, hsame]

/-- A task that has reported nothing. -/
theorem Checkpointed.of_initial {db : MarketplaceDb} {task : ArtifactTaskRow}
    (h : task.progress = .initial) : Checkpointed db task := by
  intro hreported
  have hnone : task.totalTokens = none := congrArg TaskProgress.totalTokens h
  simp [hnone] at hreported

/-- Every unfinished task is at its last checkpoint. -/
def AllCheckpointed (db : MarketplaceDb) : Prop :=
  ∀ task ∈ db.rows .artifactTasks, task.status.holdsReservation = true → Checkpointed db task

/-- The batch of a checkpoint keeps the tasks at their last checkpoints. -/
theorem checkpointBatch_checkpointed {c : TaskCheckpoint} {checkpointUuid : String}
    {a b : MarketplaceDb} (hb : Consistent b)
    (hrun : runBatch a (checkpointBatch c checkpointUuid) = some b)
    (h : AllCheckpointed a) : AllCheckpointed b := by
  obtain ⟨mid, hupdate, htasks, hrows⟩ := checkpointBatch_effect hrun
  intro task' htask' hactive
  by_cases hrecorded : c.isRecorded task' = true
  · -- the task shows the checkpoint, so its row was added
    intro hreported
    have hadded : b.rows .artifactTaskCheckpoints = a.rows .artifactTaskCheckpoints ++
        [c.row ("artifact-checkpoint-" ++ checkpointUuid)] := by
      rcases hrows with ⟨hnone, -⟩ | ⟨-, hadded⟩
      · have hany : (b.rows .artifactTasks).any c.isRecorded = true :=
          List.any_eq_true.mpr ⟨task', htask', hrecorded⟩
        rw [hnone] at hany
        cases hany
      · exact hadded
    obtain ⟨hid, hprogress⟩ := TaskCheckpoint.progress_of_isRecorded hrecorded
      ("artifact-checkpoint-" ++ checkpointUuid)
    refine ⟨c.row ("artifact-checkpoint-" ++ checkpointUuid), ?_, ?_⟩
    · unfold lastCheckpoint
      rw [hadded, hid]
      simp [TaskCheckpoint.row]
    · rw [hprogress]
      exact congrArg (fun n => { (c.row _).progress with completedSegments := n })
        (congrArg TaskProgress.completedSegments hprogress).symm
  · -- the task is an old one, and no checkpoint of it was added
    have hold : task' ∈ a.rows .artifactTasks := by
      have hmid := htask'
      rw [htasks, Statement.update_rows hupdate] at hmid
      obtain ⟨task, htask, heq⟩ := List.mem_map.mp hmid
      split at heq
      · rename_i hsel
        refine absurd ?_ hrecorded
        simp only [ArtifactTaskRow.isHeldWith, Bool.and_eq_true, beq_iff_eq] at hsel
        obtain ⟨⟨hid, ⟨⟨⟨⟨⟨hsupplier, hdigest⟩, -⟩, -⟩, -⟩, -⟩⟩, -⟩ := hsel
        rw [← heq]
        simp [TaskCheckpoint.isRecorded, hid, hsupplier, hdigest]
      · exact heq ▸ htask
    refine (h task' hold hactive).congr rfl ?_ rfl
    rcases hrows with ⟨-, hsame⟩ | ⟨hany, hadded⟩
    · exact lastCheckpoint_congr hsame task'.taskId
    · have hother : c.taskId ≠ task'.taskId := by
        intro hid
        obtain ⟨shown, hshown, hshows⟩ := List.any_eq_true.mp hany
        have hsame := (TaskCheckpoint.progress_of_isRecorded hshows "").1
        rw [task_unique hb hshown htask' (hsame.trans hid)] at hshows
        exact hrecorded hshows
      unfold lastCheckpoint
      rw [hadded, List.filter_append]
      simp [TaskCheckpoint.row, hother]

/-- Only checkpoints add rows to their table. -/
theorem adds_artifactTaskCheckpoints {call : Call}
    (h : (call.writes.all fun write => write.table != .artifactTaskCheckpoints) = false) :
    ∃ ages identity input checkpointUuid,
      call = .service ages (.checkpointArtifactTask identity input checkpointUuid) := by
  cases call with
  | service ages request =>
      cases request with
      | checkpointArtifactTask identity input checkpointUuid =>
          exact ⟨ages, identity, input, checkpointUuid, rfl⟩
      | _ => cases h
  | _ => cases h

/-- What a checkpoint call sends. -/
theorem checkpointArtifactTask_batch {reads : Reads} {policy : MarketplaceRuntimePolicy}
    {identity : AgentAuthorizationIdentity} {input : ArtifactTaskCheckpointRequest}
    {checkpointUuid : String} {batch : Batch}
    (h : checkpointArtifactTask reads policy identity input checkpointUuid = .ok batch) :
    ∃ c, batch = checkpointBatch c checkpointUuid := by
  unfold checkpointArtifactTask at h
  simp only [Except.bind_eq_ok, demand_eq_ok, exists_unit, Except.pure_eq_ok] at h
  obtain ⟨row, -, -, -, rfl⟩ := h
  exact ⟨_, rfl⟩

/-- Steps keep the tasks at their last checkpoints. -/
theorem step_checkpointed {w : World} (hw : Reachable w) (call : Call)
    (h : AllCheckpointed w.db) : AllCheckpointed (step w call).db := by
  by_cases hwrites :
      (call.writes.all fun write => write.table != .artifactTaskCheckpoints) = true
  · have hrows := step_rows_of_not_written (w := w) hwrites
    intro task' htask' hactive
    by_cases hold : ∃ task ∈ w.db.rows .artifactTasks, task'.taskId = task.taskId
    · obtain ⟨task, htask, hid⟩ := hold
      have hlast := lastCheckpoint_congr hrows task.taskId
      cases step_wrote hw call htask htask' hid with
      | plain hplain =>
          obtain ⟨hbefore, hprogress, -⟩ := hplain.kept hactive
          have hcompleted : task'.completedSegments = task.completedSegments :=
            congrArg TaskProgress.completedSegments hprogress
          refine (h task htask hbefore).congr hid hlast ?_
          rw [hcompleted]
          exact hprogress
      | claimed ages identity input leaseToken c candidate hcall hclaim hcandidate hrow =>
          have hbefore : task.status.holdsReservation = true := by
            rw [hrow.queued]
            rfl
          by_cases hresume : c.resumeFromSegment = 0
          · exact .of_initial (hrow.restarted hresume)
          · have hprogress := hrow.resumed hresume
            have hcompleted : task'.completedSegments = c.resumeFromSegment :=
              congrArg TaskProgress.completedSegments hprogress
            refine (h task htask hbefore).congr hid hlast ?_
            rw [hcompleted]
            exact hprogress
      | reported ages identity input checkpointUuid hcall hrow =>
          subst hcall
          cases hwrites
    · have hnew := step_added hw call htask' fun task htask hid => hold ⟨task, htask, hid⟩
      exact .of_initial (hnew.initial hactive)
  · rw [Bool.not_eq_true] at hwrites
    obtain ⟨ages, identity, input, checkpointUuid, rfl⟩ := adds_artifactTaskCheckpoints hwrites
    have hconsistent := (hw.step (.service ages
      (.checkpointArtifactTask identity input checkpointUuid))).consistent
    cases step_committed w (.service ages
        (.checkpointArtifactTask identity input checkpointUuid)) with
    | idle hdb =>
        rw [hdb]
        exact h
    | clock instant hdb =>
        rw [hdb]
        exact h
    | sent batch hsends hfresh hrun =>
        cases hsends with
        | service hbatch =>
            obtain ⟨c, rfl⟩ := checkpointArtifactTask_batch hbatch
            exact checkpointBatch_checkpointed hconsistent hrun h

/-- Every unfinished task of a reachable state is at its last checkpoint. -/
theorem Reachable.checkpointed {w : World} (h : Reachable w) : AllCheckpointed w.db := by
  refine h.induction (P := fun w => AllCheckpointed w.db) ?_ ?_
  · intro clock deployment task htask
    simp [World.start, MarketplaceDb.empty] at htask
  · intro w call hw ih
    exact step_checkpointed hw call ih

/-! ## Completions -/

/-- What a completion that sends its batch read, and what it settles. -/
theorem completeArtifactTask_batch {reads : Reads} {policy : MarketplaceRuntimePolicy}
    {identity : AgentAuthorizationIdentity} {input : ArtifactTaskCompleteRequest}
    {outputIv : String} {uuids : CompletionUuids} {batch : Batch}
    (h : ((completeArtifactTask reads policy identity input outputIv).map fun s =>
      artifactCompletionBatch s uuids) = .ok batch) :
    ∃ s, batch = artifactCompletionBatch s uuids ∧ s.input = input ∧
      s.task.totalSegments = some s.task.completedSegments ∧
      s.task.totalTokens = some input.usage.totalTokens := by
  cases hs : completeArtifactTask reads policy identity input outputIv with
  | error e => simp [hs, Except.map] at h
  | ok s =>
      refine ⟨s, by simpa [hs, Except.map] using h.symm, ?_⟩
      unfold completeArtifactTask at hs
      simp only [Except.bind_eq_ok, demand_eq_ok, exists_unit, uncaught_eq_ok, beq_iff_eq,
        Except.pure_eq_ok] at hs
      obtain ⟨row, -, -, -, hsegments, htotal, amounts, -, -, rfl⟩ := hs
      exact ⟨rfl, hsegments, htotal⟩

/-- The stored progress a completion was admitted at. -/
theorem ArtifactSettlement.progress_of_admits {s : ArtifactSettlement} {db : MarketplaceDb}
    {task : ArtifactTaskRow} (h : s.completion.admits db task = true) :
    task.taskId = s.task.taskId ∧ task.status.isLeased = true ∧
      task.completedSegments = s.task.completedSegments ∧
      task.totalSegments = s.task.totalSegments ∧ task.totalTokens = s.task.totalTokens := by
  simp only [ArtifactCompletion.admits, ArtifactSettlement.completion, ArtifactTaskRow.isHeldWith,
    ArtifactCheckpointView.isCurrent, sqlEquals, Bool.and_eq_true, beq_iff_eq] at h
  obtain ⟨⟨⟨⟨hid, ⟨⟨⟨⟨-, hleased⟩, -⟩, -⟩, -⟩⟩, hcurrent⟩, -⟩, -⟩ := h
  obtain ⟨⟨⟨⟨⟨⟨-, hcompleted⟩, -, hsegments⟩, -⟩, -⟩, -⟩, -, htotal⟩ := hcurrent
  exact ⟨hid, hleased, hcompleted, hsegments, htotal⟩

/-- The task and its evidence show the checkpoint, and all segments are completed. -/
structure SettlesCheckpoint (task : ArtifactTaskRow) (evidence : ArtifactEvidenceRow)
    (checkpoint : CheckpointRow) : Prop where
  taskTokens : task.inputTokens = some checkpoint.inputTokens ∧
    task.outputTokens = some checkpoint.outputTokens ∧
    task.totalTokens = some checkpoint.totalTokens
  evidenceTokens : evidence.inputTokens = checkpoint.inputTokens ∧
    evidence.outputTokens = checkpoint.outputTokens ∧
    evidence.totalTokens = checkpoint.totalTokens
  bytes : task.processedBytes = checkpoint.processedBytes
  segments : evidence.segmentsCompleted = checkpoint.completedSegments
  expected : task.totalSegments = some evidence.segmentsCompleted

/-- The task is settled as it was last checkpointed. -/
def SettlesLastCheckpoint (db : MarketplaceDb) (task : ArtifactTaskRow) : Prop :=
  ∃ evidence ∈ db.rows .artifactTaskEvidence, evidence.taskId = task.taskId ∧
    ∃ checkpoint, lastCheckpoint db task.taskId = some checkpoint ∧
      SettlesCheckpoint task evidence checkpoint

theorem artifactEvidence_unique {db : MarketplaceDb} (h : Consistent db)
    {a b : ArtifactEvidenceRow} (ha : a ∈ db.rows .artifactTaskEvidence)
    (hb : b ∈ db.rows .artifactTaskEvidence) (hid : a.taskId = b.taskId) : a = b :=
  (h .artifactTaskEvidence).eq_of_mem ha hb (k := .byJob a.taskId) (by simp [marketplaceKeys])
    (by simp [marketplaceKeys, hid])

/-- A completion that ends its task, as it was admitted and as it was paid. -/
theorem completion_ends_task {w : World} (hw : Reachable w) {ages : List Nat}
    {identity : AgentAuthorizationIdentity} {input : ArtifactTaskCompleteRequest}
    {outputIv : String} {uuids : CompletionUuids} {task task' : ArtifactTaskRow}
    (htask : task ∈ w.db.rows .artifactTasks) (hopen : task.status ≠ .completed)
    (htask' : task' ∈ (step w (.service ages
      (.completeArtifactTask identity input outputIv uuids))).db.rows .artifactTasks)
    (hid : task'.taskId = task.taskId) (hcompleted : task'.status = .completed) :
    ∃ s, s.input = input ∧ s.task.totalSegments = some s.task.completedSegments ∧
      s.task.totalTokens = some input.usage.totalTokens ∧ s.completion.admits w.db task = true ∧
      task' = s.completion.record task ∧
      ArtifactPaid w.db (step w (.service ages
        (.completeArtifactTask identity input outputIv uuids))).db s uuids := by
  have hchanged : task' ≠ task := fun hsame => hopen (hsame ▸ hcompleted)
  cases step_committed w (.service ages
      (.completeArtifactTask identity input outputIv uuids)) with
  | idle hdb =>
      rw [hdb] at htask'
      exact absurd (task_unique hw.consistent htask' htask hid) hchanged
  | clock instant hdb =>
      rw [hdb] at htask'
      exact absurd (task_unique hw.consistent htask' htask hid) hchanged
  | sent batch hsends hfresh hrun =>
      cases hsends with
      | service hbatch =>
          obtain ⟨s, rfl, hinput, hsegments, htotal⟩ := completeArtifactTask_batch hbatch
          rcases completed_task hw.consistent hrun htask htask' hid with hsame | ⟨hadmits, heq⟩
          · exact absurd hsame hchanged
          have hkept := hw.bookKept
          obtain ⟨hnodup, hnew, hplain⟩ := World.isFresh_eq.mp hfresh
          have huuids : uuids.Fresh w := ⟨hnodup, hnew, hplain⟩
          rcases artifactCompletion_effect hw.consistent hkept.named hkept.sound hnodup
            (hkept.entryIdsFresh huuids) hrun with hidle | ⟨_, _, _, _, _, _, hpaid⟩
          · rw [hidle] at htask'
            exact absurd (task_unique hw.consistent htask' htask hid) hchanged
          · exact ⟨s, hinput, hsegments, htotal, hadmits, heq, hpaid⟩

/-- A completion settles the last checkpoint if its reports agree with the stored progress. -/
theorem completion_settles_iff {w : World} (hw : Reachable w) {ages : List Nat}
    {identity : AgentAuthorizationIdentity} {input : ArtifactTaskCompleteRequest}
    {outputIv : String} {uuids : CompletionUuids} {task task' : ArtifactTaskRow}
    (htask : task ∈ w.db.rows .artifactTasks) (hopen : task.status ≠ .completed)
    (htask' : task' ∈ (step w (.service ages
      (.completeArtifactTask identity input outputIv uuids))).db.rows .artifactTasks)
    (hid : task'.taskId = task.taskId) (hcompleted : task'.status = .completed) :
    SettlesLastCheckpoint (step w (.service ages
        (.completeArtifactTask identity input outputIv uuids))).db task' ↔
      task.inputTokens = some input.usage.inputTokens ∧
        task.outputTokens = some input.usage.outputTokens ∧
        input.verified.segmentsCompleted = task.completedSegments ∧
        (lastCheckpoint w.db task.taskId).map CheckpointRow.completedSegments =
          some task.completedSegments := by
  obtain ⟨s, rfl, hsegments, htotal, hadmits, rfl, hpaid⟩ :=
    completion_ends_task hw htask hopen htask' hid hcompleted
  obtain ⟨htaskId, hleased, hcompletedSame, hsegmentsSame, htotalSame⟩ :=
    ArtifactSettlement.progress_of_admits hadmits
  rw [← hsegmentsSame, ← hcompletedSame] at hsegments
  rw [← htotalSame] at htotal
  -- the last checkpoint of the task before and after
  have hactive : task.status.holdsReservation = true := by
    cases hstatus : task.status <;>
      simp [hstatus, ArtifactTaskStatus.isLeased, ArtifactTaskStatus.holdsReservation]
        at hleased ⊢
  obtain ⟨last, hlast, hprogress⟩ := hw.checkpointed task htask hactive (by simp [htotal])
  have hinput : task.inputTokens = some last.inputTokens :=
    congrArg TaskProgress.inputTokens hprogress
  have houtput : task.outputTokens = some last.outputTokens :=
    congrArg TaskProgress.outputTokens hprogress
  have htotal' : task.totalTokens = some last.totalTokens :=
    congrArg TaskProgress.totalTokens hprogress
  have hbytes : task.processedBytes = last.processedBytes :=
    congrArg TaskProgress.processedBytes hprogress
  have hrows : (step w (.service ages (.completeArtifactTask identity s.input outputIv
      uuids))).db.rows .artifactTaskCheckpoints = w.db.rows .artifactTaskCheckpoints :=
    step_rows_of_not_written rfl
  have hafter := (lastCheckpoint_congr hrows task.taskId).trans hlast
  -- the one evidence row of the task
  have hstored : s.evidenceRow uuids.evidence ∈ (step w (.service ages
      (.completeArtifactTask identity s.input outputIv uuids))).db.rows .artifactTaskEvidence := by
    rw [hpaid.artifact]
    exact List.mem_append_right _ List.mem_cons_self
  have hconsistent := (hw.step (.service ages
    (.completeArtifactTask identity s.input outputIv uuids))).consistent
  rw [hlast, Option.map_some, Option.some_inj]
  constructor
  · rintro ⟨evidence, hevidence, hsame, checkpoint, hcheckpoint, hsettles⟩
    obtain rfl : evidence = s.evidenceRow uuids.evidence :=
      artifactEvidence_unique hconsistent hevidence hstored (hsame.trans htaskId)
    obtain rfl : last = checkpoint := Option.some.inj (hafter.symm.trans hcheckpoint)
    have hcount : last.completedSegments = task.completedSegments :=
      hsettles.segments.symm.trans (Option.some.inj (hsettles.expected.symm.trans hsegments))
    refine ⟨?_, ?_, hsettles.segments.trans hcount, hcount⟩
    · rw [hinput]
      exact hsettles.taskTokens.1.symm
    · rw [houtput]
      exact hsettles.taskTokens.2.1.symm
  · rintro ⟨hinputSame, houtputSame, hsigned, hcount⟩
    refine ⟨s.evidenceRow uuids.evidence, hstored, htaskId.symm, last, hafter, ?_⟩
    rw [hinput, Option.some_inj] at hinputSame
    rw [houtput, Option.some_inj] at houtputSame
    rw [htotal', Option.some_inj] at htotal
    exact
      { taskTokens := ⟨congrArg some hinputSame.symm, congrArg some houtputSame.symm,
          congrArg some htotal.symm⟩
        evidenceTokens := ⟨hinputSame.symm, houtputSame.symm, htotal.symm⟩
        bytes := hbytes
        segments := hsigned.trans hcount.symm
        expected := hsegments.trans (congrArg some hsigned.symm) }

/-- The evidence of the sample worker. -/
def sampleArtifactEvidence (usage : GatewayUsage) (segmentsCompleted : Nat) :
    SupplierArtifactExecutionEvidence where
  evidenceVersion := supplierArtifactExecutionEvidenceVersion
  taskId := "artifact-task-t1"
  providerId := "provider-1"
  requestedModel := "model-a"
  servedModel := "model-a"
  artifactId := "artifact-f1"
  artifactManifestSha256 := sha256Hex "manifest"
  artifactContentSha256 := sha256Hex "hello"
  outputSha256 := sha256Hex "summary"
  providerRequestIdsSha256 := String.ofList (List.replicate 64 'a')
  segmentsCompleted := segmentsCompleted
  usage := usage
  completedAt := { text := "1970-01-01T00:00:01.000Z", instant := some 1000 }

/-- The sample worker completes its task after the checkpoint of 10 and 20 tokens. -/
def sampleCompletion (usage : GatewayUsage) (segmentsCompleted : Nat) :
    ArtifactTaskCompleteRequest where
  taskId := "artifact-task-t1"
  leaseToken := "lease-1"
  output := "summary"
  usage := usage
  verified := (sampleArtifactEvidence usage segmentsCompleted).verified
  evidenceDigest := sha256Hex "evidence"

def sampleCompletionCall (usage : GatewayUsage) (segmentsCompleted : Nat) : Call :=
  .service [] (.completeArtifactTask sampleAgent (sampleCompletion usage segmentsCompleted) "iv5"
    ⟨"c1", "c2", "c3", "c4", "c5", "c6"⟩)

theorem sampleCompletionCall_eq (usage : GatewayUsage) (segmentsCompleted : Nat) :
    sampleCompletionCall usage segmentsCompleted =
      .service [] (.completeArtifactTask sampleAgent (sampleCompletion usage segmentsCompleted)
        "iv5" ⟨"c1", "c2", "c3", "c4", "c5", "c6"⟩) :=
  rfl

deriving instance DecidableEq for VerifiedArtifactEvidence

/-- The sample evidence is accepted for the leased task. -/
def sampleCarries (w : World) (usage : GatewayUsage) (segmentsCompleted : Nat) : Bool :=
  match requireLeasedTask (w.reads []) sampleAgent "artifact-task-t1" "lease-1" with
  | .ok row => decide (verifySupplierArtifactEvidence
      (row.expectation (sampleCompletion usage segmentsCompleted) 1000)
      (sampleArtifactEvidence usage segmentsCompleted) =
        .ok (sampleCompletion usage segmentsCompleted).verified)
  | .error _ => false

theorem sampleCarries_sound {w : World} {usage : GatewayUsage} {segmentsCompleted : Nat}
    (h : sampleCarries w usage segmentsCompleted = true) :
    (sampleCompletion usage segmentsCompleted).Carries (w.reads []) sampleAgent
      (sampleArtifactEvidence usage segmentsCompleted) := by
  unfold sampleCarries at h
  split at h
  · rename_i row hrow
    exact ⟨row, 1000, hrow, of_decide_eq_true h⟩
  · cases h

/-- The completion ends the sample task and records the split it reports. -/
def SampleCompletes (w : World) (usage : GatewayUsage) (segmentsCompleted : Nat) : Prop :=
  ∃ task ∈ w.db.rows .artifactTasks, task.status = .running ∧
    task.progress = { completedSegments := 1, totalSegments := some 1, processedBytes := 5
                      inputTokens := some 10, outputTokens := some 20, totalTokens := some 30 } ∧
    ∃ task' ∈ (step w (sampleCompletionCall usage segmentsCompleted)).db.rows .artifactTasks,
      task'.taskId = task.taskId ∧ task'.status = .completed ∧
        task'.inputTokens = some usage.inputTokens ∧
        (lastCheckpoint w.db task.taskId).map CheckpointRow.completedSegments = some 1 ∧
        (lastCheckpoint (step w (sampleCompletionCall usage segmentsCompleted)).db
          task'.taskId).map CheckpointRow.inputTokens = some 10

/-- Both the honest report and another split of the same total are accepted. -/
theorem sampleCompletions :
    (sampleCarries (sampleArtifactWorld 8) ⟨10, 20, 30⟩ 1 = true ∧
      SampleCompletes (sampleArtifactWorld 8) ⟨10, 20, 30⟩ 1) ∧
    sampleCarries (sampleArtifactWorld 8) ⟨25, 5, 30⟩ 7 = true ∧
      SampleCompletes (sampleArtifactWorld 8) ⟨25, 5, 30⟩ 7 := by
  unfold SampleCompletes
  rw [sampleArtifactWorld_eq]
  decide +kernel

end Server
end TokenStreaming
