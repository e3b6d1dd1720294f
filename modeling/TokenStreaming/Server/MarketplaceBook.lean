import TokenStreaming.Foundation.SettlementBook
import TokenStreaming.Server.InferenceRuns

/-!
# Control plane - The book of jobs and tasks

Inference jobs and artifact tasks are the work items of one settlement book:
their evidence rows are its receipts, their usage rows its records and the
ledger rows that carry their id its entries.

Main results:

- Theorem {lit}`bookOf_item_eq_some`: the items of the book are the stored rows.
- Theorem {lit}`Commanded.bookStep`: a statement outside of a completion opens at
  most one item and settles none.
-/

namespace TokenStreaming
namespace Server

open Relational Domain TransitionSystem SettlementBook

/-! ## Items -/

/-- What a settlement concerns of a job or task. -/
structure WorkItem where
  id : String
  buyerTenantId : String
  supplierTenantId : String
  reservedChargeMicros : Nat
  chargeMicros : Option Nat
  isCompleted : Bool

def InferenceJobRow.item (job : InferenceJobRow) : WorkItem where
  id := job.jobId
  buyerTenantId := job.buyerTenantId
  supplierTenantId := job.supplierTenantId
  reservedChargeMicros := job.reservedChargeMicros
  chargeMicros := job.chargeMicros
  isCompleted := job.status == .completed

def ArtifactTaskRow.item (task : ArtifactTaskRow) : WorkItem where
  id := task.taskId
  buyerTenantId := task.buyerTenantId
  supplierTenantId := task.supplierTenantId
  reservedChargeMicros := task.reservedChargeMicros
  chargeMicros := task.chargeMicros
  isCompleted := task.status == .completed

/-- The entries a settlement writes, in order; a fee of zero writes none. -/
def SettlementParties.entries (p : SettlementParties) (uuids : CompletionUuids)
    (amounts : SettlementAmounts) : List LedgerEntryRow :=
  [p.debit uuids.debit amounts.buyerChargeMicros,
    p.credit uuids.credit amounts.supplierCreditMicros] ++
  if amounts.platformFeeMicros = 0 then []
  else [p.fee uuids.fee amounts.platformFeeMicros]

/-- The entries pay for the item: its recorded charge, within its reservation, and conserved. -/
def WorkItem.IsPaidBy (item : WorkItem) (entries : List LedgerEntryRow) : Prop :=
  ∃ (p : SettlementParties) (uuids : CompletionUuids) (amounts : SettlementAmounts),
    p.jobId = item.id ∧ p.buyerTenantId = item.buyerTenantId ∧
      p.supplierTenantId = item.supplierTenantId ∧
      item.chargeMicros = some amounts.buyerChargeMicros ∧
      amounts.buyerChargeMicros ≤ item.reservedChargeMicros ∧
      amounts.buyerChargeMicros = amounts.supplierCreditMicros + amounts.platformFeeMicros ∧
      entries = p.entries uuids amounts

theorem WorkItem.IsPaidBy.ne_nil {item : WorkItem} {entries : List LedgerEntryRow}
    (h : item.IsPaidBy entries) : entries ≠ [] := by
  obtain ⟨p, uuids, amounts, -, -, -, -, -, -, rfl⟩ := h
  simp [SettlementParties.entries]

/-- Quiet moves leave the item of a job alone. -/
theorem JobQuiet.item_eq {a b : InferenceJobRow} (h : JobQuiet a b) : b.item = a.item := by
  have hterms := h.terms
  simp only [InferenceJobRow.terms, JobTerms.mk.injEq] at hterms
  obtain ⟨hid, hbuyer, hsupplier, -, -, -, -, hreserved, -⟩ := hterms
  have hcompleted : b.status = .completed ↔ a.status = .completed := by
    refine ⟨h.notCompleted, fun ha => ?_⟩
    have hstatus := h.status
    rw [ha] at hstatus
    exact hstatus.of_ended rfl
  have hcharge : b.chargeMicros = a.chargeMicros := by
    by_cases hb : b.status = .completed
    · exact (h.settled (by rw [hcompleted.mp hb]; rfl)).1
    · exact h.charge hb
  have hflag : (b.status == InferenceJobStatus.completed) =
      (a.status == InferenceJobStatus.completed) := by
    rw [Bool.eq_iff_iff, beq_iff_eq, beq_iff_eq]
    exact hcompleted
  simp [InferenceJobRow.item, hid, hbuyer, hsupplier, hreserved, hcharge, hflag]

/-- Moves that do not complete a task leave its item alone. -/
theorem TaskMove.item_eq {a b : ArtifactTaskRow} (h : TaskMove a b)
    (hnot : b.status = .completed → a.status = .completed) : b.item = a.item := by
  have hterms := h.terms
  simp only [ArtifactTaskRow.terms, TaskTerms.mk.injEq] at hterms
  obtain ⟨hid, hbuyer, hsupplier, -, -, -, -, -, -, -, -, hreserved, -⟩ := hterms
  have hcompleted : b.status = .completed ↔ a.status = .completed := by
    refine ⟨hnot, fun ha => ?_⟩
    have hphase := h.phase
    rw [a.phase_eq_completed.mpr ha] at hphase
    exact b.phase_eq_completed.mp (LeasedWork.reach_of_isOver hphase rfl)
  have hcharge : b.chargeMicros = a.chargeMicros := by
    by_cases hb : b.status = .completed
    · exact (h.settled (by rw [a.phase_eq_completed.mpr (hnot hb)]; rfl)).1
    · exact h.charge hb
  have hflag : (b.status == ArtifactTaskStatus.completed) =
      (a.status == ArtifactTaskStatus.completed) := by
    rw [Bool.eq_iff_iff, beq_iff_eq, beq_iff_eq]
    exact hcompleted
  simp [ArtifactTaskRow.item, hid, hbuyer, hsupplier, hreserved, hcharge, hflag]

/-! ## The book -/

/-- The work items of a database state. -/
def itemsOf (db : MarketplaceDb) : List WorkItem :=
  (db.rows .inferenceJobs).map InferenceJobRow.item ++
    (db.rows .artifactTasks).map ArtifactTaskRow.item

/-- The ledger entries that carry an id. -/
def entriesOf (db : MarketplaceDb) (id : String) : List LedgerEntryRow :=
  (db.rows .ledgerEntries).filter fun entry => entry.jobId == some id

/-- The evidence rows of a job. -/
def serviceEvidenceOf (db : MarketplaceDb) (jobId : String) : Nat :=
  (db.rows .serviceEvidence).countP fun evidence => evidence.jobId == jobId

/-- The evidence rows of a task. -/
def artifactEvidenceOf (db : MarketplaceDb) (taskId : String) : Nat :=
  (db.rows .artifactTaskEvidence).countP fun evidence => evidence.taskId == taskId

/-- The usage rows of a job or task. -/
def usageOf (db : MarketplaceDb) (id : String) : Nat :=
  (db.rows .usageRecords).countP fun usage => usage.jobId == id

/-- The settlement book of a database state. -/
def bookOf (db : MarketplaceDb) : Book String WorkItem LedgerEntryRow where
  item := fun id => (itemsOf db).find? fun item => item.id == id
  receipts := fun id => serviceEvidenceOf db id + artifactEvidenceOf db id
  records := usageOf db
  entries := entriesOf db

/-- Job ids and task ids are told apart by their prefixes. -/
structure Namespaced (db : MarketplaceDb) : Prop where
  jobs : ∀ job ∈ db.rows .inferenceJobs, ∃ uuid, job.jobId = "job-" ++ uuid
  tasks : ∀ task ∈ db.rows .artifactTasks, ∃ uuid, task.taskId = "artifact-task-" ++ uuid

theorem job_id_ne_task_id (jobUuid taskUuid : String) :
    "job-" ++ jobUuid ≠ "artifact-task-" ++ taskUuid := by
  intro h
  have hlist := congrArg String.toList h
  simp at hlist

theorem Namespaced.ne {db : MarketplaceDb} (h : Namespaced db) {job : InferenceJobRow}
    {task : ArtifactTaskRow} (hjob : job ∈ db.rows .inferenceJobs)
    (htask : task ∈ db.rows .artifactTasks) : job.jobId ≠ task.taskId := by
  obtain ⟨jobUuid, hjobId⟩ := h.jobs job hjob
  obtain ⟨taskUuid, htaskId⟩ := h.tasks task htask
  rw [hjobId, htaskId]
  exact job_id_ne_task_id jobUuid taskUuid

theorem Issued.namespaced {w : World} {t : MarketplaceTable} {s : MarketplaceStatement}
    (hissued : Issued w t s) {a b : MarketplaceDb} (h : Namespaced a)
    (hs : s.apply a = some b) : Namespaced b where
  jobs := fun job hjob => by
    rcases (hissued.jobs_respect a b hs).of_mem_new hjob with ⟨old, hold, hmove⟩ | ⟨d, hnew⟩
    · obtain ⟨uuid, hid⟩ := h.jobs old hold
      exact ⟨uuid, (congrArg JobTerms.jobId hmove.terms).trans hid⟩
    · obtain ⟨uuid, -, hid⟩ := hnew.isNew
      exact ⟨uuid, hid⟩
  tasks := fun task htask => by
    rcases (hissued.tasks_respect a b hs).of_mem_new htask with ⟨old, hold, hmove⟩ | hnew
    · obtain ⟨uuid, hid⟩ := h.tasks old hold
      exact ⟨uuid, (congrArg TaskTerms.taskId hmove.terms).trans hid⟩
    · obtain ⟨uuid, -, hid⟩ := hnew.isNew
      exact ⟨uuid, hid⟩

theorem Reachable.namespaced {w : World} (h : Reachable w) : Namespaced w.db := by
  refine h.snapshots (fun _ => ?_) (fun _ _ hdb => ⟨hdb.jobs, hdb.tasks⟩) ?_ w.db w.db_mem
  · exact ⟨by simp [MarketplaceDb.empty], by simp [MarketplaceDb.empty]⟩
  · intro w call batch db hw hold hsent hrun _
    exact hsent.preserves hw.sound hrun (fun _ _ _ _ hissued _ _ hdb hs => hissued.namespaced hdb hs)
      (hold _ w.db_mem)

/-- No two items share an id. -/
theorem itemsOf_unique {db : MarketplaceDb} (hconsistent : Consistent db)
    (hnamed : Namespaced db) {a b : WorkItem} (ha : a ∈ itemsOf db) (hb : b ∈ itemsOf db)
    (hid : a.id = b.id) : a = b := by
  simp only [itemsOf, List.mem_append, List.mem_map] at ha hb
  rcases ha with ⟨job, hjob, rfl⟩ | ⟨task, htask, rfl⟩
  · rcases hb with ⟨other, hother, rfl⟩ | ⟨task, htask, rfl⟩
    · rw [job_unique hconsistent hjob hother hid]
    · exact absurd hid (hnamed.ne hjob htask)
  · rcases hb with ⟨job, hjob, rfl⟩ | ⟨other, hother, rfl⟩
    · exact absurd hid.symm (hnamed.ne hjob htask)
    · rw [task_unique hconsistent htask hother hid]

/-- The items of the book are the stored rows. -/
theorem bookOf_item_eq_some {db : MarketplaceDb} (hconsistent : Consistent db)
    (hnamed : Namespaced db) {id : String} {item : WorkItem} :
    (bookOf db).item id = some item ↔ item ∈ itemsOf db ∧ item.id = id := by
  constructor
  · intro h
    exact ⟨List.mem_of_find?_eq_some h, by simpa using List.find?_some h⟩
  · rintro ⟨hmem, rfl⟩
    cases hfind : (bookOf db).item item.id with
    | none =>
        have hnone := List.find?_eq_none.mp hfind item hmem
        simp at hnone
    | some found =>
        have hfound : found ∈ itemsOf db := List.mem_of_find?_eq_some hfind
        have hid : found.id = item.id := by simpa using List.find?_some hfind
        rw [itemsOf_unique hconsistent hnamed hfound hmem hid]

/-! ## Statements outside of completions -/

/-- The tables the book reads decide it. -/
theorem bookOf_congr {a b : MarketplaceDb} (hitems : itemsOf b = itemsOf a)
    (hledger : ∀ id, entriesOf b id = entriesOf a id)
    (hservice : b.rows .serviceEvidence = a.rows .serviceEvidence)
    (hartifact : b.rows .artifactTaskEvidence = a.rows .artifactTaskEvidence)
    (husage : b.rows .usageRecords = a.rows .usageRecords) : bookOf b = bookOf a := by
  have husages : usageOf b = usageOf a := by
    funext id
    simp [usageOf, husage]
  simp [bookOf, hitems, serviceEvidenceOf, artifactEvidenceOf, hservice, hartifact, husages,
    funext hledger]

/-- One new item opens the book at its id. -/
theorem bookOf_opening {a b : MarketplaceDb} {item : WorkItem} (ha : Consistent a)
    (hb : Consistent b) (hna : Namespaced a) (hnb : Namespaced b)
    (hitems : ∀ other, other ∈ itemsOf b ↔ other ∈ itemsOf a ∨ other = item)
    (hnew : ∀ other ∈ itemsOf a, other.id ≠ item.id)
    (hledger : b.rows .ledgerEntries = a.rows .ledgerEntries)
    (hservice : b.rows .serviceEvidence = a.rows .serviceEvidence)
    (hartifact : b.rows .artifactTaskEvidence = a.rows .artifactTaskEvidence)
    (husage : b.rows .usageRecords = a.rows .usageRecords) :
    (bookOf a).item item.id = none ∧
      bookOf b =
        { bookOf a with item := Function.update (bookOf a).item item.id (some item) } := by
  have hnone : (bookOf a).item item.id = none := by
    cases hfind : (bookOf a).item item.id with
    | none => rfl
    | some other =>
        obtain ⟨hmem, hid⟩ := (bookOf_item_eq_some ha hna).mp hfind
        exact absurd hid (hnew other hmem)
  refine ⟨hnone, ?_⟩
  have hitem : (bookOf b).item = Function.update (bookOf a).item item.id (some item) := by
    funext id
    refine Option.ext fun other => ?_
    rw [bookOf_item_eq_some hb hnb, hitems]
    by_cases hid : id = item.id
    · subst hid
      simp only [Function.update_self, Option.some.injEq]
      constructor
      · rintro ⟨hmem | rfl, hother⟩
        · exact absurd hother (hnew other hmem)
        · rfl
      · rintro rfl
        exact ⟨Or.inr rfl, rfl⟩
    · rw [Function.update_of_ne hid, bookOf_item_eq_some ha hna]
      constructor
      · rintro ⟨hmem | rfl, hother⟩
        · exact ⟨hmem, hother⟩
        · exact absurd hother.symm hid
      · rintro ⟨hmem, hother⟩
        exact ⟨Or.inl hmem, hother⟩
  have hentries : entriesOf b = entriesOf a := by
    funext id
    simp [entriesOf, hledger]
  have husages : usageOf b = usageOf a := by
    funext id
    simp [usageOf, husage]
  rw [← hitem]
  simp [bookOf, serviceEvidenceOf, artifactEvidenceOf, hservice, hartifact, hentries, husages]

/-- Items that are settled. -/
abbrev BookSettled (item : WorkItem) : Prop :=
  item.isCompleted = true

/-- The moves of the marketplace's book. -/
abbrev BookStep : Book String WorkItem LedgerEntryRow → Book String WorkItem LedgerEntryRow → Prop :=
  Step BookSettled WorkItem.IsPaidBy

/-- The soundness of the marketplace's book. -/
abbrev BookSound : Book String WorkItem LedgerEntryRow → Prop :=
  Sound BookSettled WorkItem.IsPaidBy

/-- A statement outside of a completion opens at most one item and settles none. -/
theorem Commanded.bookStep {w : World} {t : MarketplaceTable} {s : MarketplaceStatement}
    (hcommanded : Commanded w t s) {a b : MarketplaceDb} (hconsistent : Consistent a)
    (hnamed : Namespaced a) (hs : s.apply a = some b) :
    bookOf b = bookOf a ∨ BookStep (bookOf a) (bookOf b) := by
  have hframe : ∀ u, u ≠ t → b.rows u = a.rows u := by
    intro u hu
    refine Statement.apply_rows_of_ne hs ?_
    rwa [hcommanded.table_eq]
  have hb : Consistent b := hconsistent.apply hs
  have hnb : Namespaced b := (Issued.commanded hcommanded).namespaced hnamed hs
  by_cases hjobs : t = .inferenceJobs
  · subst hjobs
    have htasks := hframe .artifactTasks (by decide)
    have hledger := hframe .ledgerEntries (by decide)
    have hservice := hframe .serviceEvidence (by decide)
    have hartifact := hframe .artifactTaskEvidence (by decide)
    have husage := hframe .usageRecords (by decide)
    cases hcommanded.jobStatement with
    | reserve job offer d hnew _ _ =>
        rcases Statement.insertOrIgnore_cases hs rfl with rfl | ⟨-, hfresh, heq⟩
        · exact Or.inl rfl
        have hrows : b.rows .inferenceJobs = a.rows .inferenceJobs ++ [job] := by
          rw [heq, Database.withRows_rows]
        obtain ⟨uuid, -, hid⟩ := hnew.isNew
        obtain ⟨hnone, hbook⟩ := bookOf_opening hconsistent hb hnamed hnb
          (fun other => by
            simp only [itemsOf, hrows, htasks, List.map_append, List.map_singleton,
              List.mem_append, List.mem_singleton]
            exact or_right_comm)
          (fun other hother => by
            simp only [itemsOf, List.mem_append, List.mem_map] at hother
            rcases hother with ⟨old, hold, rfl⟩ | ⟨task, htask, rfl⟩
            · intro hsame
              have hclash := hfresh old hold
              simp only [InferenceJobRow.item] at hsame
              simp [clashes, marketplaceKeys, hsame] at hclash
            · obtain ⟨taskUuid, htaskId⟩ := hnamed.tasks task htask
              simp only [InferenceJobRow.item, ArtifactTaskRow.item, hid, htaskId]
              exact fun hsame => job_id_ne_task_id uuid taskUuid hsame.symm)
          hledger hservice hartifact husage
        rw [hbook]
        exact Or.inr (.opening _ _ _ hnone (by simp [InferenceJobRow.item, hnew.status]))
    | quiet selects assign hquiet =>
        refine Or.inl (bookOf_congr ?_ (fun id => by rw [entriesOf, entriesOf, hledger]) hservice
          hartifact husage)
        have hitems : (b.rows .inferenceJobs).map InferenceJobRow.item =
            (a.rows .inferenceJobs).map InferenceJobRow.item := by
          rw [Statement.update_rows hs, List.map_map]
          refine List.map_congr_left fun job _ => ?_
          simp only [Function.comp_apply]
          split
          · rename_i hsel
            exact (hquiet a job hsel).item_eq
          · rfl
        rw [itemsOf, itemsOf, hitems, htasks]
  by_cases htasks : t = .artifactTasks
  · subst htasks
    have hjobRows := hframe .inferenceJobs (by decide)
    have hledger := hframe .ledgerEntries (by decide)
    have hservice := hframe .serviceEvidence (by decide)
    have hartifact := hframe .artifactTaskEvidence (by decide)
    have husage := hframe .usageRecords (by decide)
    have hsame : (b.rows .artifactTasks).map ArtifactTaskRow.item =
        (a.rows .artifactTasks).map ArtifactTaskRow.item → bookOf b = bookOf a := by
      intro hitems
      refine bookOf_congr ?_ (fun id => by rw [entriesOf, entriesOf, hledger]) hservice hartifact
        husage
      rw [itemsOf, itemsOf, hitems, hjobRows]
    cases hcommanded.taskStatement with
    | reserve task d maximumActiveTasks hnew _ _ =>
        rcases Statement.insertOrIgnore_cases hs rfl with rfl | ⟨-, hfresh, heq⟩
        · exact Or.inl rfl
        have hrows : b.rows .artifactTasks = a.rows .artifactTasks ++ [task] := by
          rw [heq, Database.withRows_rows]
        obtain ⟨uuid, -, hid⟩ := hnew.isNew
        obtain ⟨hnone, hbook⟩ := bookOf_opening hconsistent hb hnamed hnb
          (fun other => by
            simp only [itemsOf, hrows, hjobRows, List.map_append, List.map_singleton,
              List.mem_append, List.mem_singleton]
            exact or_assoc.symm)
          (fun other hother => by
            simp only [itemsOf, List.mem_append, List.mem_map] at hother
            rcases hother with ⟨job, hjob, rfl⟩ | ⟨old, hold, rfl⟩
            · obtain ⟨jobUuid, hjobId⟩ := hnamed.jobs job hjob
              simp only [InferenceJobRow.item, ArtifactTaskRow.item, hid, hjobId]
              exact job_id_ne_task_id jobUuid uuid
            · intro hsameId
              have hclash := hfresh old hold
              simp only [ArtifactTaskRow.item] at hsameId
              simp [clashes, marketplaceKeys, hsameId] at hclash)
          hledger hservice hartifact husage
        rw [hbook]
        exact Or.inr (.opening _ _ _ hnone (by simp [ArtifactTaskRow.item, hnew.status]))
    | claim c =>
        refine Or.inl (hsame ?_)
        rw [Statement.update_rows hs, List.map_map]
        refine List.map_congr_left fun task _ => ?_
        simp only [Function.comp_apply]
        split
        · rename_i hsel
          simp only [Bool.and_eq_true, beq_iff_eq] at hsel
          simp [ArtifactTaskRow.item, hsel.1.1.1.2]
        · rfl
    | quiet selects assign hquiet =>
        refine Or.inl (hsame ?_)
        rw [Statement.update_rows hs, List.map_map]
        refine List.map_congr_left fun task _ => ?_
        simp only [Function.comp_apply]
        split
        · rename_i hsel
          have hmove := hquiet a task hsel
          exact hmove.toTaskMove.item_eq hmove.notCompleted
        · rfl
  have hitems : itemsOf b = itemsOf a := by
    rw [itemsOf, itemsOf, hframe _ fun heq => hjobs heq.symm, hframe _ fun heq => htasks heq.symm]
  have hevidence : t ≠ .serviceEvidence ∧ t ≠ .artifactTaskEvidence ∧ t ≠ .usageRecords := by
    refine ⟨?_, ?_, ?_⟩
    all_goals
      rintro rfl
      cases hcommanded with
      | routine hroutine =>
          cases hroutine with
          | free _ hfree => simp [freeTables] at hfree
  refine Or.inl (bookOf_congr hitems (fun id => ?_) (hframe _ hevidence.1.symm)
    (hframe _ hevidence.2.1.symm) (hframe _ hevidence.2.2.symm))
  by_cases hledger : t = .ledgerEntries
  · subst hledger
    cases hcommanded with
    | routine hroutine =>
        cases hroutine with
        | free _ hfree => simp [freeTables] at hfree
        | welcomeCredit tenantId welcomeCreditMicros now =>
            rcases Statement.insertOrIgnore_singleton hs rfl with ⟨-, rfl⟩ | ⟨-, rfl⟩
            · simp [entriesOf, welcomeEntry]
            · rfl
  · rw [entriesOf, entriesOf, hframe _ fun heq => hledger heq.symm]

end Server
end TokenStreaming
