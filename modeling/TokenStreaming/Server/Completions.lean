import TokenStreaming.Server.MarketplaceBook

/-!
# Control plane - What a completion writes

The completion batches are lists of separately guarded statements.  This module
shows that they act as one: either nothing of the book changes, or the item is
completed and every one of its records, receipts and entries is written.

Main results:

- Theorem {lit}`completion_effect`: the completion of an inference job.
- Theorem {lit}`artifactCompletion_effect`: the completion of an artifact task.
- Theorem {lit}`InferencePaid.bookStep`, {lit}`ArtifactPaid.bookStep`: both settle
  their item in the book.
-/

namespace TokenStreaming
namespace Server

open Relational Domain TransitionSystem SettlementBook

/-! ## Ledger entries with new ids -/

/-- No stored entry has one of the drawn ids. -/
def EntryIdsFresh (db : MarketplaceDb) (uuids : CompletionUuids) : Prop :=
  ∀ entry ∈ db.rows .ledgerEntries, ∀ uuid ∈ uuids.toList, entry.entryId ≠ "ledger-" ++ uuid

theorem prefix_ne {uuid other : String} (h : uuid ≠ other) (p : String) :
    p ++ uuid ≠ p ++ other := by
  intro heq
  have hlist := congrArg String.toList heq
  simp only [String.toList_append, List.append_cancel_left_eq] at hlist
  exact h (String.toList_inj.mp hlist)

/-- The entry shares neither its id nor its effect on a job with any of the rows. -/
def LedgerEntryRow.IsNewIn (entry : LedgerEntryRow) (rows : List LedgerEntryRow) : Prop :=
  ∀ old ∈ rows, old.entryId ≠ entry.entryId ∧
    (old.jobId = entry.jobId → old.entryType ≠ entry.entryType)

/-- A new entry is stored. -/
theorem ledgerInsert_stores {a b : MarketplaceDb} {entry : LedgerEntryRow}
    {values : MarketplaceDb → List LedgerEntryRow}
    (hs : (Statement.insertOrIgnore .ledgerEntries values : MarketplaceStatement).apply a = some b)
    (hvalues : values a = [entry]) (hnew : entry.IsNewIn (a.rows .ledgerEntries)) :
    b = a.withRows .ledgerEntries (a.rows .ledgerEntries ++ [entry]) := by
  rcases Statement.insertOrIgnore_singleton hs hvalues with ⟨-, heq⟩ | ⟨⟨old, hold, hclash⟩, -⟩
  · exact heq
  · obtain ⟨hid, heffect⟩ := hnew old hold
    obtain ⟨key, hentry, hkey⟩ := clashes_eq_true.mp hclash
    simp only [marketplaceKeys, List.mem_cons] at hentry hkey
    rcases hentry with rfl | hentry
    · rcases hkey with hkey | hkey
      · exact absurd (IndexEntry.primaryKey.inj hkey).symm hid
      · simp only [LedgerEntryRow.jobEffect] at hkey
        split at hkey
        · simp at hkey
        · split at hkey <;> simp at hkey
    · simp only [LedgerEntryRow.jobEffect] at hentry hkey
      split at hentry
      · simp at hentry
      · rename_i jobId hjob
        split at hentry
        · simp at hentry
        · obtain rfl := List.mem_singleton.mp hentry
          rcases hkey with hkey | hkey
          · simp at hkey
          · split at hkey
            · simp at hkey
            · rename_i oldJobId holdJob
              split at hkey
              · simp at hkey
              · obtain ⟨hjobs, htypes⟩ :=
                  IndexEntry.byJobEffect.inj (List.mem_singleton.mp hkey)
                exact absurd htypes.symm (heffect (by rw [holdJob, hjob, hjobs]))

/-- The settlement entries of an item without entries are new one after another. -/
structure EntriesNew (p : SettlementParties) (uuids : CompletionUuids)
    (amounts : SettlementAmounts) (rows : List LedgerEntryRow) : Prop where
  debit : (p.debit uuids.debit amounts.buyerChargeMicros).IsNewIn rows
  credit : (p.credit uuids.credit amounts.supplierCreditMicros).IsNewIn
    (rows ++ [p.debit uuids.debit amounts.buyerChargeMicros])
  fee : (p.fee uuids.fee amounts.platformFeeMicros).IsNewIn
    (rows ++ [p.debit uuids.debit amounts.buyerChargeMicros,
      p.credit uuids.credit amounts.supplierCreditMicros])

theorem EntriesNew.of_clean {db : MarketplaceDb} {p : SettlementParties}
    {uuids : CompletionUuids} (amounts : SettlementAmounts) (hnodup : uuids.toList.Nodup)
    (hfresh : EntryIdsFresh db uuids) (hclean : entriesOf db p.jobId = []) :
    EntriesNew p uuids amounts (db.rows .ledgerEntries) := by
  have hstored : ∀ entry : LedgerEntryRow, entry.jobId = some p.jobId →
      (∃ uuid ∈ uuids.toList, entry.entryId = "ledger-" ++ uuid) →
      entry.IsNewIn (db.rows .ledgerEntries) := by
    rintro entry hjob ⟨uuid, huuid, hid⟩ old hold
    refine ⟨hid ▸ hfresh old hold uuid huuid, fun hsame => ?_⟩
    have hfilter := List.filter_eq_nil_iff.mp hclean old hold
    simp [hsame, hjob] at hfilter
  simp only [CompletionUuids.toList, List.nodup_cons, List.mem_cons, not_or] at hnodup
  obtain ⟨-, -, ⟨hdc, -, hdf, -⟩, ⟨-, hcf, -⟩, -⟩ := hnodup
  refine
    { debit := hstored _ rfl ⟨uuids.debit, by simp [CompletionUuids.toList], rfl⟩
      credit := fun old hold => ?_
      fee := fun old hold => ?_ }
  · rcases List.mem_append.mp hold with hold | hnew
    · exact hstored _ rfl ⟨uuids.credit, by simp [CompletionUuids.toList], rfl⟩ old hold
    · rw [List.mem_singleton.mp hnew]
      exact ⟨prefix_ne hdc _, fun _ => LedgerEntryType.noConfusion⟩
  · rcases List.mem_append.mp hold with hold | hnew
    · exact hstored _ rfl ⟨uuids.fee, by simp [CompletionUuids.toList], rfl⟩ old hold
    · simp only [List.mem_cons, List.not_mem_nil, or_false] at hnew
      rcases hnew with rfl | rfl
      · exact ⟨prefix_ne hdf _, fun _ => LedgerEntryType.noConfusion⟩
      · exact ⟨prefix_ne hcf _, fun _ => LedgerEntryType.noConfusion⟩

/-! ## Inference -/

/-- Everything a successful completion of an inference job writes. -/
structure InferencePaid (a b : MarketplaceDb) (s : InferenceSettlement) (uuids : CompletionUuids) :
    Prop where
  jobs : b.rows .inferenceJobs = (a.rows .inferenceJobs).map fun job =>
    if job.jobId = s.run.jobId then s.completion.record job else job
  tasks : b.rows .artifactTasks = a.rows .artifactTasks
  ledger : b.rows .ledgerEntries = a.rows .ledgerEntries ++ s.parties.entries uuids s.amounts
  usage : b.rows .usageRecords = a.rows .usageRecords ++ [s.usageRow uuids.usage]
  service : b.rows .serviceEvidence = a.rows .serviceEvidence ++ [s.evidenceRow uuids.evidence]
  artifact : b.rows .artifactTaskEvidence = a.rows .artifactTaskEvidence

/-- A completion whose update matched no job writes nothing. -/
theorem completion_idle {s : InferenceSettlement} {uuids : CompletionUuids} {a b : MarketplaceDb}
    (hnone : ∀ job ∈ a.rows .inferenceJobs, job.jobId = s.run.jobId → job.status ≠ .completed)
    (hevidence : serviceEvidenceOf a s.run.jobId = 0)
    (hupdate : (completeInferenceJobSql s.completion).apply a = some a)
    (hrun : runBatch a (completionBatch s uuids) = some b) : b = a := by
  have hcompleted : ∀ p : InferenceJobRow → Bool, (a.rows .inferenceJobs).any (fun job =>
      job.jobId == s.run.jobId && (job.status == .completed && p job)) = false := by
    intro p
    refine List.any_eq_false.mpr fun job hjob hsel => ?_
    simp only [Bool.and_eq_true, beq_iff_eq] at hsel
    exact hnone job hjob hsel.1 hsel.2.1
  have hno : hasServiceEvidence a s.run.jobId s.result.evidence.evidenceDigest = false := by
    refine List.any_eq_false.mpr fun evidence hmem hsel => ?_
    simp only [Bool.and_eq_true, beq_iff_eq] at hsel
    have hcount := List.countP_eq_zero.mp hevidence evidence hmem
    simp [hsel.1] at hcount
  simp only [completionBatch, List.cons_append, List.nil_append, runBatch_cons_eq_some] at hrun
  obtain ⟨d₁, h₁, d₂, h₂, d₃, h₃, d₄, h₄, d₅, h₅, d₆, h₆, hfee⟩ := hrun
  obtain rfl : a = d₁ := Option.some.inj (hupdate.symm.trans h₁)
  obtain rfl := Statement.insert_nil h₂ (if_neg (by
    simp only [InferenceSettlement.usageRow, Bool.and_assoc, hcompleted]
    exact Bool.false_ne_true))
  obtain rfl := Statement.insert_nil h₃ (if_neg (by
    simp only [InferenceSettlement.evidenceRow, Bool.and_assoc, hcompleted]
    exact Bool.false_ne_true))
  obtain rfl := Statement.insertOrIgnore_nil h₄ (if_neg (by simp [hno]))
  obtain rfl := Statement.insertOrIgnore_nil h₅ (if_neg (by simp [hno]))
  obtain rfl := Statement.insert_nil h₆ (if_neg (by simp [hno]))
  split at hfee
  · exact (Option.some.inj hfee).symm
  · obtain ⟨d₇, h₇, hend⟩ := runBatch_cons_eq_some.mp hfee
    obtain rfl := Statement.insertOrIgnore_nil h₇ (if_neg (by simp [hno]))
    exact (Option.some.inj hend).symm

/-- The update of a completion replaces exactly the job it names. -/
theorem completeInference_rows {c : InferenceCompletion} {a b : MarketplaceDb}
    {job : InferenceJobRow} (hconsistent : Consistent a) (hjob : job ∈ a.rows .inferenceJobs)
    (hadmits : c.admits a job = true) (hs : (completeInferenceJobSql c).apply a = some b) :
    b.rows .inferenceJobs = (a.rows .inferenceJobs).map fun job =>
      if job.jobId = c.jobId then c.record job else job := by
  have hid : ∀ other : InferenceJobRow, c.admits a other = true → other.jobId = c.jobId := by
    intro other hother
    simp only [InferenceCompletion.admits, Bool.and_eq_true, beq_iff_eq] at hother
    exact hother.1.1.1.1
  rw [Statement.update_rows hs]
  refine List.map_congr_left fun other hother => ?_
  by_cases hsame : other.jobId = c.jobId
  · obtain rfl := job_unique hconsistent hother hjob (hsame.trans (hid job hadmits).symm)
    rw [if_pos hsame, if_pos hadmits]
  · rw [if_neg hsame, if_neg fun hsel => hsame (hid other hsel)]

/-- A completion whose update matched the job writes everything. -/
theorem completion_pays {s : InferenceSettlement} {uuids : CompletionUuids} {a b : MarketplaceDb}
    {job : InferenceJobRow} (hconsistent : Consistent a) (hjob : job ∈ a.rows .inferenceJobs)
    (hadmits : s.completion.admits a job = true)
    (hnew : EntriesNew s.parties uuids s.amounts (a.rows .ledgerEntries))
    (hrun : runBatch a (completionBatch s uuids) = some b) : InferencePaid a b s uuids := by
  simp only [completionBatch, List.cons_append, List.nil_append, runBatch_cons_eq_some] at hrun
  obtain ⟨d₁, h₁, d₂, h₂, d₃, h₃, d₄, h₄, d₅, h₅, d₆, h₆, hfee⟩ := hrun
  have hrows : d₁.rows .inferenceJobs = (a.rows .inferenceJobs).map fun job =>
      if job.jobId = s.run.jobId then s.completion.record job else job :=
    completeInference_rows hconsistent hjob hadmits h₁
  have hid : job.jobId = s.run.jobId := by
    simp only [InferenceCompletion.admits, Bool.and_eq_true, beq_iff_eq] at hadmits
    exact hadmits.1.1.1.1
  have hrecorded : s.completion.record job ∈ d₁.rows .inferenceJobs := by
    rw [hrows]
    exact List.mem_map.mpr ⟨job, hjob, if_pos hid⟩
  obtain rfl := Statement.update_eq_some h₁
  -- the recorded job satisfies the guards of usage and evidence
  obtain ⟨-, rfl⟩ := Statement.insert_singleton h₂ (if_pos (List.any_eq_true.mpr
    ⟨_, hrecorded, by simp [InferenceSettlement.usageRow, InferenceCompletion.record,
      InferenceSettlement.completion, hid]⟩))
  obtain ⟨-, rfl⟩ := Statement.insert_singleton h₃ (if_pos (List.any_eq_true.mpr
    ⟨_, by rw [Database.withRows_rows_ne _ _ (by decide)]; exact hrecorded, by
      simp [InferenceSettlement.evidenceRow, InferenceCompletion.record,
        InferenceSettlement.completion, hid]⟩))
  have hevidence : ∀ d : MarketplaceDb, s.evidenceRow uuids.evidence ∈ d.rows .serviceEvidence →
      hasServiceEvidence d s.run.jobId s.result.evidence.evidenceDigest = true := fun d hmem =>
    List.any_eq_true.mpr ⟨_, hmem, by simp [InferenceSettlement.evidenceRow]⟩
  obtain rfl := ledgerInsert_stores h₄ (if_pos (hevidence _ (by simp)))
    (by simpa using hnew.debit)
  obtain rfl := ledgerInsert_stores h₅ (if_pos (hevidence _ (by simp)))
    (by simpa using hnew.credit)
  have hrest : ∀ u, u ≠ MarketplaceTable.auditEvents → d₆.rows u = _ := fun u hu =>
    Statement.apply_rows_of_ne h₆ hu
  have hend : b.rows .ledgerEntries = a.rows .ledgerEntries ++ s.parties.entries uuids s.amounts ∧
      ∀ u, u ≠ .ledgerEntries → b.rows u = d₆.rows u := by
    split at hfee
    · rename_i hzero
      obtain rfl := Option.some.inj hfee
      refine ⟨?_, fun _ _ => rfl⟩
      rw [hrest _ (by decide)]
      simp [SettlementParties.entries, hzero]
    · rename_i hfeePos
      obtain ⟨d₇, h₇, hend⟩ := runBatch_cons_eq_some.mp hfee
      obtain rfl := Option.some.inj hend
      obtain rfl := ledgerInsert_stores h₇
        (if_pos (hevidence _ (by rw [hrest _ (by decide)]; simp)))
        (by rw [hrest _ (by decide)]; simpa using hnew.fee)
      refine ⟨?_, fun u hu => Database.withRows_rows_ne _ _ hu⟩
      rw [Database.withRows_rows, hrest _ (by decide)]
      simp [SettlementParties.entries, hfeePos]
  obtain ⟨hledger, hothers⟩ := hend
  exact
    { jobs := by
        rw [hothers _ (by decide), hrest _ (by decide)]
        simpa using hrows
      tasks := by
        rw [hothers _ (by decide), hrest _ (by decide)]
        simp
      ledger := hledger
      usage := by
        rw [hothers _ (by decide), hrest _ (by decide)]
        simp
      service := by
        rw [hothers _ (by decide), hrest _ (by decide)]
        simp
      artifact := by
        rw [hothers _ (by decide), hrest _ (by decide)]
        simp }

/-- The completion of an inference writes everything or nothing. -/
theorem completion_effect {s : InferenceSettlement} {uuids : CompletionUuids} {a b : MarketplaceDb}
    (hconsistent : Consistent a) (hnamed : Namespaced a) (hsound : BookSound (bookOf a))
    (hpending : s.run.IsPending a) (hnodup : uuids.toList.Nodup) (hfresh : EntryIdsFresh a uuids)
    (hrun : runBatch a (completionBatch s uuids) = some b) :
    b = a ∨ ∃ job ∈ a.rows .inferenceJobs, s.run.Owns job ∧ job.status = .running ∧
      s.amounts.buyerChargeMicros ≤ job.reservedChargeMicros ∧ InferencePaid a b s uuids := by
  obtain ⟨job, hjob, howns, huncompleted⟩ := hpending
  have hitem : (bookOf a).item s.run.jobId = some job.item :=
    (bookOf_item_eq_some hconsistent hnamed).mpr
      ⟨List.mem_append_left _ (List.mem_map_of_mem hjob), howns.jobId⟩
  have hclean := hsound.clean_of_unsettled hitem (by simpa [InferenceJobRow.item] using huncompleted)
  have hunique : ∀ other ∈ a.rows .inferenceJobs, other.jobId = s.run.jobId → other = job :=
    fun other hother hid => job_unique hconsistent hother hjob (hid.trans howns.jobId.symm)
  by_cases hadmits : s.completion.admits a job = true
  · have hguard := hadmits
    simp only [InferenceCompletion.admits, Bool.and_eq_true, beq_iff_eq, decide_eq_true_eq]
      at hguard
    exact Or.inr ⟨job, hjob, howns, hguard.1.1.1.2, hguard.1.2,
      completion_pays hconsistent hjob hadmits
        (EntriesNew.of_clean s.amounts hnodup hfresh hclean.entries) hrun⟩
  · refine Or.inl (completion_idle ?_ ?_ ?_ hrun)
    · intro other hother hid
      rw [hunique other hother hid]
      exact huncompleted
    · have hreceipts := hclean.receipts
      simp only [bookOf] at hreceipts
      omega
    · obtain ⟨mid, hupdate, -⟩ := runBatch_cons_eq_some.mp (show runBatch a
        (completeInferenceJobSql s.completion :: _) = some b from hrun)
      rw [hupdate, Statement.update_eq_self hupdate ?_]
      intro other hother
      rw [Bool.eq_false_iff]
      intro hsel
      have hid : other.jobId = s.run.jobId := by
        simp only [InferenceCompletion.admits, Bool.and_eq_true, beq_iff_eq] at hsel
        exact hsel.1.1.1.1
      rw [hunique other hother hid] at hsel
      exact hadmits hsel

/-! ## Artifact tasks -/

/-- Everything a successful completion of an artifact task writes. -/
structure ArtifactPaid (a b : MarketplaceDb) (s : ArtifactSettlement) (uuids : CompletionUuids) :
    Prop where
  tasks : b.rows .artifactTasks = (a.rows .artifactTasks).map fun task =>
    if task.taskId = s.task.taskId then s.completion.record task else task
  jobs : b.rows .inferenceJobs = a.rows .inferenceJobs
  ledger : b.rows .ledgerEntries = a.rows .ledgerEntries ++ s.parties.entries uuids s.amounts
  usage : b.rows .usageRecords = a.rows .usageRecords ++ [s.usageRow uuids.usage]
  artifact : b.rows .artifactTaskEvidence =
    a.rows .artifactTaskEvidence ++ [s.evidenceRow uuids.evidence]
  service : b.rows .serviceEvidence = a.rows .serviceEvidence

/-- The update of a completion replaces exactly the task it names. -/
theorem completeTask_rows {c : ArtifactCompletion} {a b : MarketplaceDb}
    {task : ArtifactTaskRow} (hconsistent : Consistent a) (htask : task ∈ a.rows .artifactTasks)
    (hadmits : c.admits a task = true) (hs : (completeArtifactTaskSql c).apply a = some b) :
    b.rows .artifactTasks = (a.rows .artifactTasks).map fun task =>
      if task.taskId = c.taskId then c.record task else task := by
  have hid : ∀ other : ArtifactTaskRow, c.admits a other = true → other.taskId = c.taskId := by
    intro other hother
    simp only [ArtifactCompletion.admits, Bool.and_eq_true, beq_iff_eq] at hother
    exact hother.1.1.1.1
  rw [Statement.update_rows hs]
  refine List.map_congr_left fun other hother => ?_
  by_cases hsame : other.taskId = c.taskId
  · obtain rfl := task_unique hconsistent hother htask (hsame.trans (hid task hadmits).symm)
    rw [if_pos hsame, if_pos hadmits]
  · rw [if_neg hsame, if_neg fun hsel => hsame (hid other hsel)]

/-- The evidence of a settlement is found by its task and digest. -/
theorem ArtifactSettlement.hasEvidence (s : ArtifactSettlement) (uuid : String)
    {db : MarketplaceDb} (h : s.evidenceRow uuid ∈ db.rows .artifactTaskEvidence) :
    hasArtifactEvidence db s.task.taskId s.input.evidenceDigest = true := by
  have htask : (s.evidenceRow uuid).taskId = s.task.taskId := rfl
  have hdigest : (s.evidenceRow uuid).evidenceDigest = s.input.evidenceDigest := rfl
  refine List.any_eq_true.mpr ⟨_, h, ?_⟩
  rw [htask, hdigest]
  simp

/-- The task a completion recorded satisfies the guard of its evidence. -/
theorem ArtifactSettlement.evidence_guard (s : ArtifactSettlement) (uuid : String)
    {task : ArtifactTaskRow} (hid : task.taskId = s.task.taskId)
    (hsupplier : task.supplierTenantId = s.identity.supplierTenantId) :
    ((s.completion.record task).taskId == (s.evidenceRow uuid).taskId &&
      (s.completion.record task).supplierTenantId == s.identity.supplierTenantId &&
      (s.completion.record task).status == .completed &&
      (s.completion.record task).completedAt == some (s.evidenceRow uuid).recordedAt &&
      (s.completion.record task).chargeMicros == some (s.evidenceRow uuid).buyerChargeMicros) =
        true := by
  have htask : (s.evidenceRow uuid).taskId = s.task.taskId := rfl
  have hrecorded : (s.evidenceRow uuid).recordedAt = s.now := rfl
  have hcharge : (s.evidenceRow uuid).buyerChargeMicros = s.amounts.buyerChargeMicros := rfl
  rw [htask, hrecorded, hcharge]
  simp [ArtifactCompletion.record, ArtifactSettlement.completion, hid, hsupplier]

/-- Equal evidence rows are found alike. -/
theorem hasArtifactEvidence_congr {a b : MarketplaceDb} {taskId : String} {evidenceDigest : Digest}
    (h : b.rows .artifactTaskEvidence = a.rows .artifactTaskEvidence) :
    hasArtifactEvidence b taskId evidenceDigest = hasArtifactEvidence a taskId evidenceDigest := by
  rw [hasArtifactEvidence, hasArtifactEvidence, h]

/-- A completion whose update matched no task writes nothing; where another completion of the
task came first it aborts. -/
theorem artifactCompletion_idle {s : ArtifactSettlement} {uuids : CompletionUuids}
    {a b : MarketplaceDb} (hconsistent : Consistent a) (hnamed : Namespaced a)
    (hsound : BookSound (bookOf a))
    (hupdate : (completeArtifactTaskSql s.completion).apply a = some a)
    (hrun : runBatch a (artifactCompletionBatch s uuids) = some b) : b = a := by
  -- a task that was completed before has its usage row
  have hrecorded : ∀ item, (bookOf a).item s.task.taskId = some item → item.isCompleted = true →
      ∃ usage ∈ a.rows .usageRecords, usage.jobId = s.task.taskId := by
    intro item hitem hcompleted
    have hrecords := (hsound.paid _ _ hitem hcompleted).records
    simp only [bookOf, usageOf] at hrecords
    obtain ⟨usage, husage, hid⟩ := List.countP_pos_iff.mp (hrecords ▸ Nat.one_pos)
    exact ⟨usage, husage, by simpa using hid⟩
  simp only [artifactCompletionBatch, List.cons_append, List.nil_append, runBatch_cons_eq_some]
    at hrun
  obtain ⟨d₁, h₁, d₂, h₂, d₃, h₃, d₄, h₄, d₅, h₅, d₆, h₆, d₇, h₇, hfee⟩ := hrun
  obtain rfl : a = d₁ := Option.some.inj (hupdate.symm.trans h₁)
  have husages : d₄.rows .usageRecords = a.rows .usageRecords :=
    (Statement.apply_rows_of_ne h₄ MarketplaceTable.noConfusion).trans
      ((Statement.apply_rows_of_ne h₃ MarketplaceTable.noConfusion).trans
        (Statement.apply_rows_of_ne h₂ MarketplaceTable.noConfusion))
  have hevidences : d₄.rows .artifactTaskEvidence = d₂.rows .artifactTaskEvidence :=
    (Statement.apply_rows_of_ne h₄ MarketplaceTable.noConfusion).trans
      (Statement.apply_rows_of_ne h₃ MarketplaceTable.noConfusion)
  -- so the usage insert aborts the batch unless its guard fails
  have hunrecorded : ∀ item, (bookOf a).item s.task.taskId = some item →
      item.isCompleted = true →
        hasArtifactEvidence d₂ s.task.taskId s.input.evidenceDigest = false := by
    intro item hitem hcompleted
    obtain ⟨usage, husage, hid⟩ := hrecorded item hitem hcompleted
    rcases Statement.insert_cases h₅ rfl with ⟨hguard, -⟩ | ⟨-, hfresh, -⟩
    · rwa [hasArtifactEvidence_congr hevidences] at hguard
    · have hclash := hfresh usage (husages ▸ husage)
      simp [clashes, marketplaceKeys, ArtifactSettlement.usageRow, hid] at hclash
  have hno : hasArtifactEvidence d₂ s.task.taskId s.input.evidenceDigest = false := by
    by_contra htrue
    rw [Bool.not_eq_false] at htrue
    have hsettled : ∃ item, (bookOf a).item s.task.taskId = some item ∧ item.isCompleted = true := by
      rcases Statement.insert_cases h₂ rfl with ⟨-, rfl⟩ | ⟨hguard, -, -⟩
      · obtain ⟨evidence, hmem, hsel⟩ := List.any_eq_true.mp htrue
        simp only [Bool.and_eq_true, beq_iff_eq] at hsel
        refine hsound.settled_of_receipts (Nat.ne_of_gt ?_)
        exact Nat.add_pos_right _ (List.countP_pos_iff.mpr ⟨evidence, hmem, by simpa using hsel.1⟩)
      · obtain ⟨task, htask, hsel⟩ := List.any_eq_true.mp hguard
        simp only [Bool.and_eq_true, beq_iff_eq] at hsel
        exact ⟨task.item, (bookOf_item_eq_some hconsistent hnamed).mpr
          ⟨List.mem_append_right _ (List.mem_map_of_mem htask), hsel.1.1.1.1⟩,
          by simp [ArtifactTaskRow.item, hsel.1.1.2]⟩
    obtain ⟨item, hitem, hcompleted⟩ := hsettled
    simp [hunrecorded item hitem hcompleted] at htrue
  rcases Statement.insert_cases h₂ rfl with ⟨-, rfl⟩ | ⟨-, -, rfl⟩
  · obtain rfl := Statement.insertOrIgnore_nil h₃ (if_neg (by simp [hno]))
    obtain rfl := Statement.insertOrIgnore_nil h₄ (if_neg (by simp [hno]))
    obtain rfl := Statement.insert_nil h₅ (if_neg (by simp [hno, ArtifactSettlement.usageRow]))
    obtain rfl := Statement.insert_nil h₆ (if_neg (by simp [hno, ArtifactSettlement.auditRow]))
    obtain rfl := Statement.update_eq_self h₇ (fun _ _ => by simp [hno])
    split at hfee
    · exact (Option.some.inj hfee).symm
    · obtain ⟨d₈, h₈, hend⟩ := runBatch_cons_eq_some.mp hfee
      obtain rfl := Statement.insertOrIgnore_nil h₈ (if_neg (by simp [hno]))
      exact (Option.some.inj hend).symm
  · refine absurd (hno.symm.trans (s.hasEvidence uuids.evidence ?_)) Bool.false_ne_true
    rw [Database.withRows_rows]
    exact List.mem_append_right _ List.mem_cons_self

/-- A completion whose update matched the task writes everything. -/
theorem artifactCompletion_pays {s : ArtifactSettlement} {uuids : CompletionUuids}
    {a b : MarketplaceDb} {task : ArtifactTaskRow} (hconsistent : Consistent a)
    (htask : task ∈ a.rows .artifactTasks) (hadmits : s.completion.admits a task = true)
    (hnew : EntriesNew s.parties uuids s.amounts (a.rows .ledgerEntries))
    (hrun : runBatch a (artifactCompletionBatch s uuids) = some b) : ArtifactPaid a b s uuids := by
  simp only [artifactCompletionBatch, List.cons_append, List.nil_append, runBatch_cons_eq_some]
    at hrun
  obtain ⟨d₁, h₁, d₂, h₂, d₃, h₃, d₄, h₄, d₅, h₅, d₆, h₆, d₇, h₇, hfee⟩ := hrun
  have hrows : d₁.rows .artifactTasks = (a.rows .artifactTasks).map fun task =>
      if task.taskId = s.task.taskId then s.completion.record task else task :=
    completeTask_rows hconsistent htask hadmits h₁
  obtain ⟨hid, hsupplier⟩ : task.taskId = s.task.taskId ∧
      task.supplierTenantId = s.identity.supplierTenantId := by
    simp only [ArtifactCompletion.admits, ArtifactTaskRow.isHeldWith, Bool.and_eq_true,
      beq_iff_eq] at hadmits
    exact ⟨hadmits.1.1.1.1, hadmits.1.1.1.2.1.1.1.1.1⟩
  have hrecorded : s.completion.record task ∈ d₁.rows .artifactTasks := by
    rw [hrows]
    exact List.mem_map.mpr ⟨task, htask, if_pos hid⟩
  obtain rfl := Statement.update_eq_some h₁
  -- the recorded task satisfies the guard of the evidence, which satisfies all others
  obtain ⟨-, rfl⟩ := Statement.insert_singleton h₂ (if_pos (List.any_eq_true.mpr
    ⟨_, hrecorded, s.evidence_guard uuids.evidence hid hsupplier⟩))
  obtain rfl := ledgerInsert_stores h₃ (if_pos (s.hasEvidence uuids.evidence (by simp)))
    (by simpa using hnew.debit)
  obtain rfl := ledgerInsert_stores h₄ (if_pos (s.hasEvidence uuids.evidence (by simp)))
    (by simpa using hnew.credit)
  obtain ⟨-, rfl⟩ := Statement.insert_singleton h₅ (if_pos (s.hasEvidence uuids.evidence (by simp)))
  have hrest : ∀ u, u ≠ MarketplaceTable.auditEvents → u ≠ MarketplaceTable.artifacts →
      d₇.rows u = _ := fun u haudit hartifacts =>
    (Statement.apply_rows_of_ne h₇ hartifacts).trans (Statement.apply_rows_of_ne h₆ haudit)
  have hend : b.rows .ledgerEntries = a.rows .ledgerEntries ++ s.parties.entries uuids s.amounts ∧
      ∀ u, u ≠ .ledgerEntries → b.rows u = d₇.rows u := by
    split at hfee
    · rename_i hzero
      obtain rfl := Option.some.inj hfee
      refine ⟨?_, fun _ _ => rfl⟩
      rw [hrest _ (by decide) (by decide)]
      simp [SettlementParties.entries, hzero]
    · rename_i hfeePos
      obtain ⟨d₈, h₈, hend⟩ := runBatch_cons_eq_some.mp hfee
      obtain rfl := Option.some.inj hend
      obtain rfl := ledgerInsert_stores h₈
        (if_pos (s.hasEvidence uuids.evidence (by rw [hrest _ (by decide) (by decide)]; simp)))
        (by rw [hrest _ (by decide) (by decide)]; simpa using hnew.fee)
      refine ⟨?_, fun u hu => Database.withRows_rows_ne _ _ hu⟩
      rw [Database.withRows_rows, hrest _ (by decide) (by decide)]
      simp [SettlementParties.entries, hfeePos]
  obtain ⟨hledger, hothers⟩ := hend
  exact
    { tasks := by
        rw [hothers _ (by decide), hrest _ (by decide) (by decide)]
        simpa using hrows
      jobs := by
        rw [hothers _ (by decide), hrest _ (by decide) (by decide)]
        simp
      ledger := hledger
      usage := by
        rw [hothers _ (by decide), hrest _ (by decide) (by decide)]
        simp
      artifact := by
        rw [hothers _ (by decide), hrest _ (by decide) (by decide)]
        simp
      service := by
        rw [hothers _ (by decide), hrest _ (by decide) (by decide)]
        simp }

/-- The completion of a task writes everything or nothing. -/
theorem artifactCompletion_effect {s : ArtifactSettlement} {uuids : CompletionUuids}
    {a b : MarketplaceDb} (hconsistent : Consistent a) (hnamed : Namespaced a)
    (hsound : BookSound (bookOf a)) (hnodup : uuids.toList.Nodup) (hfresh : EntryIdsFresh a uuids)
    (hrun : runBatch a (artifactCompletionBatch s uuids) = some b) :
    b = a ∨ ∃ task ∈ a.rows .artifactTasks, task.taskId = s.task.taskId ∧
      task.status.isLeased = true ∧ task.cancellationRequestedAt = none ∧
      s.amounts.buyerChargeMicros ≤ task.reservedChargeMicros ∧ ArtifactPaid a b s uuids := by
  by_cases hadmits : ∃ task ∈ a.rows .artifactTasks, s.completion.admits a task = true
  · obtain ⟨task, htask, hadmits⟩ := hadmits
    have hguard := hadmits
    simp only [ArtifactCompletion.admits, ArtifactTaskRow.isHeldWith, Bool.and_eq_true,
      beq_iff_eq, decide_eq_true_eq, Option.isNone_iff_eq_none] at hguard
    obtain ⟨⟨⟨⟨hid, ⟨⟨⟨⟨-, -⟩, hleased⟩, hflag⟩, -⟩, -⟩, -⟩, hcharge⟩, -⟩ := hguard
    have hitem : (bookOf a).item s.task.taskId = some task.item :=
      (bookOf_item_eq_some hconsistent hnamed).mpr
        ⟨List.mem_append_right _ (List.mem_map_of_mem htask), hid⟩
    have hclean : (bookOf a).Clean s.task.taskId := by
      refine hsound.clean_of_unsettled hitem ?_
      cases hstatus : task.status <;>
        simp [hstatus, ArtifactTaskStatus.isLeased, ArtifactTaskRow.item] at hleased ⊢
    exact Or.inr ⟨task, htask, hid, hleased, hflag, hcharge,
      artifactCompletion_pays hconsistent htask hadmits
        (EntriesNew.of_clean s.amounts hnodup hfresh hclean.entries) hrun⟩
  · simp only [not_exists, not_and, Bool.not_eq_true] at hadmits
    obtain ⟨mid, hupdate, -⟩ := runBatch_cons_eq_some.mp (show runBatch a
      (completeArtifactTaskSql s.completion :: _) = some b from hrun)
    obtain rfl : mid = a := Statement.update_eq_self hupdate hadmits
    exact Or.inl (artifactCompletion_idle hconsistent hnamed hsound hupdate hrun)

end Server
end TokenStreaming
