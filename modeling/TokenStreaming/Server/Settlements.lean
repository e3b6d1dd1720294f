import TokenStreaming.Server.Completions
import TokenStreaming.Server.Footprints

/-!
# Control plane - Settlement is exactly once

A completion that writes anything settles its item in the book, and every other
batch leaves settled items alone.  So the book is sound in every reachable state:
an item has ledger entries exactly when it is completed, and then they are one
settlement of its recorded charge.

Main results:

- Theorem {lit}`InferencePaid.bookStep`, {lit}`ArtifactPaid.bookStep`: completions settle
  their item.
- Theorem {lit}`Reachable.bookKept`: the book of every reachable state is sound.
- Theorem {lit}`settlement_exactly_once`: what the ledger holds of jobs and tasks.
-/

namespace TokenStreaming
namespace Server

open Relational Domain TransitionSystem SettlementBook

/-! ## Completions settle -/

/-- The entries of a settlement carry its id. -/
theorem SettlementParties.entries_filter (p : SettlementParties) (uuids : CompletionUuids)
    (amounts : SettlementAmounts) (id : String) :
    (p.entries uuids amounts).filter (fun entry => entry.jobId == some id) =
      if id = p.jobId then p.entries uuids amounts else [] := by
  have hjob : ∀ entry ∈ p.entries uuids amounts, entry.jobId = some p.jobId := by
    intro entry hentry
    simp only [SettlementParties.entries, List.mem_append, List.mem_cons, List.not_mem_nil,
      or_false] at hentry
    rcases hentry with (rfl | rfl) | hfee
    · rfl
    · rfl
    · split at hfee
      · simp at hfee
      · rw [List.mem_singleton.mp hfee]
        rfl
  split
  · rename_i hid
    exact List.filter_eq_self.mpr fun entry hentry => by simp [hjob entry hentry, hid]
  · rename_i hid
    exact List.filter_eq_nil_iff.mpr fun entry hentry => by
      simpa [hjob entry hentry] using Ne.symm hid

/-- The items of the book after one item was replaced. -/
theorem bookOf_item_replaced {a b : MarketplaceDb} {item settled : WorkItem} {id : String}
    (ha : Consistent a) (hb : Consistent b) (hna : Namespaced a) (hnb : Namespaced b)
    (hitem : item ∈ itemsOf a) (hid : item.id = id) (hsame : settled.id = id)
    (hitems : itemsOf b = (itemsOf a).map fun other => if other.id = id then settled else other) :
    (bookOf b).item = Function.update (bookOf a).item id (some settled) := by
  funext other
  refine Option.ext fun stored => ?_
  rw [bookOf_item_eq_some hb hnb, hitems]
  by_cases hother : other = id
  · subst hother
    rw [Function.update_self]
    simp only [Option.some.injEq, List.mem_map]
    constructor
    · rintro ⟨⟨old, -, rfl⟩, hstored⟩
      split at hstored
      · rename_i hold
        rw [if_pos hold]
      · rename_i hold
        exact absurd hstored hold
    · rintro rfl
      exact ⟨⟨item, hitem, if_pos hid⟩, hsame⟩
  · rw [Function.update_of_ne hother, bookOf_item_eq_some ha hna]
    simp only [List.mem_map]
    constructor
    · rintro ⟨⟨old, hold, rfl⟩, hstored⟩
      split at hstored
      · exact absurd (hstored.symm.trans hsame) hother
      · rename_i hne
        rw [if_neg hne]
        exact ⟨hold, hstored⟩
    · rintro ⟨hmem, rfl⟩
      exact ⟨⟨stored, hmem, if_neg hother⟩, rfl⟩

/-- Replacing one unsettled item by a settled one, with all its rows, settles the book. -/
theorem bookOf_settle {a b : MarketplaceDb} (item settled : WorkItem) (p : SettlementParties)
    {uuids : CompletionUuids} {amounts : SettlementAmounts} {usage : UsageRow}
    (ha : Consistent a) (hb : Consistent b) (hna : Namespaced a) (hnb : Namespaced b)
    (hitem : item ∈ itemsOf a) (hid : item.id = p.jobId) (hunsettled : ¬BookSettled item)
    (hsame : settled.id = p.jobId) (hsettled : BookSettled settled)
    (hitems : itemsOf b = (itemsOf a).map fun other => if other.id = p.jobId then settled else other)
    (hledger : b.rows .ledgerEntries = a.rows .ledgerEntries ++ p.entries uuids amounts)
    (husage : b.rows .usageRecords = a.rows .usageRecords ++ [usage])
    (husageId : usage.jobId = p.jobId)
    (hreceipts : ∀ id, serviceEvidenceOf b id + artifactEvidenceOf b id =
      serviceEvidenceOf a id + artifactEvidenceOf a id + if id = p.jobId then 1 else 0)
    (hpays : settled.IsPaidBy (p.entries uuids amounts)) : BookStep (bookOf a) (bookOf b) := by
  have hbook : bookOf b =
      { item := Function.update (bookOf a).item p.jobId (some settled)
        receipts := Function.update (bookOf a).receipts p.jobId ((bookOf a).receipts p.jobId + 1)
        records := Function.update (bookOf a).records p.jobId ((bookOf a).records p.jobId + 1)
        entries := Function.update (bookOf a).entries p.jobId
          ((bookOf a).entries p.jobId ++ p.entries uuids amounts) } := by
    refine Book.ext (bookOf_item_replaced ha hb hna hnb hitem hid hsame hitems) ?_ ?_ ?_
    · funext id
      simp only [bookOf, hreceipts, Function.update_apply]
      split
      · rename_i hidCase
        rw [hidCase]
      · rfl
    · funext id
      simp only [bookOf, usageOf, husage, List.countP_append, Function.update_apply]
      split
      · rename_i hidCase
        simp [hidCase, husageId]
      · rename_i hidCase
        simpa [husageId] using Ne.symm hidCase
    · funext id
      simp only [bookOf, entriesOf, hledger, List.filter_append,
        SettlementParties.entries_filter, Function.update_apply]
      split
      · rename_i hidCase
        rw [hidCase]
      · rw [List.append_nil]
  rw [hbook]
  refine .settle (bookOf a) p.jobId item settled _ ?_ hunsettled hsettled hpays
  exact (bookOf_item_eq_some ha hna).mpr ⟨hitem, hid⟩

/-- A completion of an inference that wrote everything settles the run's job. -/
theorem InferencePaid.bookStep {a b : MarketplaceDb} {s : InferenceSettlement}
    {uuids : CompletionUuids} {job : InferenceJobRow} (h : InferencePaid a b s uuids)
    (ha : Consistent a) (hb : Consistent b) (hna : Namespaced a) (hnb : Namespaced b)
    (hjob : job ∈ a.rows .inferenceJobs) (howns : s.run.Owns job)
    (hrunning : job.status = .running)
    (hcharge : s.amounts.buyerChargeMicros ≤ job.reservedChargeMicros)
    (hconserves : s.amounts.buyerChargeMicros =
      s.amounts.supplierCreditMicros + s.amounts.platformFeeMicros) :
    BookStep (bookOf a) (bookOf b) := by
  refine bookOf_settle job.item (s.completion.record job).item s.parties ha hb hna hnb ?_ howns.jobId ?_ howns.jobId rfl ?_ h.ledger h.usage rfl ?_ ?_
  · exact List.mem_append_left _ (List.mem_map_of_mem hjob)
  · simp [InferenceJobRow.item, hrunning]
  · -- the update replaces the job's item and leaves every task's alone
    rw [itemsOf, itemsOf, h.jobs, h.tasks, List.map_append, List.map_map, List.map_map]
    congr 1
    · refine List.map_congr_left fun other hother => ?_
      by_cases hsame : other.jobId = s.run.jobId
      · obtain rfl := job_unique ha hother hjob (hsame.trans howns.jobId.symm)
        simp [InferenceSettlement.parties, InferenceJobRow.item, hsame]
      · simp [InferenceSettlement.parties, InferenceJobRow.item, hsame]
    · rw [List.map_map]
      refine List.map_congr_left fun task htask => ?_
      have hne := hna.ne hjob htask
      rw [howns.jobId] at hne
      simp [InferenceSettlement.parties, ArtifactTaskRow.item, Ne.symm hne]
  · intro id
    have hrow : (s.evidenceRow uuids.evidence).jobId = s.run.jobId := rfl
    have hparties : s.parties.jobId = s.run.jobId := rfl
    simp only [serviceEvidenceOf, artifactEvidenceOf, h.service, h.artifact, List.countP_append,
      List.countP_singleton, hrow, hparties, beq_iff_eq]
    rcases eq_or_ne id s.run.jobId with rfl | hne
    · rw [if_pos rfl]
      omega
    · rw [if_neg hne, if_neg hne.symm]
      omega
  · exact ⟨s.parties, uuids, s.amounts, howns.jobId.symm, howns.buyer.symm, howns.supplier.symm, rfl,
      hcharge, hconserves, rfl⟩

/-- A completion of a task that wrote everything settles the task. -/
theorem ArtifactPaid.bookStep {a b : MarketplaceDb} {s : ArtifactSettlement}
    {uuids : CompletionUuids} {task : ArtifactTaskRow} (h : ArtifactPaid a b s uuids)
    (ha : Consistent a) (hb : Consistent b) (hna : Namespaced a) (hnb : Namespaced b)
    (htask : task ∈ a.rows .artifactTasks) (hterms : task.terms = s.task.terms)
    (hleased : task.status.isLeased = true)
    (hcharge : s.amounts.buyerChargeMicros ≤ task.reservedChargeMicros)
    (hconserves : s.amounts.buyerChargeMicros =
      s.amounts.supplierCreditMicros + s.amounts.platformFeeMicros) :
    BookStep (bookOf a) (bookOf b) := by
  have hid : task.taskId = s.task.taskId := congrArg TaskTerms.taskId hterms
  have hparties : s.parties.jobId = s.task.taskId := rfl
  refine bookOf_settle task.item (s.completion.record task).item s.parties ha hb hna hnb ?_ hid ?_ hid rfl ?_ h.ledger h.usage rfl ?_ ?_
  · exact List.mem_append_right _ (List.mem_map_of_mem htask)
  · cases hstatus : task.status <;>
      simp [hstatus, ArtifactTaskStatus.isLeased, ArtifactTaskRow.item] at hleased ⊢
  · rw [itemsOf, itemsOf, h.jobs, h.tasks, List.map_append, List.map_map, List.map_map]
    congr 1
    · refine List.map_congr_left fun job hjob => ?_
      have hne := hna.ne hjob htask
      rw [hid] at hne
      simp [hparties, InferenceJobRow.item, hne]
    · rw [List.map_map]
      refine List.map_congr_left fun other hother => ?_
      by_cases hsame : other.taskId = s.task.taskId
      · obtain rfl := task_unique ha hother htask (hsame.trans hid.symm)
        simp [hparties, ArtifactTaskRow.item, hsame]
      · simp [hparties, ArtifactTaskRow.item, hsame]
  · intro id
    have hrow : (s.evidenceRow uuids.evidence).taskId = s.task.taskId := rfl
    simp only [serviceEvidenceOf, artifactEvidenceOf, h.service, h.artifact, List.countP_append,
      List.countP_singleton, hrow, hparties, beq_iff_eq]
    rcases eq_or_ne id s.task.taskId with rfl | hne
    · rw [if_pos rfl]
      omega
    · rw [if_neg hne, if_neg hne.symm]
      omega
  · exact ⟨s.parties, uuids, s.amounts, hid.symm, (congrArg TaskTerms.buyerTenantId hterms).symm,
      (congrArg TaskTerms.supplierTenantId hterms).symm, rfl, hcharge, hconserves, rfl⟩

/-! ## The book of reachable states -/

/-- What an entry id was made from. -/
def LedgerEntryRow.IdFrom (drawn : List String) (entry : LedgerEntryRow) : Prop :=
  (∃ tenantId, entry.entryId = "welcome-" ++ tenantId) ∨
    ∃ uuid ∈ drawn, entry.entryId = "ledger-" ++ uuid

/-- The book is sound, and its rows carry ids the control plane made. -/
structure BookKept (drawn : List String) (db : MarketplaceDb) : Prop where
  named : Namespaced db
  sound : BookSound (bookOf db)
  entryIds : ∀ entry ∈ db.rows .ledgerEntries, entry.IdFrom drawn
  service : ∀ evidence ∈ db.rows .serviceEvidence, ∃ uuid, evidence.jobId = "job-" ++ uuid
  artifact : ∀ evidence ∈ db.rows .artifactTaskEvidence,
    ∃ uuid, evidence.taskId = "artifact-task-" ++ uuid

theorem BookKept.mono {drawn drawn' : List String} {db : MarketplaceDb} (h : BookKept drawn db)
    (hsubset : drawn ⊆ drawn') : BookKept drawn' db :=
  { h with
    entryIds := fun entry hentry => by
      rcases h.entryIds entry hentry with hwelcome | ⟨uuid, huuid, hid⟩
      · exact Or.inl hwelcome
      · exact Or.inr ⟨uuid, hsubset huuid, hid⟩ }

theorem welcome_ne_ledger (tenantId uuid : String) : "welcome-" ++ tenantId ≠ "ledger-" ++ uuid := by
  intro h
  have hlist := congrArg String.toList h
  simp at hlist

/-- Newly drawn ids name no stored entry. -/
theorem BookKept.entryIdsFresh {w : World} {uuids : CompletionUuids} (h : BookKept w.drawn w.db)
    (hfresh : uuids.Fresh w) : EntryIdsFresh w.db uuids := by
  intro entry hentry uuid huuid hid
  rcases h.entryIds entry hentry with ⟨tenantId, hwelcome⟩ | ⟨old, hold, hledger⟩
  · exact welcome_ne_ledger tenantId uuid (hwelcome.symm.trans hid)
  · have hne : old ≠ uuid := fun heq => hfresh.isNew uuid huuid (heq ▸ hold)
    exact prefix_ne hne "ledger-" (hledger.symm.trans hid)

/-- A statement outside of a completion keeps the book. -/
theorem Commanded.bookKept {w : World} {t : MarketplaceTable} {s : MarketplaceStatement}
    (hcommanded : Commanded w t s) {a b : MarketplaceDb} {drawn : List String}
    (hconsistent : Consistent a) (h : BookKept drawn a) (hs : s.apply a = some b) :
    BookKept drawn b := by
  have hframe : ∀ u, u ≠ t → b.rows u = a.rows u := by
    intro u hu
    refine Statement.apply_rows_of_ne hs ?_
    rwa [hcommanded.table_eq]
  refine
    { named := (Issued.commanded hcommanded).namespaced h.named hs
      sound := ?_
      entryIds := ?_
      service := ?_
      artifact := ?_ }
  · rcases hcommanded.bookStep hconsistent h.named hs with heq | hstep
    · rw [heq]
      exact h.sound
    · exact hstep.sound h.sound
  · by_cases ht : t = .ledgerEntries
    · subst ht
      cases hcommanded with
      | routine hroutine =>
          cases hroutine with
          | free _ hfree => simp [freeTables] at hfree
          | welcomeCredit tenantId welcomeCreditMicros now =>
              rcases Statement.insertOrIgnore_singleton hs rfl with ⟨-, rfl⟩ | ⟨-, rfl⟩
              · intro entry hentry
                rw [Database.withRows_rows] at hentry
                rcases List.mem_append.mp hentry with hold | hnew
                · exact h.entryIds entry hold
                · rw [List.mem_singleton.mp hnew]
                  exact Or.inl ⟨tenantId, rfl⟩
              · exact h.entryIds
    · rw [hframe _ (Ne.symm ht)]
      exact h.entryIds
  · have ht : t ≠ .serviceEvidence := by
      rintro rfl
      cases hcommanded with
      | routine hroutine =>
          cases hroutine with
          | free _ hfree => simp [freeTables] at hfree
    rw [hframe _ ht.symm]
    exact h.service
  · have ht : t ≠ .artifactTaskEvidence := by
      rintro rfl
      cases hcommanded with
      | routine hroutine =>
          cases hroutine with
          | free _ hfree => simp [freeTables] at hfree
    rw [hframe _ ht.symm]
    exact h.artifact

/-- The drawn values of a step. -/
theorem World.apply_drawn (w : World) (call : Call) : (w.apply call).drawn = w.drawn := by
  cases call with
  | setClock instant => rfl
  | deploy deployment =>
      simp only [World.apply]
      split <;> rfl
  | service ages request =>
      simp only [World.apply, World.perform]
      split
      · exact w.send_drawn _
      · rfl
  | reserveInference ages identity input idempotencyKey jobUuid =>
      simp only [World.apply, World.reserve]
      split
      · split
        · split <;> rfl
        · rfl
      · rfl
  | dispatchInference index =>
      simp only [World.apply, World.dispatch]
      split
      · exact w.send_drawn _
      · rfl
  | settleInference ages index result outputIv uuids =>
      simp only [World.apply, World.settle]
      split
      · split
        · exact w.send_drawn _
        · rfl
      · rfl
  | failInference ages index code =>
      simp only [World.apply, World.failInference]
      split
      · split
        · exact w.send_drawn _
        · rfl
      · rfl
  | authenticateAgent ages request =>
      simp only [World.apply, World.authenticate]
      split <;> rfl
  | advanceAgent index =>
      simp only [World.apply, World.advanceAgent]
      split
      · rfl
      · split <;> rfl

theorem step_drawn_of_fresh {w : World} {call : Call} (h : w.isFresh call.uuids = true) :
    (step w call).drawn = call.uuids ++ w.drawn := by
  unfold step
  rw [if_pos h]
  simp only [World.draw, w.apply_drawn]

theorem step_drawn_subset (w : World) (call : Call) : w.drawn ⊆ (step w call).drawn := by
  unfold step
  split
  · simp only [World.draw, w.apply_drawn]
    exact List.subset_append_right _ _
  · exact fun _ h => h

/-- The entries of a settlement have drawn ids. -/
theorem SettlementParties.entries_idFrom (p : SettlementParties) (uuids : CompletionUuids)
    (amounts : SettlementAmounts) {drawn : List String} (h : uuids.toList ⊆ drawn) :
    ∀ entry ∈ p.entries uuids amounts, entry.IdFrom drawn := by
  intro entry hentry
  simp only [SettlementParties.entries, List.mem_append, List.mem_cons, List.not_mem_nil,
    or_false] at hentry
  rcases hentry with (rfl | rfl) | hfee
  · exact Or.inr ⟨uuids.debit, h (by simp [CompletionUuids.toList]), rfl⟩
  · exact Or.inr ⟨uuids.credit, h (by simp [CompletionUuids.toList]), rfl⟩
  · split at hfee
    · simp at hfee
    · rw [List.mem_singleton.mp hfee]
      exact Or.inr ⟨uuids.fee, h (by simp [CompletionUuids.toList]), rfl⟩

theorem settleInference_eq_ok {reads : Reads} {keyrings : ResolvedKeyring}
    {policy : MarketplaceRuntimePolicy} {run : InferenceRun} {result : GatewayResult}
    {outputIv : String} {s : InferenceSettlement}
    (h : settleInference reads keyrings policy run result outputIv = .ok s) :
    s.run = run ∧ s.amounts.buyerChargeMicros =
      s.amounts.supplierCreditMicros + s.amounts.platformFeeMicros := by
  simp only [settleInference, Except.bind_eq_ok, demand_eq_ok, exists_unit, found_eq_ok,
    uncaught_eq_ok, Except.pure_eq_ok] at h
  obtain ⟨_, _, _, _, amounts, hamounts, _, rfl⟩ := h
  exact ⟨rfl, calculateSettlement_conserves hamounts⟩

/-- What a completion that wrote anything wrote, in a reachable state. -/
inductive Completed (w : World) (call : Call) (b : MarketplaceDb) : Prop
  | inference (s : InferenceSettlement) (uuids : CompletionUuids) (job : InferenceJobRow)
      (hjob : job ∈ w.db.rows .inferenceJobs) (howns : s.run.Owns job)
      (hrunning : job.status = .running)
      (hcharge : s.amounts.buyerChargeMicros ≤ job.reservedChargeMicros)
      (hconserves : s.amounts.buyerChargeMicros =
        s.amounts.supplierCreditMicros + s.amounts.platformFeeMicros)
      (huuids : call.uuids = uuids.toList) (hpaid : InferencePaid w.db b s uuids)
  | artifact (s : ArtifactSettlement) (uuids : CompletionUuids) (task : ArtifactTaskRow)
      (htask : task ∈ w.db.rows .artifactTasks) (hterms : task.terms = s.task.terms)
      (hleased : task.status.isLeased = true) (hflag : task.cancellationRequestedAt = none)
      (hcharge : s.amounts.buyerChargeMicros ≤ task.reservedChargeMicros)
      (hconserves : s.amounts.buyerChargeMicros =
        s.amounts.supplierCreditMicros + s.amounts.platformFeeMicros)
      (huuids : call.uuids = uuids.toList) (hpaid : ArtifactPaid w.db b s uuids)

/-- How a step of a reachable state writes. -/
inductive Settled (w : World) (call : Call) (w' : World) : Prop
  | idle (hdb : w'.db = w.db)
  | clock (instant : Nat) (hdb : w'.db = { w.db with clock := instant })
  | command (batch : Batch) (hcommand : Command w call batch)
      (hrun : runBatch w.db batch = some w'.db)
  | completed (h : Completed w call w'.db) (hfresh : w.isFresh call.uuids = true)

/-- A step of a reachable state is a command or a completion that writes everything. -/
theorem Reachable.settled {w : World} (hw : Reachable w) (hkept : BookKept w.drawn w.db)
    (call : Call) : Settled w call (Server.step w call) := by
  cases hw.stepped call with
  | idle hdb _ => exact .idle hdb
  | clock instant _ hdb _ => exact .clock instant hdb
  | sent batch hsent hrun _ _ =>
      cases hsent with
      | command hcommand => exact .command batch hcommand hrun
      | inferenceCompletion ages index run result outputIv s uuids hget hsettle huuids =>
          obtain ⟨rfl, hconserves⟩ := settleInference_eq_ok hsettle
          have hpending := hw.runsStored.pending index s.run .dispatched hget rfl
          rcases completion_effect hw.consistent hkept.named hkept.sound hpending huuids.nodup
            (hkept.entryIdsFresh huuids) hrun with hidle | ⟨job, hjob, howns, hrunning, hle, hpaid⟩
          · exact .idle hidle
          · exact .completed (.inference s uuids job hjob howns hrunning hle hconserves rfl hpaid)
              (World.isFresh_eq.mpr ⟨huuids.nodup, huuids.isNew, huuids.plain⟩)
      | artifactCompletion s uuids totalTokens price bps hobserved hsupplier hamounts _ huuids
          hcall =>
          rcases artifactCompletion_effect hw.consistent hkept.named hkept.sound huuids.nodup
            (hkept.entryIdsFresh huuids) hrun with
            hidle | ⟨task, htask, hid, hleased, hflag, hle, hpaid⟩
          · exact .idle hidle
          · obtain ⟨snap, hsnap, hold⟩ := hobserved
            -- the stored task has the terms of the one the request read
            obtain ⟨current, hcurrent, hmove⟩ := (hw.sound.follows snap hsnap).tasks.of_mem_old hold
            have hsame : task = current := task_unique hw.consistent htask hcurrent
              (hid.trans (congrArg TaskTerms.taskId hmove.terms).symm)
            exact .completed
              (.artifact s uuids task htask (hsame ▸ hmove.terms) hleased hflag hle
                (calculateSettlement_conserves hamounts) hcall hpaid)
              (World.isFresh_eq.mpr
                ⟨hcall ▸ huuids.nodup, hcall ▸ huuids.isNew, hcall ▸ huuids.plain⟩)

/-- Every step keeps the book. -/
theorem step_bookKept {w : World} (hw : Reachable w) (call : Call) (h : BookKept w.drawn w.db) :
    BookKept (step w call).drawn (step w call).db := by
  cases hw.settled h call with
  | idle hdb =>
      rw [hdb]
      exact h.mono (step_drawn_subset w call)
  | clock instant hdb =>
      rw [hdb]
      refine BookKept.mono ?_ (step_drawn_subset w call)
      exact ⟨⟨h.named.jobs, h.named.tasks⟩, h.sound, h.entryIds, h.service, h.artifact⟩
  | command batch hcommand hrun =>
      refine BookKept.mono ?_ (step_drawn_subset w call)
      exact hcommand.preserves hw.sound hrun
        (fun _ _ _ _ hcommanded ha _ hkept hs => hcommanded.bookKept ha hkept hs) h
  | completed hcompleted hfresh =>
      have hnamed := (hw.step call).namespaced
      have hconsistent := (hw.step call).consistent
      have hsubset := step_drawn_subset w call
      rw [step_drawn_of_fresh hfresh] at hsubset ⊢
      cases hcompleted with
      | inference s uuids job hjob howns hrunning hle hconserves huuids hpaid =>
          refine
            { named := hnamed
              sound := (hpaid.bookStep hw.consistent hconsistent h.named hnamed hjob howns hrunning
                hle hconserves).sound h.sound
              entryIds := fun entry hentry => ?_
              service := fun evidence hevidence => ?_
              artifact := hpaid.artifact ▸ h.artifact }
          · rw [hpaid.ledger] at hentry
            rcases List.mem_append.mp hentry with hold | hnew
            · exact (h.mono hsubset).entryIds entry hold
            · refine SettlementParties.entries_idFrom _ _ _ ?_ entry hnew
              rw [huuids]
              exact List.subset_append_left _ _
          · rw [hpaid.service] at hevidence
            rcases List.mem_append.mp hevidence with hold | hnew
            · exact h.service evidence hold
            · rw [List.mem_singleton.mp hnew]
              obtain ⟨uuid, hid⟩ := h.named.jobs job hjob
              exact ⟨uuid, howns.jobId.symm.trans hid⟩
      | artifact s uuids task htask hterms hleased hflag hle hconserves huuids hpaid =>
          refine
            { named := hnamed
              sound := (hpaid.bookStep hw.consistent hconsistent h.named hnamed htask hterms hleased
                hle hconserves).sound h.sound
              entryIds := fun entry hentry => ?_
              service := hpaid.service ▸ h.service
              artifact := fun evidence hevidence => ?_ }
          · rw [hpaid.ledger] at hentry
            rcases List.mem_append.mp hentry with hold | hnew
            · exact (h.mono hsubset).entryIds entry hold
            · refine SettlementParties.entries_idFrom _ _ _ ?_ entry hnew
              rw [huuids]
              exact List.subset_append_left _ _
          · rw [hpaid.artifact] at hevidence
            rcases List.mem_append.mp hevidence with hold | hnew
            · exact h.artifact evidence hold
            · rw [List.mem_singleton.mp hnew]
              obtain ⟨uuid, hid⟩ := h.named.tasks task htask
              exact ⟨uuid, (congrArg TaskTerms.taskId hterms).symm.trans hid⟩

/-- The book of every reachable state is kept. -/
theorem Reachable.bookKept {w : World} (h : Reachable w) : BookKept w.drawn w.db := by
  refine h.induction (P := fun w => BookKept w.drawn w.db) (fun clock deployment => ?_)
    fun w call hw ih => step_bookKept hw call ih
  refine ⟨⟨?_, ?_⟩, ⟨?_, ?_⟩, ?_, ?_, ?_⟩
  all_goals simp [World.start, MarketplaceDb.empty, bookOf, itemsOf]
  exact fun _ => ⟨rfl, rfl, rfl⟩

/-! ## New entries -/

/-- A statement outside of a completion writes no entry of an item. -/
theorem Commanded.entriesOf_eq {w : World} {t : MarketplaceTable} {s : MarketplaceStatement}
    (hcommanded : Commanded w t s) {a b : MarketplaceDb} (hs : s.apply a = some b) (id : String) :
    entriesOf b id = entriesOf a id := by
  by_cases ht : t = .ledgerEntries
  · subst ht
    cases hcommanded with
    | routine hroutine =>
        cases hroutine with
        | free _ hfree => simp [freeTables] at hfree
        | welcomeCredit tenantId welcomeCreditMicros now =>
            rcases Statement.insertOrIgnore_singleton hs rfl with ⟨-, rfl⟩ | ⟨-, rfl⟩
            · simp [entriesOf, welcomeEntry]
            · rfl
  · have hledger : b.rows .ledgerEntries = a.rows .ledgerEntries := by
      refine Statement.apply_rows_of_ne hs ?_
      rw [hcommanded.table_eq]
      exact Ne.symm ht
    rw [entriesOf, entriesOf, hledger]

/-- A step writes entries of an item only by completing it. -/
theorem step_entriesOf {w : World} (hw : Reachable w) (call : Call) (id : String) :
    entriesOf (step w call).db id = entriesOf w.db id ∨
      (∃ item ∈ itemsOf w.db, item.id = id ∧ item.isCompleted = false) ∧
        ∃ item ∈ itemsOf (step w call).db, item.id = id ∧ item.isCompleted = true := by
  cases hw.settled hw.bookKept call with
  | idle hdb =>
      rw [hdb]
      exact Or.inl rfl
  | clock instant hdb =>
      rw [hdb]
      exact Or.inl rfl
  | command batch hcommand hrun =>
      refine Or.inl ?_
      exact hcommand.preserves (P := fun db => entriesOf db id = entriesOf w.db id) hw.sound hrun
        (fun _ _ _ _ hcommanded _ _ heq hs => (hcommanded.entriesOf_eq hs id).trans heq) rfl
  | completed hcompleted _ =>
      cases hcompleted with
      | inference s uuids job hjob howns hrunning _ _ _ hpaid =>
          by_cases hid : id = s.parties.jobId
          · refine Or.inr ⟨⟨job.item, List.mem_append_left _ (List.mem_map_of_mem hjob),
              howns.jobId.trans hid.symm, by simp [InferenceJobRow.item, hrunning]⟩,
              (s.completion.record job).item, ?_, howns.jobId.trans hid.symm, rfl⟩
            refine List.mem_append_left _ (List.mem_map_of_mem ?_)
            rw [hpaid.jobs]
            exact List.mem_map.mpr ⟨job, hjob, if_pos howns.jobId⟩
          · refine Or.inl ?_
            rw [entriesOf, hpaid.ledger, List.filter_append, SettlementParties.entries_filter,
              if_neg hid, List.append_nil, entriesOf]
      | artifact s uuids task htask hterms hleased _ _ _ _ hpaid =>
          have htaskId : task.taskId = s.task.taskId := congrArg TaskTerms.taskId hterms
          by_cases hid : id = s.parties.jobId
          · refine Or.inr ⟨⟨task.item, List.mem_append_right _ (List.mem_map_of_mem htask),
              htaskId.trans hid.symm, ?_⟩,
              (s.completion.record task).item, ?_, htaskId.trans hid.symm, rfl⟩
            · cases hstatus : task.status <;>
                simp [hstatus, ArtifactTaskStatus.isLeased, ArtifactTaskRow.item] at hleased ⊢
            · refine List.mem_append_right _ (List.mem_map_of_mem ?_)
              rw [hpaid.tasks]
              exact List.mem_map.mpr ⟨task, htask, if_pos htaskId⟩
          · refine Or.inl ?_
            rw [entriesOf, hpaid.ledger, List.filter_append, SettlementParties.entries_filter,
              if_neg hid, List.append_nil, entriesOf]

/-! ## Jobs and tasks -/

/-- An item of a kept book has no entries or is completed and paid once. -/
theorem BookKept.exactlyOnce {drawn : List String} {db : MarketplaceDb} {item : WorkItem}
    (h : BookKept drawn db) (hconsistent : Consistent db) (hitem : item ∈ itemsOf db) :
    (entriesOf db item.id = [] ∨ item.IsPaidBy (entriesOf db item.id)) ∧
      (entriesOf db item.id ≠ [] ↔ item.isCompleted = true) ∧
      (item.isCompleted = true →
        serviceEvidenceOf db item.id + artifactEvidenceOf db item.id = 1) := by
  have hfind : (bookOf db).item item.id = some item :=
    (bookOf_item_eq_some hconsistent h.named).mpr ⟨hitem, rfl⟩
  have hiff : entriesOf db item.id ≠ [] ↔ item.isCompleted = true :=
    h.sound.entries_ne_nil_iff (fun _ _ => WorkItem.IsPaidBy.ne_nil) hfind
  refine ⟨?_, hiff, fun hcompleted => (h.sound.paid _ _ hfind hcompleted).receipts⟩
  by_cases hcompleted : item.isCompleted = true
  · exact Or.inr (h.sound.paid _ _ hfind hcompleted).entries
  · exact Or.inl (h.sound.clean_of_unsettled hfind hcompleted).entries

/-- Artifact evidence never refers to a job. -/
theorem BookKept.artifactEvidenceOf_job {drawn : List String} {db : MarketplaceDb}
    (h : BookKept drawn db) {job : InferenceJobRow} (hjob : job ∈ db.rows .inferenceJobs) :
    artifactEvidenceOf db job.jobId = 0 := by
  refine List.countP_eq_zero.mpr fun evidence hevidence hid => ?_
  obtain ⟨jobUuid, hjobId⟩ := h.named.jobs job hjob
  obtain ⟨taskUuid, htaskId⟩ := h.artifact evidence hevidence
  simp only [beq_iff_eq] at hid
  exact job_id_ne_task_id jobUuid taskUuid (by rw [← hjobId, ← htaskId, hid])

/-- Service evidence never refers to a task. -/
theorem BookKept.serviceEvidenceOf_task {drawn : List String} {db : MarketplaceDb}
    (h : BookKept drawn db) {task : ArtifactTaskRow} (htask : task ∈ db.rows .artifactTasks) :
    serviceEvidenceOf db task.taskId = 0 := by
  refine List.countP_eq_zero.mpr fun evidence hevidence hid => ?_
  obtain ⟨taskUuid, htaskId⟩ := h.named.tasks task htask
  obtain ⟨jobUuid, hjobId⟩ := h.service evidence hevidence
  simp only [beq_iff_eq] at hid
  exact job_id_ne_task_id jobUuid taskUuid (by rw [← hjobId, ← htaskId, hid])

/--
In every reachable state, a job or task has no ledger entries, or exactly those
of one settlement of its recorded charge; and it has entries exactly when it is
completed with one evidence row.
-/
theorem settlement_exactly_once (w : World) (hw : Reachable w) :
    (∀ job ∈ w.db.rows .inferenceJobs,
      (entriesOf w.db job.jobId = [] ∨ job.item.IsPaidBy (entriesOf w.db job.jobId)) ∧
        (entriesOf w.db job.jobId ≠ [] ↔
          job.status = .completed ∧ serviceEvidenceOf w.db job.jobId = 1)) ∧
    ∀ task ∈ w.db.rows .artifactTasks,
      (entriesOf w.db task.taskId = [] ∨ task.item.IsPaidBy (entriesOf w.db task.taskId)) ∧
        (entriesOf w.db task.taskId ≠ [] ↔
          task.status = .completed ∧ artifactEvidenceOf w.db task.taskId = 1) := by
  have hkept := hw.bookKept
  refine ⟨fun job hjob => ?_, fun task htask => ?_⟩
  · obtain ⟨hentries, hiff, hevidence⟩ := hkept.exactlyOnce hw.consistent
      (List.mem_append_left _ (List.mem_map_of_mem hjob))
    have hcompleted : job.item.isCompleted = true ↔ job.status = .completed := beq_iff_eq
    have hnone := hkept.artifactEvidenceOf_job hjob
    refine ⟨hentries, hiff.trans ⟨fun h => ⟨hcompleted.mp h, ?_⟩, fun h => hcompleted.mpr h.1⟩⟩
    have hsum := hevidence h
    simp only [InferenceJobRow.item, hnone] at hsum
    omega
  · obtain ⟨hentries, hiff, hevidence⟩ := hkept.exactlyOnce hw.consistent
      (List.mem_append_right _ (List.mem_map_of_mem htask))
    have hcompleted : task.item.isCompleted = true ↔ task.status = .completed := beq_iff_eq
    have hnone := hkept.serviceEvidenceOf_task htask
    refine ⟨hentries, hiff.trans ⟨fun h => ⟨hcompleted.mp h, ?_⟩, fun h => hcompleted.mpr h.1⟩⟩
    have hsum := hevidence h
    simp only [ArtifactTaskRow.item, hnone] at hsum
    omega

/-- The sample inference is paid. -/
theorem settlement_exactly_once_sample :
    ∃ job ∈ (sampleWorld 9).db.rows .inferenceJobs, job.status = .completed ∧
      job.item.IsPaidBy (entriesOf (sampleWorld 9).db job.jobId) := by
  have hany : ((sampleWorld 9).db.rows .inferenceJobs).any (fun job =>
      job.status == .completed && (entriesOf (sampleWorld 9).db job.jobId).length == 3) = true := by
    rw [show sampleWorld 9 = _ from sampleWorld_published 5]
    decide +kernel
  obtain ⟨job, hjob, hsel⟩ := List.any_eq_true.mp hany
  simp only [Bool.and_eq_true, beq_iff_eq] at hsel
  have hkept := ((settlement_exactly_once (sampleWorld 9) (sampleWorld_reachable 9)).1 job hjob).1
  refine ⟨job, hjob, hsel.1, hkept.resolve_left fun hnil => ?_⟩
  rw [hnil] at hsel
  simp at hsel

end Server
end TokenStreaming
