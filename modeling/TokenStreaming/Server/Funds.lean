import TokenStreaming.Server.Settlements
import TokenStreaming.Server.Footprints

/-!
# Control plane - No tenant spends what it does not have

The available balance of a tenant is what its ledger entries leave after the
reservations of its unfinished jobs and tasks.  It is never negative: the two
reservations bind at most what is available, a completion turns a reservation
into a charge that is no larger, and nothing else binds or spends.

Main results:

- Theorem {lit}`Commanded.hasFunds`: one statement outside of completions.
- Theorem {lit}`availableBalance_nonneg`: no tenant's balance is ever negative.
-/

namespace TokenStreaming
namespace Server

open Relational Domain TransitionSystem

/-! ## What rows hold and add -/

/-- No tenant has bound more than it has. -/
def HasFunds (db : MarketplaceDb) : Prop :=
  ∀ tenantId, 0 ≤ availableBalance db tenantId

/-- The tables of the balance decide it. -/
theorem availableBalance_congr {a b : MarketplaceDb} (tenantId : String)
    (hledger : b.rows .ledgerEntries = a.rows .ledgerEntries)
    (hjobs : b.rows .inferenceJobs = a.rows .inferenceJobs)
    (htasks : b.rows .artifactTasks = a.rows .artifactTasks) :
    availableBalance b tenantId = availableBalance a tenantId := by
  simp only [availableBalance, ledgerBalance, heldByInference, heldByArtifacts, hledger, hjobs,
    htasks]

theorem InferenceJobRow.heldFor_of_active {job : InferenceJobRow}
    (h : job.status.isActive = true) (tenantId : String) :
    job.heldFor tenantId = if job.buyerTenantId = tenantId then job.reservedChargeMicros else 0 := by
  simp [InferenceJobRow.heldFor, h]

theorem InferenceJobRow.heldFor_of_ended {job : InferenceJobRow}
    (h : job.status.isActive = false) (tenantId : String) : job.heldFor tenantId = 0 := by
  simp [InferenceJobRow.heldFor, h]

theorem ArtifactTaskRow.heldFor_of_active {task : ArtifactTaskRow}
    (h : task.status.holdsReservation = true) (tenantId : String) :
    task.heldFor tenantId =
      if task.buyerTenantId = tenantId then task.reservedChargeMicros else 0 := by
  simp [ArtifactTaskRow.heldFor, h]

theorem ArtifactTaskRow.heldFor_of_ended {task : ArtifactTaskRow}
    (h : task.status.holdsReservation = false) (tenantId : String) : task.heldFor tenantId = 0 := by
  simp [ArtifactTaskRow.heldFor, h]

/-- A leased task holds its reservation. -/
theorem ArtifactTaskStatus.holdsReservation_of_isLeased {status : ArtifactTaskStatus}
    (h : status.isLeased = true) : status.holdsReservation = true := by
  cases status <;> simp [ArtifactTaskStatus.isLeased, ArtifactTaskStatus.holdsReservation] at h ⊢

/-- A job never holds more than it did. -/
theorem JobMove.heldFor_le {a b : InferenceJobRow} (h : JobMove a b) (tenantId : String) :
    b.heldFor tenantId ≤ a.heldFor tenantId := by
  have hterms := h.terms
  simp only [InferenceJobRow.terms, JobTerms.mk.injEq] at hterms
  obtain ⟨-, hbuyer, -, -, -, -, -, hreserved, -⟩ := hterms
  unfold InferenceJobRow.heldFor
  rw [hbuyer, hreserved]
  split
  · rename_i hb
    rw [if_pos ⟨hb.1, h.status.isActive_mono hb.2⟩]
  · exact Nat.zero_le _

/-- A task never holds more than it did. -/
theorem TaskMove.heldFor_le {a b : ArtifactTaskRow} (h : TaskMove a b) (tenantId : String) :
    b.heldFor tenantId ≤ a.heldFor tenantId := by
  have hterms := h.terms
  simp only [ArtifactTaskRow.terms, TaskTerms.mk.injEq] at hterms
  obtain ⟨-, hbuyer, -, -, -, -, -, -, -, -, -, hreserved, -⟩ := hterms
  unfold ArtifactTaskRow.heldFor
  rw [hbuyer, hreserved]
  split
  · rename_i hb
    have hover := LeasedWork.reach_isOver_mono h.phase (by rw [b.phase_isOver, hb.2]; rfl)
    rw [a.phase_isOver, Bool.not_eq_false'] at hover
    rw [if_pos ⟨hb.1, hover⟩]
  · exact Nat.zero_le _

/-- The balance a list of entries amounts to. -/
theorem ledgerBalance_append {a b : MarketplaceDb} {added : List LedgerEntryRow}
    (h : b.rows .ledgerEntries = a.rows .ledgerEntries ++ added) (tenantId : String) :
    ledgerBalance b tenantId =
      ledgerBalance a tenantId + (added.map (LedgerEntryRow.signedFor tenantId)).sum := by
  simp only [ledgerBalance, h, List.map_append, List.sum_append]

/-- A settlement takes its charge from the buyer and from nobody else. -/
theorem SettlementParties.signedFor_entries (p : SettlementParties) (uuids : CompletionUuids)
    (amounts : SettlementAmounts) (tenantId : String) :
    -(if p.buyerTenantId = tenantId then (amounts.buyerChargeMicros : Int) else 0) ≤
      ((p.entries uuids amounts).map (LedgerEntryRow.signedFor tenantId)).sum := by
  have hdebit : -(if p.buyerTenantId = tenantId then (amounts.buyerChargeMicros : Int) else 0) =
      (p.debit uuids.debit amounts.buyerChargeMicros).signedFor tenantId := by
    by_cases htenant : p.buyerTenantId = tenantId
    · simp [LedgerEntryRow.signedFor, SettlementParties.debit, htenant]
    · simp [LedgerEntryRow.signedFor, SettlementParties.debit, htenant]
  have hcredit : 0 ≤ (p.credit uuids.credit amounts.supplierCreditMicros).signedFor tenantId := by
    simp only [LedgerEntryRow.signedFor, SettlementParties.credit]
    split <;> simp
  have hfee : 0 ≤ (p.fee uuids.fee amounts.platformFeeMicros).signedFor tenantId := by
    simp only [LedgerEntryRow.signedFor, SettlementParties.fee]
    split <;> simp
  rw [hdebit, SettlementParties.entries]
  by_cases hzero : amounts.platformFeeMicros = 0
  · rw [if_pos hzero]
    simp only [List.append_nil, List.map_cons, List.map_nil, List.sum_cons, List.sum_nil]
    omega
  · rw [if_neg hzero]
    simp only [List.cons_append, List.nil_append, List.map_cons, List.map_nil, List.sum_cons,
      List.sum_nil]
    omega

/-! ## Statements outside of completions -/

/-- Statements that bind nothing keep the funds. -/
theorem HasFunds.of_le {a b : MarketplaceDb} (h : HasFunds a)
    (hle : ∀ tenantId, ledgerBalance a tenantId ≤ ledgerBalance b tenantId)
    (hjobs : ∀ tenantId, heldByInference b tenantId ≤ heldByInference a tenantId)
    (htasks : ∀ tenantId, heldByArtifacts b tenantId ≤ heldByArtifacts a tenantId) :
    HasFunds b := by
  intro tenantId
  have hbefore := h tenantId
  have hledger := hle tenantId
  have hjob := hjobs tenantId
  have htask := htasks tenantId
  unfold availableBalance at *
  omega

/-- A statement outside of a completion keeps the funds. -/
theorem Commanded.hasFunds {w : World} {t : MarketplaceTable} {s : MarketplaceStatement}
    (hcommanded : Commanded w t s) {a b : MarketplaceDb} (h : HasFunds a)
    (hs : s.apply a = some b) : HasFunds b := by
  have hframe : ∀ u, u ≠ t → b.rows u = a.rows u := by
    intro u hu
    refine Statement.apply_rows_of_ne hs ?_
    rwa [hcommanded.table_eq]
  have hledger : t ≠ .ledgerEntries → ∀ tenantId, ledgerBalance b tenantId =
      ledgerBalance a tenantId := fun ht tenantId => by
    rw [ledgerBalance, ledgerBalance, hframe _ (Ne.symm ht)]
  have hjobs : t ≠ .inferenceJobs → ∀ tenantId, heldByInference b tenantId =
      heldByInference a tenantId := fun ht tenantId => by
    rw [heldByInference, heldByInference, hframe _ (Ne.symm ht)]
  have htasks : t ≠ .artifactTasks → ∀ tenantId, heldByArtifacts b tenantId =
      heldByArtifacts a tenantId := fun ht tenantId => by
    rw [heldByArtifacts, heldByArtifacts, hframe _ (Ne.symm ht)]
  by_cases htJobs : t = .inferenceJobs
  · subst htJobs
    cases hcommanded.jobStatement with
    | reserve job offer d hnew _ _ =>
        rcases Statement.insertOrIgnore_cases hs rfl with rfl | ⟨hguard, -, heq⟩
        · exact h
        -- the guard compares the reservation with the balance it reduces
        simp only [Bool.and_eq_true, decide_eq_true_eq] at hguard
        intro tenantId
        have hheld : heldByInference b tenantId =
            heldByInference a tenantId + job.heldFor tenantId := by
          simp [heldByInference, heq]
        have hbefore := h tenantId
        have hledgerSame := hledger (by decide) tenantId
        have htasksSame := htasks (by decide) tenantId
        unfold availableBalance at *
        by_cases htenant : job.buyerTenantId = tenantId
        · subst htenant
          have hle : job.heldFor job.buyerTenantId ≤ job.reservedChargeMicros := by
            unfold InferenceJobRow.heldFor
            split <;> omega
          omega
        · have hzero : job.heldFor tenantId = 0 := if_neg fun hboth => htenant hboth.1
          omega
    | quiet selects assign hquiet =>
        refine h.of_le (fun tenantId => (hledger (by decide) tenantId).ge) (fun tenantId => ?_)
          fun tenantId => (htasks (by decide) tenantId).le
        unfold heldByInference
        rw [Statement.update_rows hs, List.map_map]
        refine List.sum_le_sum fun job _ => ?_
        simp only [Function.comp_apply]
        split
        · rename_i hsel
          exact (hquiet a job hsel).heldFor_le tenantId
        · exact le_rfl
  by_cases htTasks : t = .artifactTasks
  · subst htTasks
    have hmoves : ∀ {New : ArtifactTaskRow → Prop}, (∀ tenantId, ∀ r, New r →
        r.heldFor tenantId = 0) →
        Evolves TaskMove New (a.rows .artifactTasks) (b.rows .artifactTasks) → HasFunds b := by
      intro New hnew hevolves
      refine h.of_le (fun tenantId => (hledger (by decide) tenantId).ge)
        (fun tenantId => (hjobs (by decide) tenantId).le) fun tenantId => ?_
      exact hevolves.sum_le (fun _ _ _ hmove => hmove.heldFor_le tenantId) (hnew tenantId)
    cases hcommanded.taskStatement with
    | reserve task d maximumActiveTasks hnew _ _ =>
        rcases Statement.insertOrIgnore_cases hs rfl with rfl | ⟨hguard, -, heq⟩
        · exact h
        simp only [Bool.and_eq_true, decide_eq_true_eq] at hguard
        obtain ⟨-, hfunds⟩ := hguard
        intro tenantId
        have hheld : heldByArtifacts b tenantId =
            heldByArtifacts a tenantId + task.heldFor tenantId := by
          simp [heldByArtifacts, heq]
        have hbefore := h tenantId
        have hledgerSame := hledger (by decide) tenantId
        have hjobsSame := hjobs (by decide) tenantId
        unfold availableBalance at *
        by_cases htenant : task.buyerTenantId = tenantId
        · subst htenant
          have hle : task.heldFor task.buyerTenantId ≤ task.reservedChargeMicros := by
            unfold ArtifactTaskRow.heldFor
            split <;> omega
          omega
        · have hzero : task.heldFor tenantId = 0 := if_neg fun hboth => htenant hboth.1
          omega
    | claim c =>
        exact hmoves (fun _ _ hfalse => False.elim hfalse)
          (claimArtifactTaskSql_move c b hs)
    | quiet selects assign hquiet =>
        refine hmoves (fun _ _ hfalse => False.elim hfalse) ?_
        exact Statement.update_respects TaskMove.refl
          (fun r _ hr => (hquiet a r hr).toTaskMove) b hs
  by_cases htLedger : t = .ledgerEntries
  · subst htLedger
    refine h.of_le (fun tenantId => ?_) (fun tenantId => (hjobs htJobs tenantId).le)
      fun tenantId => (htasks htTasks tenantId).le
    cases hcommanded with
    | routine hroutine =>
        cases hroutine with
        | free _ hfree => simp [freeTables] at hfree
        | welcomeCredit owner welcomeCreditMicros now =>
            rcases Statement.insertOrIgnore_singleton hs rfl with ⟨-, heq⟩ | ⟨-, rfl⟩
            · have hrows : b.rows .ledgerEntries = a.rows .ledgerEntries ++
                  [welcomeEntry owner welcomeCreditMicros now] := by
                rw [heq, Database.withRows_rows]
              have hcredit : 0 ≤ (welcomeEntry owner welcomeCreditMicros now).signedFor tenantId := by
                simp only [LedgerEntryRow.signedFor, welcomeEntry]
                split <;> simp
              rw [ledgerBalance_append hrows tenantId]
              simp only [List.map_cons, List.map_nil, List.sum_cons, List.sum_nil]
              omega
            · exact le_rfl
  · exact h.of_le (fun tenantId => (hledger htLedger tenantId).ge)
      (fun tenantId => (hjobs htJobs tenantId).le) fun tenantId => (htasks htTasks tenantId).le

/-! ## Completions -/

/-- A completion turns a reservation into a charge that is no larger. -/
theorem Completed.hasFunds {w : World} {call : Call} {b : MarketplaceDb}
    (hcompleted : Completed w call b) (h : HasFunds w.db) : HasFunds b := by
  intro tenantId
  have hbefore := h tenantId
  cases hcompleted with
  | inference s uuids job hjob howns hrunning hcharge _ _ hpaid =>
      have hentries := SettlementParties.signedFor_entries s.parties uuids s.amounts tenantId
      have hledger := ledgerBalance_append hpaid.ledger tenantId
      have htasks : heldByArtifacts b tenantId = heldByArtifacts w.db tenantId := by
        rw [heldByArtifacts, heldByArtifacts, hpaid.tasks]
      have hbuyer : s.parties.buyerTenantId = job.buyerTenantId := howns.buyer.symm
      have hended : ∀ other, (s.completion.record other).heldFor tenantId = 0 := fun other =>
        InferenceJobRow.heldFor_of_ended rfl tenantId
      have hactive : job.status.isActive = true := by
        rw [hrunning]
        rfl
      have hreleased : heldByInference b tenantId +
          (if job.buyerTenantId = tenantId then s.amounts.buyerChargeMicros else 0) ≤
            heldByInference w.db tenantId := by
        unfold heldByInference
        rw [hpaid.jobs, List.map_map]
        refine sum_map_add_le (r := job) (fun other _ => ?_) hjob ?_
        · simp only [Function.comp_apply]
          split
          · rw [hended]
            exact Nat.zero_le _
          · exact le_rfl
        · rw [Function.comp_apply, if_pos howns.jobId, hended,
            InferenceJobRow.heldFor_of_active hactive]
          split <;> omega
      rw [hbuyer] at hentries
      unfold availableBalance at *
      split at hreleased <;> rename_i htenant
      · rw [if_pos htenant] at hentries
        omega
      · rw [if_neg htenant] at hentries
        omega
  | artifact s uuids task htask hterms hleased _ hcharge _ _ hpaid =>
      have hentries := SettlementParties.signedFor_entries s.parties uuids s.amounts tenantId
      have hledger := ledgerBalance_append hpaid.ledger tenantId
      have hjobs : heldByInference b tenantId = heldByInference w.db tenantId := by
        rw [heldByInference, heldByInference, hpaid.jobs]
      have hid : task.taskId = s.task.taskId := congrArg TaskTerms.taskId hterms
      have hbuyer : s.parties.buyerTenantId = task.buyerTenantId :=
        (congrArg TaskTerms.buyerTenantId hterms).symm
      have hended : ∀ other, (s.completion.record other).heldFor tenantId = 0 := fun other =>
        ArtifactTaskRow.heldFor_of_ended rfl tenantId
      have hreleased : heldByArtifacts b tenantId +
          (if task.buyerTenantId = tenantId then s.amounts.buyerChargeMicros else 0) ≤
            heldByArtifacts w.db tenantId := by
        unfold heldByArtifacts
        rw [hpaid.tasks, List.map_map]
        refine sum_map_add_le (r := task) (fun other _ => ?_) htask ?_
        · simp only [Function.comp_apply]
          split
          · rw [hended]
            exact Nat.zero_le _
          · exact le_rfl
        · rw [Function.comp_apply, if_pos hid, hended, ArtifactTaskRow.heldFor_of_active
            (ArtifactTaskStatus.holdsReservation_of_isLeased hleased)]
          split <;> omega
      rw [hbuyer] at hentries
      unfold availableBalance at *
      split at hreleased <;> rename_i htenant
      · rw [if_pos htenant] at hentries
        omega
      · rw [if_neg htenant] at hentries
        omega

/-! ## Every reachable state -/

theorem step_hasFunds {w : World} (hw : Reachable w) (call : Call) (h : HasFunds w.db) :
    HasFunds (step w call).db := by
  cases hw.settled hw.bookKept call with
  | idle hdb =>
      rw [hdb]
      exact h
  | clock instant hdb =>
      rw [hdb]
      exact h
  | command batch hcommand hrun =>
      exact hcommand.preserves hw.sound hrun
        (fun _ _ _ _ hcommanded _ _ hfunds hs => hcommanded.hasFunds hfunds hs) h
  | completed hcompleted _ => exact hcompleted.hasFunds h

/--
After every run, for every tenant, the credits less the debits of its ledger
cover what its reserved and running jobs and its queued, claimed and running
tasks reserve.
-/
theorem availableBalance_nonneg (w : World) (hw : Reachable w) (tenantId : String) :
    0 ≤ availableBalance w.db tenantId := by
  refine hw.induction (P := fun w => HasFunds w.db) (fun clock deployment => ?_)
    (fun w call hw ih => step_hasFunds hw call ih) tenantId
  intro tenantId
  simp [World.start, MarketplaceDb.empty, availableBalance, ledgerBalance, heldByInference,
    heldByArtifacts]

/-- The sample buyer has spent a part of its welcome credit. -/
theorem availableBalance_nonneg_sample :
    availableBalance (sampleWorld 9).db "tenant-buyer" = 99999940 ∧
      0 ≤ availableBalance (sampleWorld 9).db "tenant-buyer" := by
  refine ⟨?_, availableBalance_nonneg (sampleWorld 9) (sampleWorld_reachable 9) "tenant-buyer"⟩
  rw [show sampleWorld 9 = _ from sampleWorld_published 5]
  decide +kernel

end Server
end TokenStreaming
