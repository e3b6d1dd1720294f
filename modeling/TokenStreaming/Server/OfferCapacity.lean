import TokenStreaming.Server.Reachability
import TokenStreaming.Server.Footprints

/-!
# Control plane - Offer concurrency

Inference occupies an offer from its reservation on, artifact work from its
claim on, and each of the two admissions counts the rows of both tables.  The
invariant is that no offer is occupied beyond its concurrency limit.

Main results:

- Theorem {lit}`Issued.offerCapacity`: no statement exceeds an offer's limit.
- Theorem {lit}`offer_load_le_concurrency`: nor does any run.
-/

namespace TokenStreaming
namespace Server

open Relational Domain TransitionSystem

/-- The executions that occupy an offer. -/
def offerLoad (db : MarketplaceDb) (offerId : String) : Nat :=
  activeInference db offerId + activeArtifacts db offerId

/-- Work refers to stored offers and occupies none of them beyond its limit. -/
structure OfferCapacity (db : MarketplaceDb) : Prop where
  jobs : ∀ job ∈ db.rows .inferenceJobs, ∃ o ∈ db.rows .capacityOffers, o.offerId = job.offerId
  tasks : ∀ task ∈ db.rows .artifactTasks,
    ∃ o ∈ db.rows .capacityOffers, o.offerId = task.offerId
  bounded : ∀ o ∈ db.rows .capacityOffers, offerLoad db o.offerId ≤ o.concurrency

theorem OfferCapacity.empty (clock : Nat) : OfferCapacity (.empty clock) :=
  ⟨by simp [MarketplaceDb.empty], by simp [MarketplaceDb.empty], by simp [MarketplaceDb.empty]⟩

/-- The three tables the invariant reads decide it. -/
theorem OfferCapacity.of_rows {a b : MarketplaceDb} (h : OfferCapacity a)
    (hoffers : b.rows .capacityOffers = a.rows .capacityOffers)
    (hjobs : b.rows .inferenceJobs = a.rows .inferenceJobs)
    (htasks : b.rows .artifactTasks = a.rows .artifactTasks) : OfferCapacity b where
  jobs := by rw [hjobs, hoffers]; exact h.jobs
  tasks := by rw [htasks, hoffers]; exact h.tasks
  bounded := by
    intro o ho
    rw [hoffers] at ho
    simpa [offerLoad, activeInference, activeArtifacts, hjobs, htasks] using h.bounded o ho

/-! ## Publication -/

/-- A new offer is not occupied. -/
theorem publishOffer_capacity {offer : OfferRow} {commandId : String}
    {authorizationRevision supplierVersion : Nat} {a b : MarketplaceDb} (h : OfferCapacity a)
    (hs : (createCapacityOfferWithAuthorizationCasSql offer commandId authorizationRevision
      supplierVersion).apply a = some b) : OfferCapacity b := by
  rcases Statement.insert_cases hs rfl with ⟨-, rfl⟩ | ⟨-, hfresh, rfl⟩
  · exact h
  have hne : ∀ o ∈ a.rows .capacityOffers, o.offerId ≠ offer.offerId := by
    intro o ho heq
    have hclash := hfresh o ho
    simp [clashes, marketplaceKeys, heq] at hclash
  refine ⟨fun job hjob => ?_, fun task htask => ?_, fun o ho => ?_⟩
  · rw [Database.withRows_rows_ne _ _ (by decide)] at hjob
    obtain ⟨o, ho, hid⟩ := h.jobs job hjob
    exact ⟨o, by simp [ho], hid⟩
  · rw [Database.withRows_rows_ne _ _ (by decide)] at htask
    obtain ⟨o, ho, hid⟩ := h.tasks task htask
    exact ⟨o, by simp [ho], hid⟩
  · rw [Database.withRows_rows] at ho
    have hload : ∀ offerId, offerLoad (a.withRows .capacityOffers
        (a.rows .capacityOffers ++ [offer])) offerId = offerLoad a offerId := by
      intro offerId
      simp [offerLoad, activeInference, activeArtifacts]
    rw [hload]
    rcases List.mem_append.mp ho with ho | ho
    · exact h.bounded o ho
    · obtain rfl := List.mem_singleton.mp ho
      have hjobs : activeInference a o.offerId = 0 := by
        refine List.countP_eq_zero.mpr fun job hjob hp => ?_
        obtain ⟨other, hother, hid⟩ := h.jobs job hjob
        simp only [Bool.and_eq_true, beq_iff_eq] at hp
        exact hne other hother (hid.trans hp.1)
      have htasks : activeArtifacts a o.offerId = 0 := by
        refine List.countP_eq_zero.mpr fun task htask hp => ?_
        obtain ⟨other, hother, hid⟩ := h.tasks task htask
        simp only [Bool.and_eq_true, beq_iff_eq] at hp
        exact hne other hother (hid.trans hp.1)
      simp [offerLoad, hjobs, htasks]

/-! ## Inference -/

/-- Moves of jobs free offers only. -/
theorem jobMoves_capacity {a b : MarketplaceDb} (h : OfferCapacity a)
    (hjobs : Evolves JobMove (fun _ => False) (a.rows .inferenceJobs) (b.rows .inferenceJobs))
    (hoffers : b.rows .capacityOffers = a.rows .capacityOffers)
    (htasks : b.rows .artifactTasks = a.rows .artifactTasks) : OfferCapacity b := by
  have hid : ∀ {x y : InferenceJobRow}, JobMove x y → y.offerId = x.offerId :=
    fun hm => congrArg JobTerms.offerId hm.terms
  refine ⟨fun job hjob => ?_, fun task htask => ?_, fun o ho => ?_⟩
  · rcases hjobs.of_mem_new hjob with ⟨old, hold, hmove⟩ | hnone
    · rw [hoffers, hid hmove]
      exact h.jobs old hold
    · exact hnone.elim
  · rw [htasks] at htask
    rw [hoffers]
    exact h.tasks task htask
  · rw [hoffers] at ho
    have hle : activeInference b o.offerId ≤ activeInference a o.offerId := by
      refine hjobs.countP_le (fun x y _ hmove hp => ?_) fun _ hnone => hnone.elim
      simp only [Bool.and_eq_true, beq_iff_eq] at hp ⊢
      exact ⟨(hid hmove).symm.trans hp.1, hmove.status.isActive_mono hp.2⟩
    have hbound := h.bounded o ho
    simp only [offerLoad, activeArtifacts, htasks] at hbound ⊢
    omega

/-- A reservation is admitted only below the limit of its offer. -/
theorem reserveInference_capacity {job : InferenceJobRow} {d : OfferDemand} {offer : OfferRow}
    {a b : MarketplaceDb} (hconsistent : Consistent a) (h : OfferCapacity a)
    (hoffer : offer ∈ a.rows .capacityOffers) (hid : job.offerId = offer.offerId)
    (hs : (reserveInferenceJobSql job d offer.concurrency).apply a = some b) :
    OfferCapacity b := by
  rcases Statement.insertOrIgnore_cases hs rfl with rfl | ⟨hguard, -, rfl⟩
  · exact h
  simp only [Bool.and_eq_true, decide_eq_true_eq] at hguard
  refine ⟨fun other hother => ?_, fun task htask => ?_, fun o ho => ?_⟩
  · rw [Database.withRows_rows] at hother
    rw [Database.withRows_rows_ne _ _ (by decide)]
    rcases List.mem_append.mp hother with hold | hnew
    · exact h.jobs other hold
    · rw [List.mem_singleton.mp hnew]
      exact ⟨offer, hoffer, hid.symm⟩
  · rw [Database.withRows_rows_ne _ _ (by decide)] at htask ⊢
    exact h.tasks task htask
  · rw [Database.withRows_rows_ne _ _ (by decide)] at ho
    have hold := h.bounded o ho
    have hload : offerLoad (a.withRows .inferenceJobs (a.rows .inferenceJobs ++ [job])) o.offerId =
        offerLoad a o.offerId + if job.offerId = o.offerId ∧ job.status.isActive = true then 1
          else 0 := by
      simp only [offerLoad, activeInference, activeArtifacts, Database.withRows_rows, ne_eq,
        reduceCtorEq, not_false_eq_true, Database.withRows_rows_ne, List.countP_append,
        List.countP_singleton, Bool.and_eq_true, beq_iff_eq]
      omega
    rw [hload]
    split
    · rename_i hjob
      obtain rfl : o = offer := offer_unique hconsistent ho hoffer (hjob.1.symm.trans hid)
      have hroom := hguard.2
      rw [hid] at hroom
      exact hroom
    · exact hold

/-! ## Artifacts -/

/-- Updates of tasks that lease none free offers only. -/
theorem taskMoves_capacity {a b : MarketplaceDb} (h : OfferCapacity a)
    (htasks : Evolves (fun x y => y.offerId = x.offerId ∧
      (y.status.isLeased = true → x.status.isLeased = true)) (fun _ => False)
      (a.rows .artifactTasks) (b.rows .artifactTasks))
    (hoffers : b.rows .capacityOffers = a.rows .capacityOffers)
    (hjobs : b.rows .inferenceJobs = a.rows .inferenceJobs) : OfferCapacity b := by
  refine ⟨fun job hjob => ?_, fun task htask => ?_, fun o ho => ?_⟩
  · rw [hjobs] at hjob
    rw [hoffers]
    exact h.jobs job hjob
  · rcases htasks.of_mem_new htask with ⟨old, hold, hmove⟩ | hnone
    · rw [hoffers, hmove.1]
      exact h.tasks old hold
    · exact hnone.elim
  · rw [hoffers] at ho
    have hle : activeArtifacts b o.offerId ≤ activeArtifacts a o.offerId := by
      refine htasks.countP_le (fun x y _ hmove hp => ?_) fun _ hnone => hnone.elim
      simp only [Bool.and_eq_true, beq_iff_eq] at hp ⊢
      exact ⟨hmove.1.symm.trans hp.1, hmove.2 hp.2⟩
    have hbound := h.bounded o ho
    simp only [offerLoad, activeInference, hjobs] at hbound ⊢
    omega

/-- A new task waits and occupies nothing. -/
theorem reserveTask_capacity {task : ArtifactTaskRow} {d : OfferDemand} {maximumActiveTasks : Nat}
    {a b : MarketplaceDb} (h : OfferCapacity a) (hid : d.offerId = task.offerId)
    (hqueued : task.status = .queued)
    (hs : (reserveArtifactTaskSql task d maximumActiveTasks).apply a = some b) :
    OfferCapacity b := by
  rcases Statement.insertOrIgnore_cases hs rfl with rfl | ⟨hguard, -, rfl⟩
  · exact h
  simp only [Bool.and_eq_true] at hguard
  obtain ⟨⟨⟨-, hadmits⟩, -⟩, -⟩ := hguard
  simp only [offerAdmits, List.any_eq_true, Bool.and_eq_true, beq_iff_eq] at hadmits
  obtain ⟨offer, hoffer, supplier, -, authorization, -, hjoin⟩ := hadmits
  have hofferId : offer.offerId = d.offerId := by
    simp only [and_assoc] at hjoin
    exact hjoin.2.1
  refine ⟨fun job hjob => ?_, fun other hother => ?_, fun o ho => ?_⟩
  · rw [Database.withRows_rows_ne _ _ (by decide)] at hjob ⊢
    exact h.jobs job hjob
  · rw [Database.withRows_rows] at hother
    rw [Database.withRows_rows_ne _ _ (by decide)]
    rcases List.mem_append.mp hother with hold | hnew
    · exact h.tasks other hold
    · rw [List.mem_singleton.mp hnew]
      exact ⟨offer, hoffer, hofferId.trans hid⟩
  · rw [Database.withRows_rows_ne _ _ (by decide)] at ho
    have hload : offerLoad (a.withRows .artifactTasks (a.rows .artifactTasks ++ [task])) o.offerId =
        offerLoad a o.offerId := by
      simp [offerLoad, activeInference, activeArtifacts, List.countP_append, hqueued,
        ArtifactTaskStatus.isLeased]
    rw [hload]
    exact h.bounded o ho

/-- A claim is admitted only below the limit of the task's offer. -/
theorem claimTask_capacity {c : TaskClaim} {a b : MarketplaceDb} (hconsistent : Consistent a)
    (h : OfferCapacity a) (hs : (claimArtifactTaskSql c).apply a = some b) : OfferCapacity b := by
  have hrows := Statement.update_rows hs
  have hoffers : b.rows .capacityOffers = a.rows .capacityOffers :=
    Statement.apply_rows_of_ne hs MarketplaceTable.noConfusion
  have hjobs : b.rows .inferenceJobs = a.rows .inferenceJobs :=
    Statement.apply_rows_of_ne hs MarketplaceTable.noConfusion
  refine ⟨fun job hjob => ?_, fun task htask => ?_, fun o ho => ?_⟩
  · rw [hjobs] at hjob
    rw [hoffers]
    exact h.jobs job hjob
  · rw [hrows] at htask
    obtain ⟨old, hold, rfl⟩ := List.mem_map.mp htask
    obtain ⟨o, ho, hid⟩ := h.tasks old hold
    refine ⟨o, by rwa [hoffers], ?_⟩
    rw [hid]
    split <;> rfl
  · rw [hoffers] at ho
    -- only the claimed task enters the count of its offer
    let entering : ArtifactTaskRow → Bool := fun t =>
      t.taskId == c.taskId && t.offerId == o.offerId && c.offerHasRoom a t
    have hcount : activeArtifacts b o.offerId ≤
        activeArtifacts a o.offerId + (a.rows .artifactTasks).countP entering := by
      unfold activeArtifacts
      rw [hrows]
      refine countP_map_le fun t ht hp => ?_
      split at hp
      · rename_i hsel
        simp only [Bool.and_eq_true, beq_iff_eq] at hsel hp
        right
        simp only [entering, Bool.and_eq_true, beq_iff_eq]
        exact ⟨⟨hsel.1.1.1.1.1.1, hp.1⟩, hsel.1.2⟩
      · exact Or.inl hp
    have hone : (a.rows .artifactTasks).countP entering ≤ 1 := by
      refine (hconsistent .artifactTasks).countP_le_one (k := .primaryKey c.taskId)
        fun t _ ht => ?_
      simp only [entering, Bool.and_eq_true, beq_iff_eq] at ht
      simp [marketplaceKeys, ht.1.1]
    have hload : offerLoad b o.offerId ≤
        offerLoad a o.offerId + (a.rows .artifactTasks).countP entering := by
      simp only [offerLoad, activeInference, hjobs]
      omega
    by_cases hnone : (a.rows .artifactTasks).countP entering = 0
    · have hbound := h.bounded o ho
      omega
    · obtain ⟨t, -, ht⟩ := List.countP_pos_iff.mp (Nat.pos_of_ne_zero hnone)
      simp only [entering, Bool.and_eq_true, beq_iff_eq] at ht
      have hroom := ht.2
      simp only [TaskClaim.offerHasRoom, List.any_eq_true, Bool.and_eq_true, beq_iff_eq,
        decide_eq_true_eq] at hroom
      obtain ⟨offer, hoffer, supplier, -, authorization, -, hjoin, hless⟩ := hroom
      simp only [and_assoc] at hjoin
      obtain rfl : offer = o :=
        offer_unique hconsistent hoffer ho (hjoin.2.2.2.2.1.trans ht.1.2)
      rw [ht.1.2] at hless
      unfold offerLoad at hload ⊢
      omega

/-! ## All statements -/

/-- No statement occupies an offer beyond its limit. -/
theorem Issued.offerCapacity {w : World} {t : MarketplaceTable} {s : MarketplaceStatement}
    (hissued : Issued w t s) (hsound : w.Sound) {a b : MarketplaceDb}
    (hconsistent : Consistent a) (hfollows : Follows w.db a) (h : OfferCapacity a)
    (hs : s.apply a = some b) : OfferCapacity b := by
  have hframe : ∀ u, u ≠ t → b.rows u = a.rows u := by
    intro u hu
    refine Statement.apply_rows_of_ne hs ?_
    rwa [hissued.table_eq]
  by_cases hoffers : t = .capacityOffers
  · subst hoffers
    cases hissued with
    | commanded hcommanded =>
        cases hcommanded with
        | routine hroutine =>
            cases hroutine with
            | free _ hfree => simp [freeTables] at hfree
            | publishOffer offer commandId revision supplierVersion =>
                exact publishOffer_capacity h hs
  by_cases hjobs : t = .inferenceJobs
  · subst hjobs
    rcases hissued.job_cases with hstatement | ⟨c, rfl⟩
    · cases hstatement with
      | reserve job offer d hnew hoffer hid =>
          obtain ⟨snap, hsnap, hmem⟩ := hoffer
          have hstored : offer ∈ a.rows .capacityOffers :=
            hfollows.mem rfl ((hsound.follows snap hsnap).mem rfl hmem)
          exact reserveInference_capacity hconsistent h hstored (hnew.offer.trans hid.symm) hs
      | quiet selects assign hquiet =>
          refine jobMoves_capacity h ?_ (hframe _ (by decide)) (hframe _ (by decide))
          exact Statement.update_respects JobMove.refl (fun r _ hr => (hquiet a r hr).toJobMove)
            b hs
    · exact jobMoves_capacity h (completeInferenceJobSql_move c b hs) (hframe _ (by decide))
        (hframe _ (by decide))
  by_cases htasks : t = .artifactTasks
  · subst htasks
    rcases hissued.task_cases with hstatement | ⟨c, rfl⟩
    · cases hstatement with
      | reserve task d maximumActiveTasks hnew hoffer _ =>
          exact reserveTask_capacity h hoffer hnew.status hs
      | claim c => exact claimTask_capacity hconsistent h hs
      | quiet selects assign hquiet =>
          refine taskMoves_capacity h ?_ (hframe _ (by decide)) (hframe _ (by decide))
          refine Statement.update_respects (fun r => ⟨rfl, id⟩) (fun r _ hr => ?_) b hs
          exact ⟨congrArg TaskTerms.offerId (hquiet a r hr).terms, (hquiet a r hr).notLeased⟩
    · refine taskMoves_capacity h ?_ (hframe _ (by decide)) (hframe _ (by decide))
      refine Statement.update_respects (fun r => ⟨rfl, id⟩) (fun r _ hr => ⟨rfl, fun hl => ?_⟩) b hs
      simp [ArtifactCompletion.record, ArtifactTaskStatus.isLeased] at hl
  · exact h.of_rows (hframe _ fun heq => hoffers heq.symm) (hframe _ fun heq => hjobs heq.symm)
      (hframe _ fun heq => htasks heq.symm)

theorem Reachable.offerCapacity {w : World} (h : Reachable w) : OfferCapacity w.db := by
  refine h.snapshots OfferCapacity.empty ?_ ?_ w.db w.db_mem
  · exact fun _ _ hcapacity => hcapacity.of_rows rfl rfl rfl
  · intro w call batch db hw hold hsent hrun _
    exact hsent.preserves hw.sound hrun
      (fun _ _ _ _ hissued hconsistent hfollows hcapacity hs =>
        hissued.offerCapacity hw.sound hconsistent hfollows hcapacity hs)
      (hold _ w.db_mem)

/-- In every reachable state, no offer is occupied beyond its concurrency limit. -/
theorem offer_load_le_concurrency (w : World) (h : Reachable w) :
    ∀ o ∈ w.db.rows .capacityOffers,
      (w.db.rows .inferenceJobs).countP (fun job =>
          decide (job.offerId = o.offerId ∧ (job.status = .reserved ∨ job.status = .running))) +
        (w.db.rows .artifactTasks).countP (fun task =>
          decide (task.offerId = o.offerId ∧
            (task.status = .claimed ∨ task.status = .running))) ≤ o.concurrency := by
  intro o ho
  have hbound := h.offerCapacity.bounded o ho
  have hjobs : (w.db.rows .inferenceJobs).countP (fun job =>
      decide (job.offerId = o.offerId ∧ (job.status = .reserved ∨ job.status = .running))) =
      activeInference w.db o.offerId := by
    refine List.countP_congr fun job _ => ?_
    simp [InferenceJobStatus.isActive]
  have htasks : (w.db.rows .artifactTasks).countP (fun task =>
      decide (task.offerId = o.offerId ∧ (task.status = .claimed ∨ task.status = .running))) =
      activeArtifacts w.db o.offerId := by
    refine List.countP_congr fun task _ => ?_
    simp [ArtifactTaskStatus.isLeased]
  rw [hjobs, htasks]
  exact hbound

/-- The sample offer is occupied by the running inference. -/
theorem offer_load_le_concurrency_sample :
    ((sampleWorld 8).db.rows .capacityOffers).any (fun o => decide (o.concurrency = 2)) = true ∧
      ∀ o ∈ (sampleWorld 8).db.rows .capacityOffers,
        ((sampleWorld 8).db.rows .inferenceJobs).countP (fun job =>
            decide (job.offerId = o.offerId ∧ (job.status = .reserved ∨ job.status = .running))) +
          ((sampleWorld 8).db.rows .artifactTasks).countP (fun task =>
            decide (task.offerId = o.offerId ∧
              (task.status = .claimed ∨ task.status = .running))) ≤ o.concurrency := by
  refine ⟨?_, offer_load_le_concurrency (sampleWorld 8) (sampleWorld_reachable 8)⟩
  rw [show sampleWorld 8 = _ from sampleWorld_published 4]
  decide +kernel

end Server
end TokenStreaming
