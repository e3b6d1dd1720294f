import TokenStreaming.Server.Footprints

/-!
# Control plane - Where stored rows come from

Only one call adds rows to each of the tables of offers, inferences and artifact tasks.
A row of a later state is therefore an old row, moved, or what that call computed from
the states it read.

Main results:

- Theorems {lit}`Sends.offer_origin`, {lit}`Sends.job_origin` and {lit}`Sends.task_origin`: a
  stored row is an old one or comes from the call of its table.
-/

namespace TokenStreaming
namespace Server

open Relational Domain

/-! ## The calls that add rows -/

theorem adds_capacityOffers {call : Call} (h : TableWrite.adds .capacityOffers ∈ call.writes) :
    ∃ ages identity input offerUuid eventUuid auditUuid,
      call = .service ages (.createCapacityOffer identity input offerUuid eventUuid auditUuid) := by
  cases call with
  | service ages request =>
      cases request with
      | createCapacityOffer identity input offerUuid eventUuid auditUuid =>
          exact ⟨ages, identity, input, offerUuid, eventUuid, auditUuid, rfl⟩
      | _ => exact absurd h (of_decide_eq_false rfl)
  | _ => exact absurd h (of_decide_eq_false rfl)

theorem adds_inferenceJobs {call : Call} (h : TableWrite.adds .inferenceJobs ∈ call.writes) :
    ∃ ages identity input idempotencyKey jobUuid,
      call = .reserveInference ages identity input idempotencyKey jobUuid := by
  cases call with
  | service ages request =>
      cases request with
      | _ => exact absurd h (of_decide_eq_false rfl)
  | reserveInference ages identity input idempotencyKey jobUuid =>
      exact ⟨ages, identity, input, idempotencyKey, jobUuid, rfl⟩
  | _ => exact absurd h (of_decide_eq_false rfl)

theorem adds_artifactTasks {call : Call} (h : TableWrite.adds .artifactTasks ∈ call.writes) :
    ∃ ages identity input idempotencyKey taskUuid iv auditUuid,
      call = .service ages
        (.createArtifactTask identity input idempotencyKey taskUuid iv auditUuid) := by
  cases call with
  | service ages request =>
      cases request with
      | createArtifactTask identity input idempotencyKey taskUuid iv auditUuid =>
          exact ⟨ages, identity, input, idempotencyKey, taskUuid, iv, auditUuid, rfl⟩
      | _ => exact absurd h (of_decide_eq_false rfl)
  | _ => exact absurd h (of_decide_eq_false rfl)

/-! ## What those calls compute -/

/-- A publication refuses, repeats an earlier one or inserts the row of its input. -/
theorem createCapacityOffer_eq_ok {reads : Reads} {identity : RequestIdentity}
    {input : CreateCapacityOfferRequest} {offerUuid eventUuid auditUuid : String} {batch : Batch}
    (h : createCapacityOffer reads identity input offerUuid eventUuid auditUuid = .ok batch) :
    batch = [] ∨ ∃ authorization supplierId validUntil event audit binding revision version now,
      batch = publicationBatch
        (input.row authorization ("offer-" ++ offerUuid) identity.tenantId supplierId validUntil now)
        event audit input.commandId binding revision version now := by
  unfold createCapacityOffer at h
  obtain ⟨validUntil, -, h⟩ := Except.bind_eq_ok.mp h
  split at h
  · obtain ⟨_, -, h⟩ := Except.bind_eq_ok.mp h
    exact Or.inl (Except.ok.inj h).symm
  · simp only [Except.bind_eq_ok, demand_eq_ok, exists_unit, found_eq_ok, uncaught_eq_ok,
      mapDomainError_eq_ok, Except.pure_eq_ok] at h
    obtain ⟨-, supplier, -, authorization, -, state?, -, state, -, event, -, rfl⟩ := h
    exact Or.inr ⟨_, _, _, _, _, _, _, _, _, rfl⟩

/-- The task a reservation inserts, with the offer it read and the price it reserves. -/
structure ReservedTask (reads : Reads) (identity : RequestIdentity)
    (input : CreateArtifactTaskRequest) (idempotencyKey taskUuid iv : String)
    (task : ArtifactTaskRow) : Prop where
  row : ∃ selected artifact charge,
    selected.offer ∈ (reads 4).rows .capacityOffers ∧
      requireOwnedArtifact (reads 0) identity.tenantId input.artifactId = .ok artifact ∧
      estimateArtifactMaximumChargeMicros input.maxTotalTokens
        selected.offer.priceMicrosPerMillionTokens = .ok charge ∧
      task = input.row identity selected artifact ("artifact-task-" ++ taskUuid) idempotencyKey iv
        charge (reads 3).clock

/-- A task creation refuses, repeats an earlier one or reserves a task. -/
theorem createArtifactTask_eq_ok {reads : Reads} {policy : MarketplaceRuntimePolicy}
    {identity : RequestIdentity} {input : CreateArtifactTaskRequest}
    {idempotencyKey taskUuid iv auditUuid : String} {batch : Batch}
    (h : createArtifactTask reads policy identity input idempotencyKey taskUuid iv auditUuid =
      .ok batch) :
    batch = [] ∨ ∃ task d maximumActiveTasks audit,
      ReservedTask reads identity input idempotencyKey taskUuid iv task ∧
        batch = artifactReservationBatch task d maximumActiveTasks audit := by
  unfold createArtifactTask at h
  obtain ⟨artifact, hartifact, h⟩ := Except.bind_eq_ok.mp h
  obtain ⟨_, -, h⟩ := Except.bind_eq_ok.mp h
  split at h
  · exact Or.inl (Except.ok.inj h).symm
  · simp only [Except.bind_eq_ok, uncaught_eq_ok, Except.pure_eq_ok] at h
    obtain ⟨selected, hselected, charge, hcharge, rfl⟩ := h
    have hmem := firstBy_mem (found_eq_ok.mp hselected)
    simp only [List.mem_filter, List.mem_flatMap, List.mem_map] at hmem
    obtain ⟨⟨offer, hoffer, supplier, -, authorization, -, rfl⟩, -⟩ := hmem
    exact Or.inr ⟨_, _, _, _, ⟨⟨_, artifact, charge, hoffer, hartifact, hcharge, rfl⟩⟩, rfl⟩

/-! ## Origins -/

section Origins

variable {w : World} {call : Call} {batch : Batch} {db : MarketplaceDb}

/-- A stored offer is old or comes from a publication. -/
theorem Sends.offer_origin (hsends : Sends w call batch) (hrun : runBatch w.db batch = some db)
    (hfollows : Follows w.db db) :
    ∀ offer ∈ db.rows .capacityOffers, offer ∈ w.db.rows .capacityOffers ∨
      ∃ ages identity input offerUuid eventUuid auditUuid,
        call = .service ages (.createCapacityOffer identity input offerUuid eventUuid auditUuid) ∧
          offer.priceMicrosPerMillionTokens = input.priceMicrosPerMillionTokens := by
  by_cases hadds : TableWrite.adds .capacityOffers ∈ call.writes
  · obtain ⟨ages, identity, input, offerUuid, eventUuid, auditUuid, rfl⟩ := adds_capacityOffers hadds
    cases hsends with
    | service h =>
        rcases createCapacityOffer_eq_ok h with rfl | ⟨_, _, _, _, _, _, _, _, _, rfl⟩
        · cases hrun
          exact fun offer hoffer => Or.inl hoffer
        · refine runBatch_addsOnly (fun s hs => ?_) hrun
          simp only [publicationBatch, List.mem_cons, List.not_mem_nil, or_false] at hs
          rcases hs with rfl | rfl | rfl | rfl
          · exact Statement.addsOnly_insert _ (fun _ => rfl) ⟨_, _, _, _, _, _, rfl, rfl⟩
          · exact Statement.addsOnly_of_ne MarketplaceTable.noConfusion
          · exact Statement.addsOnly_of_ne MarketplaceTable.noConfusion
          · exact Statement.addsOnly_of_ne MarketplaceTable.noConfusion
  · have hprefix := hfollows.grows .capacityOffers rfl
    have heq : w.db.rows .capacityOffers = db.rows .capacityOffers :=
      hprefix.eq_of_length_le (hsends.length_le hadds hrun)
    exact fun offer hoffer => Or.inl (heq ▸ hoffer)

/-- A stored inference is an old one or a reservation. -/
theorem Sends.job_origin (hsends : Sends w call batch) (hrun : runBatch w.db batch = some db)
    (hfollows : Follows w.db db) :
    ∀ job ∈ db.rows .inferenceJobs, (∃ old ∈ w.db.rows .inferenceJobs, JobMove old job) ∨
      ∃ ages identity input idempotencyKey jobUuid run reservationExpiresAt,
        call = .reserveInference ages identity input idempotencyKey jobUuid ∧
          reserveInference (w.reads ages) w.deployment.policy identity input idempotencyKey
            jobUuid = .ok (some (run, batch)) ∧ job = run.row idempotencyKey reservationExpiresAt := by
  by_cases hadds : TableWrite.adds .inferenceJobs ∈ call.writes
  · obtain ⟨ages, identity, input, idempotencyKey, jobUuid, rfl⟩ := adds_inferenceJobs hadds
    cases hsends with
    | reservation h =>
        rename_i run
        obtain ⟨-, -, expires, rfl⟩ := reserveInference_eq_ok h
        have horigin : ∀ job ∈ db.rows .inferenceJobs, job ∈ w.db.rows .inferenceJobs ∨
            job = run.row idempotencyKey expires := by
          refine runBatch_addsOnly (fun s hs => ?_) hrun
          obtain rfl := List.mem_singleton.mp hs
          exact Statement.addsOnly_insertOrIgnore _ (fun _ => rfl) rfl
        intro job hjob
        rcases horigin job hjob with hold | hnew
        · exact Or.inl ⟨job, hold, .refl job⟩
        · exact Or.inr ⟨ages, identity, input, idempotencyKey, jobUuid, run, expires, rfl, h, hnew⟩
  · have hevolves := hfollows.jobs.of_length_le (hsends.length_le hadds hrun)
    intro job hjob
    rcases hevolves.of_mem_new hjob with hold | hnone
    · exact Or.inl hold
    · exact hnone.elim

/-- A stored task is an old one or a reservation. -/
theorem Sends.task_origin (hsends : Sends w call batch) (hrun : runBatch w.db batch = some db)
    (hfollows : Follows w.db db) :
    ∀ task ∈ db.rows .artifactTasks, (∃ old ∈ w.db.rows .artifactTasks, TaskMove old task) ∨
      ∃ ages identity input idempotencyKey taskUuid iv auditUuid,
        call = .service ages
            (.createArtifactTask identity input idempotencyKey taskUuid iv auditUuid) ∧
          ReservedTask (w.reads ages) identity input idempotencyKey taskUuid iv task := by
  by_cases hadds : TableWrite.adds .artifactTasks ∈ call.writes
  · obtain ⟨ages, identity, input, idempotencyKey, taskUuid, iv, auditUuid, rfl⟩ :=
      adds_artifactTasks hadds
    intro task htask
    cases hsends with
    | service h =>
        rcases createArtifactTask_eq_ok h with rfl | ⟨new, d, maximumActiveTasks, audit, hnew, rfl⟩
        · cases hrun
          exact Or.inl ⟨task, htask, .refl task⟩
        · have horigin : ∀ t ∈ db.rows .artifactTasks, t ∈ w.db.rows .artifactTasks ∨ t = new := by
            refine runBatch_addsOnly (fun s hs => ?_) hrun
            simp only [artifactReservationBatch, List.mem_cons, List.not_mem_nil, or_false] at hs
            rcases hs with rfl | rfl
            · exact Statement.addsOnly_insertOrIgnore _ (fun _ => rfl) rfl
            · exact Statement.addsOnly_of_ne MarketplaceTable.noConfusion
          rcases horigin task htask with hold | rfl
          · exact Or.inl ⟨task, hold, .refl task⟩
          · exact Or.inr ⟨_, _, _, _, _, _, _, rfl, hnew⟩
  · have hevolves := hfollows.tasks.of_length_le (hsends.length_le hadds hrun)
    intro task htask
    rcases hevolves.of_mem_new htask with hold | hnone
    · exact Or.inl hold
    · exact hnone.elim

end Origins

end Server
end TokenStreaming
