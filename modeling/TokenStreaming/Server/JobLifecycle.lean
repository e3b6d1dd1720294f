import TokenStreaming.Server.Inventory

/-!
# Control plane - Life of an inference job

A job is reserved, dispatched and ends completed or failed.  Every statement
moves every row of the job table along these steps, and what a settlement refers
to is fixed once the job has ended.

Main results:

- Theorem {lit}`Commanded.jobStatement`: the kinds of statements on the job table.
- Theorem {lit}`Issued.jobs_respect`: every statement moves jobs by {lit}`JobMove`.
-/

namespace TokenStreaming
namespace Server

open Relational Domain

/-! ## Steps and terms -/

/-- The steps of a job's status. -/
inductive JobStep : InferenceJobStatus → InferenceJobStatus → Prop
  | dispatch : JobStep .reserved .running
  | complete : JobStep .running .completed
  | failReserved : JobStep .reserved .failed
  | failRunning : JobStep .running .failed

/-- Any number of steps. -/
abbrev JobReach : InferenceJobStatus → InferenceJobStatus → Prop :=
  Relation.ReflTransGen JobStep

theorem JobStep.isActive {a b : InferenceJobStatus} (h : JobStep a b) : a.isActive = true := by
  cases h <;> rfl

/-- A job that ended stays as it is. -/
theorem JobReach.of_ended {a b : InferenceJobStatus} (h : JobReach a b)
    (ha : a.isActive = false) : b = a := by
  induction h with
  | refl => rfl
  | tail _ hstep ih =>
      subst ih
      rw [hstep.isActive] at ha
      simp at ha

/-- A job that is active was active before. -/
theorem JobReach.isActive_mono {a b : InferenceJobStatus} (h : JobReach a b)
    (hb : b.isActive = true) : a.isActive = true := by
  cases ha : a.isActive with
  | true => rfl
  | false =>
      rw [h.of_ended ha, ha] at hb
      exact hb

/-- No step leads to the reserved status. -/
theorem JobReach.of_reserved {a : InferenceJobStatus} (h : JobReach a .reserved) :
    a = .reserved := by
  rcases Relation.ReflTransGen.cases_tail h with heq | ⟨_, _, hstep⟩
  · exact heq.symm
  · cases hstep

/-- The columns a reservation fixes for the life of the job. -/
structure JobTerms where
  jobId : String
  buyerTenantId : String
  supplierTenantId : String
  offerId : String
  idempotencyKey : String
  model : String
  maxOutputTokens : Nat
  reservedChargeMicros : Nat
  createdAt : Nat

def InferenceJobRow.terms (job : InferenceJobRow) : JobTerms where
  jobId := job.jobId
  buyerTenantId := job.buyerTenantId
  supplierTenantId := job.supplierTenantId
  offerId := job.offerId
  idempotencyKey := job.idempotencyKey
  model := job.model
  maxOutputTokens := job.maxOutputTokens
  reservedChargeMicros := job.reservedChargeMicros
  createdAt := job.createdAt

/-! ## Moves -/

/-- How a stored job may change over any number of statements. -/
structure JobMove (a b : InferenceJobRow) : Prop where
  terms : b.terms = a.terms
  status : JobReach a.status b.status
  /-- The authorization a job was reserved on stays. -/
  authorization : ∀ requestId, a.authorizationRequestId = some requestId →
    b.authorizationRequestId = some requestId
  revision : ∀ revision, a.authorizationRevision = some revision →
    b.authorizationRevision = some revision
  /-- Only a completion writes a charge. -/
  charge : b.status ≠ .completed → b.chargeMicros = a.chargeMicros
  /-- The columns of an ended job that its settlement refers to. -/
  settled : a.status.isActive = false →
    b.chargeMicros = a.chargeMicros ∧ b.completedAt = a.completedAt

theorem JobMove.refl (job : InferenceJobRow) : JobMove job job where
  terms := rfl
  status := .refl
  authorization := fun _ h => h
  revision := fun _ h => h
  charge := fun _ => rfl
  settled := fun _ => ⟨rfl, rfl⟩

theorem JobMove.trans {a b c : InferenceJobRow} (hab : JobMove a b) (hbc : JobMove b c) :
    JobMove a c where
  terms := hbc.terms.trans hab.terms
  status := hab.status.trans hbc.status
  authorization := fun r h => hbc.authorization r (hab.authorization r h)
  revision := fun r h => hbc.revision r (hab.revision r h)
  charge := fun hc => by
    have hb : b.status ≠ .completed := by
      intro hb
      have hstatus := hbc.status
      rw [hb] at hstatus
      exact hc (hstatus.of_ended rfl)
    rw [hbc.charge hc, hab.charge hb]
  settled := fun ha => by
    have hb : b.status.isActive = false := by
      rw [hab.status.of_ended ha]
      exact ha
    rw [(hbc.settled hb).1, (hbc.settled hb).2]
    exact hab.settled ha

/-- A move that does not complete the job. -/
structure JobQuiet (a b : InferenceJobRow) : Prop extends JobMove a b where
  notCompleted : b.status = .completed → a.status = .completed

/-- The row of a new job, as its reservation's demand describes it. -/
structure JobNew (w : World) (d : OfferDemand) (job : InferenceJobRow) : Prop where
  isNew : ∃ uuid, uuid ∉ w.drawn ∧ job.jobId = "job-" ++ uuid
  status : job.status = .reserved
  uncharged : job.chargeMicros = none
  offer : job.offerId = d.offerId
  authorization : job.authorizationRequestId = some d.authorizationRequestId
  revision : job.authorizationRevision = some d.authorizationRevision

/-- Updates that change none of the columns a move speaks about. -/
theorem JobQuiet.of_same {a b : InferenceJobRow} (hterms : b.terms = a.terms)
    (hstatus : b.status = a.status)
    (hauthorization : b.authorizationRequestId = a.authorizationRequestId)
    (hrevision : b.authorizationRevision = a.authorizationRevision)
    (hcharge : b.chargeMicros = a.chargeMicros) (hcompleted : b.completedAt = a.completedAt) :
    JobQuiet a b where
  terms := hterms
  status := by rw [hstatus]
  authorization := fun _ h => hauthorization.trans h
  revision := fun _ h => hrevision.trans h
  charge := fun _ => hcharge
  settled := fun _ => ⟨hcharge, hcompleted⟩
  notCompleted := fun h => by rwa [hstatus] at h

/-- Updates that take one step of an active job. -/
theorem JobMove.of_step {a b : InferenceJobRow} (hterms : b.terms = a.terms)
    (hstep : JobStep a.status b.status)
    (hauthorization : ∀ requestId, a.authorizationRequestId = some requestId →
      b.authorizationRequestId = some requestId)
    (hrevision : ∀ revision, a.authorizationRevision = some revision →
      b.authorizationRevision = some revision)
    (hcharge : b.status ≠ .completed → b.chargeMicros = a.chargeMicros) : JobMove a b where
  terms := hterms
  status := .single hstep
  authorization := hauthorization
  revision := hrevision
  charge := hcharge
  settled := fun ha => by
    rw [hstep.isActive] at ha
    simp at ha

/-- Updates that fail an active job. -/
theorem JobQuiet.of_failure {a b : InferenceJobRow} (hterms : b.terms = a.terms)
    (hactive : a.status.isActive = true) (hfailed : b.status = .failed)
    (hauthorization : ∀ requestId, a.authorizationRequestId = some requestId →
      b.authorizationRequestId = some requestId)
    (hrevision : ∀ revision, a.authorizationRevision = some revision →
      b.authorizationRevision = some revision)
    (hcharge : b.chargeMicros = a.chargeMicros) : JobQuiet a b where
  toJobMove := by
    refine JobMove.of_step hterms ?_ hauthorization hrevision fun _ => hcharge
    rw [hfailed]
    cases hstatus : a.status with
    | reserved => exact .failReserved
    | running => exact .failRunning
    | completed => simp [hstatus, InferenceJobStatus.isActive] at hactive
    | failed => simp [hstatus, InferenceJobStatus.isActive] at hactive
  notCompleted := fun h => by simp [hfailed] at h

/-! ## Statements -/

/-- The kinds of statements on the job table, completions apart. -/
inductive JobStatement (w : World) : MarketplaceStatement → Prop
  | reserve (job : InferenceJobRow) (offer : OfferRow) (d : OfferDemand)
      (hnew : JobNew w d job) (hoffer : w.observed .capacityOffers offer)
      (hid : offer.offerId = d.offerId) :
      JobStatement w (reserveInferenceJobSql job d offer.concurrency)
  | quiet (selects : MarketplaceDb → InferenceJobRow → Bool)
      (assign : MarketplaceDb → InferenceJobRow → InferenceJobRow)
      (h : ∀ db job, selects db job = true → JobQuiet job (assign db job)) :
      JobStatement w (.update .inferenceJobs selects assign)

/-- Every routine statement on the job table but a reservation is quiet. -/
theorem Routine.jobStatement {w : World} {s : MarketplaceStatement}
    (h : Routine w .inferenceJobs s) : JobStatement w s := by
  cases h with
  | free _ hfree => simp [freeTables] at hfree
  | reserveInference run idempotencyKey reservationExpiresAt hid hoffer =>
      exact .reserve _ run.selected.offer run.demand ⟨hid, rfl, rfl, rfl, rfl, rfl⟩ hoffer rfl
  | startInference jobId now =>
      refine .quiet _ _ fun db job hjob => ?_
      simp only [Bool.and_eq_true, beq_iff_eq] at hjob
      refine
        { toJobMove := JobMove.of_step rfl ?_ (fun _ h => h) (fun _ h => h) fun _ => rfl
          notCompleted := fun h => by simp at h }
      rw [hjob.1.2]
      exact .dispatch
  | failInference jobId code now =>
      refine .quiet _ _ fun db job hjob => ?_
      simp only [Bool.and_eq_true] at hjob
      exact .of_failure rfl hjob.2 rfl (fun _ h => h) (fun _ h => h) rfl
  | expireReservations now cutoff =>
      refine .quiet _ _ fun db job hjob => ?_
      simp only [Bool.and_eq_true] at hjob
      exact .of_failure rfl hjob.1 rfl (fun _ h => h) (fun _ h => h) rfl
  | purgeOutputs now => exact .quiet _ _ fun _ _ _ => .of_same rfl rfl rfl rfl rfl rfl
  | purgeOutput jobId buyerTenantId now =>
      exact .quiet _ _ fun _ _ _ => .of_same rfl rfl rfl rfl rfl rfl

theorem Commanded.jobStatement {w : World} {s : MarketplaceStatement}
    (h : Commanded w .inferenceJobs s) : JobStatement w s := by
  cases h with
  | routine h => exact h.jobStatement
  | failAfterRotation c digest =>
      refine .quiet _ _ fun db job hjob => ?_
      simp only [Bool.and_eq_true, beq_iff_eq] at hjob
      refine .of_failure rfl (by simp [hjob.1.1.1, InferenceJobStatus.isActive]) rfl ?_ ?_ rfl
      · exact fun _ h => by simp [h]
      · exact fun _ h => by simp [h]
  | failAfterRevocation c =>
      refine .quiet _ _ fun db job hjob => ?_
      simp only [Bool.and_eq_true, beq_iff_eq] at hjob
      refine .of_failure rfl (by simp [hjob.1.1, InferenceJobStatus.isActive]) rfl ?_
        (fun _ h => h) rfl
      exact fun _ h => by simp [h]

/-- A statement on the job table completes a job or is of one of the other kinds. -/
theorem Issued.job_cases {w : World} {s : MarketplaceStatement}
    (h : Issued w .inferenceJobs s) :
    JobStatement w s ∨ ∃ c, s = completeInferenceJobSql c := by
  cases h with
  | commanded h => exact .inl h.jobStatement
  | completeInference c => exact .inr ⟨c, rfl⟩

/-- A completion ends the job it completes. -/
theorem completeInferenceJobSql_move {New : InferenceJobRow → Prop} (c : InferenceCompletion)
    {db : MarketplaceDb} : (completeInferenceJobSql c).Respects db .inferenceJobs JobMove New := by
  refine Statement.update_respects JobMove.refl fun job _ hjob => ?_
  simp only [InferenceCompletion.admits, Bool.and_eq_true, beq_iff_eq] at hjob
  refine JobMove.of_step rfl ?_ (fun _ h => h) (fun _ h => h) fun h => absurd rfl h
  rw [hjob.1.1.1.2]
  exact .complete

/-- A statement that is no completion moves jobs quietly and adds reserved ones. -/
theorem JobStatement.respects {w : World} {s : MarketplaceStatement} (h : JobStatement w s)
    (db : MarketplaceDb) :
    s.Respects db .inferenceJobs JobQuiet fun job => ∃ d, JobNew w d job := by
  have hrefl : ∀ job, JobQuiet job job := fun job => .of_same rfl rfl rfl rfl rfl rfl
  cases h with
  | reserve job offer d hnew hoffer hid =>
      refine Statement.insertOrIgnore_respects hrefl fun r hr => ?_
      split at hr
      · rw [List.mem_singleton.mp hr]
        exact ⟨d, hnew⟩
      · simp at hr
  | quiet selects assign hquiet =>
      exact Statement.update_respects hrefl fun r _ hr => hquiet db r hr

/-- Every statement moves jobs along the steps and adds only reserved ones. -/
theorem Issued.jobs_respect {w : World} {t : MarketplaceTable} {s : MarketplaceStatement}
    (h : Issued w t s) (db : MarketplaceDb) :
    s.Respects db .inferenceJobs JobMove fun job => ∃ d, JobNew w d job := by
  by_cases ht : t = .inferenceJobs
  · subst ht
    rcases h.job_cases with hs | ⟨c, rfl⟩
    · intro db' hdb
      exact (hs.respects db db' hdb).mono (fun _ _ _ hm => hm.toJobMove) fun _ hr => hr
    · exact completeInferenceJobSql_move c
  · refine Statement.respects_of_ne JobMove.refl ?_
    rw [h.table_eq]
    exact fun hne => ht hne.symm

end Server
end TokenStreaming
