import TokenStreaming.Server.JobLifecycle
import TokenStreaming.Server.RequestLifecycle
import TokenStreaming.Server.TaskLifecycle

/-!
# Control plane - What later states keep of earlier ones

Requests act on what they read a while ago.  This module states what still holds
of an earlier database state when a later one is reached: rows move along their
life cycles, and eight tables only ever grow.

Main results:

- Theorem {lit}`Issued.follows`: one statement leads to a state that follows.
- Theorem {lit}`runBatch_follows`: so does every batch of issued statements.
-/

namespace TokenStreaming
namespace Server

open Relational Domain

/-! ## Tables that only grow -/

/-- The tables no statement updates or deletes from. -/
def appendOnlyTables : List MarketplaceTable :=
  [.capacityOffers, .marketplaceEvents, .usageRecords, .serviceEvidence, .ledgerEntries,
    .auditEvents, .idempotencyKeys, .artifactTaskEvidence]

theorem Issued.append_respects {w : World} {t u : MarketplaceTable} {s : MarketplaceStatement}
    (h : Issued w t s) (hu : appendOnlyTables.contains u = true) (db : MarketplaceDb) :
    s.Respects db u (· = ·) fun _ => True := by
  by_cases ht : t = u
  · subst ht
    cases h with
    | commanded h =>
        cases h with
        | routine h =>
            cases h with
            | free ht h =>
                revert hu h
                cases t <;> simp [appendOnlyTables, freeTables]
            | audit values => exact Statement.insert_respects (fun _ => rfl) fun _ _ => trivial
            | auditOrIgnore values =>
                exact Statement.insertOrIgnore_respects (fun _ => rfl) fun _ _ => trivial
            | tenantKey values h =>
                exact Statement.insert_respects (fun _ => rfl) fun _ _ => trivial
            | tenantKeyOrIgnore values h =>
                exact Statement.insertOrIgnore_respects (fun _ => rfl) fun _ _ => trivial
            | welcomeCredit tenantId welcomeCreditMicros now =>
                exact Statement.insertOrIgnore_respects (fun _ => rfl) fun _ _ => trivial
            | publishOffer offer commandId authorizationRevision supplierVersion =>
                exact Statement.insert_respects (fun _ => rfl) fun _ _ => trivial
            | publicationEvent event offerId tenantId =>
                exact Statement.insert_respects (fun _ => rfl) fun _ _ => trivial
            | _ => simp [appendOnlyTables] at hu
        | registrationEvent event =>
            exact Statement.insert_respects (fun _ => rfl) fun _ _ => trivial
        | reviewEvent c event version =>
            exact Statement.insert_respects (fun _ => rfl) fun _ _ => trivial
        | lifecycleEvent c event version =>
            exact Statement.insert_respects (fun _ => rfl) fun _ _ => trivial
        | key values => exact Statement.insertOrIgnore_respects (fun _ => rfl) fun _ _ => trivial
        | _ => simp [appendOnlyTables] at hu
    | completeInference c => simp [appendOnlyTables] at hu
    | completeTask c => simp [appendOnlyTables] at hu
    | settlementEntry values =>
        exact Statement.insertOrIgnore_respects (fun _ => rfl) fun _ _ => trivial
    | usage values => exact Statement.insert_respects (fun _ => rfl) fun _ _ => trivial
    | serviceEvidence values => exact Statement.insert_respects (fun _ => rfl) fun _ _ => trivial
    | artifactEvidence values => exact Statement.insert_respects (fun _ => rfl) fun _ _ => trivial
  · refine Statement.respects_of_ne (fun _ => rfl) ?_
    rw [h.table_eq]
    exact fun hne => ht hne.symm

/-! ## Suppliers -/

/-- Suppliers keep their identity. -/
structure SupplierMove (a b : SupplierRow) : Prop where
  supplierId : b.supplierId = a.supplierId
  tenantId : b.tenantId = a.tenantId

theorem SupplierMove.refl (s : SupplierRow) : SupplierMove s s :=
  ⟨rfl, rfl⟩

theorem SupplierMove.trans {a b c : SupplierRow} (hab : SupplierMove a b)
    (hbc : SupplierMove b c) : SupplierMove a c :=
  ⟨hbc.supplierId.trans hab.supplierId, hbc.tenantId.trans hab.tenantId⟩

theorem Issued.suppliers_respect {w : World} {t : MarketplaceTable} {s : MarketplaceStatement}
    (h : Issued w t s) (db : MarketplaceDb) :
    s.Respects db .suppliers SupplierMove fun _ => True := by
  by_cases ht : t = .suppliers
  · subst ht
    cases h with
    | commanded h =>
        cases h with
        | routine h =>
            cases h with
            | free _ hfree => simp [freeTables] at hfree
            | setSupply supplierId tenantId enabled now =>
                exact Statement.update_respects SupplierMove.refl fun _ _ _ => ⟨rfl, rfl⟩
        | insertSupplier supplier =>
            exact Statement.insert_respects SupplierMove.refl fun _ _ => trivial
        | activateSupplier c supplierId tenantId expected version =>
            exact Statement.update_respects SupplierMove.refl fun _ _ _ => ⟨rfl, rfl⟩
        | updateSupplier c supplierVersion version =>
            exact Statement.update_respects SupplierMove.refl fun _ _ _ => ⟨rfl, rfl⟩
  · refine Statement.respects_of_ne SupplierMove.refl ?_
    rw [h.table_eq]
    exact fun hne => ht hne.symm

/-! ## Later states -/

/-- The database state {lit}`new` may come after {lit}`old`. -/
structure Follows (old new : MarketplaceDb) : Prop where
  tasks : Evolves TaskMove (fun _ => True) (old.rows .artifactTasks) (new.rows .artifactTasks)
  jobs : Evolves JobMove (fun _ => True) (old.rows .inferenceJobs) (new.rows .inferenceJobs)
  requests : Evolves RequestMove (fun _ => True) (old.rows .authorizationRequests)
    (new.rows .authorizationRequests)
  suppliers : Evolves SupplierMove (fun _ => True) (old.rows .suppliers) (new.rows .suppliers)
  grows : ∀ t, appendOnlyTables.contains t = true → old.rows t <+: new.rows t

theorem Follows.refl (db : MarketplaceDb) : Follows db db where
  tasks := Evolves.refl TaskMove.refl _
  jobs := Evolves.refl JobMove.refl _
  requests := Evolves.refl RequestMove.refl _
  suppliers := Evolves.refl SupplierMove.refl _
  grows := fun _ _ => List.prefix_rfl

theorem Follows.trans {a b c : MarketplaceDb} (hab : Follows a b) (hbc : Follows b c) :
    Follows a c where
  tasks := by
    refine Evolves.trans ?_ (fun _ _ h _ => h) hab.tasks hbc.tasks
    exact fun _ _ _ h₁ h₂ => h₁.trans h₂
  jobs := by
    refine Evolves.trans ?_ (fun _ _ h _ => h) hab.jobs hbc.jobs
    exact fun _ _ _ h₁ h₂ => h₁.trans h₂
  requests := by
    refine Evolves.trans ?_ (fun _ _ h _ => h) hab.requests hbc.requests
    exact fun _ _ _ h₁ h₂ => h₁.trans h₂
  suppliers := by
    refine Evolves.trans ?_ (fun _ _ h _ => h) hab.suppliers hbc.suppliers
    exact fun _ _ _ h₁ h₂ => h₁.trans h₂
  grows := fun t ht => (hab.grows t ht).trans (hbc.grows t ht)

/-- The clock is no row. -/
theorem Follows.setClock (db : MarketplaceDb) (instant : Nat) :
    Follows db { db with clock := instant } where
  tasks := Evolves.refl TaskMove.refl _
  jobs := Evolves.refl JobMove.refl _
  requests := Evolves.refl RequestMove.refl _
  suppliers := Evolves.refl SupplierMove.refl _
  grows := fun _ _ => List.prefix_rfl

theorem Issued.follows {w : World} {t : MarketplaceTable} {s : MarketplaceStatement}
    (h : Issued w t s) {db db' : MarketplaceDb} (hs : s.apply db = some db') :
    Follows db db' where
  tasks := (h.tasks_respect db db' hs).mono (fun _ _ _ hm => hm) fun _ _ => trivial
  jobs := (h.jobs_respect db db' hs).mono (fun _ _ _ hm => hm) fun _ _ => trivial
  requests := (h.requests_respect db db' hs).mono (fun _ _ _ hm => hm) fun _ _ => trivial
  suppliers := h.suppliers_respect db db' hs
  grows := fun _ hu => (h.append_respects hu db db' hs).isPrefix

/-- A committed batch leads to a later state. -/
theorem runBatch_follows {w : World} {batch : Batch} {db db' : MarketplaceDb}
    (h : ∀ s ∈ batch, Issued w s.table s) (hrun : runBatch db batch = some db') :
    Follows db db' :=
  runBatch_induction (P := Follows db) hrun (Follows.refl db)
    fun s hs _ _ ha hb => ha.trans ((h s hs).follows hb)

section Rows

variable {old new : MarketplaceDb}

/-- A stored row of a growing table stays. -/
theorem Follows.mem (h : Follows old new) {t : MarketplaceTable} {row : MarketplaceRow t}
    (ht : appendOnlyTables.contains t = true) (hrow : row ∈ old.rows t) : row ∈ new.rows t :=
  (h.grows t ht).subset hrow

end Rows

/-! ## Rows with a common key -/

section Unique

variable {db : MarketplaceDb}

theorem task_unique (h : Consistent db) {a b : ArtifactTaskRow}
    (ha : a ∈ db.rows .artifactTasks) (hb : b ∈ db.rows .artifactTasks)
    (hid : a.taskId = b.taskId) : a = b :=
  (h .artifactTasks).eq_of_mem ha hb (k := .primaryKey a.taskId) (by simp [marketplaceKeys])
    (by simp [marketplaceKeys, hid])

theorem job_unique (h : Consistent db) {a b : InferenceJobRow}
    (ha : a ∈ db.rows .inferenceJobs) (hb : b ∈ db.rows .inferenceJobs)
    (hid : a.jobId = b.jobId) : a = b :=
  (h .inferenceJobs).eq_of_mem ha hb (k := .primaryKey a.jobId) (by simp [marketplaceKeys])
    (by simp [marketplaceKeys, hid])

theorem request_unique (h : Consistent db) {a b : AuthorizationRow}
    (ha : a ∈ db.rows .authorizationRequests) (hb : b ∈ db.rows .authorizationRequests)
    (hid : a.requestId = b.requestId) : a = b :=
  (h .authorizationRequests).eq_of_mem ha hb (k := .primaryKey a.requestId)
    (by simp [marketplaceKeys]) (by simp [marketplaceKeys, hid])

theorem supplier_unique (h : Consistent db) {a b : SupplierRow}
    (ha : a ∈ db.rows .suppliers) (hb : b ∈ db.rows .suppliers)
    (hid : a.supplierId = b.supplierId) : a = b :=
  (h .suppliers).eq_of_mem ha hb (k := .primaryKey a.supplierId) (by simp [marketplaceKeys])
    (by simp [marketplaceKeys, hid])

theorem offer_unique (h : Consistent db) {a b : OfferRow}
    (ha : a ∈ db.rows .capacityOffers) (hb : b ∈ db.rows .capacityOffers)
    (hid : a.offerId = b.offerId) : a = b :=
  (h .capacityOffers).eq_of_mem ha hb (k := .primaryKey a.offerId) (by simp [marketplaceKeys])
    (by simp [marketplaceKeys, hid])

end Unique

end Server
end TokenStreaming
