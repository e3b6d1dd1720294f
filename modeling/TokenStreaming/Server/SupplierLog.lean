import TokenStreaming.Domain.SupplierInvariant
import TokenStreaming.Server.Credentials
import TokenStreaming.Server.LifecycleOutcomes
import TokenStreaming.Server.Reviews
import TokenStreaming.Server.Footprints

/-!
# Control plane - Supplier rows and their event logs

A supplier is stored twice: as a row that requests read and as the log of its
events.  Registrations, approvals and revocations write both in one batch, each
row under a guard of its own.  This module shows that the row is at all times the
projection of its log.

Main results:

- Theorem {lit}`readSupplierEvents_current`: a log read at the version the row
  still has is the whole log.
- Theorem {lit}`Reachable.supplierLogs`: every supplier row projects its log.
- Theorem {lit}`supplier_row_projects_log`: versions, replay and status of the stored
  events agree with the row.
-/

namespace TokenStreaming
namespace Server

open Relational Domain TransitionSystem

/-! ## Logs -/

/-- The stored events of a supplier in the order they were written. -/
def supplierLog (db : MarketplaceDb) (tenantId supplierId : String) : List SupplierEvent :=
  ((db.rows .marketplaceEvents).filter fun row =>
    row.isOfSupplier tenantId supplierId).filterMap EventRow.toSupplierEvent

/-- The row stores a supplier event. -/
def EventRow.HoldsEvent (row : EventRow) : Prop :=
  ∃ event, row = .ofSupplierEvent event

@[simp]
theorem EventRow.toSupplierEvent_ofSupplierEvent (event : SupplierEvent) :
    (EventRow.ofSupplierEvent event).toSupplierEvent = some event :=
  rfl

theorem EventRow.isOfSupplier_eq_true {row : EventRow} {tenantId supplierId : String} :
    row.isOfSupplier tenantId supplierId = true ↔
      row.tenantId = tenantId ∧ row.aggregateType = "supplier" ∧ row.aggregateId = supplierId := by
  simp [EventRow.isOfSupplier, and_assoc]

/-- Rows that store events are determined by them. -/
theorem map_ofSupplierEvent_filterMap {rows : List EventRow}
    (h : ∀ row ∈ rows, row.HoldsEvent) :
    (rows.filterMap EventRow.toSupplierEvent).map EventRow.ofSupplierEvent = rows := by
  induction rows with
  | nil => rfl
  | cons row rows ih =>
      obtain ⟨event, rfl⟩ := h row (by simp)
      have hrest := ih fun other hother => h other (List.mem_cons_of_mem _ hother)
      rw [List.filterMap_cons, EventRow.toSupplierEvent_ofSupplierEvent, List.map_cons, hrest]

/-- Sorting by version changes nothing on rows that were written in that order. -/
theorem readSupplierEvents_eq {db : MarketplaceDb} {tenantId supplierId : String}
    (hheld : ∀ row ∈ db.rows .marketplaceEvents, row.aggregateType = "supplier" → row.HoldsEvent)
    (hordered : (supplierLog db tenantId supplierId).Pairwise fun a b =>
      a.aggregateVersion ≤ b.aggregateVersion) :
    supplierEventRows db tenantId supplierId =
        (supplierLog db tenantId supplierId).map EventRow.ofSupplierEvent ∧
      readSupplierEvents db tenantId supplierId = supplierLog db tenantId supplierId := by
  have hrows : (supplierLog db tenantId supplierId).map EventRow.ofSupplierEvent =
      (db.rows .marketplaceEvents).filter fun row => row.isOfSupplier tenantId supplierId := by
    refine map_ofSupplierEvent_filterMap fun row hrow => ?_
    obtain ⟨hmem, hsel⟩ := List.mem_filter.mp hrow
    exact hheld row hmem (EventRow.isOfSupplier_eq_true.mp hsel).2.1
  have hsorted : supplierEventRows db tenantId supplierId =
      (db.rows .marketplaceEvents).filter fun row => row.isOfSupplier tenantId supplierId := by
    unfold supplierEventRows
    refine List.Pairwise.insertionSort_eq ?_
    rw [← hrows]
    exact List.pairwise_map.mpr hordered
  refine ⟨hsorted.trans hrows.symm, ?_⟩
  unfold readSupplierEvents
  rw [hsorted]
  rfl

/-! ## The projection -/

/-- The row shows what replaying its log shows. -/
structure SupplierRow.Projects (s : SupplierRow) (db : MarketplaceDb) (state : SupplierState) :
    Prop where
  accepted : rehydrateSupplier (supplierLog db s.tenantId s.supplierId) = .ok (some state)
  version : state.version = s.version
  status : state.status = s.status
  /-- Revoked requests are revoked in the log. -/
  revoked : ∀ r ∈ db.rows .authorizationRequests, r.tenantId = s.tenantId →
    r.supplierId = s.supplierId → r.status = .revoked → ∃ authorization ∈ state.authorizations,
      authorization.authorizationId = "authorization-" ++ r.requestId ∧
        authorization.status = .revoked

/-- Supplier events and revocations belong to suppliers, and supplier rows project their logs. -/
structure SupplierLogs (db : MarketplaceDb) : Prop where
  held : ∀ row ∈ db.rows .marketplaceEvents, row.aggregateType = "supplier" → row.HoldsEvent
  owned : ∀ row ∈ db.rows .marketplaceEvents, row.aggregateType = "supplier" →
    ∃ s ∈ db.rows .suppliers, s.supplierId = row.aggregateId
  revoker : ∀ r ∈ db.rows .authorizationRequests, r.status = .revoked →
    ∃ s ∈ db.rows .suppliers, s.supplierId = r.supplierId
  projects : ∀ s ∈ db.rows .suppliers, ∃ state, s.Projects db state

/-- The log of a supplier is as long as its row's version. -/
theorem SupplierRow.Projects.length {s : SupplierRow} {db : MarketplaceDb}
    {state : SupplierState} (h : s.Projects db state) :
    (supplierLog db s.tenantId s.supplierId).length = s.version := by
  rw [← (rehydrateSupplier_tracks h.accepted).2, h.version]

/-- Accepted histories are written in order. -/
theorem rehydrateSupplier_ordered {history : List SupplierEvent} {state : SupplierState}
    (h : rehydrateSupplier history = .ok (some state)) :
    history.Pairwise fun a b => a.aggregateVersion ≤ b.aggregateVersion := by
  have hpairwise : (history.map SupplierEvent.aggregateVersion).Pairwise (· ≤ ·) := by
    rw [(rehydrateSupplier_tracks h).1]
    exact List.pairwise_le_range'
  exact List.pairwise_map.mp hpairwise

/-- Logs of suppliers are written in order. -/
theorem SupplierRow.Projects.ordered {s : SupplierRow} {db : MarketplaceDb}
    {state : SupplierState} (h : s.Projects db state) :
    (supplierLog db s.tenantId s.supplierId).Pairwise fun a b =>
      a.aggregateVersion ≤ b.aggregateVersion :=
  rehydrateSupplier_ordered h.accepted

/-- Logs only grow. -/
theorem Follows.supplierLog {snap db : MarketplaceDb} (h : Follows snap db)
    (tenantId supplierId : String) :
    Server.supplierLog snap tenantId supplierId <+: Server.supplierLog db tenantId supplierId :=
  ((h.grows .marketplaceEvents (by decide)).filter _).filterMap _

/-- A log that was read at the version the row still has is the whole log. -/
theorem readSupplierEvents_current {snap db : MarketplaceDb} (hlogs : SupplierLogs db)
    (hfollows : Follows snap db) {s : SupplierRow} (hs : s ∈ db.rows .suppliers)
    (hlength : (readSupplierEvents snap s.tenantId s.supplierId).length = s.version) :
    readSupplierEvents snap s.tenantId s.supplierId =
      supplierLog db s.tenantId s.supplierId := by
  obtain ⟨state, hprojects⟩ := hlogs.projects s hs
  have hprefix := hfollows.supplierLog s.tenantId s.supplierId
  have hread : readSupplierEvents snap s.tenantId s.supplierId =
      supplierLog snap s.tenantId s.supplierId := by
    refine (readSupplierEvents_eq ?_ ?_).2
    · intro row hrow
      exact hlogs.held row (hfollows.mem (by decide) hrow)
    · exact hprojects.ordered.sublist hprefix.sublist
  rw [hread] at hlength ⊢
  exact hprefix.eq_of_length (hlength.trans hprojects.length.symm)

/-! ## Statements that leave the logs alone -/

/-- The columns a log determines stay. -/
structure SameProjection (a b : SupplierRow) : Prop extends SupplierMove a b where
  version : b.version = a.version
  status : b.status = a.status

/-- The request keeps its terms and is not newly revoked. -/
structure NotRevoked (a b : AuthorizationRow) : Prop where
  terms : b.terms = a.terms
  revoked : b.status = .revoked → a.status = .revoked

/-- No supplier event, no version or status of a supplier and no revocation is written. -/
structure LeavesLogs (a b : MarketplaceDb) : Prop where
  events : Evolves (· = ·) (fun row => row.aggregateType ≠ "supplier")
    (a.rows .marketplaceEvents) (b.rows .marketplaceEvents)
  suppliers : Evolves SameProjection (fun _ => False) (a.rows .suppliers) (b.rows .suppliers)
  requests : Evolves NotRevoked (fun r => r.status ≠ .revoked) (a.rows .authorizationRequests)
    (b.rows .authorizationRequests)

theorem SameProjection.refl (s : SupplierRow) : SameProjection s s where
  toSupplierMove := .refl s
  version := rfl
  status := rfl

theorem SameProjection.trans {a b c : SupplierRow} (hab : SameProjection a b)
    (hbc : SameProjection b c) : SameProjection a c where
  toSupplierMove := hab.toSupplierMove.trans hbc.toSupplierMove
  version := hbc.version.trans hab.version
  status := hbc.status.trans hab.status

theorem NotRevoked.refl (r : AuthorizationRow) : NotRevoked r r :=
  ⟨rfl, id⟩

theorem NotRevoked.trans {a b c : AuthorizationRow} (hab : NotRevoked a b)
    (hbc : NotRevoked b c) : NotRevoked a c where
  terms := hbc.terms.trans hab.terms
  revoked := fun h => hab.revoked (hbc.revoked h)

/-- Rows of the three tables that stay. -/
theorem LeavesLogs.of_rows {a b : MarketplaceDb}
    (hevents : b.rows .marketplaceEvents = a.rows .marketplaceEvents)
    (hsuppliers : b.rows .suppliers = a.rows .suppliers)
    (hrequests : b.rows .authorizationRequests = a.rows .authorizationRequests) :
    LeavesLogs a b where
  events := by
    rw [hevents]
    exact Evolves.refl (fun _ => rfl) _
  suppliers := by
    rw [hsuppliers]
    exact Evolves.refl SameProjection.refl _
  requests := by
    rw [hrequests]
    exact Evolves.refl NotRevoked.refl _

theorem LeavesLogs.trans {a b c : MarketplaceDb} (hab : LeavesLogs a b)
    (hbc : LeavesLogs b c) : LeavesLogs a c where
  events := by
    refine Evolves.trans ?_ ?_ hab.events hbc.events
    · intro x y z hxy hyz
      exact hxy.trans hyz
    · intro x y hnew hxy
      rwa [← hxy]
  suppliers := by
    refine Evolves.trans ?_ (fun _ _ h _ => h) hab.suppliers hbc.suppliers
    intro x y z hxy hyz
    exact hxy.trans hyz
  requests := by
    refine Evolves.trans ?_ ?_ hab.requests hbc.requests
    · intro x y z hxy hyz
      exact hxy.trans hyz
    · intro x y hnew hxy hrevoked
      exact hnew (hxy.revoked hrevoked)

/-- A statement without a trace in the logs. -/
def LogFree (s : MarketplaceStatement) : Prop :=
  ∀ a b, s.apply a = some b → LeavesLogs a b

/-- A statement on another table. -/
theorem LogFree.of_table {s : MarketplaceStatement}
    (h : MarketplaceTable.marketplaceEvents ≠ s.table ∧ MarketplaceTable.suppliers ≠ s.table ∧
      MarketplaceTable.authorizationRequests ≠ s.table) : LogFree s :=
  fun _ _ hs => .of_rows (Statement.apply_rows_of_ne hs h.1)
    (Statement.apply_rows_of_ne hs h.2.1) (Statement.apply_rows_of_ne hs h.2.2)

/-- A statement on a table that is known. -/
theorem LogFree.other {s : MarketplaceStatement} {t : MarketplaceTable} (hs : s.table = t)
    (ht : t ∉ [.marketplaceEvents, .suppliers, .authorizationRequests]) : LogFree s := by
  subst hs
  simp only [List.mem_cons, List.not_mem_nil, or_false, not_or] at ht
  exact .of_table ⟨Ne.symm ht.1, Ne.symm ht.2.1, Ne.symm ht.2.2⟩

/-- A statement on requests that revokes none. -/
theorem LogFree.of_requests {s : MarketplaceStatement}
    (htable : s.table = .authorizationRequests)
    (h : ∀ db, s.Respects db .authorizationRequests NotRevoked fun r => r.status ≠ .revoked) :
    LogFree s := by
  intro a b hs
  have hevents : b.rows .marketplaceEvents = a.rows .marketplaceEvents :=
    Statement.apply_rows_of_ne hs (by rw [htable]; exact MarketplaceTable.noConfusion)
  have hsuppliers : b.rows .suppliers = a.rows .suppliers :=
    Statement.apply_rows_of_ne hs (by rw [htable]; exact MarketplaceTable.noConfusion)
  refine { events := ?_, suppliers := ?_, requests := h a b hs }
  · rw [hevents]
    exact Evolves.refl (fun _ => rfl) _
  · rw [hsuppliers]
    exact Evolves.refl SameProjection.refl _

theorem SteadyRequest.logFree {w : World} {s : MarketplaceStatement} (h : SteadyRequest w s) :
    LogFree s := by
  cases h with
  | submit row h =>
      refine .of_requests rfl fun db => Statement.insert_respects NotRevoked.refl fun r hr => ?_
      rw [List.mem_singleton.mp hr, h.status]
      exact AuthorizationStatus.noConfusion
  | quiet selects assign hquiet =>
      refine .of_requests rfl fun db => Statement.update_respects NotRevoked.refl fun r _ hr => ?_
      exact ⟨(hquiet db r hr).terms, (hquiet db r hr).revoked⟩

theorem rotateAuthorizationCredentialSql_logFree (c : LifecycleCommand)
    (generation encrypted : EncryptedCredential) (activeLookup : CredentialLookupDigest)
    (lookup : TokenLookup) :
    LogFree (rotateAuthorizationCredentialSql c generation encrypted activeLookup lookup) :=
  .of_requests rfl fun _ => Statement.update_respects NotRevoked.refl fun _ _ _ => ⟨rfl, id⟩

theorem setSupplySql_logFree (supplierId tenantId : String) (enabled : Bool) (now : Nat) :
    LogFree (setSupplySql supplierId tenantId enabled now) := by
  intro a b hs
  have hevents : b.rows .marketplaceEvents = a.rows .marketplaceEvents :=
    Statement.apply_rows_of_ne hs MarketplaceTable.noConfusion
  have hrequests : b.rows .authorizationRequests = a.rows .authorizationRequests :=
    Statement.apply_rows_of_ne hs MarketplaceTable.noConfusion
  have hrespects : (setSupplySql supplierId tenantId enabled now).Respects a .suppliers
      SameProjection fun _ => False :=
    Statement.update_respects SameProjection.refl fun _ _ _ => ⟨⟨rfl, rfl⟩, rfl, rfl⟩
  refine { events := ?_, suppliers := hrespects b hs, requests := ?_ }
  · rw [hevents]
    exact Evolves.refl (fun _ => rfl) _
  · rw [hrequests]
    exact Evolves.refl NotRevoked.refl _

/-- Publications have an aggregate of their own. -/
theorem guardedCapacityOfferEventInsert_logFree (event : CapacityOfferPublishedEvent)
    (offerId tenantId : String) :
    LogFree (guardedCapacityOfferEventInsert (EventRow.ofPublication event) offerId tenantId) := by
  intro a b hs
  have hsuppliers : b.rows .suppliers = a.rows .suppliers :=
    Statement.apply_rows_of_ne hs MarketplaceTable.noConfusion
  have hrequests : b.rows .authorizationRequests = a.rows .authorizationRequests :=
    Statement.apply_rows_of_ne hs MarketplaceTable.noConfusion
  have hrespects : (guardedCapacityOfferEventInsert (EventRow.ofPublication event) offerId
      tenantId).Respects a .marketplaceEvents (· = ·) fun row => row.aggregateType ≠ "supplier" := by
    refine Statement.insert_respects (fun _ => rfl) fun row hrow => ?_
    split at hrow
    · rw [List.mem_singleton.mp hrow]
      exact show "capacity-offer" ≠ "supplier" by decide
    · simp at hrow
  refine { events := hrespects b hs, suppliers := ?_, requests := ?_ }
  · rw [hsuppliers]
    exact Evolves.refl SameProjection.refl _
  · rw [hrequests]
    exact Evolves.refl NotRevoked.refl _

/-- Routine statements write no log. -/
theorem Routine.logFree {w : World} {s : MarketplaceStatement} (h : Routine w s.table s) :
    LogFree s := by
  by_cases hrequests : s.table = .authorizationRequests
  · rw [hrequests] at h
    exact h.steadyRequest.logFree
  · by_cases hevents : s.table = .marketplaceEvents
    · rw [hevents] at h
      cases h with
      | free _ hfree => simp [freeTables] at hfree
      | publicationEvent event offerId tenantId =>
          exact guardedCapacityOfferEventInsert_logFree event offerId tenantId
    · by_cases hsuppliers : s.table = .suppliers
      · rw [hsuppliers] at h
        cases h with
        | free _ hfree => simp [freeTables] at hfree
        | setSupply supplierId tenantId enabled now =>
            exact setSupplySql_logFree supplierId tenantId enabled now
      · exact .of_table ⟨Ne.symm hevents, Ne.symm hsuppliers, Ne.symm hrequests⟩

theorem leavesLogs_of_logFree {batch : Batch} {a b : MarketplaceDb}
    (h : ∀ s ∈ batch, LogFree s) (hrun : runBatch a batch = some b) : LeavesLogs a b :=
  runBatch_induction (P := LeavesLogs a) hrun (.of_rows rfl rfl rfl)
    fun s hs _ _ ha happly => ha.trans (h s hs _ _ happly)

/-- Logs without new supplier events are the same logs. -/
theorem LeavesLogs.supplierLog {a b : MarketplaceDb} (h : LeavesLogs a b)
    (tenantId supplierId : String) :
    Server.supplierLog b tenantId supplierId = Server.supplierLog a tenantId supplierId := by
  obtain ⟨added, hrows, hadded⟩ := h.events.eq_append
  have hnone : (added.filter fun row => row.isOfSupplier tenantId supplierId) = [] := by
    refine List.filter_eq_nil_iff.mpr fun row hrow hsel => ?_
    exact hadded row hrow (EventRow.isOfSupplier_eq_true.mp hsel).2.1
  unfold Server.supplierLog
  rw [hrows, List.filter_append, hnone, List.append_nil]

/-- A row whose log and columns stay projects what it projected. -/
theorem SupplierRow.Projects.moved {s s' : SupplierRow} {a b : MarketplaceDb}
    {state : SupplierState} (h : s.Projects a state) (hsame : SameProjection s s')
    (hlog : supplierLog b s'.tenantId s'.supplierId = supplierLog a s'.tenantId s'.supplierId)
    (hrevoked : ∀ r ∈ b.rows .authorizationRequests, r.supplierId = s'.supplierId →
      r.status = .revoked → ∃ old ∈ a.rows .authorizationRequests, r.terms = old.terms ∧
        old.status = .revoked) : s'.Projects b state where
  accepted := by
    rw [hlog, hsame.tenantId, hsame.supplierId]
    exact h.accepted
  version := h.version.trans hsame.version.symm
  status := h.status.trans hsame.status.symm
  revoked := by
    intro r hr htenant hsupplier hstatus
    obtain ⟨old, hold, hterms, hstatus'⟩ := hrevoked r hr hsupplier hstatus
    have htenant' : r.tenantId = old.tenantId := congrArg RequestTerms.tenantId hterms
    have hsupplier' : r.supplierId = old.supplierId := congrArg RequestTerms.supplierId hterms
    rw [show r.requestId = old.requestId from congrArg RequestTerms.requestId hterms]
    refine h.revoked old hold ?_ ?_ hstatus'
    · rw [← htenant', htenant, hsame.tenantId]
    · rw [← hsupplier', hsupplier, hsame.supplierId]

/-- Rows go on projecting logs that are left alone. -/
theorem LeavesLogs.supplierLogs {a b : MarketplaceDb} (h : LeavesLogs a b)
    (hlogs : SupplierLogs a) : SupplierLogs b := by
  have hsupplier : ∀ supplierId : String, (∃ s ∈ a.rows .suppliers, s.supplierId = supplierId) →
      ∃ s ∈ b.rows .suppliers, s.supplierId = supplierId := by
    rintro supplierId ⟨s, hs, hid⟩
    obtain ⟨s', hs', hsame⟩ := h.suppliers.of_mem_old hs
    exact ⟨s', hs', hsame.supplierId.trans hid⟩
  have hevent : ∀ row ∈ b.rows .marketplaceEvents, row.aggregateType = "supplier" →
      row ∈ a.rows .marketplaceEvents := by
    intro row hrow htype
    rcases h.events.of_mem_new hrow with ⟨old, hold, rfl⟩ | hnew
    · exact hold
    · exact absurd htype hnew
  have hrevoked : ∀ r ∈ b.rows .authorizationRequests, r.status = .revoked →
      ∃ old ∈ a.rows .authorizationRequests, r.terms = old.terms ∧ old.status = .revoked := by
    intro r hr hstatus
    rcases h.requests.of_mem_new hr with ⟨old, hold, hmove⟩ | hnew
    · exact ⟨old, hold, hmove.terms, hmove.revoked hstatus⟩
    · exact absurd hstatus hnew
  refine { held := ?_, owned := ?_, revoker := ?_, projects := ?_ }
  · intro row hrow htype
    exact hlogs.held row (hevent row hrow htype) htype
  · intro row hrow htype
    exact hsupplier row.aggregateId (hlogs.owned row (hevent row hrow htype) htype)
  · intro r hr hstatus
    obtain ⟨old, hold, hterms, hstatus'⟩ := hrevoked r hr hstatus
    refine hsupplier r.supplierId ?_
    rw [show r.supplierId = old.supplierId from congrArg RequestTerms.supplierId hterms]
    exact hlogs.revoker old hold hstatus'
  · intro s' hs'
    rcases h.suppliers.of_mem_new hs' with ⟨s, hs, hsame⟩ | hnew
    · obtain ⟨state, hprojects⟩ := hlogs.projects s hs
      refine ⟨state, hprojects.moved hsame (h.supplierLog _ _) fun r hr _ hstatus => ?_⟩
      exact hrevoked r hr hstatus
    · exact hnew.elim

/-! ## Batches that write the logs -/

theorem EventRow.toSupplierEvent_eq_some {row : EventRow} {event : SupplierEvent}
    (h : row.toSupplierEvent = some event) :
    event.tenantId = row.tenantId ∧ event.aggregateId = row.aggregateId ∧
      event.eventId = row.eventId ∧ event.causationId = row.causationId := by
  unfold EventRow.toSupplierEvent at h
  split at h
  · obtain rfl := Option.some.inj h
    exact ⟨rfl, rfl, rfl, rfl⟩
  · cases h

/-- The events of a log name their supplier and are stored. -/
theorem mem_supplierLog {db : MarketplaceDb} {tenantId supplierId : String}
    {event : SupplierEvent} (h : event ∈ supplierLog db tenantId supplierId) :
    event.tenantId = tenantId ∧ event.aggregateId = supplierId ∧
      ∃ row ∈ db.rows .marketplaceEvents, row.tenantId = tenantId ∧
        row.eventId = event.eventId ∧ row.causationId = event.causationId := by
  obtain ⟨row, hrow, hevent⟩ := List.mem_filterMap.mp h
  obtain ⟨hmem, hsel⟩ := List.mem_filter.mp hrow
  obtain ⟨htenant, -, hid⟩ := EventRow.isOfSupplier_eq_true.mp hsel
  obtain ⟨htenant', hid', heventId, hcausation⟩ := EventRow.toSupplierEvent_eq_some hevent
  exact ⟨htenant'.trans htenant, hid'.trans hid, row, hmem, htenant, heventId.symm,
    hcausation.symm⟩

theorem filterMap_map_ofSupplierEvent (events : List SupplierEvent) :
    (events.map EventRow.ofSupplierEvent).filterMap EventRow.toSupplierEvent = events := by
  induction events with
  | nil => rfl
  | cons event events ih =>
      rw [List.map_cons, List.filterMap_cons, EventRow.toSupplierEvent_ofSupplierEvent, ih]

section Extension

variable {a b : MarketplaceDb} {tenantId supplierId : String} {events : List SupplierEvent}

/-- Appended events of one supplier extend its log. -/
theorem supplierLog_extended
    (hrows : b.rows .marketplaceEvents =
      a.rows .marketplaceEvents ++ events.map EventRow.ofSupplierEvent)
    (hidentity : ∀ event ∈ events, event.aggregateType = "supplier" ∧
      event.tenantId = tenantId ∧ event.aggregateId = supplierId) :
    supplierLog b tenantId supplierId = supplierLog a tenantId supplierId ++ events := by
  have hall : ((events.map EventRow.ofSupplierEvent).filter fun row =>
      row.isOfSupplier tenantId supplierId) = events.map EventRow.ofSupplierEvent := by
    refine List.filter_eq_self.mpr fun row hrow => ?_
    obtain ⟨event, hevent, rfl⟩ := List.mem_map.mp hrow
    obtain ⟨htype, htenant, hid⟩ := hidentity event hevent
    exact EventRow.isOfSupplier_eq_true.mpr ⟨htenant, htype, hid⟩
  unfold supplierLog
  rw [hrows, List.filter_append, List.filterMap_append, hall, filterMap_map_ofSupplierEvent]

/-- They extend no log of another tenant or supplier. -/
theorem supplierLog_other
    (hrows : b.rows .marketplaceEvents =
      a.rows .marketplaceEvents ++ events.map EventRow.ofSupplierEvent)
    (hidentity : ∀ event ∈ events, event.aggregateType = "supplier" ∧
      event.tenantId = tenantId ∧ event.aggregateId = supplierId)
    {otherTenantId otherId : String} (hother : ¬ (otherTenantId = tenantId ∧ otherId = supplierId)) :
    supplierLog b otherTenantId otherId = supplierLog a otherTenantId otherId := by
  have hnone : ((events.map EventRow.ofSupplierEvent).filter fun row =>
      row.isOfSupplier otherTenantId otherId) = [] := by
    refine List.filter_eq_nil_iff.mpr fun row hrow hsel => ?_
    obtain ⟨event, hevent, rfl⟩ := List.mem_map.mp hrow
    obtain ⟨-, htenant, hid⟩ := hidentity event hevent
    have hnamed := EventRow.isOfSupplier_eq_true.mp hsel
    exact hother ⟨hnamed.1.symm.trans htenant, hnamed.2.2.symm.trans hid⟩
  unfold supplierLog
  rw [hrows, List.filter_append, hnone, List.append_nil]

/-- A batch that writes the row and the log of one supplier only. -/
theorem SupplierLogs.extended (hlogs : SupplierLogs a) (hfollows : Follows a b)
    (hrows : b.rows .marketplaceEvents =
      a.rows .marketplaceEvents ++ events.map EventRow.ofSupplierEvent)
    (hidentity : ∀ event ∈ events, event.aggregateType = "supplier" ∧
      event.tenantId = tenantId ∧ event.aggregateId = supplierId)
    (hsupplier : ∃ s ∈ b.rows .suppliers, s.supplierId = supplierId)
    (hother : ∀ s' ∈ b.rows .suppliers, s'.supplierId ≠ supplierId →
      ∃ s ∈ a.rows .suppliers, SameProjection s s')
    (hrevoked : ∀ r ∈ b.rows .authorizationRequests, r.status = .revoked →
      r.supplierId = supplierId ∨
        ∃ old ∈ a.rows .authorizationRequests, r.terms = old.terms ∧ old.status = .revoked)
    (hprojects : ∀ s ∈ b.rows .suppliers, s.supplierId = supplierId →
      ∃ state, s.Projects b state) : SupplierLogs b := by
  have hkept : ∀ id : String, (∃ s ∈ a.rows .suppliers, s.supplierId = id) →
      ∃ s ∈ b.rows .suppliers, s.supplierId = id := by
    rintro id ⟨s, hs, hid⟩
    obtain ⟨s', hs', hmove⟩ := hfollows.suppliers.of_mem_old hs
    exact ⟨s', hs', hmove.supplierId.trans hid⟩
  refine { held := ?_, owned := ?_, revoker := ?_, projects := ?_ }
  · intro row hrow htype
    rw [hrows] at hrow
    rcases List.mem_append.mp hrow with hold | hnew
    · exact hlogs.held row hold htype
    · obtain ⟨event, -, rfl⟩ := List.mem_map.mp hnew
      exact ⟨event, rfl⟩
  · intro row hrow htype
    rw [hrows] at hrow
    rcases List.mem_append.mp hrow with hold | hnew
    · exact hkept row.aggregateId (hlogs.owned row hold htype)
    · obtain ⟨event, hevent, rfl⟩ := List.mem_map.mp hnew
      rw [show (EventRow.ofSupplierEvent event).aggregateId = supplierId from
        (hidentity event hevent).2.2]
      exact hsupplier
  · intro r hr hstatus
    rcases hrevoked r hr hstatus with hid | ⟨old, hold, hterms, hstatus'⟩
    · rw [hid]
      exact hsupplier
    · refine hkept r.supplierId ?_
      rw [show r.supplierId = old.supplierId from congrArg RequestTerms.supplierId hterms]
      exact hlogs.revoker old hold hstatus'
  · intro s' hs'
    by_cases hid : s'.supplierId = supplierId
    · exact hprojects s' hs' hid
    · obtain ⟨s, hs, hsame⟩ := hother s' hs' hid
      obtain ⟨state, hstate⟩ := hlogs.projects s hs
      refine ⟨state, hstate.moved hsame
        (supplierLog_other hrows hidentity fun hsame => hid hsame.2) ?_⟩
      intro r hr hsupplierId hstatus
      rcases hrevoked r hr hstatus with hmine | hold
      · exact absurd (hsupplierId.symm.trans hmine) hid
      · exact hold

end Extension

/-- Rows without a clash have different ids. -/
theorem supplierId_ne_of_clashes {old new : SupplierRow}
    (h : clashes (S := marketplaceSchema) .suppliers old new = false) :
    old.supplierId ≠ new.supplierId := by
  intro hid
  have hclash : clashes (S := marketplaceSchema) .suppliers old new = true := by
    rw [Relational.clashes_eq_true]
    exact ⟨.primaryKey old.supplierId, by simp [marketplaceKeys], by simp [marketplaceKeys, hid]⟩
  rw [hclash] at h
  cases h

/-- What a registration does to the tables of the logs. -/
structure Registered (identity : RequestIdentity) (input : RegisterSupplierRequest)
    (event : SupplierEvent) (supplierId : String) (now : Nat) (a b : MarketplaceDb) : Prop where
  events : b.rows .marketplaceEvents =
    a.rows .marketplaceEvents ++ [event].map EventRow.ofSupplierEvent
  suppliers : b.rows .suppliers = a.rows .suppliers ++ [input.row identity supplierId now]
  requests : b.rows .authorizationRequests = a.rows .authorizationRequests
  isNew : ¬ ∃ s ∈ a.rows .suppliers, s.supplierId = supplierId

theorem registerSupplierBatch_registered {identity : RequestIdentity}
    {input : RegisterSupplierRequest} {event : SupplierEvent} {supplierId auditUuid : String}
    {now : Nat} {a b : MarketplaceDb}
    (hrun : runBatch a (registerSupplierBatch identity input event supplierId auditUuid now) =
      some b) : Registered identity input event supplierId now a b := by
  simp only [registerSupplierBatch, runBatch_cons_eq_some, runBatch_nil,
    Option.some.injEq] at hrun
  obtain ⟨d₁, h₁, d₂, h₂, d₃, h₃, d₄, h₄, rfl⟩ := hrun
  have hd₁ := (Statement.insert_singleton h₁ rfl).2
  obtain ⟨hfresh, hd₂⟩ := Statement.insert_singleton h₂ rfl
  have hframe : ∀ t, t ≠ .auditEvents → t ≠ .idempotencyKeys → d₄.rows t = d₂.rows t :=
    fun t haudit hkeys =>
      (Statement.apply_rows_of_ne h₄ hkeys).trans (Statement.apply_rows_of_ne h₃ haudit)
  have hsuppliers₁ : d₁.rows .suppliers = a.rows .suppliers :=
    Statement.apply_rows_of_ne h₁ MarketplaceTable.noConfusion
  constructor
  · rw [hframe _ MarketplaceTable.noConfusion MarketplaceTable.noConfusion, hd₂,
      Database.withRows_rows_ne _ _ MarketplaceTable.noConfusion, hd₁, Database.withRows_rows]
    rfl
  · rw [hframe _ MarketplaceTable.noConfusion MarketplaceTable.noConfusion, hd₂,
      Database.withRows_rows, hsuppliers₁]
  · rw [hframe _ MarketplaceTable.noConfusion MarketplaceTable.noConfusion, hd₂,
      Database.withRows_rows_ne _ _ MarketplaceTable.noConfusion, hd₁,
      Database.withRows_rows_ne _ _ MarketplaceTable.noConfusion]
  · rintro ⟨s, hs, hid⟩
    rw [← hsuppliers₁] at hs
    exact supplierId_ne_of_clashes (hfresh s hs) hid

/-- The event of a registration names its supplier. -/
theorem registerSupplier_names {input : SupplierRegistrationInput}
    {context : MarketplaceCommandContext} {event : SupplierEvent}
    (h : registerSupplier input context = .ok event) :
    event.aggregateType = "supplier" ∧ event.tenantId = context.tenantId ∧
      event.aggregateId = input.supplierId := by
  simp only [registerSupplier, Except.bind_eq_ok, exists_unit, Except.pure_eq_ok] at h
  obtain ⟨-, -, -, -, -, -, rfl⟩ := h
  exact ⟨rfl, rfl, rfl⟩

/-- A supplier without a row has no log. -/
theorem SupplierLogs.supplierLog_eq_nil {a : MarketplaceDb} {supplierId : String}
    (hlogs : SupplierLogs a) (hnew : ¬ ∃ s ∈ a.rows .suppliers, s.supplierId = supplierId)
    (tenantId : String) : supplierLog a tenantId supplierId = [] := by
  refine List.eq_nil_iff_forall_not_mem.mpr fun e he => ?_
  obtain ⟨row, hrow, -⟩ := List.mem_filterMap.mp he
  obtain ⟨hmem, hsel⟩ := List.mem_filter.mp hrow
  obtain ⟨-, htype, hid⟩ := EventRow.isOfSupplier_eq_true.mp hsel
  obtain ⟨s, hs, hsame⟩ := hlogs.owned row hmem htype
  exact hnew ⟨s, hs, hsame.trans hid⟩

/-- A registration starts a log. -/
theorem Registered.supplierLogs {identity : RequestIdentity} {input : RegisterSupplierRequest}
    {supplierId eventUuid : String} {now : Nat} {event : SupplierEvent} {a b : MarketplaceDb}
    (h : Registered identity input event supplierId now a b) (hlogs : SupplierLogs a)
    (hfollows : Follows a b)
    (hevent : registerSupplier
      { supplierId
        kind := input.kind
        legalName := input.legalName
        displayName := input.displayName
        countryCode := input.countryCode
        taxResidenceCountryCode := input.taxResidenceCountryCode }
      (commandContext identity input.commandId eventUuid now) = .ok event) : SupplierLogs b := by
  obtain ⟨state, haccepted, hpending⟩ := rehydrate_registration hevent
  have hversion : state.version = 1 := (rehydrateSupplier_tracks haccepted).2
  obtain ⟨hrows, hsuppliers, hrequests, hnew⟩ := h
  have hidentity : ∀ e ∈ [event], e.aggregateType = "supplier" ∧
      e.tenantId = identity.tenantId ∧ e.aggregateId = supplierId := by
    intro e he
    rw [List.mem_singleton.mp he]
    exact registerSupplier_names hevent
  have hempty := hlogs.supplierLog_eq_nil hnew identity.tenantId
  refine hlogs.extended hfollows hrows hidentity ?_ ?_ ?_ ?_
  · rw [hsuppliers]
    exact ⟨_, List.mem_append_right _ (List.mem_singleton.mpr rfl), rfl⟩
  · intro s' hs' hne
    rw [hsuppliers] at hs'
    rcases List.mem_append.mp hs' with hold | hs'
    · exact ⟨s', hold, .refl s'⟩
    · rw [List.mem_singleton.mp hs'] at hne
      exact absurd rfl hne
  · intro r hr hstatus
    rw [hrequests] at hr
    exact Or.inr ⟨r, hr, rfl, hstatus⟩
  · intro s' hs' hid
    rw [hsuppliers] at hs'
    rcases List.mem_append.mp hs' with hold | hs'
    · exact absurd ⟨s', hold, hid⟩ hnew
    · rw [List.mem_singleton.mp hs']
      refine ⟨state, { accepted := ?_, version := hversion, status := hpending, revoked := ?_ }⟩
      · have hlog := supplierLog_extended hrows hidentity
        rw [hempty, List.nil_append] at hlog
        exact hlog.symm ▸ haccepted
      · intro r hr _ hsupplier hstatus
        rw [hrequests] at hr
        obtain ⟨s, hs, hsame⟩ := hlogs.revoker r hr hstatus
        exact absurd ⟨s, hs, hsame.trans hsupplier⟩ hnew

/-- A log that was read with a state belongs to the supplier it was read for. -/
theorem rehydrated_identity {db : MarketplaceDb} {tenantId supplierId : String}
    {state : SupplierState}
    (h : rehydrateSupplier (readSupplierEvents db tenantId supplierId) = .ok (some state)) :
    state.tenantId = tenantId ∧ state.supplierId = supplierId := by
  obtain ⟨event, hevent⟩ := List.exists_mem_of_ne_nil _ (rehydrateSupplier_ne_nil h)
  obtain ⟨-, htenant, hid⟩ := rehydrateSupplier_identified h event hevent
  obtain ⟨row, hrow, heq⟩ := List.mem_filterMap.mp hevent
  have hmem := (List.mem_insertionSort _).mp hrow
  obtain ⟨htenant', -, hid'⟩ :=
    EventRow.isOfSupplier_eq_true.mp (List.mem_filter.mp hmem).2
  obtain ⟨htenant'', hid'', -, -⟩ := EventRow.toSupplierEvent_eq_some heq
  exact ⟨htenant.symm.trans (htenant''.trans htenant'), hid.symm.trans (hid''.trans hid')⟩

/-- Events that extend the log of a supplier are events of that supplier. -/
theorem appended_identity {db : MarketplaceDb} {tenantId supplierId : String}
    {more : List SupplierEvent} {state : SupplierState}
    (h : rehydrateSupplier (supplierLog db tenantId supplierId ++ more) = .ok (some state))
    (hlog : supplierLog db tenantId supplierId ≠ []) :
    ∀ event ∈ more, event.aggregateType = "supplier" ∧ event.tenantId = tenantId ∧
      event.aggregateId = supplierId := by
  obtain ⟨first, hfirst⟩ := List.exists_mem_of_ne_nil _ hlog
  obtain ⟨-, hfirstTenant, hfirstId⟩ :=
    rehydrateSupplier_identified h first (List.mem_append_left _ hfirst)
  obtain ⟨htenant, hid, -⟩ := mem_supplierLog hfirst
  intro event hevent
  obtain ⟨htype, htenant', hid'⟩ :=
    rehydrateSupplier_identified h event (List.mem_append_right _ hevent)
  exact ⟨htype, htenant'.trans (hfirstTenant.symm.trans htenant),
    hid'.trans (hfirstId.symm.trans hid)⟩

/-- A row that stands at a version has the supplier's ids. -/
theorem SupplierRow.standsAt_eq_true {s : SupplierRow} {supplierId tenantId : String}
    {version : Nat} : s.standsAt supplierId tenantId version = true ↔
      s.supplierId = supplierId ∧ s.tenantId = tenantId ∧ s.version = version := by
  simp [SupplierRow.standsAt, and_assoc]

/-- The log an approval extends is the whole log, if the row still has its version. -/
theorem approval_current {a snap : MarketplaceDb} {tenantId supplierId : String}
    {events : List SupplierEvent} {state : SupplierState} (hlogs : SupplierLogs a)
    (hfollows : Follows snap a)
    (hleads : rehydrateSupplier (readSupplierEvents snap tenantId supplierId ++ events) =
      .ok (some state))
    (hstands : ∃ s ∈ a.rows .suppliers,
      s.standsAt supplierId tenantId (state.version - events.length) = true) :
    readSupplierEvents snap tenantId supplierId = supplierLog a tenantId supplierId ∧
      ∀ event ∈ events, event.aggregateType = "supplier" ∧ event.tenantId = tenantId ∧
        event.aggregateId = supplierId := by
  obtain ⟨s, hs, hat⟩ := hstands
  obtain ⟨rfl, rfl, hversion⟩ := SupplierRow.standsAt_eq_true.mp hat
  have hlength := (rehydrateSupplier_tracks hleads).2
  rw [List.length_append] at hlength
  have hcurrent := readSupplierEvents_current hlogs hfollows hs (by omega)
  obtain ⟨before, hprojects⟩ := hlogs.projects s hs
  rw [hcurrent] at hleads
  exact ⟨hcurrent, appended_identity hleads (rehydrateSupplier_ne_nil hprojects.accepted)⟩

/-- An approval that took effect extends the log by its events. -/
theorem Approved.supplierLogs {c : ReviewCommand} {note supplierId tenantId auditId : String}
    {events : List SupplierEvent} {state : SupplierState} {a b snap : MarketplaceDb}
    (h : Approved c note supplierId tenantId events (state.version - events.length)
      state.version auditId a b)
    (hlogs : SupplierLogs a) (hconsistent : Consistent a) (hafter : Follows a b)
    (hfollows : Follows snap a)
    (hleads : rehydrateSupplier (readSupplierEvents snap tenantId supplierId ++ events) =
      .ok (some state)) (hactive : state.status = .active) : SupplierLogs b := by
  obtain ⟨hcurrent, hidentity⟩ := approval_current hlogs hfollows hleads h.supplier
  obtain ⟨s, hs, hat⟩ := h.supplier
  have hids := SupplierRow.standsAt_eq_true.mp hat
  rw [hcurrent] at hleads
  have hrevoked : ∀ r ∈ b.rows .authorizationRequests, r.status = .revoked →
      r ∈ a.rows .authorizationRequests := by
    intro r hr hstatus
    rw [h.requests] at hr
    obtain ⟨old, hold, heq⟩ := List.mem_map.mp hr
    by_cases hid : old.requestId = c.requestId
    · rw [if_pos hid] at heq
      rw [← heq] at hstatus
      exact AuthorizationStatus.noConfusion hstatus
    · rw [if_neg hid] at heq
      exact heq ▸ hold
  refine hlogs.extended hafter h.events hidentity ?_ ?_ ?_ ?_
  · rw [h.suppliers]
    refine ⟨_, List.mem_map_of_mem hs, ?_⟩
    rw [if_pos hat]
    exact hids.1
  · intro s' hs' hne
    rw [h.suppliers] at hs'
    obtain ⟨old, hold, rfl⟩ := List.mem_map.mp hs'
    by_cases hold' : old.standsAt supplierId tenantId (state.version - events.length) = true
    · rw [if_pos hold'] at hne
      exact absurd (SupplierRow.standsAt_eq_true.mp hold').1 hne
    · rw [if_neg hold']
      exact ⟨old, hold, .refl old⟩
  · intro r hr hstatus
    exact Or.inr ⟨r, hrevoked r hr hstatus, rfl, hstatus⟩
  · intro s' hs' hid
    rw [h.suppliers] at hs'
    obtain ⟨old, hold, rfl⟩ := List.mem_map.mp hs'
    have hsame : old = s := by
      refine supplier_unique hconsistent hold hs ?_
      rw [hids.1, ← hid]
      split <;> rfl
    rw [hsame, if_pos hat]
    obtain ⟨before, hprojects⟩ := hlogs.projects s hs
    rw [← hids.1, ← hids.2.1] at hleads
    refine ⟨state, { accepted := ?_, version := rfl, status := hactive, revoked := ?_ }⟩
    · have hlog := supplierLog_extended h.events hidentity
      rw [← hids.1, ← hids.2.1] at hlog
      exact hlog.symm ▸ hleads
    · intro r hr htenant hsupplier hstatus
      obtain ⟨authorization, hmem, hauthorization, hstatus'⟩ :=
        hprojects.revoked r (hrevoked r hr hstatus) htenant hsupplier hstatus
      exact ⟨authorization, rehydrate_revoked_stays hprojects.accepted hleads hmem hstatus',
        hauthorization, hstatus'⟩

/-- The state a revocation starts from is the log's, if the row still has its version. -/
theorem revocation_current {a snap : MarketplaceDb} {tenantId supplierId : String}
    {state : SupplierState} (hlogs : SupplierLogs a) (hfollows : Follows snap a)
    (hstate : rehydrateSupplier (readSupplierEvents snap tenantId supplierId) =
      .ok (some state))
    {s : SupplierRow} (hs : s ∈ a.rows .suppliers)
    (hat : s.standsAt supplierId tenantId state.version = true) : s.Projects a state := by
  obtain ⟨rfl, rfl, hversion⟩ := SupplierRow.standsAt_eq_true.mp hat
  have hlength := (rehydrateSupplier_tracks hstate).2
  have hcurrent := readSupplierEvents_current hlogs hfollows hs (by omega)
  obtain ⟨before, hprojects⟩ := hlogs.projects s hs
  rw [hcurrent, hprojects.accepted] at hstate
  obtain rfl := Option.some.inj (Except.ok.inj hstate)
  exact hprojects

/-- A request that is revoked already belongs to a supplier that has moved. -/
theorem revocation_moved {c : LifecycleCommand} {a snap : MarketplaceDb} {state : SupplierState}
    (hlogs : SupplierLogs a) (hfollows : Follows snap a)
    (hstate : rehydrateSupplier (readSupplierEvents snap c.tenantId c.supplierId) =
      .ok (some state))
    (hunrevoked : state.hasUnrevoked ("authorization-" ++ c.requestId) = true)
    (hrevoked : c.ownRevokedIn a = true) :
    ∀ s ∈ a.rows .suppliers, s.standsAt c.supplierId c.tenantId state.version = false := by
  intro s hs
  by_contra hat
  rw [Bool.not_eq_false] at hat
  have hprojects := revocation_current hlogs hfollows hstate hs hat
  obtain ⟨hid, htenant, -⟩ := SupplierRow.standsAt_eq_true.mp hat
  obtain ⟨r, hr, hown⟩ := List.any_eq_true.mp hrevoked
  simp only [LifecycleCommand.owns, Bool.and_eq_true, beq_iff_eq] at hown
  obtain ⟨authorization, hmem, hauthorization, hstatus⟩ :=
    hprojects.revoked r hr (hown.1.1.1.2.trans htenant.symm) (hown.1.1.2.trans hid.symm) hown.1.2
  have hagain := hasUnrevoked_of_revoked hprojects.accepted hmem hstatus
  rw [hauthorization, hown.1.1.1.1, hunrevoked] at hagain
  cases hagain

/-- An event without a clash in the table is new in every log of its tenant. -/
theorem supplierLog_fresh {a : MarketplaceDb} {tenantId : String} {event : SupplierEvent}
    (supplierId : String) (htenant : event.tenantId = tenantId)
    (hnew : ∀ old ∈ a.rows .marketplaceEvents, clashes (S := marketplaceSchema)
      .marketplaceEvents old (EventRow.ofSupplierEvent event) = false) :
    event.eventId ∉ (supplierLog a tenantId supplierId).map SupplierEvent.eventId ∧
      event.causationId ∉ (supplierLog a tenantId supplierId).map SupplierEvent.causationId := by
  have hrow : ∀ old ∈ supplierLog a tenantId supplierId, old.eventId ≠ event.eventId ∧
      old.causationId ≠ event.causationId := by
    intro old hold
    obtain ⟨-, -, row, hrow, hrowTenant, hrowId, hrowCausation⟩ := mem_supplierLog hold
    have hclash := hnew row hrow
    constructor
    · intro hid
      have hkey : clashes (S := marketplaceSchema) .marketplaceEvents row
          (EventRow.ofSupplierEvent event) = true := by
        rw [Relational.clashes_eq_true]
        refine ⟨.primaryKey row.eventId, by simp [marketplaceKeys], ?_⟩
        simp [marketplaceKeys, EventRow.ofSupplierEvent, hrowId, hid]
      exact Bool.false_ne_true (hclash.symm.trans hkey)
    · intro hcausation
      have hkey : clashes (S := marketplaceSchema) .marketplaceEvents row
          (EventRow.ofSupplierEvent event) = true := by
        rw [Relational.clashes_eq_true]
        refine ⟨.byCausation row.tenantId row.causationId, by simp [marketplaceKeys], ?_⟩
        simp [marketplaceKeys, EventRow.ofSupplierEvent, hrowTenant, htenant, hrowCausation,
          hcausation]
      exact Bool.false_ne_true (hclash.symm.trans hkey)
  constructor
  · intro hmem
    obtain ⟨old, hold, hid⟩ := List.mem_map.mp hmem
    exact (hrow old hold).1 hid
  · intro hmem
    obtain ⟨old, hold, hid⟩ := List.mem_map.mp hmem
    exact (hrow old hold).2 hid

/-- The event of a revocation extends the log of its supplier. -/
theorem revocation_extends {a : MarketplaceDb} {s : SupplierRow} {state : SupplierState}
    {authorizationId reasonCode : String} {context : MarketplaceCommandContext}
    {event : SupplierEvent} (hprojects : s.Projects a state)
    (hevent : revokeProviderAuthorization state authorizationId reasonCode context = .ok event)
    (htenant : context.tenantId = s.tenantId)
    (hnew : ∀ old ∈ a.rows .marketplaceEvents, clashes (S := marketplaceSchema)
      .marketplaceEvents old (EventRow.ofSupplierEvent event) = false)
    (hbound : (a.rows .marketplaceEvents).length + 1 ≤ maxSafeInteger) :
    rehydrateSupplier (supplierLog a s.tenantId s.supplierId ++ [event]) =
      .ok (some (advance (SupplierCommand.changed
        (.revokeAuthorization authorizationId reasonCode) state) event)) := by
  have hcommand : SupplierCommand.run (.revokeAuthorization authorizationId reasonCode) state
      context = .ok event := hevent
  have hshape := (SupplierCommand.run_context hcommand).2
  have hids : event.eventId = context.eventId ∧ event.causationId = context.commandId ∧
      event.tenantId = context.tenantId := by
    rw [hshape]
    exact ⟨rfl, rfl, rfl⟩
  obtain ⟨hfreshId, hfreshCausation⟩ :=
    supplierLog_fresh s.supplierId (hids.2.2.trans htenant) hnew
  have hlength : (supplierLog a s.tenantId s.supplierId).length ≤
      (a.rows .marketplaceEvents).length :=
    (List.length_filterMap_le _ _).trans (List.length_filter_le _ _)
  rw [hids.1] at hfreshId
  rw [hids.2.1] at hfreshCausation
  exact rehydrate_append_run hprojects.accepted hcommand hfreshId hfreshCausation (by omega)

/-- A revocation that took effect extends the log by its event. -/
theorem Revoked.supplierLogs {c : LifecycleCommand} {reasonCode : String} {event : SupplierEvent}
    {context : MarketplaceCommandContext} {state : SupplierState} {a b snap : MarketplaceDb}
    (h : Revoked c reasonCode state.version event a b) (hlogs : SupplierLogs a)
    (hconsistent : Consistent a) (hafter : Follows a b) (hfollows : Follows snap a)
    (hstate : rehydrateSupplier (readSupplierEvents snap c.tenantId c.supplierId) =
      .ok (some state))
    (hevent : revokeProviderAuthorization state ("authorization-" ++ c.requestId) reasonCode
      context = .ok event) (htenant : context.tenantId = c.tenantId)
    (hbound : (b.rows .marketplaceEvents).length ≤ maxSafeInteger) : SupplierLogs b := by
  obtain ⟨s, hs, hat⟩ := h.supplier
  obtain ⟨hsid, hstenant, -⟩ := SupplierRow.standsAt_eq_true.mp hat
  have hprojects := revocation_current hlogs hfollows hstate hs hat
  obtain ⟨target, htarget, hsel⟩ := h.target
  have hsel' := hsel
  simp only [LifecycleCommand.targets, LifecycleCommand.owns, Bool.and_eq_true,
    beq_iff_eq] at hsel'
  have hrows : b.rows .marketplaceEvents =
      a.rows .marketplaceEvents ++ [event].map EventRow.ofSupplierEvent := h.events
  have haccepted := revocation_extends hprojects hevent (htenant.trans hstenant.symm) h.isNew (by
    rw [hrows, List.length_append, List.map_singleton, List.length_singleton] at hbound
    exact hbound)
  have hidentity := appended_identity haccepted (rehydrateSupplier_ne_nil hprojects.accepted)
  obtain ⟨supply, hsuppliers⟩ := h.suppliers
  have hother : ∀ r ∈ b.rows .authorizationRequests, r.status = .revoked →
      r.requestId = c.requestId ∨ r ∈ a.rows .authorizationRequests := by
    intro r hr hstatus
    rw [h.requests] at hr
    obtain ⟨old, hold, rfl⟩ := List.mem_map.mp hr
    by_cases hid : old.requestId = c.requestId
    · left
      rw [if_pos hid]
      exact hid
    · right
      rw [if_neg hid]
      exact hold
  refine hlogs.extended hafter hrows hidentity ?_ ?_ ?_ ?_
  · rw [hsuppliers]
    refine ⟨_, List.mem_map_of_mem hs, ?_⟩
    rw [if_pos hat]
  · intro s' hs' hne
    rw [hsuppliers] at hs'
    obtain ⟨old, hold, rfl⟩ := List.mem_map.mp hs'
    by_cases hold' : old.standsAt c.supplierId c.tenantId state.version = true
    · rw [if_pos hold'] at hne
      exact absurd ((SupplierRow.standsAt_eq_true.mp hold').1.trans hsid.symm) hne
    · rw [if_neg hold']
      exact ⟨old, hold, .refl old⟩
  · intro r hr hstatus
    rcases hother r hr hstatus with hid | hold
    · left
      rw [h.requests] at hr
      obtain ⟨old, hold, rfl⟩ := List.mem_map.mp hr
      by_cases hold' : old.requestId = c.requestId
      · rw [if_pos hold']
        have hsame : old = target := c.eq_target hconsistent htarget hsel hold hold'
        exact (congrArg AuthorizationRow.supplierId hsame).trans (hsel'.1.1.2.trans hsid.symm)
      · rw [if_neg hold'] at hid
        exact absurd hid hold'
    · exact Or.inr ⟨r, hold, rfl, hstatus⟩
  · intro s' hs' hid
    rw [hsuppliers] at hs'
    obtain ⟨old, hold, rfl⟩ := List.mem_map.mp hs'
    have hsame : old = s := by
      refine supplier_unique hconsistent hold hs ?_
      rw [← hid]
      split <;> rfl
    rw [hsame, if_pos hat]
    refine ⟨advance (SupplierCommand.changed
        (.revokeAuthorization ("authorization-" ++ c.requestId) reasonCode) state) event,
      { accepted := ?_, version := rfl, status := hprojects.status, revoked := ?_ }⟩
    · have hlog := supplierLog_extended hrows hidentity
      exact hlog.symm ▸ haccepted
    · intro r hr hrtenant hrsupplier hstatus
      rcases hother r hr hstatus with hmine | hold
      · rw [hmine]
        refine revokeIn_revoked ?_
        simp only [revokeProviderAuthorization, Except.bind_eq_ok, exists_unit,
          ensure_eq_ok] at hevent
        exact hevent.2.2.2.1
      · obtain ⟨authorization, hmem, hauthorization, hstatus'⟩ :=
          hprojects.revoked r hold hrtenant hrsupplier hstatus
        exact ⟨authorization,
          rehydrate_revoked_stays hprojects.accepted haccepted hmem hstatus',
          hauthorization, hstatus'⟩

/-! ## Reachable states -/

/-- A revocation of a reachable state is lost or takes effect. -/
theorem Reachable.revocation_outcome {w : World} (hw : Reachable w) {call : Call}
    {identity : RequestIdentity} {supplier : SupplierRow} {request : AuthorizationRow}
    {commandId reasonCode binding operationUuid eventUuid : String} {now : Nat}
    {snap db : MarketplaceDb} {state : SupplierState} {event : SupplierEvent}
    (hlogs : SupplierLogs w.db)
    (h : LifecycleOf w call identity supplier request now operationUuid)
    (hsnap : snap ∈ w.snapshots) (happroved : request.status = .approved)
    (hstate : rehydrateSupplier
      (readSupplierEvents snap identity.tenantId supplier.supplierId) = .ok (some state))
    (hversion : state.version = supplier.version)
    (hevent : revokeProviderAuthorization state ("authorization-" ++ request.requestId)
      reasonCode (commandContext identity commandId eventUuid now) = .ok event)
    (hvalid : request.isValidAfter now = true)
    (hrun : runBatch w.db (revocationBatch
      (lifecycleCommand identity supplier request "authorization.revoke" commandId binding
        ("authorization-revoke-op-" ++ operationUuid) now)
      request supplier.version reasonCode event) = some db) :
    (lifecycleCommand identity supplier request "authorization.revoke" commandId binding
        ("authorization-revoke-op-" ++ operationUuid) now).Lost w.db db ∨
      Revoked (lifecycleCommand identity supplier request "authorization.revoke" commandId
        binding ("authorization-revoke-op-" ++ operationUuid) now) reasonCode supplier.version
        event w.db db := by
  have hshape := hevent
  simp only [revokeProviderAuthorization, Except.bind_eq_ok, exists_unit, ensure_eq_ok,
    Except.pure_eq_ok] at hshape
  obtain ⟨-, -, -, hunrevoked, heq⟩ := hshape
  have hids := rehydrated_identity hstate
  refine revocationBatch_outcome hw.consistent identity.tenantId_ne_platform ?_ happroved ?_ ?_
    hw.bindings ?_ hrun
  · exact hw.claim_isNew (p := "authorization-revoke-op-") rfl (by decide) h.operation rfl
  · intro r hr hid
    obtain ⟨snap', hsnap', hrequest⟩ := h.observed
    have hterms := hw.terms_eq hsnap' (Follows.refl _) hw.consistent hrequest hr hid
    have hvalidUntil : r.validUntil = request.validUntil :=
      congrArg RequestTerms.validUntil hterms
    unfold AuthorizationRow.isValidAfter at hvalid ⊢
    rw [hvalidUntil]
    exact hvalid
  · rw [← heq]
    exact ⟨hids.2, rfl⟩
  · intro hrevoked
    rw [← hversion]
    exact revocation_moved hlogs (hw.sound.follows snap hsnap) hstate hunrevoked hrevoked

/-- What a sent batch does to the logs. -/
inductive LogWrite (w : World) (db : MarketplaceDb) : Prop
  | free (h : LeavesLogs w.db db)
  | registered (identity : RequestIdentity) (input : RegisterSupplierRequest)
      (event : SupplierEvent) (supplierId eventUuid : String) (now : Nat)
      (hevent : registerSupplier
        { supplierId
          kind := input.kind
          legalName := input.legalName
          displayName := input.displayName
          countryCode := input.countryCode
          taxResidenceCountryCode := input.taxResidenceCountryCode }
        (commandContext identity input.commandId eventUuid now) = .ok event)
      (h : Registered identity input event supplierId now w.db db)
  | approved (ages : List Nat) (identity : RequestIdentity) (request : AuthorizationRow)
      (commandId note auditId token : String) (eventUuids : List String)
      (events : List SupplierEvent) (state : SupplierState) (c : ReviewCommand)
      (hof : ApprovalOf w (w.reads ages) identity request commandId eventUuids token events state)
      (haccepted : rehydrateSupplier (readSupplierEvents (w.reads ages 5) request.tenantId
        request.supplierId ++ events) = .ok (some state))
      (hactive : state.status = .active)
      (h : Approved c note request.supplierId request.tenantId events
        (state.version - events.length) state.version auditId w.db db)
  | revoked (snap : MarketplaceDb) (c : LifecycleCommand) (reasonCode : String)
      (event : SupplierEvent) (context : MarketplaceCommandContext) (state : SupplierState)
      (hsnap : snap ∈ w.snapshots)
      (hstate : rehydrateSupplier (readSupplierEvents snap c.tenantId c.supplierId) =
        .ok (some state))
      (hevent : revokeProviderAuthorization state ("authorization-" ++ c.requestId) reasonCode
        context = .ok event)
      (htenant : context.tenantId = c.tenantId)
      (h : Revoked c reasonCode state.version event w.db db)

/-- A batch without a trace in the logs. -/
theorem LogWrite.of_logFree {w : World} {batch : Batch} {db : MarketplaceDb}
    (hrun : runBatch w.db batch = some db) (h : ∀ s ∈ batch, LogFree s) : LogWrite w db :=
  .free (leavesLogs_of_logFree h hrun)

/-- What a command does to the logs. -/
theorem Command.logWrite {w : World} {call : Call} {batch : Batch} {db : MarketplaceDb}
    (hw : Reachable w) (hlogs : SupplierLogs w.db) (h : Command w call batch)
    (hrun : runBatch w.db batch = some db) : LogWrite w db := by
  have hkeys : ∀ s : MarketplaceStatement, s.table = .idempotencyKeys → LogFree s :=
    fun s hs => .other hs (by decide)
  have haudits : ∀ s : MarketplaceStatement, s.table = .auditEvents → LogFree s :=
    fun s hs => .other hs (by decide)
  cases h with
  | routine h => exact .of_logFree hrun fun s hs => (h s hs).logFree
  | registration identity input supplierUuid eventUuid auditUuid now event _ hevent =>
      exact .registered identity input event _ eventUuid now hevent
        (registerSupplierBatch_registered hrun)
  | rejection identity requestId commandId note operationUuid auditUuid now _ =>
      refine .of_logFree hrun ?_
      simp only [rejectionBatch, List.forall_mem_cons, forall_mem_nil_iff, and_true]
      exact ⟨hkeys _ rfl, hkeys _ rfl,
        (rejectAuthorizationRequestSql_steady (w := w) _ _).logFree, haudits _ rfl⟩
  | approval ages identity commandId reviewNote operationUuid auditUuid eventUuids request token
      events state hdraws h =>
      have hfollows := hw.sound.follows _ (w.reads_mem ages 5)
      have hleads := h.leads
      simp only [approvedState, Except.bind_eq_ok, uncaught_eq_ok, found_eq_ok, demand_eq_ok,
        exists_unit, Except.pure_eq_ok, beq_iff_eq] at hleads
      obtain ⟨state?, haccepted, found, rfl, hactive, rfl⟩ := hleads
      have houtcome := approvalBatch_outcome hw.consistent identity.tenantId_ne_platform
        (hw.claim_isNew (p := "review-op-") rfl (by decide) hdraws rfl)
        (fun hstands event hevent =>
          have hidentity :=
            (approval_current hlogs hfollows haccepted hstands).2 event hevent
          ⟨hidentity.2.2, hidentity.2.1⟩) hrun
      cases houtcome with
      | lost hsame =>
          rw [hsame]
          exact .free (.of_rows rfl rfl rfl)
      | orphaned _ _ hclaims =>
          refine .free (.of_rows ?_ ?_ ?_)
          · exact hclaims.rows_of_ne MarketplaceTable.noConfusion
          · exact hclaims.rows_of_ne MarketplaceTable.noConfusion
          · exact hclaims.rows_of_ne MarketplaceTable.noConfusion
      | approved happroved =>
          exact .approved ages identity request commandId _ _ token eventUuids events found _ h
            haccepted hactive happroved
  | withdrawal identity supplier request commandId reasonCode operationUuid now _ _ =>
      refine .of_logFree hrun ?_
      simp only [withdrawPendingAuthorization, withdrawalBatch, List.forall_mem_cons,
        forall_mem_nil_iff, and_true]
      exact ⟨hkeys _ rfl, hkeys _ rfl,
        (withdrawPendingAuthorizationSql_steady (w := w) _ _).logFree, haudits _ rfl⟩
  | revocation identity supplier request commandId reasonCode operationUuid eventUuid now
      snap state event h hsnap happroved hstate hversion hevent hvalid =>
      rcases hw.revocation_outcome hlogs h hsnap happroved hstate hversion hevent hvalid hrun with
        hlost | hrevoked
      · refine .free (.of_rows ?_ ?_ ?_)
        · exact hlost.rows _ MarketplaceTable.noConfusion MarketplaceTable.noConfusion
        · exact hlost.rows _ MarketplaceTable.noConfusion MarketplaceTable.noConfusion
        · exact hlost.rows _ MarketplaceTable.noConfusion MarketplaceTable.noConfusion
      · rw [← hversion] at hrevoked
        exact .revoked snap
          (lifecycleCommand identity supplier request "authorization.revoke" commandId
            (request.requestId ++ ":" ++ reasonCode)
            ("authorization-revoke-op-" ++ operationUuid) now)
          reasonCode event (commandContext identity commandId eventUuid now) state hsnap hstate
          hevent rfl hrevoked
  | rotation identity supplier request commandId reasonCode operationUuid token iv now _ _ _ _ =>
      refine .of_logFree hrun ?_
      simp only [rotationBatch, List.forall_mem_cons, forall_mem_nil_iff, and_true]
      exact ⟨hkeys _ rfl, hkeys _ rfl, rotateAuthorizationCredentialSql_logFree _ _ _ _ _,
        .other (t := .inferenceJobs) rfl (by decide),
        .other (t := .supplierArtifactWorkers) rfl (by decide), haudits _ rfl⟩
  | claim ages identity input leaseToken c candidate _ _ =>
      refine .of_logFree hrun fun s hs => ?_
      rw [List.mem_singleton.mp hs]
      exact .other (t := .artifactTasks) rfl (by decide)
  | checkpoint ages identity input checkpointUuid c row _ _ _ =>
      refine .of_logFree hrun ?_
      simp only [checkpointBatch, List.forall_mem_cons, forall_mem_nil_iff, and_true]
      exact ⟨.other (t := .artifactTasks) rfl (by decide),
        .other (t := .artifactTaskCheckpoints) rfl (by decide)⟩

/-- Completions write no log. -/
theorem Sent.logWrite {w : World} {call : Call} {batch : Batch} {db : MarketplaceDb}
    (hw : Reachable w) (hlogs : SupplierLogs w.db) (h : Sent w call batch)
    (hrun : runBatch w.db batch = some db) : LogWrite w db := by
  cases h with
  | command h => exact h.logWrite hw hlogs hrun
  | inferenceCompletion ages index run result outputIv s uuids _ _ _ =>
      refine .of_logFree hrun fun t ht => ?_
      unfold completionBatch at ht
      rcases List.mem_append.mp ht with hmain | hfee
      · simp only [List.mem_cons, List.not_mem_nil, or_false] at hmain
        rcases hmain with rfl | rfl | rfl | rfl | rfl | rfl
        all_goals
          exact .of_table ⟨MarketplaceTable.noConfusion, MarketplaceTable.noConfusion,
            MarketplaceTable.noConfusion⟩
      · split at hfee
        · simp at hfee
        · rw [List.mem_singleton.mp hfee]
          exact .other (t := .ledgerEntries) rfl (by decide)
  | artifactCompletion s uuids totalTokens price platformFeeBps _ _ _ _ _ _ =>
      refine .of_logFree hrun fun t ht => ?_
      unfold artifactCompletionBatch at ht
      rcases List.mem_append.mp ht with hmain | hfee
      · simp only [List.mem_cons, List.not_mem_nil, or_false] at hmain
        rcases hmain with rfl | rfl | rfl | rfl | rfl | rfl | rfl
        all_goals
          exact .of_table ⟨MarketplaceTable.noConfusion, MarketplaceTable.noConfusion,
            MarketplaceTable.noConfusion⟩
      · split at hfee
        · simp at hfee
        · rw [List.mem_singleton.mp hfee]
          exact .other (t := .ledgerEntries) rfl (by decide)

/-- Every write keeps the logs. -/
theorem LogWrite.supplierLogs {w : World} {db : MarketplaceDb} (h : LogWrite w db)
    (hw : Reachable w) (hlogs : SupplierLogs w.db) (hafter : Follows w.db db)
    (hbound : (db.rows .marketplaceEvents).length ≤ maxSafeInteger) : SupplierLogs db := by
  cases h with
  | free h => exact h.supplierLogs hlogs
  | registered identity input event supplierId eventUuid now hevent h =>
      exact h.supplierLogs hlogs hafter hevent
  | approved ages identity request commandId note auditId token eventUuids events state c _
      haccepted hactive h =>
      exact h.supplierLogs hlogs hw.consistent hafter
        (hw.sound.follows _ (w.reads_mem ages 5)) haccepted hactive
  | revoked snap c reasonCode event context state hsnap hstate hevent htenant h =>
      exact h.supplierLogs hlogs hw.consistent hafter (hw.sound.follows snap hsnap) hstate hevent
        htenant hbound

/-- In every reachable state supplier rows project their logs. -/
theorem Reachable.supplierLogs {w : World} (h : Reachable w) :
    ∀ snap ∈ w.snapshots, SupplierLogs snap := by
  refine h.snapshots (P := SupplierLogs) ?_ ?_ ?_
  · intro clock
    refine { held := ?_, owned := ?_, revoker := ?_, projects := ?_ } <;>
      simp [MarketplaceDb.empty]
  · intro db instant hdb
    refine { held := hdb.held, owned := hdb.owned, revoker := hdb.revoker, projects := ?_ }
    intro s hs
    obtain ⟨state, hstate⟩ := hdb.projects s hs
    exact ⟨state, hstate.accepted, hstate.version, hstate.status, hstate.revoked⟩
  · intro w call batch db hw hold hsent hrun hbound
    have hlogs := hold w.db w.db_mem
    exact (hsent.logWrite hw hlogs hrun).supplierLogs hw hlogs
      (runBatch_follows (fun s hs => hsent.issued s hs) hrun) hbound

/--
In every reachable state the stored events of a supplier are numbered from 1 to
the version of its row, replaying them succeeds, and the replayed supplier has
the version and the status of the row.
-/
theorem supplier_row_projects_log (w : World) (hw : Reachable w) {s : SupplierRow}
    (hs : s ∈ w.db.rows .suppliers) :
    (supplierEventRows w.db s.tenantId s.supplierId).length = s.version ∧
      (supplierEventRows w.db s.tenantId s.supplierId).map EventRow.aggregateVersion =
        List.range' 1 s.version ∧
      ∃ state, rehydrateSupplier (readSupplierEvents w.db s.tenantId s.supplierId) =
          .ok (some state) ∧
        state.version = s.version ∧ state.status = s.status := by
  have hlogs := hw.supplierLogs w.db w.db_mem
  obtain ⟨state, hprojects⟩ := hlogs.projects s hs
  obtain ⟨hrows, hread⟩ := readSupplierEvents_eq hlogs.held hprojects.ordered
  have hlength := hprojects.length
  have hnumbered := (rehydrateSupplier_tracks hprojects.accepted).1
  refine ⟨?_, ?_, state, ?_, hprojects.version, hprojects.status⟩
  · rw [hrows, List.length_map]
    exact hlength
  · rw [hrows, List.map_map, ← hlength]
    exact hnumbered
  · rw [hread]
    exact hprojects.accepted

/-- The log of an approved supplier. -/
theorem supplier_row_projects_log_sample :
    ∃ s ∈ (sampleWorld 3).db.rows .suppliers, s.status = .active ∧ 1 < s.version ∧
      (supplierEventRows (sampleWorld 3).db s.tenantId s.supplierId).map
        EventRow.aggregateVersion = List.range' 1 s.version := by
  have hrow : ∃ s ∈ (sampleWorld 3).db.rows .suppliers, s.status = .active ∧ 1 < s.version := by
    rw [sampleWorld_three]
    decide +kernel
  obtain ⟨s, hs, hactive, hversion⟩ := hrow
  have hprojects := supplier_row_projects_log (sampleWorld 3) (sampleWorld_reachable 3) hs
  exact ⟨s, hs, hactive, hversion, hprojects.2.1⟩

end Server
end TokenStreaming
