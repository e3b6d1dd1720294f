import TokenStreaming.KeyLifecycle.Service

/-!
# Key lifecycle - Safety of the ledger

Each command writes several rows through statements that are guarded one by one.
The guards of a later statement follow from those of the first, so a batch leaves
either all of its rows or none, however stale the reads behind it were.

Main results:

- Theorem {lit}`Ledger.registration`, {lit}`Ledger.baseline`: a registration and a baseline
  write all their rows or none.
- Theorem {lit}`step_ledger`: every step keeps the ledger and only adds to it.
- Theorem {lit}`key_lifecycle_ledger_safe`: what holds of every reachable ledger.
-/

namespace TokenStreaming
namespace KeyLifecycle

open Relational Domain Server TransitionSystem

/-! ## The ledger -/

/-- The event registers the key. -/
def LifecycleEventRow.registers (event : LifecycleEventRow) (domain : VersionedKeyringDomain)
    (keyId : String) : Bool :=
  event.domain == domain && event.keyId == keyId && event.eventType == .keyRegistered

/-- What connects the rows of the four tables. -/
structure Ledger (db : LifecycleDb) : Prop where
  uniqueCanaries : UniqueKeys (S := lifecycleSchema) .canaries (db.rows .canaries)
  uniqueEvents : UniqueKeys (S := lifecycleSchema) .lifecycleEvents (db.rows .lifecycleEvents)
  uniqueStates : UniqueKeys (S := lifecycleSchema) .keyringStates (db.rows .keyringStates)
  uniqueEligibility :
    UniqueKeys (S := lifecycleSchema) .bootstrapEligibility (db.rows .bootstrapEligibility)
  /-- The applied manifest is as new as every manifest event of its domain. -/
  manifests : ∀ e ∈ db.rows .lifecycleEvents, e.eventType = .manifestApplied →
    ∃ s ∈ db.rows .keyringStates, s.domain = e.domain ∧ e.generation ≤ s.generation ∧
      (e.generation = s.generation → e.manifestHash = s.manifestHash)
  hashes : ∀ e ∈ db.rows .lifecycleEvents, ∀ e' ∈ db.rows .lifecycleEvents,
    e.eventType = .manifestApplied → e'.eventType = .manifestApplied → e.domain = e'.domain →
      e.generation = e'.generation → e.manifestHash = e'.manifestHash
  registered : ∀ c ∈ db.rows .canaries, ∃ e ∈ db.rows .lifecycleEvents,
    e.registers c.domain c.keyId = true
  guarded : ∀ e ∈ db.rows .lifecycleEvents, e.eventType = .keyRegistered →
    ∃ c ∈ db.rows .canaries, c.domain = e.domain ∧ c.keyId = e.keyId
  baselined : ∀ e ∈ db.rows .lifecycleEvents, e.eventId = baselineEventId e.domain e.commandId →
    ∃ l ∈ db.rows .bootstrapEligibility, l.domain = e.domain ∧
      ∃ k, l.consumption = some k ∧ k.consumedCommandId = e.commandId
  consumed : ∀ l ∈ db.rows .bootstrapEligibility, ∀ k, l.consumption = some k →
    ∃ e ∈ db.rows .lifecycleEvents, e.eventType = .keyRegistered ∧ e.domain = l.domain ∧
      e.commandId = k.consumedCommandId ∧ e.eventId = baselineEventId e.domain e.commandId

/-- How the four tables may change: nothing that was recorded is lost or rewritten. -/
structure LedgerGrows (db db' : LifecycleDb) : Prop where
  canaries : db.rows .canaries <+: db'.rows .canaries
  events : db.rows .lifecycleEvents <+: db'.rows .lifecycleEvents
  generations : ∀ s ∈ db.rows .keyringStates, ∃ s' ∈ db'.rows .keyringStates,
    s'.domain = s.domain ∧ s.generation ≤ s'.generation
  consumed : ∀ l ∈ db.rows .bootstrapEligibility, l.consumption.isSome = true →
    l ∈ db'.rows .bootstrapEligibility

theorem LedgerGrows.refl (db : LifecycleDb) : LedgerGrows db db where
  canaries := List.prefix_rfl
  events := List.prefix_rfl
  generations := fun s hs => ⟨s, hs, rfl, le_refl _⟩
  consumed := fun _ hl _ => hl

theorem LedgerGrows.trans {a b c : LifecycleDb} (hab : LedgerGrows a b) (hbc : LedgerGrows b c) :
    LedgerGrows a c where
  canaries := hab.canaries.trans hbc.canaries
  events := hab.events.trans hbc.events
  generations := fun s hs => by
    obtain ⟨s', hs', hdomain, hle⟩ := hab.generations s hs
    obtain ⟨s'', hs'', hdomain', hle'⟩ := hbc.generations s' hs'
    exact ⟨s'', hs'', hdomain'.trans hdomain, hle.trans hle'⟩
  consumed := fun l hl hsome => hbc.consumed l (hab.consumed l hl hsome) hsome

/-! ## Unique rows -/

section Unique

variable {db : LifecycleDb}

theorem Ledger.state_unique (h : Ledger db) {s s' : KeyringStateRow}
    (hs : s ∈ db.rows .keyringStates) (hs' : s' ∈ db.rows .keyringStates)
    (hdomain : s.domain = s'.domain) : s = s' := by
  refine h.uniqueStates.eq_of_mem (k := LifecycleIndexEntry.byDomain s.domain) hs hs' ?_ ?_
  · simp [lifecycleKeys]
  · simp [lifecycleKeys, hdomain]

theorem Ledger.eligibility_unique (h : Ledger db) {l l' : EligibilityRow}
    (hl : l ∈ db.rows .bootstrapEligibility) (hl' : l' ∈ db.rows .bootstrapEligibility)
    (hdomain : l.domain = l'.domain) : l = l' := by
  refine h.uniqueEligibility.eq_of_mem (k := LifecycleIndexEntry.byDomain l.domain) hl hl' ?_ ?_
  · simp [lifecycleKeys]
  · simp [lifecycleKeys, hdomain]

theorem Ledger.event_unique (h : Ledger db) {e e' : LifecycleEventRow}
    (he : e ∈ db.rows .lifecycleEvents) (he' : e' ∈ db.rows .lifecycleEvents)
    (hcommand : e.commandId = e'.commandId) : e = e' := by
  refine h.uniqueEvents.eq_of_mem (k := LifecycleIndexEntry.byCommand e.commandId) he he' ?_ ?_
  · simp [lifecycleKeys]
  · simp [lifecycleKeys, hcommand]

end Unique

/-! ## Event ids -/

/-- Texts with different beginnings of one length differ. -/
theorem append_ne_append {p q : String} (hlength : p.toList.length = q.toList.length)
    (hne : p ≠ q) (a b : String) : p ++ a ≠ q ++ b := by
  intro h
  have hchars := congrArg String.toList h
  rw [String.toList_append, String.toList_append] at hchars
  exact hne (String.ext (List.append_inj_left hchars hlength))

theorem manifestEventId_ne_baselineEventId (domain domain' : VersionedKeyringDomain)
    (commandId commandId' : String) :
    manifestEventId domain commandId ≠ baselineEventId domain' commandId' := by
  unfold manifestEventId baselineEventId
  rw [String.append_assoc, String.append_assoc, String.append_assoc, String.append_assoc]
  exact append_ne_append (by decide) (by decide) _ _

theorem registrationEventId_ne_baselineEventId (domain domain' : VersionedKeyringDomain)
    (commandId commandId' : String) :
    registrationEventId domain commandId ≠ baselineEventId domain' commandId' := by
  unfold registrationEventId baselineEventId
  rw [String.append_assoc, String.append_assoc, String.append_assoc, String.append_assoc]
  exact append_ne_append (by decide) (by decide) _ _

/-! ## Manifests -/

section Steps

variable {db db' : LifecycleDb}

/-- A later manifest replaces the applied one of its domain. -/
theorem mem_upsertedState (row : KeyringStateRow) {s : KeyringStateRow}
    (hs : s ∈ db.rows .keyringStates) :
    ∃ s' ∈ upsertRow (S := lifecycleSchema) .keyringStates
        (fun old new : KeyringStateRow =>
          { old with
            generation := new.generation
            manifestHash := new.manifestHash
            activeKeyId := new.activeKeyId
            appliedAt := new.appliedAt
            commandId := new.commandId })
        (db.rows .keyringStates) row,
      s'.domain = s.domain ∧ (s' = s ∨ s.domain = row.domain ∧ s'.generation = row.generation) := by
  unfold upsertRow
  split
  · refine ⟨_, List.mem_map.mpr ⟨s, hs, rfl⟩, ?_⟩
    split
    · rename_i hclash
      obtain ⟨k, hk, hk'⟩ := clashes_eq_true.mp hclash
      simp only [lifecycleKeys, List.mem_singleton] at hk hk'
      have hdomain : row.domain = s.domain := by
        rw [hk] at hk'
        exact LifecycleIndexEntry.byDomain.inj hk'
      exact ⟨rfl, Or.inr ⟨hdomain.symm, rfl⟩⟩
    · exact ⟨rfl, Or.inl rfl⟩
  · exact ⟨s, List.mem_append_left _ hs, rfl, Or.inl rfl⟩

theorem ite_eq_ite_not {α : Type} (b : Bool) (x y : α) :
    (if b = true then x else y) = if (!b) = true then y else x := by
  cases b <;> rfl

/-- The upsert of a manifest keeps the ledger. -/
theorem Ledger.upsertState (h : Ledger db) {row : KeyringStateRow}
    (hs : (upsertKeyringStateSql row).apply db = some db') :
    Ledger db' ∧ LedgerGrows db db' := by
  have hunique := h.uniqueStates.apply hs
  rcases Statement.upsert_cases (r := row) hs (ite_eq_ite_not _ _ _) with
    ⟨-, rfl⟩ | ⟨hguard, rfl⟩
  · exact ⟨h, LedgerGrows.refl _⟩
  · rw [Database.withRows_rows] at hunique
    have hnewer : ∀ s ∈ db.rows .keyringStates, s.domain = row.domain →
        s.generation < row.generation := by
      intro s hs hdomain
      simp only [Bool.not_or, Bool.and_eq_true, Bool.not_eq_true', List.any_eq_false] at hguard
      have hnot := hguard.2 s hs
      simpa [hdomain] using hnot
    refine ⟨⟨h.uniqueCanaries, h.uniqueEvents, ?_, h.uniqueEligibility, ?_, h.hashes,
      h.registered, h.guarded, h.baselined, h.consumed⟩, ?_⟩
    · rw [Database.withRows_rows]
      exact hunique
    · intro e he htype
      obtain ⟨s, hs, hdomain, hle, hhash⟩ := h.manifests e he htype
      obtain ⟨s', hs', hdomain', hcase⟩ := mem_upsertedState row hs
      refine ⟨s', by rw [Database.withRows_rows]; exact hs', hdomain'.trans hdomain, ?_⟩
      rcases hcase with rfl | ⟨hrow, hgeneration⟩
      · exact ⟨hle, hhash⟩
      · have hlater := hnewer s hs hrow
        refine ⟨by omega, fun heq => ?_⟩
        omega
    · refine ⟨List.prefix_rfl, List.prefix_rfl, fun s hs => ?_, fun l hl _ => hl⟩
      obtain ⟨s', hs', hdomain', hcase⟩ := mem_upsertedState row hs
      refine ⟨s', by rw [Database.withRows_rows]; exact hs', hdomain', ?_⟩
      rcases hcase with rfl | ⟨hrow, hgeneration⟩
      · exact le_refl _
      · exact (hnewer s hs hrow).le.trans hgeneration.ge

/-- The event of the applied manifest keeps the ledger. -/
theorem Ledger.insertManifestEvent (h : Ledger db) {event : LifecycleEventRow}
    (htype : event.eventType = .manifestApplied)
    (hid : event.eventId = manifestEventId event.domain event.commandId)
    (hs : (insertManifestEventSql event).apply db = some db') :
    Ledger db' ∧ LedgerGrows db db' := by
  have hunique := h.uniqueEvents.apply hs
  rcases Statement.insert_cases hs rfl with ⟨-, rfl⟩ | ⟨hguard, -, rfl⟩
  · exact ⟨h, LedgerGrows.refl _⟩
  · simp only [Bool.and_eq_true, hasManifest, List.any_eq_true, beq_iff_eq] at hguard
    obtain ⟨⟨⟨s, hstate, ⟨hdomain, hgeneration⟩, hhash⟩, -⟩, -⟩ := hguard
    have hnew : ∀ e, e ∈ db.rows .lifecycleEvents ++ [event] →
        e ∈ db.rows .lifecycleEvents ∨ e = event := fun e he =>
      (List.mem_append.mp he).imp_right List.mem_singleton.mp
    have hsame : ∀ e ∈ db.rows .lifecycleEvents, e.eventType = .manifestApplied →
        e.domain = event.domain → e.generation = event.generation →
          e.manifestHash = event.manifestHash := by
      intro e he hetype hedomain hegeneration
      obtain ⟨s', hs', hdomain', -, hhash'⟩ := h.manifests e he hetype
      have heq : s' = s :=
        h.state_unique hs' hstate (hdomain'.trans (hedomain.trans hdomain.symm))
      rw [heq] at hhash'
      exact (hhash' (hegeneration.trans hgeneration.symm)).trans hhash
    rw [Database.withRows_rows] at hunique
    refine ⟨⟨h.uniqueCanaries, ?_, h.uniqueStates, h.uniqueEligibility, ?_, ?_, ?_, ?_, ?_, ?_⟩,
      ⟨List.prefix_rfl, ?_, fun s hs => ⟨s, hs, rfl, le_refl _⟩, fun l hl _ => hl⟩⟩ <;>
      rw [Database.withRows_rows]
    · exact hunique
    · intro e he hetype
      rcases hnew e he with hold | rfl
      · exact h.manifests e hold hetype
      · exact ⟨s, hstate, hdomain, hgeneration.ge, fun _ => hhash.symm⟩
    · intro e he e' he' hetype hetype' hedomain hegeneration
      rcases hnew e he with hold | rfl
      · rcases hnew e' he' with hold' | rfl
        · exact h.hashes e hold e' hold' hetype hetype' hedomain hegeneration
        · exact hsame e hold hetype hedomain hegeneration
      · rcases hnew e' he' with hold' | rfl
        · exact (hsame e' hold' hetype' hedomain.symm hegeneration.symm).symm
        · rfl
    · intro c hc
      obtain ⟨e, he, hregisters⟩ := h.registered c hc
      exact ⟨e, List.mem_append_left _ he, hregisters⟩
    · intro e he hetype
      rcases hnew e he with hold | rfl
      · exact h.guarded e hold hetype
      · rw [htype] at hetype
        cases hetype
    · intro e he heid
      rcases hnew e he with hold | rfl
      · exact h.baselined e hold heid
      · exact absurd (hid.symm.trans heid) (manifestEventId_ne_baselineEventId _ _ _ _)
    · intro l hl k hk
      obtain ⟨e, he, hrest⟩ := h.consumed l hl k hk
      exact ⟨e, List.mem_append_left _ he, hrest⟩
    · exact List.prefix_append _ _

/-! ## Registrations -/

theorem LifecycleEventRow.registers_iff {e : LifecycleEventRow}
    {domain : VersionedKeyringDomain} {keyId : String} :
    e.registers domain keyId = true ↔
      e.domain = domain ∧ e.keyId = keyId ∧ e.eventType = .keyRegistered := by
  simp [LifecycleEventRow.registers, and_assoc]

/-- A canary recorded together with its registration. -/
theorem Ledger.recordKey (h : Ledger db) {canary : CanaryRow} {event : LifecycleEventRow}
    (hcanaries : db'.rows .canaries = db.rows .canaries ++ [canary])
    (hevents : db'.rows .lifecycleEvents = db.rows .lifecycleEvents ++ [event])
    (hstates : db'.rows .keyringStates = db.rows .keyringStates)
    (huniqueCanaries : UniqueKeys (S := lifecycleSchema) .canaries (db'.rows .canaries))
    (huniqueEvents : UniqueKeys (S := lifecycleSchema) .lifecycleEvents
      (db'.rows .lifecycleEvents))
    (huniqueEligibility : UniqueKeys (S := lifecycleSchema) .bootstrapEligibility
      (db'.rows .bootstrapEligibility))
    (hregisters : event.registers canary.domain canary.keyId = true)
    (hbaselined : ∀ e ∈ db'.rows .lifecycleEvents,
      e.eventId = baselineEventId e.domain e.commandId →
      ∃ l ∈ db'.rows .bootstrapEligibility, l.domain = e.domain ∧
        ∃ k, l.consumption = some k ∧ k.consumedCommandId = e.commandId)
    (hconsumed : ∀ l ∈ db'.rows .bootstrapEligibility, ∀ k, l.consumption = some k →
      ∃ e ∈ db'.rows .lifecycleEvents, e.eventType = .keyRegistered ∧ e.domain = l.domain ∧
        e.commandId = k.consumedCommandId ∧ e.eventId = baselineEventId e.domain e.commandId) :
    Ledger db' := by
  obtain ⟨hdomain, hkey, htype⟩ := LifecycleEventRow.registers_iff.mp hregisters
  have hold : ∀ e ∈ db'.rows .lifecycleEvents, e.eventType = .manifestApplied →
      e ∈ db.rows .lifecycleEvents := by
    intro e he hetype
    rw [hevents] at he
    rcases List.mem_append.mp he with hmem | hmem
    · exact hmem
    · rw [List.mem_singleton.mp hmem, htype] at hetype
      cases hetype
  refine ⟨huniqueCanaries, huniqueEvents, ?_, huniqueEligibility, ?_, ?_, ?_, ?_, hbaselined,
    hconsumed⟩
  · rw [hstates]
    exact h.uniqueStates
  · intro e he hetype
    rw [hstates]
    exact h.manifests e (hold e he hetype) hetype
  · intro e he e' he' hetype hetype'
    exact h.hashes e (hold e he hetype) e' (hold e' he' hetype') hetype hetype'
  · intro c hc
    rw [hcanaries] at hc
    rw [hevents]
    rcases List.mem_append.mp hc with hmem | hmem
    · obtain ⟨e, he, hregisters'⟩ := h.registered c hmem
      exact ⟨e, List.mem_append_left _ he, hregisters'⟩
    · rw [List.mem_singleton.mp hmem]
      exact ⟨event, by simp, hregisters⟩
  · intro e he hetype
    rw [hevents] at he
    rw [hcanaries]
    rcases List.mem_append.mp he with hmem | hmem
    · obtain ⟨c, hc, hrest⟩ := h.guarded e hmem hetype
      exact ⟨c, List.mem_append_left _ hc, hrest⟩
    · rw [List.mem_singleton.mp hmem]
      exact ⟨canary, by simp, hdomain.symm, hkey.symm⟩

/-- A canary is stored exactly when its key is registered. -/
theorem Ledger.hasCanary_iff (h : Ledger db) (domain : VersionedKeyringDomain) (keyId : String) :
    hasCanary db domain keyId = true ↔ hasRegistration db domain keyId = true := by
  simp only [hasCanary, hasRegistration, List.any_eq_true, Bool.and_eq_true, beq_iff_eq]
  constructor
  · rintro ⟨c, hc, hdomain, hkey⟩
    obtain ⟨e, he, hregisters⟩ := h.registered c hc
    obtain ⟨hedomain, hekey, hetype⟩ := LifecycleEventRow.registers_iff.mp hregisters
    exact ⟨e, he, ⟨hedomain.trans hdomain, hekey.trans hkey⟩, hetype⟩
  · rintro ⟨e, he, ⟨hdomain, hkey⟩, htype⟩
    obtain ⟨c, hc, hcdomain, hckey⟩ := h.guarded e he htype
    exact ⟨c, hc, hcdomain.trans hdomain, hckey.trans hkey⟩

/-- What a registration writes: nothing, or its canary together with its event. -/
theorem Ledger.registration_cases (h : Ledger db) {canary : CanaryRow}
    {event : LifecycleEventRow} {generation : Nat} {manifestHash : Digest}
    (hregisters : event.registers canary.domain canary.keyId = true)
    (hrun : runBatch db
      [insertRegisteredCanarySql canary generation manifestHash event.commandId,
        insertRegistrationEventSql event] = some db') :
    db' = db ∨
      db'.rows .canaries = db.rows .canaries ++ [canary] ∧
      db'.rows .lifecycleEvents = db.rows .lifecycleEvents ++ [event] ∧
      db'.rows .keyringStates = db.rows .keyringStates ∧
      db'.rows .bootstrapEligibility = db.rows .bootstrapEligibility := by
  obtain ⟨hdomain, hkey, -⟩ := LifecycleEventRow.registers_iff.mp hregisters
  obtain ⟨mid, hfirst, hrest⟩ := runBatch_cons_eq_some.mp hrun
  obtain ⟨last, hsecond, hlast⟩ := runBatch_cons_eq_some.mp hrest
  obtain rfl := Option.some.inj hlast
  rcases Statement.insert_cases hfirst rfl with ⟨-, rfl⟩ | ⟨hguard, -, rfl⟩
  · rcases Statement.insert_cases hsecond rfl with ⟨-, rfl⟩ | ⟨hguard, -, -⟩
    · exact Or.inl rfl
    · simp only [Bool.and_eq_true, Bool.not_eq_true'] at hguard
      have hregistered := (h.hasCanary_iff _ _).mp hguard.1.1
      rw [hguard.1.2] at hregistered
      cases hregistered
  · simp only [Bool.and_eq_true, Bool.not_eq_true'] at hguard
    obtain ⟨⟨-, hnone⟩, hcommand⟩ := hguard
    rcases Statement.insert_cases hsecond rfl with ⟨hguard, -⟩ | ⟨-, -, rfl⟩
    · -- the canary just stored and the guards of its statement let the event in
      have hcanary : hasCanary (db.withRows .canaries (db.rows .canaries ++ [canary]))
          event.domain event.keyId = true := by
        rw [hdomain, hkey]
        simp [hasCanary]
      have hregistration : hasRegistration
          (db.withRows .canaries (db.rows .canaries ++ [canary])) event.domain event.keyId =
            false := by
        rw [hdomain, hkey]
        exact hnone
      have hnew : hasCommand (db.withRows .canaries (db.rows .canaries ++ [canary]))
          event.commandId = false := hcommand
      rw [hcanary, hregistration, hnew] at hguard
      cases hguard
    · refine Or.inr ⟨?_, ?_, rfl, rfl⟩
      · rfl
      · rfl

/-- A registration keeps the ledger. -/
theorem Ledger.registration (h : Ledger db) {canary : CanaryRow} {event : LifecycleEventRow}
    {generation : Nat} {manifestHash : Digest}
    (hregisters : event.registers canary.domain canary.keyId = true)
    (hid : event.eventId = registrationEventId event.domain event.commandId)
    (hrun : runBatch db
      [insertRegisteredCanarySql canary generation manifestHash event.commandId,
        insertRegistrationEventSql event] = some db') :
    Ledger db' ∧ LedgerGrows db db' := by
  have huniqueCanaries := h.uniqueCanaries.runBatch hrun
  have huniqueEvents := h.uniqueEvents.runBatch hrun
  rcases h.registration_cases hregisters hrun with
    rfl | ⟨hcanaries, hevents, hstates, heligibility⟩
  · exact ⟨h, LedgerGrows.refl _⟩
  · refine ⟨h.recordKey hcanaries hevents hstates huniqueCanaries huniqueEvents ?_ hregisters
      ?_ ?_, ?_⟩
    · rw [heligibility]
      exact h.uniqueEligibility
    · intro e he heid
      rw [hevents] at he
      rw [heligibility]
      rcases List.mem_append.mp he with hmem | hmem
      · exact h.baselined e hmem heid
      · rw [List.mem_singleton.mp hmem] at heid
        exact absurd (hid.symm.trans heid) (registrationEventId_ne_baselineEventId _ _ _ _)
    · intro l hl k hk
      rw [heligibility] at hl
      rw [hevents]
      obtain ⟨e, he, hrest⟩ := h.consumed l hl k hk
      exact ⟨e, List.mem_append_left _ he, hrest⟩
    · refine ⟨?_, ?_, fun s hs => ⟨s, ?_, rfl, le_refl _⟩, fun l hl _ => ?_⟩
      · rw [hcanaries]
        exact List.prefix_append _ _
      · rw [hevents]
        exact List.prefix_append _ _
      · rw [hstates]
        exact hs
      · rw [heligibility]
        exact hl

/-! ## Baselines -/

/-- The eligibility of a domain after its baseline. -/
def consumedRow (event : LifecycleEventRow) (row : EligibilityRow) : EligibilityRow :=
  if row.isOpen event.domain then
    { row with
      consumption := some
        { consumedAt := event.occurredAt, consumedCommandId := event.commandId } }
  else row

theorem EligibilityRow.isOpen_iff {row : EligibilityRow} {domain : VersionedKeyringDomain} :
    row.isOpen domain = true ↔ row.domain = domain ∧
      row.provenance = cryptographicBootstrapProvenance ∧ row.consumption = none := by
  simp [EligibilityRow.isOpen, and_assoc]

theorem consumedRow_domain (event : LifecycleEventRow) (row : EligibilityRow) :
    (consumedRow event row).domain = row.domain := by
  unfold consumedRow
  split <;> rfl

/-- The rows a baseline leaves when it takes effect. -/
structure Baselined (db db' : LifecycleDb) (canary : CanaryRow) (event : LifecycleEventRow) :
    Prop where
  canaries : db'.rows .canaries = db.rows .canaries ++ [canary]
  events : db'.rows .lifecycleEvents = db.rows .lifecycleEvents ++ [event]
  states : db'.rows .keyringStates = db.rows .keyringStates
  eligibility : db'.rows .bootstrapEligibility =
    (db.rows .bootstrapEligibility).map (consumedRow event)
  /-- Its domain was open and without any event. -/
  wasOpen : ∃ row ∈ db.rows .bootstrapEligibility, row.isOpen event.domain = true
  first : ∀ e ∈ db.rows .lifecycleEvents, e.domain ≠ event.domain

theorem hasExactCanary_append (db : LifecycleDb) (canary : CanaryRow) :
    hasExactCanary (db.withRows .canaries (db.rows .canaries ++ [canary])) canary = true := by
  simp [hasExactCanary]

theorem hasOtherCanary_append {canary : CanaryRow}
    (h : ∀ c ∈ db.rows .canaries, c.domain ≠ canary.domain) :
    hasOtherCanary (db.withRows .canaries (db.rows .canaries ++ [canary])) canary = false := by
  simp only [hasOtherCanary, Database.withRows_rows, List.any_append, List.any_cons, List.any_nil,
    bne_self_eq_false, Bool.and_false, Bool.or_false, List.any_eq_false]
  intro c hc
  simp [h c hc]

/-- What a baseline writes: nothing, or its canary, its event and the consumed eligibility. -/
theorem Ledger.baseline_cases (h : Ledger db) {canary : CanaryRow} {event : LifecycleEventRow}
    (hregisters : event.registers canary.domain canary.keyId = true)
    (hid : event.eventId = baselineEventId event.domain event.commandId)
    (hrun : runBatch db
      [baselineReadableKeyCanarySql canary event.commandId,
        baselineReadableKeyEventSql event canary,
        consumeBaselineEligibilitySql event canary] = some db') :
    db' = db ∨ Baselined db db' canary event := by
  obtain ⟨hdomain, hkey, htype⟩ := LifecycleEventRow.registers_iff.mp hregisters
  obtain ⟨afterCanary, hfirst, hrest⟩ := runBatch_cons_eq_some.mp hrun
  obtain ⟨afterEvent, hsecond, hrest'⟩ := runBatch_cons_eq_some.mp hrest
  obtain ⟨last, hthird, hlast⟩ := runBatch_cons_eq_some.mp hrest'
  obtain rfl := Option.some.inj hlast
  rcases Statement.insert_cases hfirst rfl with ⟨-, rfl⟩ | ⟨hguard, -, rfl⟩
  · rcases Statement.insert_cases hsecond rfl with ⟨-, rfl⟩ | ⟨hguard, -, -⟩
    · -- without its event no eligibility is consumed
      refine Or.inl (Statement.update_eq_self hthird fun row hrow => ?_)
      rw [Bool.eq_false_iff]
      intro hsel
      simp only [Bool.and_eq_true, List.any_eq_true, beq_iff_eq] at hsel
      obtain ⟨⟨⟨⟨⟨⟨⟨hopen, -⟩, -⟩, -⟩, e, he, hevent⟩, -⟩, -⟩, -⟩ := hsel
      obtain ⟨⟨⟨⟨heid, hedomain⟩, -⟩, -⟩, hecommand⟩ := hevent
      obtain ⟨hrowDomain, -, hnone⟩ := EligibilityRow.isOpen_iff.mp hopen
      obtain ⟨l, hl, hldomain, k, hk, -⟩ := h.baselined e he (by
        rw [heid, hid, hedomain, hecommand])
      have hsame : l = row :=
        h.eligibility_unique hl hrow (hldomain.trans (hedomain.trans hrowDomain.symm))
      rw [hsame, hnone] at hk
      cases hk
    · -- a stored canary has its event, which the second guard excludes
      simp only [Bool.and_eq_true, Bool.not_eq_true', List.any_eq_false, beq_iff_eq,
        hasExactCanary, List.any_eq_true] at hguard
      obtain ⟨⟨⟨⟨⟨⟨⟨-, c, hc, hcanary⟩, -⟩, -⟩, hnone⟩, -⟩, -⟩, -⟩ := hguard
      obtain ⟨⟨⟨⟨⟨-, hcdomain⟩, -⟩, -⟩, -⟩, -⟩ := hcanary
      obtain ⟨e, he, hregisters'⟩ := h.registered c hc
      obtain ⟨hedomain, -, -⟩ := LifecycleEventRow.registers_iff.mp hregisters'
      exact absurd (hedomain.trans (hcdomain.trans hdomain.symm)) (hnone e he)
  · simp only [Bool.and_eq_true, Bool.not_eq_true', List.any_eq_false, beq_iff_eq] at hguard
    obtain ⟨⟨⟨⟨⟨⟨hopen, hstate⟩, hcanaries⟩, hevents⟩, hcommand⟩, hfresh⟩, hzero⟩ := hguard
    rw [← hdomain] at hopen hstate hcanaries hevents hzero
    have hexact := hasExactCanary_append db canary
    have hother : hasOtherCanary (db.withRows .canaries (db.rows .canaries ++ [canary])) canary =
        false :=
      hasOtherCanary_append fun c hc => hdomain ▸ hcanaries c hc
    rcases Statement.insert_cases hsecond rfl with ⟨hguard, -⟩ | ⟨-, -, rfl⟩
    · -- what the first guard saw lets the event in
      refine absurd (hguard.symm.trans ?_) Bool.false_ne_true
      simp only [Bool.and_eq_true, Bool.not_eq_true']
      refine ⟨⟨⟨⟨⟨⟨⟨hopen, hexact⟩, hstate⟩, hother⟩, ?_⟩, hcommand⟩, hfresh⟩, ?_⟩
      · simpa using hevents
      · rw [← hzero]
        cases event.domain <;> rfl
    · right
      have hrows := Statement.update_rows hthird
      have hframe := fun t => Statement.apply_rows_of_ne (t := t) hthird
      refine ⟨hframe .canaries LifecycleTable.noConfusion,
        hframe .lifecycleEvents LifecycleTable.noConfusion,
        hframe .keyringStates LifecycleTable.noConfusion, hrows.trans ?_,
        List.any_eq_true.mp hopen, hevents⟩
      refine List.map_congr_left fun row hrow => ?_
      unfold consumedRow
      by_cases hrowOpen : row.isOpen event.domain = true
      · rw [if_pos hrowOpen, if_pos]
        simp only [Bool.and_eq_true, Bool.not_eq_true']
        refine ⟨⟨⟨⟨⟨⟨⟨hrowOpen, hstate⟩, hexact⟩, hother⟩, ?_⟩, ?_⟩, hfresh⟩, ?_⟩
        · simp [htype]
        · simpa using fun e he hedomain => absurd hedomain (hevents e he)
        · rw [← hzero]
          cases event.domain <;> rfl
      · rw [if_neg hrowOpen, if_neg]
        intro hsel
        simp only [Bool.and_eq_true] at hsel
        exact hrowOpen hsel.1.1.1.1.1.1.1

/-- A baseline keeps the ledger. -/
theorem Ledger.baseline (h : Ledger db) {canary : CanaryRow} {event : LifecycleEventRow}
    (hregisters : event.registers canary.domain canary.keyId = true)
    (hid : event.eventId = baselineEventId event.domain event.commandId)
    (hrun : runBatch db
      [baselineReadableKeyCanarySql canary event.commandId,
        baselineReadableKeyEventSql event canary,
        consumeBaselineEligibilitySql event canary] = some db') :
    Ledger db' ∧ LedgerGrows db db' := by
  have huniqueCanaries := h.uniqueCanaries.runBatch hrun
  have huniqueEvents := h.uniqueEvents.runBatch hrun
  have huniqueEligibility := h.uniqueEligibility.runBatch hrun
  rcases h.baseline_cases hregisters hid hrun with rfl | hbaselined
  · exact ⟨h, LedgerGrows.refl _⟩
  · obtain ⟨hdomain, hkey, htype⟩ := LifecycleEventRow.registers_iff.mp hregisters
    have hnew : event ∈ db'.rows .lifecycleEvents := by
      rw [hbaselined.events]
      exact List.mem_append_right _ (List.mem_singleton_self event)
    have hkept : ∀ l ∈ db.rows .bootstrapEligibility, l.consumption.isSome = true →
        l ∈ db'.rows .bootstrapEligibility := by
      intro l hl hsome
      rw [hbaselined.eligibility]
      refine List.mem_map.mpr ⟨l, hl, if_neg fun hopen => ?_⟩
      rw [(EligibilityRow.isOpen_iff.mp hopen).2.2] at hsome
      cases hsome
    refine ⟨h.recordKey hbaselined.canaries hbaselined.events hbaselined.states huniqueCanaries
      huniqueEvents huniqueEligibility hregisters ?_ ?_, ?_⟩
    · intro e he heid
      rw [hbaselined.events] at he
      rcases List.mem_append.mp he with hmem | hmem
      · obtain ⟨l, hl, hldomain, k, hk, hcommand⟩ := h.baselined e hmem heid
        exact ⟨l, hkept l hl (by rw [hk]; rfl), hldomain, k, hk, hcommand⟩
      · rw [List.mem_singleton.mp hmem]
        obtain ⟨row, hrow, hopen⟩ := hbaselined.wasOpen
        refine ⟨consumedRow event row, ?_, ?_, ?_⟩
        · rw [hbaselined.eligibility]
          exact List.mem_map.mpr ⟨row, hrow, rfl⟩
        · exact (consumedRow_domain event row).trans (EligibilityRow.isOpen_iff.mp hopen).1
        · rw [consumedRow, if_pos hopen]
          exact ⟨_, rfl, rfl⟩
    · intro l hl k hk
      rw [hbaselined.eligibility] at hl
      obtain ⟨row, hrow, rfl⟩ := List.mem_map.mp hl
      by_cases hopen : row.isOpen event.domain = true
      · rw [consumedRow, if_pos hopen] at hk ⊢
        obtain rfl := Option.some.inj hk
        exact ⟨event, hnew, htype, (EligibilityRow.isOpen_iff.mp hopen).1.symm, rfl, hid⟩
      · rw [consumedRow, if_neg hopen] at hk ⊢
        obtain ⟨e, he, hrest⟩ := h.consumed row hrow k hk
        refine ⟨e, ?_, hrest⟩
        rw [hbaselined.events]
        exact List.mem_append_left _ he
    · refine ⟨?_, ?_, fun s hs => ⟨s, ?_, rfl, le_refl _⟩, hkept⟩
      · rw [hbaselined.canaries]
        exact List.prefix_append _ _
      · rw [hbaselined.events]
        exact List.prefix_append _ _
      · rw [hbaselined.states]
        exact hs

/-! ## Schema preparation -/

/-- The eligibility rows of a database without history. -/
theorem Ledger.prepareSchema (h : Ledger db) {now : Nat}
    (hs : (insertEligibilitySql now).apply db = some db') : Ledger db' ∧ LedgerGrows db db' := by
  have hunique := h.uniqueEligibility.apply hs
  have hframe := fun t => Statement.apply_rows_of_ne (t := t) hs
  have hcanaries : db'.rows .canaries = db.rows .canaries :=
    hframe .canaries LifecycleTable.noConfusion
  have hevents : db'.rows .lifecycleEvents = db.rows .lifecycleEvents :=
    hframe .lifecycleEvents LifecycleTable.noConfusion
  have hstates : db'.rows .keyringStates = db.rows .keyringStates :=
    hframe .keyringStates LifecycleTable.noConfusion
  obtain ⟨added, hadded, hopen⟩ : ∃ added : List EligibilityRow,
      db'.rows .bootstrapEligibility = db.rows .bootstrapEligibility ++ added ∧
        ∀ l ∈ added, l.consumption = none := by
    rw [← Option.some.inj hs, Database.withRows_rows]
    obtain ⟨added, hadded, hsub⟩ := foldl_appendFresh_eq (S := lifecycleSchema)
      .bootstrapEligibility _ (db.rows .bootstrapEligibility)
    refine ⟨added, hadded, fun l hl => ?_⟩
    have hvalue := hsub.subset hl
    dsimp only at hvalue
    split at hvalue
    · obtain ⟨domain, -, rfl⟩ := List.mem_map.mp hvalue
      rfl
    · simp at hvalue
  refine ⟨⟨?_, ?_, ?_, hunique, ?_, ?_, ?_, ?_, ?_, ?_⟩, ⟨?_, ?_, ?_, ?_⟩⟩
  · rw [hcanaries]
    exact h.uniqueCanaries
  · rw [hevents]
    exact h.uniqueEvents
  · rw [hstates]
    exact h.uniqueStates
  · rw [hevents, hstates]
    exact h.manifests
  · rw [hevents]
    exact h.hashes
  · rw [hcanaries, hevents]
    exact h.registered
  · rw [hcanaries, hevents]
    exact h.guarded
  · rw [hevents, hadded]
    intro e he heid
    obtain ⟨l, hl, hrest⟩ := h.baselined e he heid
    exact ⟨l, List.mem_append_left _ hl, hrest⟩
  · rw [hevents, hadded]
    intro l hl k hk
    rcases List.mem_append.mp hl with hold | hnew
    · exact h.consumed l hold k hk
    · rw [hopen l hnew] at hk
      cases hk
  · rw [hcanaries]
  · rw [hevents]
  · rw [hstates]
    exact fun s hs => ⟨s, hs, rfl, le_refl _⟩
  · rw [hadded]
    exact fun l hl _ => List.mem_append_left _ hl

end Steps

/-! ## Commands -/

/-- The batch of a command that is ready. -/
inductive CommandBatch : List LifecycleStatement → Prop
  | manifest (row : KeyringStateRow) (event : LifecycleEventRow)
      (htype : event.eventType = .manifestApplied)
      (hid : event.eventId = manifestEventId event.domain event.commandId) :
      CommandBatch [upsertKeyringStateSql row, insertManifestEventSql event]
  | registration (canary : CanaryRow) (event : LifecycleEventRow) (generation : Nat)
      (manifestHash : Digest)
      (hregisters : event.registers canary.domain canary.keyId = true)
      (hid : event.eventId = registrationEventId event.domain event.commandId) :
      CommandBatch
        [insertRegisteredCanarySql canary generation manifestHash event.commandId,
          insertRegistrationEventSql event]
  | baseline (canary : CanaryRow) (event : LifecycleEventRow)
      (hregisters : event.registers canary.domain canary.keyId = true)
      (hid : event.eventId = baselineEventId event.domain event.commandId) :
      CommandBatch
        [baselineReadableKeyCanarySql canary event.commandId,
          baselineReadableKeyEventSql event canary, consumeBaselineEligibilitySql event canary]

theorem applyKeyringManifest_batch {reads : LifecycleReads} {keyrings : Keyrings}
    {input : ApplyKeyringManifestInput} {now : Nat} {command : PreparedCommand}
    (h : applyKeyringManifest reads keyrings input now = .ok (.prepared command)) :
    CommandBatch command.batch := by
  unfold applyKeyringManifest at h
  cases hexisting : readLifecycleEventByCommand (reads 0) input.commandId with
  | some existing =>
      simp only [hexisting, Except.bind_eq_ok, demand_eq_ok, exists_unit, Except.pure_eq_ok] at h
      obtain ⟨-, -, hanswer⟩ := h
      cases hanswer
  | none =>
      simp only [hexisting, CryptographicPreflightResult.find, Except.bind_eq_ok, demand_eq_ok,
        found_eq_ok, exists_unit, Except.pure_eq_ok] at h
      obtain ⟨-, view, -, -, manifestHash, -, -, -, hcommand⟩ := h
      obtain rfl := Preparation.prepared.inj hcommand
      exact .manifest _ _ rfl rfl

theorem registerStagedKey_batch {reads : LifecycleReads} {keyrings : Keyrings}
    {input : RegisterStagedKeyInput} {iv : String} {now : Nat} {command : PreparedCommand}
    (h : registerStagedKey reads keyrings input iv now = .ok (.prepared command)) :
    CommandBatch command.batch := by
  unfold registerStagedKey at h
  cases hexisting : readLifecycleEventByCommand (reads 0) input.commandId with
  | some existing =>
      simp only [hexisting, Except.bind_eq_ok, demand_eq_ok, exists_unit, Except.pure_eq_ok] at h
      obtain ⟨-, -, -, hanswer⟩ := h
      cases hanswer
  | none =>
      simp only [hexisting, CryptographicPreflightResult.find, DomainPreflightView.findKey,
        Except.bind_eq_ok, demand_eq_ok, found_eq_ok, exists_unit, Except.pure_eq_ok] at h
      obtain ⟨-, -, view, -, key, -, -, manifestHash, -, -, -, -, canary, -, hcommand⟩ := h
      obtain rfl := Preparation.prepared.inj hcommand
      exact .registration
        { canaryId := canaryId input.domain input.keyId, domain := input.domain
          keyId := input.keyId, formatVersion := canary.formatVersion
          ciphertext := canary.ciphertext, iv := canary.iv, createdAt := now }
        { eventId := registrationEventId input.domain input.commandId, domain := input.domain
          keyId := input.keyId, eventType := .keyRegistered, generation := input.generation
          manifestHash, backupReference := some input.backupReference
          commandId := input.commandId, occurredAt := now }
        input.generation manifestHash (LifecycleEventRow.registers_iff.mpr ⟨rfl, rfl, rfl⟩) rfl

/-- The canary and the event of a baseline. -/
theorem baselineReadableKey_batch {reads : LifecycleReads} {keyrings : Keyrings}
    {input : BaselineReadableKeyInput} {iv : String} {now : Nat} {command : PreparedCommand}
    (h : baselineReadableKey reads keyrings input iv now = .ok (.prepared command)) :
    ∃ canary event, event.domain = input.domain ∧
      event.registers canary.domain canary.keyId = true ∧
      event.eventId = baselineEventId event.domain event.commandId ∧
      command.batch =
        [baselineReadableKeyCanarySql canary event.commandId,
          baselineReadableKeyEventSql event canary,
          consumeBaselineEligibilitySql event canary] := by
  unfold baselineReadableKey at h
  cases hexisting : readLifecycleEventByCommand (reads 0) input.commandId with
  | some existing =>
      simp only [hexisting, Except.bind_eq_ok, demand_eq_ok, exists_unit, Except.pure_eq_ok] at h
      obtain ⟨-, -, -, hanswer⟩ := h
      cases hanswer
  | none =>
      simp only [hexisting, CryptographicPreflightResult.find, DomainPreflightView.findKey,
        Except.bind_eq_ok, demand_eq_ok, found_eq_ok, exists_unit, Except.pure_eq_ok] at h
      obtain ⟨-, -, view, -, key, -, -, -, -, verifier, -, -, keyCanary, -, hcommand⟩ := h
      obtain rfl := Preparation.prepared.inj hcommand
      exact ⟨{ canaryId := canaryId input.domain input.keyId, domain := input.domain
               keyId := input.keyId, formatVersion := keyCanary.formatVersion
               ciphertext := keyCanary.ciphertext, iv := keyCanary.iv, createdAt := now },
        { eventId := baselineEventId input.domain input.commandId, domain := input.domain
          keyId := input.keyId, eventType := .keyRegistered, generation := input.generation
          manifestHash := baselineHash input, backupReference := some input.backupReference
          commandId := input.commandId, occurredAt := now },
        rfl, LifecycleEventRow.registers_iff.mpr ⟨rfl, rfl, rfl⟩, rfl, rfl⟩

/-! ## Steps -/

/-- The batch of a command keeps the ledger. -/
theorem CommandBatch.ledger {batch : List LifecycleStatement} (hbatch : CommandBatch batch)
    {db db' : LifecycleDb} (h : Ledger db) (hrun : runBatch db batch = some db') :
    Ledger db' ∧ LedgerGrows db db' := by
  cases hbatch with
  | manifest row event htype hid =>
      obtain ⟨mid, hfirst, hrest⟩ := runBatch_cons_eq_some.mp hrun
      obtain ⟨last, hsecond, hlast⟩ := runBatch_cons_eq_some.mp hrest
      obtain rfl := Option.some.inj hlast
      obtain ⟨hmid, hgrows⟩ := h.upsertState hfirst
      obtain ⟨hafter, hgrows'⟩ := hmid.insertManifestEvent htype hid hsecond
      exact ⟨hafter, hgrows.trans hgrows'⟩
  | registration canary event generation manifestHash hregisters hid =>
      exact h.registration hregisters hid hrun
  | baseline canary event hregisters hid => exact h.baseline hregisters hid hrun

/-- Sending a batch that keeps the ledger. -/
theorem World.send_ledger {w : World} {batch : List LifecycleStatement} (h : Ledger w.db)
    (hbatch : ∀ db, runBatch w.db batch = some db → Ledger db ∧ LedgerGrows w.db db) :
    Ledger (w.send batch).db ∧ LedgerGrows w.db (w.send batch).db := by
  unfold World.send
  cases hrun : runBatch w.db batch with
  | none => exact ⟨h, LedgerGrows.refl _⟩
  | some db => exact hbatch db hrun

theorem World.perform_ledger {w : World} {preparation : Request Preparation} (h : Ledger w.db)
    (hbatch : ∀ command, preparation = .ok (.prepared command) → CommandBatch command.batch) :
    Ledger (w.perform preparation).db ∧ LedgerGrows w.db (w.perform preparation).db := by
  unfold World.perform
  split
  · rename_i command
    exact World.send_ledger h fun db hrun => (hbatch command rfl).ledger h hrun
  · exact ⟨h, LedgerGrows.refl _⟩
  · exact ⟨h, LedgerGrows.refl _⟩

/-- Every step keeps the ledger and only adds to it. -/
theorem step_ledger {w : World} (call : Call) (h : Ledger w.db) :
    Ledger (step w call).db ∧ LedgerGrows w.db (step w call).db := by
  cases call with
  | external rows =>
      refine ⟨⟨h.uniqueCanaries, h.uniqueEvents, h.uniqueStates, h.uniqueEligibility,
        h.manifests, h.hashes, h.registered, h.guarded, h.baselined, h.consumed⟩, ?_⟩
      exact ⟨List.prefix_rfl, List.prefix_rfl, fun s hs => ⟨s, hs, rfl, le_refl _⟩,
        fun _ hl _ => hl⟩
  | prepareSchema now =>
      refine World.send_ledger h fun db hrun => ?_
      obtain ⟨mid, hfirst, hlast⟩ := runBatch_cons_eq_some.mp hrun
      obtain rfl := Option.some.inj hlast
      exact h.prepareSchema hfirst
  | applyKeyringManifest ages keyrings input now =>
      exact World.perform_ledger h fun _ hcommand => applyKeyringManifest_batch hcommand
  | registerStagedKey ages keyrings input iv now =>
      exact World.perform_ledger h fun _ hcommand => registerStagedKey_batch hcommand
  | baselineReadableKey ages keyrings input iv now =>
      refine World.perform_ledger h fun _ hcommand => ?_
      obtain ⟨canary, event, -, hregisters, hid, hbatch⟩ := baselineReadableKey_batch hcommand
      rw [hbatch]
      exact .baseline canary event hregisters hid

theorem ledger_empty (clock : Nat) : Ledger (.empty clock) := by
  refine ⟨List.Pairwise.nil, List.Pairwise.nil, List.Pairwise.nil, List.Pairwise.nil, ?_, ?_, ?_,
    ?_, ?_, ?_⟩ <;> simp [LifecycleDb.empty]

theorem Reachable.ledger {w : World} (h : Reachable w) : Ledger w.db := by
  obtain ⟨clock, calls, rfl⟩ := h
  exact run_invariant (I := fun w : World => Ledger w.db) (fun _ call hw => (step_ledger call hw).1) calls
    (ledger_empty clock)

theorem run_grows {w : World} (h : Reachable w) (calls : List Call) :
    LedgerGrows w.db (run step w calls).db :=
  run_related (R := fun a b : World => LedgerGrows a.db b.db) (I := fun w : World => Ledger w.db)
    (fun w : World => LedgerGrows.refl w.db) (fun _ _ _ => LedgerGrows.trans)
    (fun _ call hw => (step_ledger call hw).1) (fun _ call hw => (step_ledger call hw).2) calls
    h.ledger

/-! ## Safety -/

/-- The manifest hash is recorded for the generation. -/
def Recorded (db : LifecycleDb) (domain : VersionedKeyringDomain) (generation : Nat)
    (manifestHash : Digest) : Prop :=
  (∃ s ∈ db.rows .keyringStates, s.domain = domain ∧ s.generation = generation ∧
    s.manifestHash = manifestHash) ∨
  ∃ e ∈ db.rows .lifecycleEvents, e.eventType = .manifestApplied ∧ e.domain = domain ∧
    e.generation = generation ∧ e.manifestHash = manifestHash

/-- The event belongs to a baseline of the domain. -/
def LifecycleEventRow.isBaselineOf (event : LifecycleEventRow)
    (domain : VersionedKeyringDomain) : Bool :=
  event.domain == domain && event.eventId == baselineEventId event.domain event.commandId

/-- What a reader may rely on in any state of the ledger. -/
structure LedgerSafe (db : LifecycleDb) : Prop where
  oneHash : ∀ domain generation manifestHash manifestHash',
    Recorded db domain generation manifestHash → Recorded db domain generation manifestHash' →
      manifestHash = manifestHash'
  oneEvent : ∀ commandId,
    (db.rows .lifecycleEvents).countP (fun e => e.commandId == commandId) ≤ 1
  canaries : ∀ domain keyId,
    (∃ c ∈ db.rows .canaries, c.domain = domain ∧ c.keyId = keyId) ↔
      (db.rows .lifecycleEvents).countP (fun e => e.registers domain keyId) = 1
  oneBaseline : ∀ domain,
    (db.rows .lifecycleEvents).countP (fun e => e.isBaselineOf domain) ≤ 1
  wholeBaseline : ∀ domain commandId,
    (∃ e ∈ db.rows .lifecycleEvents, e.isBaselineOf domain = true ∧ e.commandId = commandId) ↔
      ∃ l ∈ db.rows .bootstrapEligibility, l.domain = domain ∧
        ∃ k, l.consumption = some k ∧ k.consumedCommandId = commandId

theorem LifecycleEventRow.isBaselineOf_iff {e : LifecycleEventRow}
    {domain : VersionedKeyringDomain} :
    e.isBaselineOf domain = true ↔
      e.domain = domain ∧ e.eventId = baselineEventId e.domain e.commandId := by
  simp [LifecycleEventRow.isBaselineOf]

section Safety

variable {db : LifecycleDb}

/-- A recorded hash agrees with a manifest event of its generation. -/
theorem Ledger.recorded_eq (h : Ledger db) {domain : VersionedKeyringDomain} {generation : Nat}
    {manifestHash : Digest} (hrecorded : Recorded db domain generation manifestHash)
    {e : LifecycleEventRow} (he : e ∈ db.rows .lifecycleEvents)
    (htype : e.eventType = .manifestApplied) (hdomain : e.domain = domain)
    (hgeneration : e.generation = generation) : manifestHash = e.manifestHash := by
  rcases hrecorded with ⟨s, hs, hsdomain, hsgeneration, rfl⟩ | ⟨e', he', htype', hdomain', hgen', rfl⟩
  · obtain ⟨s', hs', hsdomain', -, hhash⟩ := h.manifests e he htype
    have hsame : s' = s :=
      h.state_unique hs' hs (hsdomain'.trans (hdomain.trans hsdomain.symm))
    rw [hsame] at hhash
    exact (hhash (hgeneration.trans hsgeneration.symm)).symm
  · exact h.hashes e' he' e he htype' htype (hdomain'.trans hdomain.symm)
      (hgen'.trans hgeneration.symm)

theorem Ledger.oneHash (h : Ledger db) {domain : VersionedKeyringDomain} {generation : Nat}
    {manifestHash manifestHash' : Digest} (hfirst : Recorded db domain generation manifestHash)
    (hsecond : Recorded db domain generation manifestHash') : manifestHash = manifestHash' := by
  rcases hsecond with ⟨s', hs', hdomain', hgeneration', rfl⟩ | ⟨e, he, htype, hdomain, hgen, rfl⟩
  · rcases hfirst with ⟨s, hs, hdomain, hgeneration, rfl⟩ | ⟨e, he, htype, hdomain, hgen, rfl⟩
    · rw [h.state_unique hs hs' (hdomain.trans hdomain'.symm)]
    · exact (h.recorded_eq (Or.inl ⟨s', hs', hdomain', hgeneration', rfl⟩) he htype hdomain
        hgen).symm
  · exact h.recorded_eq hfirst he htype hdomain hgen

theorem Ledger.oneEvent (h : Ledger db) (commandId : String) :
    (db.rows .lifecycleEvents).countP (fun e => e.commandId == commandId) ≤ 1 := by
  refine h.uniqueEvents.countP_le_one (k := LifecycleIndexEntry.byCommand commandId) ?_
  intro e _ he
  simp [lifecycleKeys, (beq_iff_eq.mp he).symm]

/-- The partial unique index admits one registration of a key. -/
theorem Ledger.registrations_le_one (h : Ledger db) (domain : VersionedKeyringDomain)
    (keyId : String) :
    (db.rows .lifecycleEvents).countP (fun e => e.registers domain keyId) ≤ 1 := by
  refine h.uniqueEvents.countP_le_one (k := LifecycleIndexEntry.byDomainKey domain keyId) ?_
  intro e _ he
  obtain ⟨rfl, rfl, htype⟩ := LifecycleEventRow.registers_iff.mp he
  simp [lifecycleKeys, LifecycleEventRow.registeredOnce, htype]

theorem Ledger.canary_iff (h : Ledger db) (domain : VersionedKeyringDomain) (keyId : String) :
    (∃ c ∈ db.rows .canaries, c.domain = domain ∧ c.keyId = keyId) ↔
      (db.rows .lifecycleEvents).countP (fun e => e.registers domain keyId) = 1 := by
  constructor
  · rintro ⟨c, hc, rfl, rfl⟩
    obtain ⟨e, he, hregisters⟩ := h.registered c hc
    have hpositive : 0 < (db.rows .lifecycleEvents).countP
        (fun e => e.registers c.domain c.keyId) := List.countP_pos_iff.mpr ⟨e, he, hregisters⟩
    have hone := h.registrations_le_one c.domain c.keyId
    omega
  · intro hone
    obtain ⟨e, he, hregisters⟩ := List.countP_pos_iff.mp (hone ▸ Nat.one_pos)
    obtain ⟨rfl, rfl, htype⟩ := LifecycleEventRow.registers_iff.mp hregisters
    exact h.guarded e he htype

/-- All baseline events of a domain bear the command that consumed its eligibility. -/
theorem Ledger.oneBaseline (h : Ledger db) (domain : VersionedKeyringDomain) :
    (db.rows .lifecycleEvents).countP (fun e => e.isBaselineOf domain) ≤ 1 := by
  by_cases hany : ∃ e ∈ db.rows .lifecycleEvents, e.isBaselineOf domain = true
  · obtain ⟨e, he, hbaseline⟩ := hany
    obtain ⟨hdomain, hid⟩ := LifecycleEventRow.isBaselineOf_iff.mp hbaseline
    obtain ⟨l, hl, hldomain, k, hk, hcommand⟩ := h.baselined e he hid
    refine le_trans (List.countP_mono_left fun e' he' hbaseline' => ?_) (h.oneEvent e.commandId)
    obtain ⟨hdomain', hid'⟩ := LifecycleEventRow.isBaselineOf_iff.mp hbaseline'
    obtain ⟨l', hl', hldomain', k', hk', hcommand'⟩ := h.baselined e' he' hid'
    have hsame : l' = l := by
      refine h.eligibility_unique hl' hl ?_
      rw [hldomain', hdomain', hldomain, hdomain]
    rw [hsame, hk] at hk'
    rw [← Option.some.inj hk'] at hcommand'
    exact beq_iff_eq.mpr (hcommand'.symm.trans hcommand)
  · rw [List.countP_eq_zero.mpr fun e he hbaseline => hany ⟨e, he, hbaseline⟩]
    exact Nat.zero_le 1

theorem Ledger.wholeBaseline (h : Ledger db) (domain : VersionedKeyringDomain)
    (commandId : String) :
    (∃ e ∈ db.rows .lifecycleEvents, e.isBaselineOf domain = true ∧ e.commandId = commandId) ↔
      ∃ l ∈ db.rows .bootstrapEligibility, l.domain = domain ∧
        ∃ k, l.consumption = some k ∧ k.consumedCommandId = commandId := by
  constructor
  · rintro ⟨e, he, hbaseline, rfl⟩
    obtain ⟨rfl, hid⟩ := LifecycleEventRow.isBaselineOf_iff.mp hbaseline
    exact h.baselined e he hid
  · rintro ⟨l, hl, rfl, k, hk, rfl⟩
    obtain ⟨e, he, -, hdomain, hcommand, hid⟩ := h.consumed l hl k hk
    exact ⟨e, he, LifecycleEventRow.isBaselineOf_iff.mpr ⟨hdomain, hid⟩, hcommand⟩

theorem Ledger.safe (h : Ledger db) : LedgerSafe db where
  oneHash := fun _ _ _ _ => h.oneHash
  oneEvent := h.oneEvent
  canaries := h.canary_iff
  oneBaseline := h.oneBaseline
  wholeBaseline := h.wholeBaseline

end Safety

/-- A baseline changes nothing or takes effect as a whole. -/
theorem step_baseline {w : World} (h : Ledger w.db) (ages : List Nat) (keyrings : Keyrings)
    (input : BaselineReadableKeyInput) (iv : String) (now : Nat) :
    (step w (.baselineReadableKey ages keyrings input iv now)).db = w.db ∨
      ∃ canary event, event.domain = input.domain ∧
        event.registers canary.domain canary.keyId = true ∧
        event.isBaselineOf input.domain = true ∧
        Baselined w.db (step w (.baselineReadableKey ages keyrings input iv now)).db canary
          event := by
  simp only [step, World.perform]
  split
  · rename_i command hcommand
    obtain ⟨canary, event, hdomain, hregisters, hid, hbatch⟩ :=
      baselineReadableKey_batch hcommand
    unfold World.send
    cases hrun : runBatch w.db command.batch with
    | none => exact Or.inl rfl
    | some db =>
        rw [hbatch] at hrun
        rcases h.baseline_cases hregisters hid hrun with hsame | hbaselined
        · exact Or.inl hsame
        · exact Or.inr ⟨canary, event, hdomain, hregisters,
            LifecycleEventRow.isBaselineOf_iff.mpr ⟨hdomain, hid⟩, hbaselined⟩
  · exact Or.inl rfl
  · exact Or.inl rfl

/--
Every reachable ledger is safe, every run only adds to it and never lowers an applied
generation, and a baseline takes effect as a whole or not at all.
-/
theorem key_lifecycle_ledger_safe (w : World) (hw : Reachable w) :
    LedgerSafe w.db ∧ (∀ calls, LedgerGrows w.db (run step w calls).db) ∧
      ∀ ages keyrings input iv now,
        (step w (.baselineReadableKey ages keyrings input iv now)).db = w.db ∨
          ∃ canary event, event.domain = input.domain ∧
            event.registers canary.domain canary.keyId = true ∧
            event.isBaselineOf input.domain = true ∧
            Baselined w.db (step w (.baselineReadableKey ages keyrings input iv now)).db canary
              event :=
  ⟨hw.ledger.safe, run_grows hw, step_baseline hw.ledger⟩

/-! ## Sample -/

def sampleKey (domain : VersionedKeyringDomain) (keyId : String) (state : VersionedKeyState) :
    VersionedKey where
  keyId := keyId
  source := .slot
  state := state
  expectedVerifier := some (createKeyCustodyVerifier domain keyId ("material-" ++ keyId))
  material := "material-" ++ keyId

/-- One readable key in each domain and a staged credential key. -/
def sampleKeyrings : Keyrings where
  credentials :=
    { activeKeyId := "k1"
      keys := [sampleKey .credentialEncryption "k1" .readable,
        sampleKey .credentialEncryption "k2" .staged]
      configurationGeneration := some 1
      canonicalManifest := some "manifest-1" }
  lookups :=
    { activeKeyId := "l1"
      keys := [sampleKey .credentialLookup "l1" .readable]
      configurationGeneration := some 1
      canonicalManifest := some "manifest-2" }

def sampleBaseline (domain : VersionedKeyringDomain) (keyId commandId : String) :
    BaselineReadableKeyInput where
  domain := domain
  generation := 1
  commandId := commandId
  keyId := keyId
  backupReference := "kms:ring/key"
  materialVerifier := createKeyCustodyVerifier domain keyId ("material-" ++ keyId)

/-- A fresh database is baselined, its manifest applied and a staged key registered. -/
def sampleCalls : List Call :=
  [.prepareSchema 1,
    .baselineReadableKey [] sampleKeyrings
      (sampleBaseline .credentialEncryption "k1" "baseline-1") "iv1" 2,
    .baselineReadableKey [] sampleKeyrings
      (sampleBaseline .credentialLookup "l1" "baseline-2") "iv2" 3,
    .applyKeyringManifest [] sampleKeyrings
      { domain := .credentialEncryption, generation := 1, commandId := "apply-001" } 4,
    .registerStagedKey [] sampleKeyrings
      { domain := .credentialEncryption, generation := 1, commandId := "register-1"
        keyId := "k2", backupReference := "kms:ring/key" } "iv3" 5]

/-- The sample run stores three canaries and one manifest, and its ledger is safe. -/
theorem key_lifecycle_ledger_safe_sample :
    ((run step (World.start 0) sampleCalls).db.rows .canaries).length = 3 ∧
      ((run step (World.start 0) sampleCalls).db.rows .keyringStates).length = 1 ∧
      LedgerSafe (run step (World.start 0) sampleCalls).db :=
  ⟨by decide +kernel, by decide +kernel,
    (key_lifecycle_ledger_safe _ ⟨0, sampleCalls, rfl⟩).1⟩

end KeyLifecycle
end TokenStreaming
