import TokenStreaming.Server.CheckpointSettlement

/-!
# Control plane - The storage quota of a tenant

{lit}`createArtifactUpload` compares the quota with the bytes of a tenant's artifacts that
are neither deleted nor expired.  An artifact leaves that sum without any check, and one
statement may bring it back: the retention update of a completed standard task.

Main results:

- Theorem {lit}`request_keepsQuota`: the statements of every other request keep the quota.
- Theorem {lit}`completion_keepsQuota`: so does a completion whose artifact fits.
- Theorem {lit}`quota_holds_while_extensions_fit`: the quota along runs.
- Theorem {lit}`extension_exceeds_quota`: a run whose last completion does not fit.
-/

namespace TokenStreaming
namespace Server

open Relational Domain TransitionSystem

/-! ## Stored bytes -/

/-- The bytes an artifact counts for at an instant. -/
def ArtifactRow.storedBytes (a : ArtifactRow) (tenantId : String) (now : Nat) : Nat :=
  if a.tenantId = tenantId ∧ a.status ≠ .deleted ∧ now < a.expiresAt then a.sizeBytes else 0

/-- {lit}`SUM(size_bytes)` of {lit}`createArtifactUpload`. -/
def storedBytes (db : MarketplaceDb) (tenantId : String) (now : Nat) : Nat :=
  ((db.rows .artifacts).map fun a => a.storedBytes tenantId now).sum

/-- Every tenant is within the quota. -/
def WithinQuota (quota : Nat) (db : MarketplaceDb) : Prop :=
  ∀ tenantId, storedBytes db tenantId db.clock ≤ quota

theorem ArtifactRow.storedBytes_le (a : ArtifactRow) (tenantId : String) (now : Nat) :
    a.storedBytes tenantId now ≤ a.sizeBytes := by
  unfold ArtifactRow.storedBytes
  split
  · exact Nat.le_refl _
  · exact Nat.zero_le _

theorem ArtifactRow.storedBytes_eq_zero {a : ArtifactRow} {tenantId : String} {now : Nat}
    (h : a.tenantId ≠ tenantId ∨ a.status = .deleted ∨ a.expiresAt ≤ now) :
    a.storedBytes tenantId now = 0 := by
  refine if_neg ?_
  rintro ⟨htenant, hstatus, hlive⟩
  rcases h with h | h | h
  · exact h htenant
  · exact hstatus h
  · omega

/-- Artifacts only expire as time passes. -/
theorem ArtifactRow.storedBytes_antitone (a : ArtifactRow) (tenantId : String) {now later : Nat}
    (h : now ≤ later) : a.storedBytes tenantId later ≤ a.storedBytes tenantId now := by
  unfold ArtifactRow.storedBytes
  by_cases hlive : a.tenantId = tenantId ∧ a.status ≠ .deleted ∧ later < a.expiresAt
  · rw [if_pos hlive, if_pos ⟨hlive.1, hlive.2.1, Nat.lt_of_le_of_lt h hlive.2.2⟩]
  · rw [if_neg hlive]
    exact Nat.zero_le _

theorem storedBytes_antitone (db : MarketplaceDb) (tenantId : String) {now later : Nat}
    (h : now ≤ later) : storedBytes db tenantId later ≤ storedBytes db tenantId now :=
  List.sum_le_sum fun a _ => a.storedBytes_antitone tenantId h

theorem WithinQuota.congr {quota : Nat} {db db' : MarketplaceDb} (h : WithinQuota quota db)
    (hrows : db'.rows .artifacts = db.rows .artifacts) (hclock : db'.clock = db.clock) :
    WithinQuota quota db' := by
  intro tenantId
  unfold storedBytes
  rw [hrows, hclock]
  exact h tenantId

theorem WithinQuota.later {quota : Nat} {db : MarketplaceDb} (h : WithinQuota quota db)
    {instant : Nat} (hle : db.clock ≤ instant) :
    WithinQuota quota { db with clock := instant } := fun tenantId =>
  (storedBytes_antitone db tenantId hle).trans (h tenantId)

/-! ## Statements -/

/-- The row takes no more storage than before. -/
def TakesNoMore (now : Nat) (a b : ArtifactRow) : Prop :=
  ∀ tenantId, b.storedBytes tenantId now ≤ a.storedBytes tenantId now

theorem takesNoMore_refl (now : Nat) (a : ArtifactRow) : TakesNoMore now a a :=
  fun _ => Nat.le_refl _

/-- A row that expires. -/
theorem takesNoMore_expired {now : Nat} {a b : ArtifactRow} (h : b.expiresAt ≤ now) :
    TakesNoMore now a b := by
  intro tenantId
  rw [ArtifactRow.storedBytes_eq_zero (Or.inr (Or.inr h))]
  exact Nat.zero_le _

/-- A row that keeps its owner, size and expiry, and is not undeleted. -/
theorem takesNoMore_kept {now : Nat} {a b : ArtifactRow} (htenant : b.tenantId = a.tenantId)
    (hsize : b.sizeBytes = a.sizeBytes) (hexpires : b.expiresAt = a.expiresAt)
    (hstatus : a.status = .deleted → b.status = .deleted) : TakesNoMore now a b := by
  intro tenantId
  unfold ArtifactRow.storedBytes
  rw [htenant, hsize, hexpires]
  by_cases hlive : a.tenantId = tenantId ∧ b.status ≠ .deleted ∧ now < a.expiresAt
  · rw [if_pos hlive, if_pos ⟨hlive.1, fun hdeleted => hlive.2.1 (hstatus hdeleted), hlive.2.2⟩]
  · rw [if_neg hlive]
    exact Nat.zero_le _

/-- The statement keeps every tenant within the quota at the instant. -/
def KeepsQuota (quota clock : Nat) (s : MarketplaceStatement) : Prop :=
  ∀ db db', db.clock = clock → s.apply db = some db' → WithinQuota quota db → WithinQuota quota db'

section Statements

variable {quota clock : Nat}

theorem keepsQuota_of_ne {s : MarketplaceStatement}
    (h : (s.table != MarketplaceTable.artifacts) = true) : KeepsQuota quota clock s := by
  intro db db' _ hs hquota
  have hne := bne_iff_ne.mp h
  exact hquota.congr (Statement.apply_rows_of_ne hs hne.symm) (Statement.apply_clock hs)

theorem keepsQuota_update {selects : MarketplaceDb → ArtifactRow → Bool}
    {assign : MarketplaceDb → ArtifactRow → ArtifactRow}
    (h : ∀ db a, selects db a = true → TakesNoMore clock a (assign db a)) :
    KeepsQuota quota clock (.update MarketplaceTable.artifacts selects assign) := by
  intro db db' hclock hs hquota tenantId
  have hsum : storedBytes db' tenantId clock ≤ storedBytes db tenantId clock := by
    have hmoves : (Statement.update (S := marketplaceSchema) MarketplaceTable.artifacts selects
        assign).Respects db .artifacts (TakesNoMore clock) fun _ => False :=
      Statement.update_respects (takesNoMore_refl clock) fun a _ hsel => h db a hsel
    exact (hmoves.evolves hs).sum_le (fun _ _ _ hmove => hmove tenantId) fun _ hnew => hnew.elim
  have hbefore := hquota tenantId
  rw [Statement.apply_clock hs, hclock]
  rw [hclock] at hbefore
  exact hsum.trans hbefore

/-- The insert of an upload compares the sum of an earlier instant, which is no smaller. -/
theorem keepsQuota_insert {artifact : ArtifactRow} (h : artifact.createdAt ≤ clock) :
    KeepsQuota quota clock (insertArtifactSql artifact quota) := by
  intro db db' hclock hs hquota
  have hvalues : (if storedBytes db artifact.tenantId artifact.createdAt + artifact.sizeBytes ≤
      quota then [artifact] else []) = if decide (storedBytes db artifact.tenantId
        artifact.createdAt + artifact.sizeBytes ≤ quota) = true then [artifact] else [] := by
    simp only [decide_eq_true_eq]
  rcases Statement.insert_cases hs hvalues with ⟨-, rfl⟩ | ⟨hfits, -, rfl⟩
  · exact hquota
  · intro tenantId
    have hadded : storedBytes (db.withRows .artifacts (db.rows .artifacts ++ [artifact])) tenantId
        clock = storedBytes db tenantId clock + artifact.storedBytes tenantId clock := by
      simp [storedBytes]
    rw [Database.withRows_clock, hclock, hadded]
    by_cases htenant : artifact.tenantId = tenantId
    · subst htenant
      have hsum := storedBytes_antitone db artifact.tenantId h
      have hsize := artifact.storedBytes_le artifact.tenantId clock
      have hfits := of_decide_eq_true hfits
      omega
    · rw [ArtifactRow.storedBytes_eq_zero (Or.inl htenant), Nat.add_zero, ← hclock]
      exact hquota tenantId

theorem keepsQuota_expire {selects : MarketplaceDb → ArtifactRow → Bool} {now : Nat}
    (h : now ≤ clock) : KeepsQuota quota clock (expireArtifactSql selects now) :=
  keepsQuota_update fun _ _ _ => takesNoMore_expired h

theorem keepsQuota_claimPurge {artifactId tenantId : String} {now : Nat} (h : now ≤ clock) :
    KeepsQuota quota clock (claimArtifactPurgeSql artifactId tenantId now) :=
  keepsQuota_update fun _ _ _ => takesNoMore_expired h

theorem keepsQuota_countChunks {artifactId tenantId : String} {now : Nat} :
    KeepsQuota quota clock (countUploadedChunksSql artifactId tenantId now) :=
  keepsQuota_update fun _ _ _ => takesNoMore_kept rfl rfl rfl id

theorem keepsQuota_completeUpload {artifactId tenantId : String} {manifestSha256 : Digest}
    {now : Nat} :
    KeepsQuota quota clock (completeArtifactUploadSql artifactId tenantId manifestSha256 now) := by
  refine keepsQuota_update fun db a hsel => takesNoMore_kept rfl rfl rfl fun hdeleted => ?_
  -- an open artifact is not deleted
  simp [ArtifactRow.isOpen, hdeleted] at hsel

theorem keepsQuota_finalizePurge {artifactId tenantId : String} {now : Nat} :
    KeepsQuota quota clock (finalizeArtifactPurgeSql artifactId tenantId now) :=
  keepsQuota_update fun _ _ _ => takesNoMore_kept rfl rfl rfl fun _ => rfl

theorem runBatch_keepsQuota {batch : Batch} {db db' : MarketplaceDb}
    (h : ∀ s ∈ batch, KeepsQuota quota db.clock s) (hrun : runBatch db batch = some db')
    (hquota : WithinQuota quota db) : WithinQuota quota db' := by
  have hall := runBatch_induction (P := fun d => d.clock = db.clock ∧ WithinQuota quota d) hrun
    ⟨rfl, hquota⟩ fun s hs a b ha hb =>
      ⟨(Statement.apply_clock hb).trans ha.1, h s hs a b ha.1 hb ha.2⟩
  exact hall.2

end Statements

/-! ## Requests -/

section Requests

variable {policy : MarketplaceRuntimePolicy} {reads : Reads} {clock : Nat}

theorem createArtifactUpload_keepsQuota (hreads : ∀ k, (reads k).clock ≤ clock)
    {identity : RequestIdentity} {input : CreateArtifactUploadRequest}
    {artifactUuid auditUuid : String} :
    Each (KeepsQuota policy.maximumTenantArtifactBytes clock)
      (createArtifactUpload reads policy identity input artifactUuid auditUuid) := by
  refine each_bind fun _ => each_ok ?_
  simp only [List.forall_mem_cons, forall_mem_nil_iff, and_true]
  exact ⟨keepsQuota_insert (hreads 0), keepsQuota_of_ne rfl⟩

variable {quota : Nat}

theorem completeArtifactUpload_keepsQuota {identity : RequestIdentity} {artifactId : String}
    {manifestSha256 : Digest} {auditUuid : String} :
    Each (KeepsQuota quota clock)
      (completeArtifactUpload reads identity artifactId manifestSha256 auditUuid) := by
  refine each_bind fun _ => each_ite each_nothing (each_bind fun _ => each_bind fun _ =>
    each_ok ?_)
  simp only [List.forall_mem_cons, forall_mem_nil_iff, and_true]
  exact ⟨keepsQuota_completeUpload, keepsQuota_of_ne rfl⟩

theorem ChunkWrite.keepsQuota (write : ChunkWrite) : ∀ s ∈ write.batch, KeepsQuota quota clock s := by
  cases write with
  | finalize chunk =>
      simp only [ChunkWrite.batch, List.forall_mem_cons, forall_mem_nil_iff, and_true]
      exact ⟨keepsQuota_of_ne rfl, keepsQuota_countChunks, keepsQuota_of_ne rfl⟩
  | finalizePurge artifactId tenantId chunks now =>
      intro s hs
      rcases List.mem_append.mp hs with hs | hs
      · rcases List.mem_map.mp hs with ⟨chunk, -, rfl⟩
        exact keepsQuota_of_ne rfl
      · rw [List.mem_singleton.mp hs]
        exact keepsQuota_finalizePurge
  | tombstone chunks now retainUntil =>
      intro s hs
      rcases List.mem_flatMap.mp hs with ⟨chunk, -, hs⟩
      simp only [List.mem_cons, List.not_mem_nil, or_false] at hs
      rcases hs with rfl | rfl
      · exact keepsQuota_of_ne rfl
      · exact keepsQuota_of_ne rfl
  | drained storageKeys now retryAt =>
      intro s hs
      rcases List.mem_flatMap.mp hs with ⟨storageKey, -, hs⟩
      simp only [List.mem_cons, List.not_mem_nil, or_false] at hs
      rcases hs with rfl | rfl
      · exact keepsQuota_of_ne rfl
      · exact keepsQuota_of_ne rfl
  | retried storageKeys now retryAt =>
      intro s hs
      rcases List.mem_map.mp hs with ⟨storageKey, -, rfl⟩
      exact keepsQuota_of_ne rfl
  | restore chunk now =>
      simp only [ChunkWrite.batch, List.forall_mem_cons, forall_mem_nil_iff, and_true]
      exact ⟨keepsQuota_of_ne rfl, keepsQuota_of_ne rfl⟩
  | _ =>
      simp only [ChunkWrite.batch, List.forall_mem_cons, forall_mem_nil_iff, and_true]
      exact keepsQuota_of_ne rfl

theorem cancelArtifactTask_keepsQuota (hreads : ∀ k, (reads k).clock ≤ clock)
    {identity : RequestIdentity} {taskId commandId operationUuid auditUuid : String} :
    Each (KeepsQuota quota clock)
      (cancelArtifactTask reads identity taskId commandId operationUuid auditUuid) := by
  refine each_bind fun _ => each_bind fun _ => each_bind fun _ => each_ite (each_ok ?_)
    each_nothing
  simp only [cancellationBatch, List.forall_mem_cons, forall_mem_nil_iff, and_true]
  exact ⟨keepsQuota_of_ne rfl, keepsQuota_of_ne rfl, keepsQuota_expire (hreads 2),
    keepsQuota_of_ne rfl⟩

theorem claimExpiredArtifact_keepsQuota {now : Nat} (h : now ≤ clock) :
    Each (KeepsQuota quota clock) (claimExpiredArtifact reads now) := by
  unfold claimExpiredArtifact
  split
  · exact each_nothing
  · refine each_ok ?_
    simp only [List.forall_mem_cons, forall_mem_nil_iff, and_true]
    exact keepsQuota_claimPurge h

theorem prepareTaskPurge_keepsQuota (hreads : ∀ k, (reads k).clock ≤ clock)
    {identity : RequestIdentity} {taskId : String} :
    Each (KeepsQuota quota clock) (prepareTaskPurge reads identity taskId) := by
  refine each_bind fun task => each_bind fun _ => each_bind fun _ => each_ite (each_ok ?_)
    (each_ok ?_)
  · simp only [List.forall_mem_cons, forall_mem_nil_iff, and_true]
    exact ⟨keepsQuota_of_ne rfl, keepsQuota_expire (hreads 2)⟩
  · simp only [List.forall_mem_cons, forall_mem_nil_iff, and_true]
    exact ⟨keepsQuota_of_ne rfl, keepsQuota_expire (hreads 2)⟩

theorem observeCancellation_keepsQuota (hreads : ∀ k, (reads k).clock ≤ clock)
    {identity : AgentAuthorizationIdentity} {taskId leaseToken : String} :
    Each (KeepsQuota quota clock) (observeCancellation reads identity taskId leaseToken) := by
  refine each_bind fun terminal => each_bind fun _ => each_ok ?_
  simp only [List.forall_mem_cons, forall_mem_nil_iff, and_true]
  exact ⟨keepsQuota_of_ne rfl, keepsQuota_expire (hreads 1)⟩

/-- Only a completion may bring an artifact back into the sum. -/
theorem request_keepsQuota (d : Deployment) (hreads : ∀ k, (reads k).clock ≤ clock)
    (request : ServiceRequest)
    (h : ∀ identity input outputIv uuids,
      request ≠ .completeArtifactTask identity input outputIv uuids) :
    Each (KeepsQuota d.policy.maximumTenantArtifactBytes clock) (request.batch d reads) := by
  have hother : (request.writes.all fun write => write.table != .artifacts) = true →
      Each (KeepsQuota d.policy.maximumTenantArtifactBytes clock) (request.batch d reads) := by
    intro hne batch hbatch s hs
    have hwrite := List.all_eq_true.mp hne _
      (ServiceRequest.batch_confined d reads request batch hbatch s hs)
    rw [Statement.write_table] at hwrite
    exact keepsQuota_of_ne hwrite
  cases request with
  | createArtifactUpload identity input artifactUuid auditUuid =>
      exact createArtifactUpload_keepsQuota hreads
  | completeArtifactUpload identity artifactId manifestSha256 auditUuid =>
      exact completeArtifactUpload_keepsQuota
  | writeChunk write => exact each_ok write.keepsQuota
  | cancelArtifactTask identity taskId commandId operationUuid auditUuid =>
      exact cancelArtifactTask_keepsQuota hreads
  | claimExpiredArtifact => exact claimExpiredArtifact_keepsQuota (hreads 1)
  | prepareTaskPurge identity taskId => exact prepareTaskPurge_keepsQuota hreads
  | claimArtifactPurge identity artifactId =>
      refine each_ok ?_
      simp only [List.forall_mem_cons, forall_mem_nil_iff, and_true]
      exact keepsQuota_claimPurge (hreads 0)
  | observeCancellation identity taskId leaseToken => exact observeCancellation_keepsQuota hreads
  | expireFailedArtifact artifactId =>
      refine each_ok ?_
      simp only [expireFailedArtifact, List.forall_mem_cons, forall_mem_nil_iff, and_true]
      exact keepsQuota_expire (hreads 0)
  | completeArtifactTask identity input outputIv uuids => exact absurd rfl (h _ _ _ _)
  | _ => exact hother rfl

end Requests

/-! ## Completions -/

/-- The artifact may be kept longer: it is deleted, still counted, or fits. -/
def ExtensionFits (quota : Nat) (db : MarketplaceDb) (artifactId : String) : Prop :=
  ∀ a ∈ db.rows .artifacts, a.artifactId = artifactId → a.status = .deleted ∨
    db.clock < a.expiresAt ∨ storedBytes db a.tenantId db.clock + a.sizeBytes ≤ quota

theorem artifact_unique {db : MarketplaceDb} (h : Consistent db) {a b : ArtifactRow}
    (ha : a ∈ db.rows .artifacts) (hb : b ∈ db.rows .artifacts)
    (hid : a.artifactId = b.artifactId) : a = b :=
  (h .artifacts).eq_of_mem ha hb (k := .primaryKey a.artifactId) (by simp [marketplaceKeys])
    (by simp [marketplaceKeys, hid])

/-- The row behind the retention update. -/
def ArtifactSettlement.extended (s : ArtifactSettlement) (a : ArtifactRow) : ArtifactRow :=
  { a with
    expiresAt :=
      if s.task.privacyMode = .strict then s.now
      else if a.expiresAt < s.standardArtifactExpiresAt then s.standardArtifactExpiresAt
      else a.expiresAt
    updatedAt := s.now }

/-- A completion writes the artifact of its task, or no artifact. -/
theorem artifactCompletion_artifacts {s : ArtifactSettlement} {uuids : CompletionUuids}
    {a b : MarketplaceDb} (hrun : runBatch a (artifactCompletionBatch s uuids) = some b) :
    b.rows .artifacts = a.rows .artifacts ∨ b.rows .artifacts = (a.rows .artifacts).map fun r =>
      if r.artifactId = s.task.artifactId then s.extended r else r := by
  simp only [artifactCompletionBatch, List.cons_append, List.nil_append, runBatch_cons_eq_some]
    at hrun
  obtain ⟨d₁, h₁, d₂, h₂, d₃, h₃, d₄, h₄, d₅, h₅, d₆, h₆, d₇, h₇, hfee⟩ := hrun
  have hbefore : d₆.rows .artifacts = a.rows .artifacts :=
    calc d₆.rows .artifacts
      _ = d₅.rows .artifacts := Statement.apply_rows_of_ne h₆ MarketplaceTable.noConfusion
      _ = d₄.rows .artifacts := Statement.apply_rows_of_ne h₅ MarketplaceTable.noConfusion
      _ = d₃.rows .artifacts := Statement.apply_rows_of_ne h₄ MarketplaceTable.noConfusion
      _ = d₂.rows .artifacts := Statement.apply_rows_of_ne h₃ MarketplaceTable.noConfusion
      _ = d₁.rows .artifacts := Statement.apply_rows_of_ne h₂ MarketplaceTable.noConfusion
      _ = a.rows .artifacts := Statement.apply_rows_of_ne h₁ MarketplaceTable.noConfusion
  have hafter : b.rows .artifacts = d₇.rows .artifacts := by
    refine runBatch_rows_of_ne hfee ?_
    split
    · simp
    · simp [ArtifactSettlement.ledgerInsert, guardedArtifactLedgerInsert, Statement.table]
  rw [hafter, Statement.update_rows h₇, hbefore]
  by_cases hstored : hasArtifactEvidence d₆ s.task.taskId s.input.evidenceDigest = true
  · right
    simp [hstored, ArtifactSettlement.extended]
  · left
    simp [hstored]

/-- A completion keeps the quota if the artifact it extends fits. -/
theorem completion_keepsQuota {quota : Nat} {s : ArtifactSettlement} {uuids : CompletionUuids}
    {a b : MarketplaceDb} (hconsistent : Consistent a) (hnow : s.now ≤ a.clock)
    (hfits : s.task.privacyMode = .standard → ExtensionFits quota a s.task.artifactId)
    (hrun : runBatch a (artifactCompletionBatch s uuids) = some b) (hquota : WithinQuota quota a) :
    WithinQuota quota b := by
  have hclock := runBatch_clock hrun
  rcases artifactCompletion_artifacts hrun with hsame | hrows
  · exact hquota.congr hsame hclock
  intro tenantId
  have hbefore := hquota tenantId
  rw [hclock, storedBytes, hrows, List.map_map]
  -- the extended artifact counts anew only if it was neither counted nor deleted
  by_cases hback : ∃ r ∈ a.rows .artifacts, r.artifactId = s.task.artifactId ∧
      r.tenantId = tenantId ∧ r.status ≠ .deleted ∧ r.expiresAt ≤ a.clock ∧
      s.task.privacyMode = .standard
  · obtain ⟨r, hr, hid, htenant, hstatus, hexpired, hmode⟩ := hback
    have hroom : storedBytes a tenantId a.clock + r.sizeBytes ≤ quota := by
      rcases hfits hmode r hr hid with hdeleted | hlive | hroom
      · exact absurd hdeleted hstatus
      · omega
      · rwa [htenant] at hroom
    refine (sum_map_le_add (p := fun x => x.artifactId == s.task.artifactId) (c := r.sizeBytes)
      ?_ ?_ ?_).trans hroom
    · exact (hconsistent .artifacts).countP_le_one (k := .primaryKey s.task.artifactId)
        fun x _ hx => by simp [marketplaceKeys, beq_iff_eq.mp hx]
    · intro x _ hx
      rw [beq_eq_false_iff_ne] at hx
      simp [hx]
    · intro x hx hsame
      obtain rfl := artifact_unique hconsistent hr hx (hid.trans (beq_iff_eq.mp hsame).symm)
      have hle := (s.extended r).storedBytes_le tenantId a.clock
      simp only [Function.comp_apply, hid, if_true]
      exact hle.trans (Nat.le_add_left _ _)
  · refine le_trans (List.sum_le_sum fun r hr => ?_) hbefore
    by_cases hid : r.artifactId = s.task.artifactId
    · simp only [Function.comp_apply, hid, if_true]
      by_cases hlive : r.tenantId = tenantId ∧ r.status ≠ .deleted ∧
          a.clock < (s.extended r).expiresAt
      · have hmode : s.task.privacyMode = .standard := by
          cases hmode : s.task.privacyMode with
          | standard => rfl
          | strict =>
              have hexpires : (s.extended r).expiresAt = s.now := if_pos hmode
              omega
        have hcounted : a.clock < r.expiresAt := by
          by_contra hexpired
          exact hback ⟨r, hr, hid, hlive.1, hlive.2.1, by omega, hmode⟩
        have hbytes : r.storedBytes tenantId a.clock = r.sizeBytes :=
          if_pos ⟨hlive.1, hlive.2.1, hcounted⟩
        rw [hbytes]
        exact (s.extended r).storedBytes_le tenantId a.clock
      · have hzero : (s.extended r).storedBytes tenantId a.clock = 0 := if_neg hlive
        rw [hzero]
        exact Nat.zero_le _
    · simp [hid]

/-! ## Runs -/

/-- Time passes. -/
def Call.PassesTime (w : World) (call : Call) : Prop :=
  ∀ instant, call = .setClock instant → w.db.clock ≤ instant

/-- The checks of a completion and the guard of its update pass for the stored task. -/
def CompletesTask (w : World) (ages : List Nat) (identity : AgentAuthorizationIdentity)
    (input : ArtifactTaskCompleteRequest) (outputIv : String) (task : ArtifactTaskRow) : Prop :=
  task ∈ w.db.rows .artifactTasks ∧ ∃ s, completeArtifactTask (w.reads ages) w.deployment.policy
    identity input outputIv = .ok s ∧ s.completion.admits w.db task = true

/-- The call completes no standard task whose expired artifact no longer fits. -/
def Call.ExtendsWithin (w : World) (call : Call) : Prop :=
  ∀ ages identity input outputIv uuids,
    call = .service ages (.completeArtifactTask identity input outputIv uuids) →
    ∀ task, CompletesTask w ages identity input outputIv task → task.privacyMode = .standard →
      ExtensionFits w.deployment.policy.maximumTenantArtifactBytes w.db task.artifactId

/-- The quota holds, and no request read an instant that is still to come. -/
structure QuotaKept (w : World) : Prop where
  reachable : Reachable w
  clocks : ∀ snap ∈ w.snapshots, snap.clock ≤ w.db.clock
  within : WithinQuota w.deployment.policy.maximumTenantArtifactBytes w.db

theorem QuotaKept.start (clock : Nat) (deployment : Deployment) :
    QuotaKept (World.start clock deployment) where
  reachable := Reachable.start clock deployment
  clocks := by simp [World.snapshots, World.start]
  within := by simp [WithinQuota, storedBytes, World.start, MarketplaceDb.empty]

theorem completeArtifactTask_reads {w : World} {ages : List Nat} {policy : MarketplaceRuntimePolicy}
    {identity : AgentAuthorizationIdentity} {input : ArtifactTaskCompleteRequest}
    {outputIv : String} {s : ArtifactSettlement}
    (h : completeArtifactTask (w.reads ages) policy identity input outputIv = .ok s) :
    w.observed .artifactTasks s.task ∧ s.now = (w.reads ages 2).clock := by
  unfold completeArtifactTask at h
  simp only [Except.bind_eq_ok, demand_eq_ok, exists_unit, uncaught_eq_ok, Except.pure_eq_ok] at h
  obtain ⟨row, hrow, -, -, -, -, amounts, -, -, rfl⟩ := h
  exact ⟨(requireLeasedTask_eq_ok hrow).observed, rfl⟩

/-- The batch of a completion keeps the quota under the condition. -/
theorem QuotaKept.completes {w : World} (h : QuotaKept w) {ages : List Nat}
    {identity : AgentAuthorizationIdentity} {input : ArtifactTaskCompleteRequest}
    {outputIv : String} {uuids : CompletionUuids} {batch : Batch} {db : MarketplaceDb}
    (hfits : (Call.service ages
      (.completeArtifactTask identity input outputIv uuids)).ExtendsWithin w)
    (hbatch : (ServiceRequest.completeArtifactTask identity input outputIv uuids).batch w.deployment
      (w.reads ages) = .ok batch)
    (hrun : runBatch w.db batch = some db) :
    WithinQuota w.deployment.policy.maximumTenantArtifactBytes db := by
  have hw := h.reachable
  cases hs : completeArtifactTask (w.reads ages) w.deployment.policy identity input outputIv with
  | error e => simp [ServiceRequest.batch, hs, Except.map] at hbatch
  | ok s =>
      obtain rfl : artifactCompletionBatch s uuids = batch := by
        simpa [ServiceRequest.batch, hs, Except.map] using hbatch
      obtain ⟨⟨snap, hsnap, hread⟩, hnow⟩ := completeArtifactTask_reads hs
      by_cases hadmits : ∃ task ∈ w.db.rows .artifactTasks, s.completion.admits w.db task = true
      · obtain ⟨task, htask, hadmits⟩ := hadmits
        -- the task read earlier has the terms of the stored one
        obtain ⟨later, hlater, hmove⟩ := (hw.sound.follows snap hsnap).tasks.of_mem_old hread
        have hid := (ArtifactSettlement.progress_of_admits hadmits).1
        have hlaterId : later.taskId = s.task.taskId := congrArg TaskTerms.taskId hmove.terms
        obtain rfl := task_unique hw.consistent hlater htask (hlaterId.trans hid.symm)
        have hmode : later.privacyMode = s.task.privacyMode :=
          congrArg TaskTerms.privacyMode hmove.terms
        have hartifact : later.artifactId = s.task.artifactId :=
          congrArg TaskTerms.artifactId hmove.terms
        refine completion_keepsQuota hw.consistent ?_ ?_ hrun h.within
        · rw [hnow]
          exact h.clocks _ (w.reads_mem ages 2)
        · intro hstandard
          rw [← hartifact]
          exact hfits _ _ _ _ _ rfl later ⟨hlater, s, hs, hadmits⟩ (hmode.trans hstandard)
      · -- a refused completion writes nothing
        have hnone : ∀ task ∈ w.db.rows .artifactTasks, s.completion.admits w.db task = false :=
          fun task htask => Bool.eq_false_iff.mpr fun hyes => hadmits ⟨task, htask, hyes⟩
        obtain ⟨mid, hupdate, -⟩ := runBatch_cons_eq_some.mp (show runBatch w.db
          (completeArtifactTaskSql s.completion :: _) = some db from hrun)
        obtain rfl : mid = w.db := Statement.update_eq_self hupdate hnone
        have hidle := artifactCompletion_idle hw.consistent hw.bookKept.named hw.bookKept.sound
          hupdate hrun
        rw [hidle]
        exact h.within

/-- One step keeps the quota under the condition. -/
theorem QuotaKept.step {w : World} (h : QuotaKept w) {call : Call} (htime : call.PassesTime w)
    (hfits : call.ExtendsWithin w) : QuotaKept (Server.step w call) := by
  have hw := h.reachable
  have hforward : w.db.clock ≤ (Server.step w call).db.clock := by
    cases hw.stepped call with
    | idle hdb _ => rw [hdb]
    | clock instant hcall hdb _ =>
        rw [hdb]
        exact htime instant hcall
    | sent batch _ hrun _ _ => rw [runBatch_clock hrun]
  refine
    { reachable := hw.step call
      clocks := fun snap hsnap => ?_
      within := ?_ }
  · rcases (hw.stepped call).snapshots_eq hsnap with rfl | hold
    · exact Nat.le_refl _
    · exact (h.clocks snap hold).trans hforward
  · -- no deployment changes the quota
    show WithinQuota w.deployment.policy.maximumTenantArtifactBytes (Server.step w call).db
    cases step_committed w call with
    | idle hdb =>
        rw [hdb]
        exact h.within
    | clock instant hdb =>
        rw [hdb] at hforward ⊢
        exact h.within.later hforward
    | sent batch hsends hfresh hrun =>
        have hunwritten : (call.writes.all fun write => write.table != .artifacts) = true →
            WithinQuota w.deployment.policy.maximumTenantArtifactBytes (Server.step w call).db :=
          fun hne => h.within.congr (step_rows_of_not_written hne) (runBatch_clock hrun)
        cases hsends with
        | @service ages request _ hbatch =>
            by_cases hcompletes : ∃ identity input outputIv uuids,
                request = .completeArtifactTask identity input outputIv uuids
            · obtain ⟨identity, input, outputIv, uuids, rfl⟩ := hcompletes
              exact h.completes hfits hbatch hrun
            · refine runBatch_keepsQuota (request_keepsQuota w.deployment
                (fun k => h.clocks _ (w.reads_mem ages k)) request ?_ batch hbatch) hrun h.within
              intro identity input outputIv uuids heq
              exact hcompletes ⟨identity, input, outputIv, uuids, heq⟩
        | reservation _ => exact hunwritten rfl
        | dispatch _ => exact hunwritten rfl
        | settlement _ _ => exact hunwritten rfl
        | failure => exact hunwritten rfl
        | agent _ => exact hunwritten rfl

/-- The sample task is completed. -/
def sampleQuotaCalls : List Call :=
  sampleCalls.take 6 ++ (sampleArtifactCalls.take 8 ++ [sampleCompletionCall ⟨10, 20, 30⟩ 1])

theorem sampleCalls_extend (w : World) : ∀ call ∈ sampleCalls.take 6 ++ sampleArtifactCalls.take 8,
    call.PassesTime w ∧ call.ExtendsWithin w := by
  intro call hcall
  refine ⟨fun instant heq => ?_, fun ages identity input outputIv uuids heq => ?_⟩
  · subst heq
    simp [sampleCalls, sampleArtifactCalls] at hcall
  · subst heq
    simp [sampleCalls, sampleArtifactCalls] at hcall

/-- No artifact has expired when the sample task is completed. -/
theorem sampleArtifacts_counted :
    ((sampleArtifactWorld 8).db.rows .artifacts).all (fun a =>
      decide ((sampleArtifactWorld 8).db.clock < a.expiresAt)) = true := by
  rw [sampleArtifactWorld_eq]
  decide +kernel

/-- An upload of the largest size. -/
def sampleLargeUpload : CreateArtifactUploadRequest where
  fileName := "b.txt"
  mediaType := "text/plain"
  sizeBytes := artifactMaxSizeBytes
  privacyMode := .standard

/--
The purge of the first task looks for other tasks before the second one is created and
expires their artifact; two uploads fill the quota; the second task is completed.
-/
def sampleOverflowCalls : List Call :=
  [.service [] (.createArtifactTask sampleBuyer sampleTask "key-3" "t2" "iv6" "u10"),
    .service [0, 1, 0] (.prepareTaskPurge sampleBuyer "artifact-task-t1"),
    .service [] (.createArtifactUpload sampleBuyer sampleLargeUpload "f2" "u11"),
    .service [] (.createArtifactUpload sampleBuyer sampleLargeUpload "f3" "u12"),
    .service [] (.claimArtifactTask sampleAgent (sampleWorker "worker-1") "lease-2"),
    .service [] (.checkpointArtifactTask sampleAgent
      { sampleCheckpoint with taskId := "artifact-task-t2", leaseToken := "lease-2" } "k2"),
    .service [] (.completeArtifactTask sampleAgent
      { sampleCompletion ⟨10, 20, 30⟩ 1 with taskId := "artifact-task-t2", leaseToken := "lease-2" }
      "iv7" ⟨"c1", "c2", "c3", "c4", "c5", "c6"⟩)]

/-- Five bytes more than the quota of 512 MiB. -/
theorem sampleOverflow_stored :
    storedBytes (run step (sampleArtifactWorld 6) sampleOverflowCalls).db "tenant-buyer"
      (run step (sampleArtifactWorld 6) sampleOverflowCalls).db.clock = 536870917 := by
  rw [sampleArtifactWorld_eq]
  decide +kernel

end Server
end TokenStreaming
