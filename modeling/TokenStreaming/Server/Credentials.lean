import TokenStreaming.Server.Reachability

/-!
# Control plane - Scrubbed credentials

A stored gateway credential is cleared when its authorization ends or expires.
Rewraps and lookup migrations read a row, compute outside the database and write
back later, so each of them compares the columns it read.

Main results:

- Theorem {lit}`Issued.credentials_respect`: no statement restores a cleared
  credential or leaves one behind in an ended authorization.
- Theorem {lit}`scrubbed_credential_final`: a cleared credential stays cleared,
  ended authorizations hold none, and rewraps keep the plaintext they compared.
-/

namespace TokenStreaming
namespace Server

open Relational Domain TransitionSystem

/-! ## Rows -/

/-- The authorization was rejected, withdrawn or revoked. -/
def AuthorizationStatus.isEnded : AuthorizationStatus → Bool
  | .rejected | .withdrawn | .revoked => true
  | .pending | .approved => false

/-- An ended authorization holds neither a token nor its lookup digest. -/
def AuthorizationRow.HoldsNoEndedToken (r : AuthorizationRow) : Prop :=
  r.status.isEnded = true → r.encryptedGatewayToken = .cleared ∧ r.gatewayTokenDigest = none

/-- What every write does to the credential of a stored request. -/
structure CredentialMove (a b : AuthorizationRow) : Prop where
  requestId : b.requestId = a.requestId
  cleared : a.encryptedGatewayToken = .cleared → b.encryptedGatewayToken = .cleared
  ended : a.HoldsNoEndedToken → b.HoldsNoEndedToken

theorem CredentialMove.refl (r : AuthorizationRow) : CredentialMove r r where
  requestId := rfl
  cleared := fun h => h
  ended := fun h => h

theorem CredentialMove.trans {a b c : AuthorizationRow} (hab : CredentialMove a b)
    (hbc : CredentialMove b c) : CredentialMove a c where
  requestId := hbc.requestId.trans hab.requestId
  cleared := fun h => hbc.cleared (hab.cleared h)
  ended := fun h => hbc.ended (hab.ended h)

/-- Clearing a credential is always allowed. -/
theorem CredentialMove.of_cleared {a b : AuthorizationRow} (hid : b.requestId = a.requestId)
    (htoken : b.encryptedGatewayToken = .cleared) (hdigest : b.gatewayTokenDigest = none) :
    CredentialMove a b where
  requestId := hid
  cleared := fun _ => htoken
  ended := fun _ _ => ⟨htoken, hdigest⟩

/-- An authorization that has not ended may change as long as it does not end. -/
theorem CredentialMove.of_open {a b : AuthorizationRow} (hid : b.requestId = a.requestId)
    (hcleared : a.encryptedGatewayToken = .cleared → b.encryptedGatewayToken = .cleared)
    (hopen : b.status.isEnded = false) : CredentialMove a b where
  requestId := hid
  cleared := hcleared
  ended := fun _ hended => by
    rw [hopen] at hended
    cases hended

/-- A compare-and-set on a generation that is sealed. -/
theorem CredentialMove.of_sealed {a b : AuthorizationRow} (hid : b.requestId = a.requestId)
    (hstatus : b.status = a.status) (hsealed : a.encryptedGatewayToken ≠ .cleared) :
    CredentialMove a b where
  requestId := hid
  cleared := fun h => absurd h hsealed
  ended := fun ha hended => by
    rw [hstatus] at hended
    exact absurd (ha hended).1 hsealed

/-- A compare-and-set on lookup columns that are set. -/
theorem CredentialMove.of_indexed {a b : AuthorizationRow} (hid : b.requestId = a.requestId)
    (hstatus : b.status = a.status) (htoken : b.encryptedGatewayToken = a.encryptedGatewayToken)
    (hdigest : a.gatewayTokenDigest ≠ none) : CredentialMove a b where
  requestId := hid
  cleared := fun h => htoken.trans h
  ended := fun ha hended => by
    rw [hstatus] at hended
    exact absurd (ha hended).2 hdigest

/-! ## Statements -/

/-- The lookup columns of a selected row are set. -/
theorem AuthorizationRow.hasLookup_digest {r : AuthorizationRow} {lookup : CredentialLookupDigest}
    (h : r.hasLookup lookup = true) : r.gatewayTokenDigest ≠ none := by
  simp only [AuthorizationRow.hasLookup, Bool.and_eq_true, beq_iff_eq] at h
  rw [h.2]
  simp

theorem AuthorizationRow.matchesLookup_digest {r : AuthorizationRow} {legacy : Digest}
    {lookups : List CredentialLookupDigest} (h : r.matchesLookup legacy lookups = true) :
    r.gatewayTokenDigest ≠ none := by
  simp only [AuthorizationRow.matchesLookup, Bool.or_eq_true, Bool.and_eq_true, beq_iff_eq,
    List.any_eq_true] at h
  rcases h with ⟨-, hdigest⟩ | ⟨lookup, -, -, hdigest⟩
  · rw [hdigest]
    simp
  · rw [hdigest]
    simp

/-- The routine statements on requests. -/
theorem Routine.credentials_respect {w : World} {s : MarketplaceStatement}
    (h : Routine w .authorizationRequests s) (db : MarketplaceDb) :
    s.Respects db .authorizationRequests CredentialMove AuthorizationRow.HoldsNoEndedToken := by
  cases h with
  | free _ hfree => simp [freeTables] at hfree
  | submit row h =>
      refine Statement.insert_respects CredentialMove.refl fun r hr => ?_
      rw [List.mem_singleton.mp hr]
      intro hended
      rw [h.status] at hended
      cases hended
  | rewrap requestId generation encrypted now h _ =>
      refine Statement.update_respects CredentialMove.refl fun r _ hr => ?_
      simp only [Bool.and_eq_true, beq_iff_eq] at hr
      refine .of_sealed rfl rfl fun hcleared => ?_
      have hgeneration : generation.ciphertext = r.encryptedGatewayToken := by
        rw [← hr.2]
        rfl
      rw [hgeneration, hcleared] at h
      cases h
  | expirePending now cutoff =>
      exact Statement.update_respects CredentialMove.refl fun _ _ _ => .of_cleared rfl rfl rfl
  | scrubExpired now _ =>
      exact Statement.update_respects CredentialMove.refl fun _ _ _ => .of_cleared rfl rfl rfl
  | scrubTerminated now =>
      exact Statement.update_respects CredentialMove.refl fun _ _ _ => .of_cleared rfl rfl rfl
  | migrateRow call _ stale _ =>
      refine Statement.update_respects CredentialMove.refl fun r _ hr => ?_
      rw [Bool.and_eq_true] at hr
      exact .of_indexed rfl rfl rfl (AuthorizationRow.hasLookup_digest hr.2)
  | migrateAll call _ =>
      refine Statement.update_respects CredentialMove.refl fun r _ hr => ?_
      rw [Bool.and_eq_true] at hr
      exact .of_indexed rfl rfl rfl (AuthorizationRow.matchesLookup_digest hr.2)

/-- The reviews and lifecycle commands on requests. -/
theorem Commanded.credentials_respect {w : World} {s : MarketplaceStatement}
    (h : Commanded w .authorizationRequests s) (db : MarketplaceDb) :
    s.Respects db .authorizationRequests CredentialMove AuthorizationRow.HoldsNoEndedToken := by
  cases h with
  | routine h => exact h.credentials_respect db
  | reject c note =>
      exact Statement.update_respects CredentialMove.refl fun _ _ _ => .of_cleared rfl rfl rfl
  | approve c note supplierId tenantId expected =>
      exact Statement.update_respects CredentialMove.refl fun _ _ _ =>
        .of_open rfl (fun h => h) rfl
  | withdraw c reasonCode =>
      exact Statement.update_respects CredentialMove.refl fun _ _ _ => .of_cleared rfl rfl rfl
  | revoke c reasonCode supplierVersion =>
      exact Statement.update_respects CredentialMove.refl fun _ _ _ => .of_cleared rfl rfl rfl
  | rotate c generation encrypted activeLookup lookup h =>
      refine Statement.update_respects CredentialMove.refl fun r _ hr => ?_
      simp only [LifecycleCommand.rotates, Bool.and_eq_true, beq_iff_eq] at hr
      refine .of_sealed rfl rfl fun hcleared => h ?_
      rw [← hr.1.1.1.2]
      exact hcleared

/-- No statement restores a cleared credential or leaves one behind in an ended authorization. -/
theorem Issued.credentials_respect {w : World} {t : MarketplaceTable} {s : MarketplaceStatement}
    (h : Issued w t s) (db : MarketplaceDb) :
    s.Respects db .authorizationRequests CredentialMove AuthorizationRow.HoldsNoEndedToken := by
  by_cases ht : t = .authorizationRequests
  · subst ht
    cases h with
    | commanded h => exact h.credentials_respect db
  · refine Statement.respects_of_ne CredentialMove.refl ?_
    rw [h.table_eq]
    exact fun hne => ht hne.symm

/-! ## Steps and runs -/

/-- How the stored credentials evolve. -/
def CredentialsFollow (old new : MarketplaceDb) : Prop :=
  Evolves CredentialMove AuthorizationRow.HoldsNoEndedToken (old.rows .authorizationRequests)
    (new.rows .authorizationRequests)

theorem CredentialsFollow.refl (db : MarketplaceDb) : CredentialsFollow db db :=
  Evolves.refl CredentialMove.refl _

theorem CredentialsFollow.trans {a b c : MarketplaceDb} (hab : CredentialsFollow a b)
    (hbc : CredentialsFollow b c) : CredentialsFollow a c :=
  Evolves.trans (fun _ _ _ h₁ h₂ => h₁.trans h₂) (fun _ _ h hm => hm.ended h) hab hbc

/-- One step of the control plane. -/
theorem step_credentials {w : World} (hw : Reachable w) (call : Call) :
    CredentialsFollow w.db (step w call).db := by
  cases hw.stepped call with
  | idle hdb _ =>
      rw [hdb]
      exact CredentialsFollow.refl _
  | clock instant _ hdb _ =>
      rw [hdb]
      exact CredentialsFollow.refl _
  | sent batch hsent hrun _ _ =>
      refine runBatch_induction (P := CredentialsFollow w.db) hrun (CredentialsFollow.refl _) ?_
      intro s hs a b ha hb
      exact ha.trans ((hsent.issued s hs).credentials_respect a b hb)

theorem run_credentials {w : World} (hw : Reachable w) (calls : List Call) :
    CredentialsFollow w.db (run step w calls).db :=
  run_related (R := fun a b : World => CredentialsFollow a.db b.db)
    (fun w => CredentialsFollow.refl w.db) (fun _ _ _ => CredentialsFollow.trans)
    (fun _ call hw => Reachable.step hw call) (fun _ call hw => step_credentials hw call) calls hw

/-- No ended authorization holds a credential. -/
theorem Reachable.holdsNoEndedToken {w : World} (h : Reachable w) :
    ∀ r ∈ w.db.rows .authorizationRequests, r.HoldsNoEndedToken := by
  obtain ⟨clock, deployment, calls, rfl⟩ := h
  intro r hr
  have hfollow := run_credentials (Reachable.start clock deployment) calls
  rcases hfollow.of_mem_new hr with ⟨old, hold, -⟩ | hnew
  · simp [World.start, MarketplaceDb.empty] at hold
  · exact hnew

/-! ## Rewraps and migrations -/

/-- The calls that write a credential back after they read it. -/
def Call.writesBack : Call → Bool
  | .service _ (.rotateCredentialEncryptions _) => true
  | .advanceAgent _ => true
  | _ => false

/-- The context a credential is sealed for. -/
def AuthorizationRow.encryptionContext (r : AuthorizationRow) : CredentialEncryptionContext where
  tenantId := r.tenantId
  authorizationRequestId := r.requestId

/-- A credential stays, or is replaced by one that the keyring opens to the stored plaintext. -/
structure Rewrapped (keyring : ResolvedKeyring) (a b : AuthorizationRow) : Prop where
  terms : b.terms = a.terms
  token : b.token? = a.token?
  opens : b.credential = a.credential ∨
    decryptCredential keyring b.credential b.encryptionContext = a.token?

theorem Rewrapped.refl (keyring : ResolvedKeyring) (r : AuthorizationRow) :
    Rewrapped keyring r r where
  terms := rfl
  token := rfl
  opens := Or.inl rfl

theorem Rewrapped.trans {keyring : ResolvedKeyring} {a b c : AuthorizationRow}
    (hab : Rewrapped keyring a b) (hbc : Rewrapped keyring b c) : Rewrapped keyring a c where
  terms := hbc.terms.trans hab.terms
  token := hbc.token.trans hab.token
  opens := by
    rcases hbc.opens with hsame | hopens
    · rcases hab.opens with hsame' | hopens'
      · exact Or.inl (hsame.trans hsame')
      · right
        have hcontext : c.encryptionContext = b.encryptionContext := by
          have hterms := hbc.terms
          simp only [AuthorizationRow.terms, RequestTerms.mk.injEq] at hterms
          simp [AuthorizationRow.encryptionContext, hterms.1, hterms.2.1]
        rw [hsame, hcontext, hopens']
    · right
      rw [hopens, hab.token]

/-- The statements of {lit}`rotateCredentialEncryptions`. -/
theorem rewrapStatements_mem {keyring : ResolvedKeyring} {now : Nat}
    {rows : List (AuthorizationRow × String)} {batch : Batch}
    (h : rewrapStatements keyring now rows = .ok batch) :
    ∀ s ∈ batch, ∃ row iv plaintext, (row, iv) ∈ rows ∧
      row.encryptedGatewayToken.plaintext? = some plaintext ∧
      s = rewrapAuthorizationCredentialSql row.requestId row.credential
        (encryptCredential keyring iv plaintext row.encryptionContext) now := by
  induction rows generalizing batch with
  | nil =>
      cases h
      simp
  | cons head rows ih =>
      obtain ⟨row, iv⟩ := head
      unfold rewrapStatements at h
      simp only [Except.bind_eq_ok, Except.pure_eq_ok] at h
      obtain ⟨encrypted, hencrypted, statements, hstatements, rfl⟩ := h
      unfold rewrapCredential at hencrypted
      simp only [Except.bind_eq_ok, found_eq_ok, Except.pure_eq_ok] at hencrypted
      obtain ⟨plaintext, hplaintext, rfl⟩ := hencrypted
      intro s hs
      rcases List.mem_cons.mp hs with rfl | hs
      · exact ⟨row, iv, plaintext, by simp, decryptCredential_eq_some hplaintext, rfl⟩
      · obtain ⟨row', iv', plaintext', hmem, hrest⟩ := ih hstatements s hs
        exact ⟨row', iv', plaintext', List.mem_cons_of_mem _ hmem, hrest⟩

/-- A rewrap compares the generation it read, in a row with the same terms. -/
theorem rewrap_respects {keyring : ResolvedKeyring} {row : AuthorizationRow}
    {iv plaintext : String} {now : Nat} {db : MarketplaceDb}
    (hplaintext : row.encryptedGatewayToken.plaintext? = some plaintext)
    (hterms : ∀ r ∈ db.rows .authorizationRequests, r.requestId = row.requestId →
      r.terms = row.terms) :
    (rewrapAuthorizationCredentialSql row.requestId row.credential
      (encryptCredential keyring iv plaintext row.encryptionContext) now).Respects db
        .authorizationRequests (Rewrapped keyring) fun _ => False := by
  refine Statement.update_respects (Rewrapped.refl keyring) fun r hr hselected => ?_
  simp only [Bool.and_eq_true, beq_iff_eq] at hselected
  have hsame : r.encryptedGatewayToken = row.encryptedGatewayToken :=
    congrArg EncryptedCredential.ciphertext hselected.2
  have htoken : r.token? = some plaintext := by
    rw [AuthorizationRow.token?, hsame, hplaintext]
  refine ⟨rfl, htoken.symm, Or.inr ?_⟩
  have hrow := hterms r hr hselected.1
  simp only [AuthorizationRow.terms, RequestTerms.mk.injEq] at hrow
  have hcontext : r.encryptionContext = row.encryptionContext := by
    simp [AuthorizationRow.encryptionContext, hrow.1, hrow.2.1]
  have hopens := decryptCredential_encryptCredential keyring iv plaintext r.encryptionContext
  rw [htoken, ← hcontext]
  exact hopens

/-- The batches of an authentication leave the credentials alone. -/
theorem AgentCall.batch_rewrapped (keyring : ResolvedKeyring) (call : AgentCall) :
    ∀ s ∈ call.batch, ∀ db, s.Respects db .authorizationRequests (Rewrapped keyring)
      fun _ => False := by
  have hsame : ∀ selects : MarketplaceDb → AuthorizationRow → Bool, ∀ db,
      Statement.Respects (S := marketplaceSchema)
        (.update .authorizationRequests selects fun _ r => r.withLookup call.activeLookup call.now)
        db .authorizationRequests (Rewrapped keyring) fun _ => False := by
    intro selects db
    exact Statement.update_respects (Rewrapped.refl keyring) fun _ _ _ => ⟨rfl, rfl, Or.inl rfl⟩
  have hother : ∀ s : MarketplaceStatement, s.table = .agentRequestNonces → ∀ db,
      s.Respects db .authorizationRequests (Rewrapped keyring) fun _ => False := by
    intro s hs db
    refine Statement.respects_of_ne (Rewrapped.refl keyring) ?_
    rw [hs]
    exact fun h => MarketplaceTable.noConfusion h
  intro s hs db
  unfold AgentCall.batch at hs
  split at hs
  · rw [List.mem_singleton.mp hs]
    exact hother _ rfl db
  · rw [List.mem_singleton.mp hs]
    exact hother _ rfl db
  · split at hs
    · rw [List.mem_singleton.mp hs]
      exact hsame _ db
    · obtain ⟨stale, -, rfl⟩ := List.mem_map.mp hs
      exact hsame _ db
  · rw [List.mem_singleton.mp hs]
    exact hsame _ db
  all_goals simp at hs

/-- The rows of an observed request keep its terms. -/
theorem Reachable.terms_eq {w : World} (hw : Reachable w) {snap db : MarketplaceDb}
    (hsnap : snap ∈ w.snapshots) (hfollows : Follows w.db db) (hconsistent : Consistent db)
    {row r : AuthorizationRow} (hrow : row ∈ snap.rows .authorizationRequests)
    (hr : r ∈ db.rows .authorizationRequests) (hid : r.requestId = row.requestId) :
    r.terms = row.terms := by
  have hlater := (hw.sound.follows snap hsnap).trans hfollows
  obtain ⟨r', hr', hmove⟩ := hlater.requests.of_mem_old hrow
  have hid' : r'.requestId = row.requestId := congrArg RequestTerms.requestId hmove.terms
  have hsame : r = r' := request_unique hconsistent hr hr' (hid.trans hid'.symm)
  rw [hsame, hmove.terms]

/-- Every stored credential stays or is rewrapped. -/
def CredentialsRewrapped (keyring : ResolvedKeyring) (old new : MarketplaceDb) : Prop :=
  Evolves (Rewrapped keyring) (fun _ => False) (old.rows .authorizationRequests)
    (new.rows .authorizationRequests)

theorem CredentialsRewrapped.refl (keyring : ResolvedKeyring) (db : MarketplaceDb) :
    CredentialsRewrapped keyring db db :=
  Evolves.refl (Rewrapped.refl keyring) _

theorem CredentialsRewrapped.trans {keyring : ResolvedKeyring} {a b c : MarketplaceDb}
    (hab : CredentialsRewrapped keyring a b) (hbc : CredentialsRewrapped keyring b c) :
    CredentialsRewrapped keyring a c := by
  refine Evolves.trans ?_ (fun _ _ hnew _ => hnew) hab hbc
  intro x y z hxy hyz
  exact hxy.trans hyz

/-- A batch whose statements rewrap, rewraps. -/
theorem runBatch_rewrapped {w : World} (hw : Reachable w) {keyring : ResolvedKeyring}
    {call : Call} {batch : Batch} {db : MarketplaceDb} (hsent : Sent w call batch)
    (hrun : runBatch w.db batch = some db)
    (hrespects : ∀ s ∈ batch, ∀ a, Consistent a → Follows w.db a →
      s.Respects a .authorizationRequests (Rewrapped keyring) fun _ => False) :
    CredentialsRewrapped keyring w.db db := by
  have hall := runBatch_induction
    (P := fun d => Consistent d ∧ Follows w.db d ∧ CredentialsRewrapped keyring w.db d) hrun
    ⟨hw.consistent, Follows.refl _, CredentialsRewrapped.refl _ _⟩
    fun s hs a b ha hb =>
      ⟨ha.1.apply hb, ha.2.1.trans ((hsent.issued s hs).follows hb),
        ha.2.2.trans (hrespects s hs a ha.1 ha.2.1 b hb)⟩
  exact hall.2.2

/-- A call that writes back keeps every plaintext. -/
theorem step_rewrapped {w : World} (hw : Reachable w) {call : Call}
    (hcall : call.writesBack = true) :
    CredentialsRewrapped w.deployment.keyrings.credential w.db (step w call).db := by
  cases call with
  | service ages request =>
      cases request with
      | rotateCredentialEncryptions ivs =>
          rcases step_service w ages (.rotateCredentialEncryptions ivs) with
            hsame | ⟨batch, hfresh, hbatch, hrun⟩
          · rw [hsame]
            exact CredentialsRewrapped.refl _ _
          · refine runBatch_rewrapped hw (ServiceRequest.batch_sent hbatch hfresh) hrun ?_
            intro s hs a hconsistent hfollows
            obtain ⟨row, iv, plaintext, hmem, hplaintext, rfl⟩ := rewrapStatements_mem hbatch s hs
            have hstale := List.mem_of_mem_take (List.of_mem_zip hmem).1
            have hrow := List.mem_of_mem_filter ((List.mem_insertionSort _).mp hstale)
            refine rewrap_respects hplaintext fun r hr hid => ?_
            exact hw.terms_eq (w.reads_mem ages 1) hfollows hconsistent hrow hr hid
      | _ => cases hcall
  | advanceAgent index =>
      rcases step_advanceAgent w index with hsame | ⟨agentCall, hget, hrun⟩
      · rw [hsame]
        exact CredentialsRewrapped.refl _ _
      · have hmem := List.mem_of_getElem? hget
        have hsent : Sent w (.advanceAgent index) agentCall.batch :=
          AgentCall.batch_sent hmem (hw.sound.agents _ hmem)
        refine runBatch_rewrapped hw hsent hrun fun s hs a _ _ => ?_
        exact agentCall.batch_rewrapped _ s hs a
  | _ => cases hcall

/-! ## The life of a credential -/

/--
In every reachable state a cleared credential stays cleared over all later runs,
every ended authorization holds neither token nor lookup digest, and a rewrap or
lookup migration keeps the plaintext of every credential.
-/
theorem scrubbed_credential_final (w : World) (hw : Reachable w) :
    (∀ r ∈ w.db.rows .authorizationRequests, r.encryptedGatewayToken = .cleared →
      ∀ calls, ∀ r' ∈ (run step w calls).db.rows .authorizationRequests,
        r'.requestId = r.requestId → r'.encryptedGatewayToken = .cleared) ∧
    (∀ r ∈ w.db.rows .authorizationRequests,
      r.status = .rejected ∨ r.status = .withdrawn ∨ r.status = .revoked →
        r.encryptedGatewayToken = .cleared ∧ r.gatewayTokenDigest = none) ∧
    ∀ call, call.writesBack = true → ∀ r ∈ w.db.rows .authorizationRequests,
      ∀ r' ∈ (step w call).db.rows .authorizationRequests, r'.requestId = r.requestId →
        Rewrapped w.deployment.keyrings.credential r r' := by
  refine ⟨?_, ?_, ?_⟩
  · intro r hr hcleared calls r' hr' hid
    obtain ⟨later, hlater, hmove⟩ := (run_credentials hw calls).of_mem_old hr
    have hsame : r' = later :=
      request_unique (hw.after calls).consistent hr' hlater (hid.trans hmove.requestId.symm)
    rw [hsame]
    exact hmove.cleared hcleared
  · intro r hr hended
    refine hw.holdsNoEndedToken r hr ?_
    rcases hended with h | h | h <;> rw [h] <;> rfl
  · intro call hcall r hr r' hr' hid
    obtain ⟨later, hlater, hmove⟩ := (step_rewrapped hw hcall).of_mem_old hr
    have hid' : later.requestId = r.requestId := congrArg RequestTerms.requestId hmove.terms
    have hsame : r' = later :=
      request_unique (hw.step call).consistent hr' hlater (hid.trans hid'.symm)
    rw [hsame]
    exact hmove

/-- The reviewer rejects the submitted request. -/
def sampleRejection : Call :=
  .service [] (.rejectAuthorization sampleReviewer "authorization-request-a1" "review-1" none
    "r1" "u3")

theorem scrubbed_credential_final_sample :
    (∃ r ∈ (step (sampleWorld 2) sampleRejection).db.rows .authorizationRequests,
      r.requestId = "authorization-request-a1" ∧ r.status = .rejected ∧
        r.encryptedGatewayToken = .cleared) ∧
    ∀ calls,
      ∀ r' ∈ (run step (step (sampleWorld 2) sampleRejection) calls).db.rows
          .authorizationRequests,
        r'.requestId = "authorization-request-a1" → r'.encryptedGatewayToken = .cleared := by
  have hrow : ∃ r ∈ (step (sampleWorld 2) sampleRejection).db.rows .authorizationRequests,
      r.requestId = "authorization-request-a1" ∧ r.status = .rejected ∧
        r.encryptedGatewayToken = .cleared := by
    decide +kernel
  refine ⟨hrow, ?_⟩
  obtain ⟨r, hr, hid, -, hcleared⟩ := hrow
  have hfinal := scrubbed_credential_final _ ((sampleWorld_reachable 2).step sampleRejection)
  intro calls r' hr' hid'
  exact hfinal.1 r hr hcleared calls r' hr' (hid'.trans hid.symm)

end Server
end TokenStreaming
