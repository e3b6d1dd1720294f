import TokenStreaming.Server.Inventory

/-!
# Control plane - Life of an authorization request

A request is submitted, reviewed and later revoked; rotations raise its revision
while it stays approved.  Only four statements change which requests are
approved or at which revision; all others are quiet.

Main results:

- Theorem {lit}`Commanded.requestStatement`: the kinds of statements on the table.
- Theorem {lit}`Issued.requests_respect`: every statement moves requests by
  {lit}`RequestMove`.
-/

namespace TokenStreaming
namespace Server

open Relational Domain

/-! ## Steps and terms -/

/-- The steps of a request's status. -/
inductive RequestStep : AuthorizationStatus → AuthorizationStatus → Prop
  | approve : RequestStep .pending .approved
  | reject : RequestStep .pending .rejected
  | withdraw : RequestStep .pending .withdrawn
  | revoke : RequestStep .approved .revoked

/-- Any number of steps. -/
abbrev RequestReach : AuthorizationStatus → AuthorizationStatus → Prop :=
  Relation.ReflTransGen RequestStep

/-- A request that became pending was pending. -/
theorem RequestReach.of_pending {a : AuthorizationStatus} (h : RequestReach a .pending) :
    a = .pending := by
  rcases Relation.ReflTransGen.cases_tail h with heq | ⟨_, _, hstep⟩
  · exact heq.symm
  · cases hstep

/-- A revoked request stays revoked. -/
theorem RequestReach.of_revoked {b : AuthorizationStatus} (h : RequestReach .revoked b) :
    b = .revoked := by
  rcases Relation.ReflTransGen.cases_head h with heq | ⟨_, hstep, _⟩
  · exact heq.symm
  · cases hstep

/-- A rejected request stays rejected. -/
theorem RequestReach.of_rejected {b : AuthorizationStatus} (h : RequestReach .rejected b) :
    b = .rejected := by
  rcases Relation.ReflTransGen.cases_head h with heq | ⟨_, hstep, _⟩
  · exact heq.symm
  · cases hstep

/-- An approved request stays approved until it is revoked. -/
theorem RequestReach.of_approved {b : AuthorizationStatus} (h : RequestReach .approved b) :
    b = .approved ∨ b = .revoked := by
  rcases Relation.ReflTransGen.cases_head h with heq | ⟨_, hstep, hrest⟩
  · exact Or.inl heq.symm
  · cases hstep
    exact Or.inr (RequestReach.of_revoked hrest)

/-- The columns a submission fixes. -/
structure RequestTerms where
  requestId : String
  tenantId : String
  supplierId : String
  providerId : String
  sourceType : CapacitySourceType
  meteringMode : CapacityMeteringMode
  evidenceRef : String
  modelPattern : String
  regionCode : String
  dataClasses : List MarketplaceDataClass
  limits : CapacityLimits
  validUntil : TimestampText
  createdAt : Nat

def AuthorizationRow.terms (r : AuthorizationRow) : RequestTerms where
  requestId := r.requestId
  tenantId := r.tenantId
  supplierId := r.supplierId
  providerId := r.providerId
  sourceType := r.sourceType
  meteringMode := r.meteringMode
  evidenceRef := r.evidenceRef
  modelPattern := r.modelPattern
  regionCode := r.regionCode
  dataClasses := r.dataClasses
  limits := r.limits
  validUntil := r.validUntil
  createdAt := r.createdAt

/-! ## Moves -/

/-- How a stored request may change over any number of statements. -/
structure RequestMove (a b : AuthorizationRow) : Prop where
  terms : b.terms = a.terms
  status : RequestReach a.status b.status
  revision : a.authorizationRevision ≤ b.authorizationRevision
  /-- The command that reviewed a request stays recorded. -/
  review : ∀ commandId, a.reviewCommandId = some commandId → b.reviewCommandId = some commandId
  /-- A pending request has not been reviewed in the meantime. -/
  pending : b.status = .pending → b.reviewCommandId = a.reviewCommandId

theorem RequestMove.refl (r : AuthorizationRow) : RequestMove r r where
  terms := rfl
  status := .refl
  revision := le_rfl
  review := fun _ h => h
  pending := fun _ => rfl

theorem RequestMove.trans {a b c : AuthorizationRow} (hab : RequestMove a b)
    (hbc : RequestMove b c) : RequestMove a c where
  terms := hbc.terms.trans hab.terms
  status := hab.status.trans hbc.status
  revision := hab.revision.trans hbc.revision
  review := fun _ h => hbc.review _ (hab.review _ h)
  pending := fun hc => by
    have hb : b.status = .pending := by
      have hstatus := hbc.status
      rw [hc] at hstatus
      exact hstatus.of_pending
    rw [hbc.pending hc, hab.pending hb]

/-- The gateway token behind a stored request. -/
def AuthorizationRow.token? (r : AuthorizationRow) : Option String :=
  r.encryptedGatewayToken.plaintext?

@[simp]
theorem AuthorizationRow.scrubbed_token? (r : AuthorizationRow) : r.scrubbed.token? = none :=
  rfl

/-- A move that neither approves, revokes nor rotates, and that reveals no new token. -/
structure RequestQuiet (a b : AuthorizationRow) : Prop extends RequestMove a b where
  approved : b.status = .approved ↔ a.status = .approved
  revoked : b.status = .revoked → a.status = .revoked
  sameRevision : a.status = .approved → b.authorizationRevision = a.authorizationRevision
  token : ∀ token, b.token? = some token → a.token? = some token

/-- Updates of other columns. -/
theorem RequestQuiet.of_same {a b : AuthorizationRow} (hterms : b.terms = a.terms)
    (hstatus : b.status = a.status)
    (hrevision : b.authorizationRevision = a.authorizationRevision)
    (hreview : b.reviewCommandId = a.reviewCommandId)
    (htoken : ∀ token, b.token? = some token → a.token? = some token) : RequestQuiet a b where
  terms := hterms
  status := by rw [hstatus]
  revision := hrevision.ge
  review := fun _ h => hreview.trans h
  pending := fun _ => hreview
  approved := by rw [hstatus]
  revoked := fun h => by rwa [hstatus] at h
  sameRevision := fun _ => hrevision
  token := htoken

/-- Updates that end a pending request without approving it. -/
theorem RequestQuiet.of_pending {a b : AuthorizationRow} (hterms : b.terms = a.terms)
    (hpending : a.status = .pending) (hended : b.status = .rejected ∨ b.status = .withdrawn)
    (hrevision : a.authorizationRevision ≤ b.authorizationRevision)
    (hreview : ∀ commandId, a.reviewCommandId = some commandId →
      b.reviewCommandId = some commandId)
    (htoken : b.token? = none) : RequestQuiet a b where
  terms := hterms
  status := by
    rcases hended with h | h <;> rw [hpending, h]
    · exact .single .reject
    · exact .single .withdraw
  revision := hrevision
  review := hreview
  pending := fun h => by rcases hended with hb | hb <;> simp [hb] at h
  approved := by rcases hended with hb | hb <;> simp [hb, hpending]
  revoked := fun h => by rcases hended with hb | hb <;> simp [hb] at h
  sameRevision := fun h => by simp [hpending] at h
  token := fun token h => by simp [htoken] at h

/-! ## Statements -/

/-- The statements on the table that neither approve, revoke nor rotate. -/
inductive SteadyRequest (w : World) : MarketplaceStatement → Prop
  | submit (row : AuthorizationRow) (h : Submitted w row) :
      SteadyRequest w (insertAuthorizationRequestSql row)
  | quiet (selects : MarketplaceDb → AuthorizationRow → Bool)
      (assign : MarketplaceDb → AuthorizationRow → AuthorizationRow)
      (h : ∀ db r, selects db r = true → RequestQuiet r (assign db r)) :
      SteadyRequest w (.update .authorizationRequests selects assign)

/-- The kinds of statements on the table. -/
inductive RequestStatement (w : World) : MarketplaceStatement → Prop
  | steady {s : MarketplaceStatement} (h : SteadyRequest w s) : RequestStatement w s
  | approve (c : ReviewCommand) (note supplierId tenantId : String) (expected : Nat) :
      RequestStatement w (approveAuthorizationRequestSql c note supplierId tenantId expected)
  | revoke (c : LifecycleCommand) (reasonCode : String) (supplierVersion : Nat) :
      RequestStatement w (revokeActiveAuthorizationSql c reasonCode supplierVersion)
  | rotate (c : LifecycleCommand) (generation encrypted : EncryptedCredential)
      (activeLookup : CredentialLookupDigest) (lookup : TokenLookup)
      (h : generation.ciphertext ≠ .cleared) :
      RequestStatement w
        (rotateAuthorizationCredentialSql c generation encrypted activeLookup lookup)

/-- The routine statements on the table are steady. -/
theorem Routine.steadyRequest {w : World} {s : MarketplaceStatement}
    (h : Routine w .authorizationRequests s) : SteadyRequest w s := by
  cases h with
  | free _ hfree => simp [freeTables] at hfree
  | submit row h => exact .submit row h
  | rewrap requestId generation encrypted now h heq =>
      refine .quiet _ _ fun db r hr => ?_
      simp only [Bool.and_eq_true, beq_iff_eq] at hr
      refine .of_same rfl rfl rfl rfl fun token htoken => ?_
      have hgeneration : generation.ciphertext.plaintext? = r.token? := by
        rw [← hr.2]
        rfl
      rw [← hgeneration, ← heq]
      exact htoken
  | expirePending now cutoff =>
      refine .quiet _ _ fun db r hr => ?_
      simp only [Bool.and_eq_true, beq_iff_eq] at hr
      exact .of_pending rfl hr.1 (Or.inl rfl) le_rfl (fun _ h => h) rfl
  | scrubExpired now h =>
      exact .quiet _ _ fun _ _ _ =>
        .of_same rfl rfl rfl rfl fun token htoken => by simp [AuthorizationRow.token?,
          AuthorizationRow.scrubbed, Ciphertext.plaintext?] at htoken
  | scrubTerminated now =>
      exact .quiet _ _ fun _ _ _ =>
        .of_same rfl rfl rfl rfl fun token htoken => by simp [AuthorizationRow.token?,
          AuthorizationRow.scrubbed, Ciphertext.plaintext?] at htoken
  | migrateRow call h stale hstale =>
      exact .quiet _ _ fun _ _ _ => .of_same rfl rfl rfl rfl fun _ htoken => htoken
  | migrateAll call h =>
      exact .quiet _ _ fun _ _ _ => .of_same rfl rfl rfl rfl fun _ htoken => htoken

theorem rejectAuthorizationRequestSql_steady {w : World} (c : ReviewCommand) (note : String) :
    SteadyRequest w (rejectAuthorizationRequestSql c note) := by
  refine .quiet _ _ fun db r hr => ?_
  simp only [ReviewCommand.decides, Bool.and_eq_true, beq_iff_eq, Option.isNone_iff_eq_none] at hr
  exact .of_pending rfl hr.1.1.1.2 (Or.inl rfl) le_rfl (fun _ h => by simp [hr.1.1.2] at h) rfl

theorem withdrawPendingAuthorizationSql_steady {w : World} (c : LifecycleCommand)
    (reasonCode : String) : SteadyRequest w (withdrawPendingAuthorizationSql c reasonCode) := by
  refine .quiet _ _ fun db r hr => ?_
  simp only [Bool.and_eq_true, beq_iff_eq] at hr
  exact .of_pending rfl hr.1.1.1.2 (Or.inr rfl) (Nat.le_succ _) (fun _ h => h) rfl

theorem Commanded.requestStatement {w : World} {s : MarketplaceStatement}
    (h : Commanded w .authorizationRequests s) : RequestStatement w s := by
  cases h with
  | routine h => exact .steady h.steadyRequest
  | reject c note => exact .steady (rejectAuthorizationRequestSql_steady c note)
  | approve c note supplierId tenantId expected =>
      exact .approve c note supplierId tenantId expected
  | withdraw c reasonCode => exact .steady (withdrawPendingAuthorizationSql_steady c reasonCode)
  | revoke c reasonCode supplierVersion => exact .revoke c reasonCode supplierVersion
  | rotate c generation encrypted activeLookup lookup h =>
      exact .rotate c generation encrypted activeLookup lookup h

/-- The row update of an approval. -/
theorem approve_move {c : ReviewCommand} {note : String} {db : MarketplaceDb}
    {r : AuthorizationRow} (h : c.decides db r = true) :
    RequestMove r (c.record .approved note r) := by
  simp only [ReviewCommand.decides, Bool.and_eq_true, beq_iff_eq, Option.isNone_iff_eq_none] at h
  obtain ⟨⟨⟨⟨-, hpending⟩, hreview⟩, -⟩, -⟩ := h
  exact
    { terms := rfl
      status := by
        rw [hpending]
        exact .single .approve
      revision := le_rfl
      review := fun _ h => by simp [hreview] at h
      pending := fun h => by simp [ReviewCommand.record] at h }

/-- The row update of a revocation. -/
theorem terminate_move {c : LifecycleCommand} {reasonCode : String} {r : AuthorizationRow}
    (h : r.status = .approved) : RequestMove r (c.terminate .revoked reasonCode r) where
  terms := rfl
  status := by
    rw [h]
    exact .single .revoke
  revision := Nat.le_succ _
  review := fun _ h => h
  pending := fun h => by simp [LifecycleCommand.terminate] at h

/-- Every statement of the table moves requests along the steps. -/
theorem RequestStatement.respects {w : World} {s : MarketplaceStatement}
    (h : RequestStatement w s) (db : MarketplaceDb) :
    s.Respects db .authorizationRequests RequestMove (Submitted w) := by
  cases h with
  | steady h =>
      cases h with
      | submit row h =>
          refine Statement.insert_respects RequestMove.refl fun r hr => ?_
          rw [List.mem_singleton.mp hr]
          exact h
      | quiet selects assign hquiet =>
          exact Statement.update_respects RequestMove.refl fun r _ hr =>
            (hquiet db r hr).toRequestMove
  | approve c note supplierId tenantId expected =>
      refine Statement.update_respects RequestMove.refl fun r _ hr => ?_
      rw [Bool.and_eq_true] at hr
      exact approve_move hr.1
  | revoke c reasonCode supplierVersion =>
      refine Statement.update_respects RequestMove.refl fun r _ hr => ?_
      simp only [Bool.and_eq_true, beq_iff_eq] at hr
      exact terminate_move hr.1.1.1.1.1.2
  | rotate c generation encrypted activeLookup lookup h =>
      refine Statement.update_respects RequestMove.refl fun r _ _ => ?_
      exact
        { terms := rfl
          status := .refl
          revision := Nat.le_succ _
          review := fun _ h => h
          pending := fun _ => rfl }

/-- Every statement moves requests along the steps and adds only submitted ones. -/
theorem Issued.requests_respect {w : World} {t : MarketplaceTable} {s : MarketplaceStatement}
    (h : Issued w t s) (db : MarketplaceDb) :
    s.Respects db .authorizationRequests RequestMove (Submitted w) := by
  by_cases ht : t = .authorizationRequests
  · subst ht
    cases h with
    | commanded h => exact h.requestStatement.respects db
  · refine Statement.respects_of_ne RequestMove.refl ?_
    rw [h.table_eq]
    exact fun hne => ht hne.symm

end Server
end TokenStreaming
