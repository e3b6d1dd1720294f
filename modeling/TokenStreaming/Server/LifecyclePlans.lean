import TokenStreaming.Server.LifecycleOutcomes
import TokenStreaming.Server.SupplierLog

/-!
# Control plane - Lifecycle requests from their reads to their report

A lifecycle request reads, sends one batch and reads again to find out whether
its own transition was stored.  A plan is what the request has in hand between
the first reads and the last one: its command, its batch and the check of the
last read.

Main results:

- Theorems {lit}`revokeAuthorization_eq_plan` and {lit}`rotateAuthorizationCredential_eq_plan`:
  the batch of a plan is the batch the request sends.
- Theorem {lit}`LifecycleRun.outcome`: a sent lifecycle batch is lost or is the departure
  of its request from the revision the command names.
-/

namespace TokenStreaming
namespace Server

open Relational Domain TransitionSystem

/-! ## Kinds of transitions -/

/-- The transitions of lifecycle commands. -/
inductive LifecycleKind where
  | withdraw
  | revoke
  | rotateCredential
deriving DecidableEq

def LifecycleKind.operation : LifecycleKind → String
  | .withdraw => "authorization.withdraw"
  | .revoke => "authorization.revoke"
  | .rotateCredential => "authorization.rotate-credential"

/-- What the operation tokens of the kind begin with. -/
def LifecycleKind.tokenPrefix : LifecycleKind → String
  | .withdraw => "authorization-withdraw-op-"
  | .revoke => "authorization-revoke-op-"
  | .rotateCredential => "authorization-rotate-op-"

/-- The status the transition leaves. -/
def LifecycleKind.source : LifecycleKind → AuthorizationStatus
  | .withdraw => .pending
  | .revoke => .approved
  | .rotateCredential => .approved

/-- The status the transition leads to. -/
def LifecycleKind.target : LifecycleKind → AuthorizationStatus
  | .withdraw => .withdrawn
  | .revoke => .revoked
  | .rotateCredential => .approved

theorem LifecycleKind.tokenPrefix_mem (kind : LifecycleKind) :
    kind.tokenPrefix ∈ operationPrefixes := by
  cases kind <;> simp [tokenPrefix, operationPrefixes]

/-- Different kinds have different tokens. -/
theorem LifecycleKind.tokenPrefix_inj {kind other : LifecycleKind}
    (h : kind.tokenPrefix = other.tokenPrefix) : kind = other := by
  cases kind <;> cases other <;> first | rfl | simp [tokenPrefix] at h

/-! ## The last read -/

/-- The row the last read of a lifecycle request returns passes, and the command is bound. -/
def LifecycleCommand.confirms (c : LifecycleCommand)
    (passes : MarketplaceDb → AuthorizationRow → Bool) (db : MarketplaceDb) : Bool :=
  ((db.rows .authorizationRequests).find? c.owns).any (passes db) && c.holdsCommand db

/-- No credential column is left. -/
def AuthorizationRow.isCleared (r : AuthorizationRow) : Bool :=
  r.encryptedGatewayToken == .cleared && r.gatewayTokenIv == "" && r.gatewayTokenDigest.isNone

/-- The check at the end of {lit}`withdrawPendingAuthorization`. -/
def LifecycleCommand.confirmsWithdrawal (c : LifecycleCommand) : MarketplaceDb → Bool :=
  c.confirms fun _ r =>
    r.status == .withdrawn && r.authorizationRevision == c.nextRevision && r.isCleared

/-- The check at the end of {lit}`revokeApprovedAuthorization`. -/
def LifecycleCommand.confirmsRevocation (c : LifecycleCommand) (aggregateVersion : Nat) :
    MarketplaceDb → Bool :=
  c.confirms fun db r =>
    r.status == .revoked && r.authorizationRevision == c.nextRevision && r.isCleared &&
      supplierStandsAt db r aggregateVersion

/-- The check at the end of {lit}`rotateAuthorizationCredential`. -/
def LifecycleCommand.confirmsRotation (c : LifecycleCommand) (digest : Digest) :
    MarketplaceDb → Bool :=
  c.confirms fun _ r =>
    r.status == .approved && r.authorizationRevision == c.nextRevision &&
      r.gatewayTokenDigest == some digest

/-- What every check implies: the revision was left, and the command is bound. -/
structure LifecycleCommand.Confirmed (c : LifecycleCommand) (db : MarketplaceDb) : Prop where
  request : ∃ r ∈ db.rows .authorizationRequests, r.requestId = c.requestId ∧
    r.authorizationRevision = c.nextRevision
  command : c.holdsCommand db = true

theorem LifecycleCommand.Confirmed.of_confirms {c : LifecycleCommand} {db : MarketplaceDb}
    {passes : MarketplaceDb → AuthorizationRow → Bool} (h : c.confirms passes db = true)
    (hpasses : ∀ r, passes db r = true → r.authorizationRevision = c.nextRevision) :
    c.Confirmed db := by
  unfold LifecycleCommand.confirms at h
  rw [Bool.and_eq_true, Option.any_eq_true_iff_get] at h
  obtain ⟨⟨hsome, hpass⟩, hcommand⟩ := h
  have hfind : (db.rows .authorizationRequests).find? c.owns = some _ :=
    (Option.some_get hsome).symm
  have howns := List.find?_some hfind
  simp only [LifecycleCommand.owns, Bool.and_eq_true, beq_iff_eq] at howns
  exact
    { request := ⟨_, List.mem_of_find?_eq_some hfind, howns.1.1, hpasses _ hpass⟩
      command := hcommand }

theorem LifecycleCommand.Confirmed.of_withdrawal {c : LifecycleCommand} {db : MarketplaceDb}
    (h : c.confirmsWithdrawal db = true) : c.Confirmed db := by
  refine .of_confirms h fun r hr => ?_
  simp only [Bool.and_eq_true, beq_iff_eq] at hr
  exact hr.1.2

theorem LifecycleCommand.Confirmed.of_revocation {c : LifecycleCommand} {db : MarketplaceDb}
    {aggregateVersion : Nat} (h : c.confirmsRevocation aggregateVersion db = true) :
    c.Confirmed db := by
  refine .of_confirms h fun r hr => ?_
  simp only [Bool.and_eq_true, beq_iff_eq] at hr
  exact hr.1.1.2

theorem LifecycleCommand.Confirmed.of_rotation {c : LifecycleCommand} {db : MarketplaceDb}
    {digest : Digest} (h : c.confirmsRotation digest db = true) : c.Confirmed db := by
  refine .of_confirms h fun r hr => ?_
  simp only [Bool.and_eq_true, beq_iff_eq] at hr
  exact hr.1.2

/-! ## Plans -/

/-- A lifecycle request after its first reads. -/
structure LifecyclePlan where
  kind : LifecycleKind
  command : LifecycleCommand
  batch : Batch
  /-- The check of the last read. -/
  confirms : MarketplaceDb → Bool

/-- What is sent: nothing for a replay. -/
def LifecyclePlan.sends (plan : Option LifecyclePlan) : Batch :=
  (plan.map LifecyclePlan.batch).getD []

/-- The plan of {lit}`withdrawPendingAuthorization`. -/
def withdrawalPlan (identity : RequestIdentity) (supplier : SupplierRow)
    (request : AuthorizationRow) (commandId reasonCode binding operationUuid : String)
    (now : Nat) : LifecyclePlan :=
  let command := lifecycleCommand identity supplier request "authorization.withdraw" commandId
    binding ("authorization-withdraw-op-" ++ operationUuid) now
  { kind := .withdraw
    command := command
    batch := withdrawPendingAuthorization identity supplier request commandId reasonCode binding
      operationUuid now
    confirms := command.confirmsWithdrawal }

/-- The plan of {lit}`revokeApprovedAuthorization`. -/
def revocationPlan (db : MarketplaceDb) (identity : RequestIdentity) (supplier : SupplierRow)
    (request : AuthorizationRow)
    (commandId reasonCode binding operationUuid eventUuid : String) (now : Nat) :
    Request LifecyclePlan := do
  let state? ← uncaught
    (rehydrateSupplier (readSupplierEvents db identity.tenantId supplier.supplierId))
  let state ← found state? supplierMoved
  demand (state.version == supplier.version) supplierMoved
  let event ← mapDomainError (revokeProviderAuthorization state
    ("authorization-" ++ request.requestId) reasonCode
    (commandContext identity commandId eventUuid now))
  let command := lifecycleCommand identity supplier request "authorization.revoke" commandId
    binding ("authorization-revoke-op-" ++ operationUuid) now
  pure
    { kind := .revoke
      command := command
      batch := revocationBatch command request supplier.version reasonCode event
      confirms := command.confirmsRevocation event.aggregateVersion }

/-- The plan of {lit}`revokeAuthorization`; a replayed command has none. -/
def revokeAuthorizationPlan (reads : Reads) (identity : RequestIdentity)
    (requestId commandId reasonCode operationUuid eventUuid : String) :
    Request (Option LifecyclePlan) := do
  let supplier ← requireSupplierRow (reads 0) identity
  let request ← ownedRequest (reads 1) identity supplier.supplierId requestId
  let binding := requestId ++ ":" ++ reasonCode
  match terminationReplay reads identity commandId with
  | some replay => do
      demand (replay == binding) lifecycleBoundElsewhere
      pure none
  | none =>
      let now := (reads 4).clock
      if request.status = .pending then
        pure (some (withdrawalPlan identity supplier request commandId reasonCode binding
          operationUuid now))
      else do
        demand (request.status == .approved && request.isValidAfter now)
          { code := "AUTHORIZATION_STATE_CONFLICT"
            message := "只有当前有效的已批准授权可以撤销。"
            status := 409 }
        let plan ← revocationPlan (reads 5) identity supplier request commandId reasonCode
          binding operationUuid eventUuid now
        pure (some plan)

/-- The plan of {lit}`rotateAuthorizationCredential`; a replayed command has none. -/
def rotateAuthorizationCredentialPlan (reads : Reads) (keyrings : Keyrings)
    (identity : RequestIdentity) (requestId commandId reasonCode gatewayBearerToken
      operationUuid iv : String) : Request (Option LifecyclePlan) := do
  let supplier ← requireSupplierRow (reads 0) identity
  let request ← ownedRequest (reads 1) identity supplier.supplierId requestId
  let lookup := TokenLookup.ofToken keyrings.credentialLookup gatewayBearerToken
  let activeLookup := createCredentialLookupDigest keyrings.credentialLookup gatewayBearerToken
  let binding := authorizationCredentialRotationCommandBinding requestId reasonCode
    lookup.legacyCredentialDigest
  match readIdempotency (reads 2) identity.tenantId "authorization.rotate-credential"
      commandId with
  | some replay => do
      demand (replay == binding)
        { code := "GATEWAY_CREDENTIAL_CONFLICT"
          message := "该换发命令已绑定到其他授权或凭据。"
          status := 409 }
      pure none
  | none => do
      let now := (reads 3).clock
      demand (request.status == .approved && request.isValidAfter now &&
          request.encryptedGatewayToken != .cleared)
        { code := "AUTHORIZATION_STATE_CONFLICT"
          message := "只有当前有效的已批准授权可以换发凭据。"
          status := 409 }
      let context : CredentialEncryptionContext :=
        { tenantId := request.tenantId, authorizationRequestId := request.requestId }
      let currentToken ← found
        (decryptCredential keyrings.credential request.credential context) internalError
      demand (currentToken != gatewayBearerToken)
        { code := "GATEWAY_CREDENTIAL_CONFLICT"
          message := "新 Gateway token 必须不同于当前 token。"
          status := 409 }
      let encrypted := encryptCredential keyrings.credential iv gatewayBearerToken context
      let command := lifecycleCommand identity supplier request "authorization.rotate-credential"
        commandId binding ("authorization-rotate-op-" ++ operationUuid) now
      pure (some
        { kind := .rotateCredential
          command := command
          batch := rotationBatch command request.credential encrypted supplier.version
            activeLookup lookup
          confirms := command.confirmsRotation activeLookup.digest })

/-- The plan of a lifecycle request. -/
def ServiceRequest.lifecyclePlan (d : Deployment) (reads : Reads) :
    ServiceRequest → Request (Option LifecyclePlan)
  | .revokeAuthorization identity requestId commandId reasonCode operationUuid eventUuid =>
      revokeAuthorizationPlan reads identity requestId commandId reasonCode operationUuid
        eventUuid
  | .rotateAuthorizationCredential identity requestId commandId reasonCode gatewayBearerToken
      operationUuid iv =>
      rotateAuthorizationCredentialPlan reads d.keyrings identity requestId commandId reasonCode
        gatewayBearerToken operationUuid iv
  | _ => .ok none

theorem revokeApprovedAuthorization_eq_plan (db : MarketplaceDb) (identity : RequestIdentity)
    (supplier : SupplierRow) (request : AuthorizationRow)
    (commandId reasonCode binding operationUuid eventUuid : String) (now : Nat) :
    revokeApprovedAuthorization db identity supplier request commandId reasonCode binding
        operationUuid eventUuid now =
      LifecyclePlan.batch <$> revocationPlan db identity supplier request commandId reasonCode
        binding operationUuid eventUuid now := by
  simp only [revokeApprovedAuthorization, revocationPlan, map_bind, map_pure]

/-- A revocation sends the batch of its plan. -/
theorem revokeAuthorization_eq_plan (reads : Reads) (identity : RequestIdentity)
    (requestId commandId reasonCode operationUuid eventUuid : String) :
    revokeAuthorization reads identity requestId commandId reasonCode operationUuid eventUuid =
      LifecyclePlan.sends <$> revokeAuthorizationPlan reads identity requestId commandId
        reasonCode operationUuid eventUuid := by
  simp only [revokeAuthorization, revokeAuthorizationPlan, map_bind]
  refine bind_congr fun supplier => bind_congr fun request => ?_
  cases terminationReplay reads identity commandId with
  | some replay => simp only [map_bind, map_pure, LifecyclePlan.sends, Option.map_none,
      Option.getD_none]
  | none =>
      by_cases hpending : request.status = .pending
      · simp only [if_pos hpending, map_pure, LifecyclePlan.sends, Option.map_some,
          Option.getD_some, withdrawalPlan]
      · simp only [if_neg hpending, map_bind, map_pure, LifecyclePlan.sends, Option.map_some,
          Option.getD_some, revokeApprovedAuthorization_eq_plan]
        simp only [map_eq_pure_bind]

/-- A rotation sends the batch of its plan. -/
theorem rotateAuthorizationCredential_eq_plan (reads : Reads) (keyrings : Keyrings)
    (identity : RequestIdentity) (requestId commandId reasonCode gatewayBearerToken
      operationUuid iv : String) :
    rotateAuthorizationCredential reads keyrings identity requestId commandId reasonCode
        gatewayBearerToken operationUuid iv =
      LifecyclePlan.sends <$> rotateAuthorizationCredentialPlan reads keyrings identity requestId
        commandId reasonCode gatewayBearerToken operationUuid iv := by
  simp only [rotateAuthorizationCredential, rotateAuthorizationCredentialPlan, map_bind]
  refine bind_congr fun supplier => bind_congr fun request => ?_
  cases readIdempotency (reads 2) identity.tenantId "authorization.rotate-credential"
    commandId with
  | some replay => simp only [map_bind, map_pure, LifecyclePlan.sends, Option.map_none,
      Option.getD_none]
  | none => simp only [map_bind, map_pure, LifecyclePlan.sends, Option.map_some,
      Option.getD_some]

/-! ## Sent plans -/

/-- A lifecycle command on its way, with its kind and its batch. -/
inductive LifecycleRun (w : World) (call : Call) :
    LifecycleKind → LifecycleCommand → Batch → Prop
  | withdrawal (identity : RequestIdentity) (supplier : SupplierRow)
      (request : AuthorizationRow) (commandId reasonCode operationUuid : String) (now : Nat)
      (h : LifecycleOf w call identity supplier request now operationUuid)
      (hpending : request.status = .pending) :
      LifecycleRun w call .withdraw
        (lifecycleCommand identity supplier request "authorization.withdraw" commandId
          (request.requestId ++ ":" ++ reasonCode)
          ("authorization-withdraw-op-" ++ operationUuid) now)
        (withdrawPendingAuthorization identity supplier request commandId reasonCode
          (request.requestId ++ ":" ++ reasonCode) operationUuid now)
  | revocation (identity : RequestIdentity) (supplier : SupplierRow)
      (request : AuthorizationRow) (commandId reasonCode operationUuid eventUuid : String)
      (now : Nat) (snap : MarketplaceDb) (state : SupplierState) (event : SupplierEvent)
      (h : LifecycleOf w call identity supplier request now operationUuid)
      (hsnap : snap ∈ w.snapshots) (happroved : request.status = .approved)
      (hstate : rehydrateSupplier
        (readSupplierEvents snap identity.tenantId supplier.supplierId) = .ok (some state))
      (hversion : state.version = supplier.version)
      (hevent : revokeProviderAuthorization state ("authorization-" ++ request.requestId)
        reasonCode (commandContext identity commandId eventUuid now) = .ok event)
      (hvalid : request.isValidAfter now = true) :
      LifecycleRun w call .revoke
        (lifecycleCommand identity supplier request "authorization.revoke" commandId
          (request.requestId ++ ":" ++ reasonCode)
          ("authorization-revoke-op-" ++ operationUuid) now)
        (revocationBatch
          (lifecycleCommand identity supplier request "authorization.revoke" commandId
            (request.requestId ++ ":" ++ reasonCode)
            ("authorization-revoke-op-" ++ operationUuid) now)
          request supplier.version reasonCode event)
  | rotation (identity : RequestIdentity) (supplier : SupplierRow)
      (request : AuthorizationRow) (commandId reasonCode operationUuid : String) (token : String)
      (encrypted : EncryptedCredential) (activeLookup : CredentialLookupDigest)
      (lookup : TokenLookup) (now : Nat)
      (h : LifecycleOf w call identity supplier request now operationUuid) :
      LifecycleRun w call .rotateCredential
        (lifecycleCommand identity supplier request "authorization.rotate-credential" commandId
          (authorizationCredentialRotationCommandBinding request.requestId reasonCode
            (sha256Hex token))
          ("authorization-rotate-op-" ++ operationUuid) now)
        (rotationBatch
          (lifecycleCommand identity supplier request "authorization.rotate-credential" commandId
            (authorizationCredentialRotationCommandBinding request.requestId reasonCode
              (sha256Hex token))
            ("authorization-rotate-op-" ++ operationUuid) now)
          request.credential encrypted supplier.version activeLookup lookup)

/-- A command of the kind: a tenant's, and bound to its request. -/
structure LifecycleCommand.HasKind (c : LifecycleCommand) (kind : LifecycleKind) : Prop where
  operation : c.operation = kind.operation
  tenant : c.tenantId ≠ "platform"
  binding : ∃ rest, c.binding = c.requestId ++ ":" ++ rest

theorem LifecycleRun.hasKind {w : World} {call : Call} {kind : LifecycleKind}
    {c : LifecycleCommand} {batch : Batch} (h : LifecycleRun w call kind c batch) :
    c.HasKind kind := by
  cases h with
  | withdrawal identity supplier request commandId reasonCode operationUuid now h hpending =>
      exact
        { operation := rfl
          tenant := identity.tenantId_ne_platform
          binding := ⟨reasonCode, rfl⟩ }
  | revocation identity supplier request commandId reasonCode operationUuid eventUuid now snap
      state event h hsnap happroved hstate hversion hevent hvalid =>
      exact
        { operation := rfl
          tenant := identity.tenantId_ne_platform
          binding := ⟨reasonCode, rfl⟩ }
  | rotation identity supplier request commandId reasonCode operationUuid token encrypted
      activeLookup lookup now h =>
      refine
        { operation := rfl
          tenant := identity.tenantId_ne_platform
          binding := ⟨reasonCode ++ ":" ++ (sha256Hex token).hex, ?_⟩ }
      simp [lifecycleCommand, authorizationCredentialRotationCommandBinding, String.append_assoc]

/-- The command took its request from the revision it names to the next one. -/
structure Departure (w : World) (call : Call) (kind : LifecycleKind) (c : LifecycleCommand)
    (db : MarketplaceDb) : Prop extends c.HasKind kind where
  token : ∃ uuid, Draws w call uuid ∧ c.operationToken = kind.tokenPrefix ++ uuid
  effect : ∃ assign : AuthorizationRow → AuthorizationRow,
    TookEffect c kind.source assign w.db db ∧
      ∀ r, r.status = kind.source → (assign r).requestId = r.requestId ∧
        (assign r).status = kind.target ∧
        (assign r).authorizationRevision = r.authorizationRevision + 1

/-- A sent lifecycle batch is lost or is a departure. -/
theorem LifecycleRun.outcome {w : World} (hw : Reachable w) {call : Call}
    {kind : LifecycleKind} {c : LifecycleCommand} {batch : Batch} {db : MarketplaceDb}
    (h : LifecycleRun w call kind c batch) (hrun : runBatch w.db batch = some db) :
    c.Lost w.db db ∨ Departure w call kind c db := by
  have hkind := h.hasKind
  cases h with
  | withdrawal identity supplier request commandId reasonCode operationUuid now h hpending =>
      have hnew : (lifecycleCommand identity supplier request "authorization.withdraw" commandId
          (request.requestId ++ ":" ++ reasonCode)
          ("authorization-withdraw-op-" ++ operationUuid) now).claimRow.isHeld w.db = false :=
        hw.claim_isNew (p := "authorization-withdraw-op-") rfl (by simp [operationPrefixes])
          h.operation rfl
      rcases withdrawalBatch_outcome hw.consistent identity.tenantId_ne_platform hnew hpending
        hrun with hlost | heffect
      · exact Or.inl hlost
      · right
        exact
          { toHasKind := hkind
            token := ⟨operationUuid, h.operation, rfl⟩
            effect := ⟨_, heffect, fun _ _ => ⟨rfl, rfl, rfl⟩⟩ }
  | revocation identity supplier request commandId reasonCode operationUuid eventUuid now snap
      state event h hsnap happroved hstate hversion hevent hvalid =>
      have hlogs := hw.supplierLogs w.db w.db_mem
      rcases hw.revocation_outcome hlogs h hsnap happroved hstate hversion hevent hvalid hrun with
        hlost | heffect
      · exact Or.inl hlost
      · right
        exact
          { toHasKind := hkind
            token := ⟨operationUuid, h.operation, rfl⟩
            effect := ⟨_, heffect.toTookEffect, fun _ _ => ⟨rfl, rfl, rfl⟩⟩ }
  | rotation identity supplier request commandId reasonCode operationUuid token encrypted
      activeLookup lookup now h =>
      have hnew : (lifecycleCommand identity supplier request "authorization.rotate-credential"
          commandId (authorizationCredentialRotationCommandBinding request.requestId reasonCode
            (sha256Hex token)) ("authorization-rotate-op-" ++ operationUuid)
          now).claimRow.isHeld w.db = false :=
        hw.claim_isNew (p := "authorization-rotate-op-") rfl (by simp [operationPrefixes])
          h.operation rfl
      rcases rotationBatch_outcome hw.consistent identity.tenantId_ne_platform hnew hw.bindings
        hrun with hlost | ⟨heffect, -, -⟩
      · exact Or.inl hlost
      · right
        exact
          { toHasKind := hkind
            token := ⟨operationUuid, h.operation, rfl⟩
            effect := ⟨_, heffect, fun _ hstatus => ⟨rfl, hstatus, rfl⟩⟩ }

/-- Which of a request's reads looks the command up. -/
def LifecycleKind.replayRead : LifecycleKind → Nat
  | .withdraw => 2
  | .revoke => 3
  | .rotateCredential => 2

/-- What a plan knows of the states its request has read. -/
structure LifecyclePlan.Made (plan : LifecyclePlan) (w : World) (ages : List Nat)
    (call : Call) : Prop where
  run : LifecycleRun w call plan.kind plan.command plan.batch
  request : ∃ r ∈ (w.reads ages 1).rows .authorizationRequests,
    r.requestId = plan.command.requestId ∧
      r.authorizationRevision = plan.command.authorizationRevision
  unbound : ∀ k ∈ (w.reads ages plan.kind.replayRead).rows .idempotencyKeys,
    k.scope ≠ plan.command.commandRow.scope
  confirmed : ∀ db, plan.confirms db = true → plan.command.Confirmed db

/-- A command that is not found has no row. -/
theorem readIdempotency_eq_none {db : MarketplaceDb} {tenantId operation key : String}
    (h : readIdempotency db tenantId operation key = none) {k : IdempotencyRow}
    (hk : k ∈ db.rows .idempotencyKeys) : k.scope ≠ (tenantId, operation, key) := by
  intro hscope
  simp only [readIdempotency, Option.map_eq_none_iff, List.find?_eq_none] at h
  simp only [IdempotencyRow.scope, Prod.mk.injEq] at hscope
  refine h k hk ?_
  simp [hscope]

section Made

variable {w : World} {ages : List Nat} {identity : RequestIdentity} {plan : LifecyclePlan}
  {call : Call}

theorem revokeAuthorizationPlan_made
    {requestId commandId reasonCode operationUuid eventUuid : String}
    (h : revokeAuthorizationPlan (w.reads ages) identity requestId commandId reasonCode
      operationUuid eventUuid = .ok (some plan)) (hnew : Draws w call operationUuid) :
    plan.Made w ages call := by
  unfold revokeAuthorizationPlan at h
  simp only [Except.bind_eq_ok] at h
  obtain ⟨supplier, hsupplier, request, hrequest, h⟩ := h
  obtain ⟨hmemSupplier, htenant⟩ := requireSupplierRow_eq_ok hsupplier
  obtain ⟨hmem, rfl, howner⟩ := ownedRequest_eq_ok hrequest
  have hof : LifecycleOf w call identity supplier request (w.reads ages 4).clock operationUuid :=
    { observedSupplier := ⟨_, w.reads_mem ages 0, hmemSupplier⟩
      tenant := htenant
      observed := ⟨_, w.reads_mem ages 1, hmem⟩
      owner := howner
      observedNow := w.reads_clock ages 4
      operation := hnew }
  cases hreplay : terminationReplay (w.reads ages) identity commandId with
  | some replay =>
      simp only [hreplay, Except.bind_eq_ok, demand_eq_ok, exists_unit, Except.pure_eq_ok] at h
      cases h.2
  | none =>
      simp only [terminationReplay, Option.or_eq_none_iff] at hreplay
      by_cases hpending : request.status = .pending
      · simp only [terminationReplay, hreplay.1, hreplay.2, Option.or_none, if_pos hpending] at h
        obtain rfl := Option.some.inj (Except.pure_eq_ok.mp h)
        exact
          { run := .withdrawal identity supplier request commandId reasonCode operationUuid _ hof
              hpending
            request := ⟨request, hmem, rfl, rfl⟩
            unbound := fun k hk => readIdempotency_eq_none hreplay.1 hk
            confirmed := fun db hdb => LifecycleCommand.Confirmed.of_withdrawal hdb }
      · simp only [terminationReplay, hreplay.1, hreplay.2, Option.or_none, if_neg hpending,
          revocationPlan, Except.bind_eq_ok, demand_eq_ok, exists_unit, found_eq_ok,
          uncaught_eq_ok, mapDomainError_eq_ok, Except.pure_eq_ok, Bool.and_eq_true,
          beq_iff_eq] at h
        obtain ⟨⟨happroved, hvalid⟩, made, ⟨state?, hstate, state, rfl, hversion, event, hevent,
          rfl⟩, hplan⟩ := h
        obtain rfl := Option.some.inj hplan
        exact
          { run := .revocation identity supplier request commandId reasonCode operationUuid
              eventUuid _ _ state event hof (w.reads_mem ages 5) happroved hstate hversion hevent
              hvalid
            request := ⟨request, hmem, rfl, rfl⟩
            unbound := fun k hk => readIdempotency_eq_none hreplay.2 hk
            confirmed := fun db hdb => LifecycleCommand.Confirmed.of_revocation hdb }

theorem rotateAuthorizationCredentialPlan_made {keyrings : Keyrings}
    {requestId commandId reasonCode gatewayBearerToken operationUuid iv : String}
    (h : rotateAuthorizationCredentialPlan (w.reads ages) keyrings identity requestId commandId
      reasonCode gatewayBearerToken operationUuid iv = .ok (some plan))
    (hnew : Draws w call operationUuid) : plan.Made w ages call := by
  unfold rotateAuthorizationCredentialPlan at h
  simp only [Except.bind_eq_ok] at h
  obtain ⟨supplier, hsupplier, request, hrequest, h⟩ := h
  obtain ⟨hmemSupplier, htenant⟩ := requireSupplierRow_eq_ok hsupplier
  obtain ⟨hmem, rfl, howner⟩ := ownedRequest_eq_ok hrequest
  cases hreplay : readIdempotency (w.reads ages 2) identity.tenantId
    "authorization.rotate-credential" commandId with
  | some replay =>
      simp only [hreplay, Except.bind_eq_ok, demand_eq_ok, exists_unit, Except.pure_eq_ok] at h
      cases h.2
  | none =>
      simp only [hreplay, Except.bind_eq_ok, demand_eq_ok, exists_unit, found_eq_ok,
        Except.pure_eq_ok] at h
      obtain ⟨-, currentToken, -, -, hplan⟩ := h
      obtain rfl := Option.some.inj hplan
      refine
        { run := .rotation identity supplier request commandId reasonCode operationUuid
            gatewayBearerToken _ _ _ _ ?_
          request := ⟨request, hmem, rfl, rfl⟩
          unbound := fun k hk => readIdempotency_eq_none hreplay hk
          confirmed := fun db hdb => LifecycleCommand.Confirmed.of_rotation hdb }
      exact
        { observedSupplier := ⟨_, w.reads_mem ages 0, hmemSupplier⟩
          tenant := htenant
          observed := ⟨_, w.reads_mem ages 1, hmem⟩
          owner := howner
          observedNow := w.reads_clock ages 3
          operation := hnew }

/-- A plan of a request whose random values are new. -/
theorem ServiceRequest.lifecyclePlan_made {request : ServiceRequest}
    (h : request.lifecyclePlan w.deployment (w.reads ages) = .ok (some plan))
    (hfresh : w.isFresh request.uuids = true) : plan.Made w ages (.service ages request) := by
  have hnew := (World.isFresh_eq.mp hfresh).2.1
  cases request with
  | revokeAuthorization identity requestId commandId reasonCode operationUuid eventUuid =>
      refine revokeAuthorizationPlan_made h ⟨hnew operationUuid ?_, ?_⟩ <;>
        simp [Call.uuids, ServiceRequest.uuids]
  | rotateAuthorizationCredential identity requestId commandId reasonCode gatewayBearerToken
      operationUuid iv =>
      refine rotateAuthorizationCredentialPlan_made h ⟨hnew operationUuid ?_, ?_⟩ <;>
        simp [Call.uuids, ServiceRequest.uuids]
  | _ => cases h

/-- The batch of a request with a plan is the plan's. -/
theorem ServiceRequest.batch_of_lifecyclePlan {d : Deployment} {reads : Reads}
    {request : ServiceRequest} (h : request.lifecyclePlan d reads = .ok (some plan)) :
    request.batch d reads = .ok plan.batch := by
  cases request with
  | revokeAuthorization identity requestId commandId reasonCode operationUuid eventUuid =>
      simp only [ServiceRequest.lifecyclePlan] at h
      simp only [ServiceRequest.batch, revokeAuthorization_eq_plan, h]
      rfl
  | rotateAuthorizationCredential identity requestId commandId reasonCode gatewayBearerToken
      operationUuid iv =>
      simp only [ServiceRequest.lifecyclePlan] at h
      simp only [ServiceRequest.batch, rotateAuthorizationCredential_eq_plan, h]
      rfl
  | _ => cases h

end Made

end Server
end TokenStreaming
