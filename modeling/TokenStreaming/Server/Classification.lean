import TokenStreaming.Server.Inventory

/-!
# Control plane - Every step sends a classified batch

The proof that the inventory is complete: what each service function returns is
inverted once, and every step of the system is the commit of a batch of the
inventory, a change of the clock, or no change of the database.

Main results:

- Theorem {lit}`Sent.issued`: the statements of a sent batch are issued.
- Theorem {lit}`ServiceRequest.batch_sent`: every request sends a classified batch.
- Theorem {lit}`step_stepped`: the shape of a step.
-/

namespace TokenStreaming
namespace Server

open Relational Domain TransitionSystem

/-! ## Members of composite batches -/

/-- The batch ends here. -/
theorem forall_mem_nil_iff {p : MarketplaceStatement → Prop} :
    (∀ s ∈ ([] : Batch), p s) ↔ True := by
  simp

theorem Command.commanded {w : World} {call : Call} {batch : Batch} (h : Command w call batch) :
    ∀ s ∈ batch, Commanded w s.table s := by
  cases h with
  | routine h => exact fun s hs => .routine (h s hs)
  | registration identity input supplierUuid eventUuid auditUuid now event _ _ =>
      simp only [registerSupplierBatch, List.forall_mem_cons, forall_mem_nil_iff, and_true]
      refine ⟨.registrationEvent _, .insertSupplier _, .routine (.audit _),
        .routine (.tenantKey _ ?_)⟩
      simp [identity.tenantId_ne_platform, authorizationOperations]
  | rejection identity requestId commandId note operationUuid auditUuid now _ =>
      simp only [rejectionBatch, List.forall_mem_cons, forall_mem_nil_iff, and_true]
      exact ⟨.key _, .key _, .reject _ _, .routine (.audit _)⟩
  | approval ages identity commandId reviewNote operationUuid auditUuid eventUuids request token
      events state _ _ =>
      simp only [approvalBatch, List.forall_mem_append, List.forall_mem_cons, List.forall_mem_map,
        forall_mem_nil_iff, and_true]
      exact ⟨⟨⟨.key _, .key _, .approve _ _ _ _ _, .activateSupplier _ _ _ _ _⟩,
        fun _ _ => .reviewEvent _ _ _⟩, .routine (.audit _)⟩
  | withdrawal identity supplier request commandId reasonCode operationUuid now _ _ =>
      simp only [withdrawPendingAuthorization, withdrawalBatch, List.forall_mem_cons,
        forall_mem_nil_iff, and_true]
      exact ⟨.key _, .key _, .withdraw _ _, .routine (.auditOrIgnore _)⟩
  | revocation identity supplier request commandId reasonCode operationUuid eventUuid now
      snap state event _ _ _ _ _ _ _ =>
      simp only [revocationBatch, List.forall_mem_cons, forall_mem_nil_iff, and_true]
      exact ⟨.key _, .key _, .revoke _ _ _, .updateSupplier _ _ _, .lifecycleEvent _ _ _,
        .failAfterRevocation _, .failQueued _, .cancelLeased _, .routine (.free rfl rfl),
        .routine (.auditOrIgnore _)⟩
  | rotation identity supplier request commandId reasonCode operationUuid token iv now _ _ _
      hsealed =>
      simp only [rotationBatch, List.forall_mem_cons, forall_mem_nil_iff, and_true]
      exact ⟨.key _, .key _, .rotate _ _ _ _ _ hsealed, .failAfterRotation _ _,
        .routine (.free rfl rfl), .routine (.auditOrIgnore _)⟩
  | claim ages identity input leaseToken c candidate h _ =>
      simp only [List.forall_mem_cons, forall_mem_nil_iff, and_true]
      exact .claimTask c leaseToken h
  | checkpoint ages identity input checkpointUuid c row h hexpiry _ =>
      simp only [checkpointBatch, List.forall_mem_cons, forall_mem_nil_iff, and_true]
      exact ⟨.checkpoint c row h hexpiry, .routine (.free rfl rfl)⟩

theorem Sent.issued {w : World} {call : Call} {batch : Batch} (h : Sent w call batch) :
    ∀ s ∈ batch, Issued w s.table s := by
  cases h with
  | command h => exact fun s hs => .commanded (h.commanded s hs)
  | inferenceCompletion ages index run result outputIv s uuids _ _ _ =>
      simp only [completionBatch, List.forall_mem_append, List.forall_mem_cons,
        forall_mem_nil_iff, and_true]
      refine ⟨⟨.completeInference _, .usage _, .serviceEvidence _, .settlementEntry _,
        .settlementEntry _, .commanded (.routine (.audit _))⟩, ?_⟩
      split
      · simp
      · simp only [List.forall_mem_cons, forall_mem_nil_iff, and_true]
        exact .settlementEntry _
  | artifactCompletion s uuids totalTokens price platformFeeBps _ _ _ _ _ _ =>
      simp only [artifactCompletionBatch, List.forall_mem_append, List.forall_mem_cons,
        forall_mem_nil_iff, and_true]
      refine ⟨⟨.completeTask _, .artifactEvidence _, .settlementEntry _, .settlementEntry _,
        .usage _, Routine.issued (.audit _), Routine.issued (.free rfl rfl)⟩, ?_⟩
      split
      · simp
      · simp only [List.forall_mem_cons, forall_mem_nil_iff, and_true]
        exact .settlementEntry _

/-- A batch of routine statements is sent. -/
theorem Sent.routine {w : World} {call : Call} {batch : Batch}
    (h : ∀ s ∈ batch, Routine w s.table s) : Sent w call batch :=
  .command (.routine h)

/-! ## Reads -/

/-- Every read of a request observes a snapshot. -/
theorem World.reads_mem (w : World) (ages : List Nat) (k : Nat) :
    w.reads ages k ∈ w.snapshots := by
  unfold World.reads
  rw [List.getD_eq_getElem?_getD]
  cases h : w.snapshots[ages.getD k 0]? with
  | none => simp [World.snapshots]
  | some db => exact List.mem_of_getElem? h

theorem World.reads_clock (w : World) (ages : List Nat) (k : Nat) :
    w.observedClock (w.reads ages k).clock :=
  ⟨_, w.reads_mem ages k, rfl⟩

theorem World.observed_of_find {w : World} {ages : List Nat} {k : Nat} {t : MarketplaceTable}
    {p : MarketplaceRow t → Bool} {row : MarketplaceRow t}
    (h : ((w.reads ages k).rows t).find? p = some row) : w.observed t row :=
  ⟨_, w.reads_mem ages k, List.mem_of_find?_eq_some h⟩

/-! ## Supplier requests -/

section Requests

variable {w : World} {call : Call} {ages : List Nat} {identity : RequestIdentity} {batch : Batch}

/-- A replayed command sends nothing. -/
theorem Sent.nil : Sent w call [] :=
  .routine (by simp)

theorem Sent.singleton {s : MarketplaceStatement} (h : Routine w s.table s) : Sent w call [s] :=
  .routine (by simpa using h)

theorem ensureUser_sent (policy : MarketplaceRuntimePolicy) (now : Nat) :
    Sent w call (ensureUser identity policy now) := by
  refine .routine ?_
  simp only [ensureUser, List.forall_mem_cons, forall_mem_nil_iff, and_true]
  exact ⟨.free rfl rfl, .free rfl rfl, .welcomeCredit _ _ _⟩

theorem registerSupplierProfile_sent {input : RegisterSupplierRequest}
    {supplierUuid eventUuid auditUuid : String}
    (h : registerSupplierProfile (w.reads ages) identity input supplierUuid eventUuid auditUuid =
      .ok batch) (hnew : supplierUuid ∉ w.drawn) : Sent w call batch := by
  unfold registerSupplierProfile at h
  split at h
  · cases h
    exact .nil
  · simp only [Except.bind_eq_ok, demand_eq_ok, mapDomainError_eq_ok, exists_unit,
      Except.pure_eq_ok] at h
    obtain ⟨-, event, hevent, rfl⟩ := h
    exact .command
      (.registration identity input supplierUuid eventUuid auditUuid _ event hnew hevent)

theorem requireSupplierRow_eq_ok {db : MarketplaceDb} {supplier : SupplierRow}
    (h : requireSupplierRow db identity = .ok supplier) :
    supplier ∈ db.rows .suppliers ∧ supplier.tenantId = identity.tenantId := by
  have hfind := found_eq_ok.mp h
  have hp := List.find?_some hfind
  simp only [Bool.and_eq_true, beq_iff_eq] at hp
  exact ⟨List.mem_of_find?_eq_some hfind, hp.1⟩

theorem submitAuthorizationRequest_sent {input : CreateAuthorizationRequest}
    {requestUuid iv auditUuid : String}
    (h : submitAuthorizationRequest (w.reads ages) w.deployment.keyrings identity input
      requestUuid iv auditUuid = .ok batch) (hnew : requestUuid ∉ w.drawn)
    (hplain : isPlain requestUuid = true) : Sent w call batch := by
  unfold submitAuthorizationRequest at h
  split at h
  · cases h
    exact .nil
  · simp only [Except.bind_eq_ok, demand_eq_ok, exists_unit, Except.pure_eq_ok] at h
    obtain ⟨hinput, supplier, -, -, rfl⟩ := h
    refine .routine ?_
    simp only [submitAuthorizationBatch, List.forall_mem_cons, forall_mem_nil_iff, and_true]
    refine ⟨.submit _ ⟨⟨requestUuid, hnew, hplain, rfl⟩, rfl, rfl, rfl, ⟨input, _, hinput, ?_⟩,
      input.gatewayBearerToken, rfl, rfl⟩, .audit _, .tenantKey _ ?_⟩
    · exact ⟨rfl, rfl, rfl, rfl, rfl, rfl, rfl, rfl, rfl⟩
    simp [identity.tenantId_ne_platform, authorizationOperations]

theorem reviewedRequest_eq_ok {db : MarketplaceDb} {requestId : String} {r : AuthorizationRow}
    (h : reviewedRequest db identity requestId = .ok r) :
    r ∈ db.rows .authorizationRequests ∧ r.requestId = requestId ∧
      r.tenantId ≠ identity.tenantId := by
  unfold reviewedRequest at h
  simp only [Except.bind_eq_ok, demand_eq_ok, exists_unit, found_eq_ok, Except.pure_eq_ok] at h
  obtain ⟨row, hfind, htenant, rfl⟩ := h
  exact ⟨List.mem_of_find?_eq_some hfind, by simpa using List.find?_some hfind,
    by simpa using htenant⟩

theorem rejectAuthorization_sent {requestId commandId operationUuid auditUuid : String}
    {reviewNote : Option String}
    (h : rejectAuthorization (w.reads ages) identity requestId commandId reviewNote operationUuid
      auditUuid = .ok batch) (hnew : Draws w call operationUuid) : Sent w call batch := by
  unfold rejectAuthorization at h
  simp only [Except.bind_eq_ok, exists_unit] at h
  obtain ⟨-, request, -, h⟩ := h
  split at h
  · obtain rfl := Except.pure_eq_ok.mp h
    exact .nil
  · simp only [Except.bind_eq_ok, demand_eq_ok, exists_unit, Except.pure_eq_ok] at h
    obtain ⟨-, rfl⟩ := h
    exact .command (.rejection identity requestId commandId _ operationUuid auditUuid _ hnew)

/-- An approval that is not refused sends nothing, for a replay, or its batch. -/
theorem approveAuthorization_eq_ok {requestId commandId operationUuid auditUuid : String}
    {reviewNote : Option String} {eventUuids : List String}
    (h : approveAuthorization (w.reads ages) w.deployment.keyrings identity requestId commandId
      reviewNote operationUuid auditUuid eventUuids = .ok batch) :
    batch = [] ∨ ∃ request token events state, request.requestId = requestId ∧
      ApprovalOf w (w.reads ages) identity request commandId eventUuids token events state ∧
      batch = approvalBatch
        (reviewCommand identity requestId commandId operationUuid .approve (w.reads ages 2).clock)
        (reviewNote.getD "生产授权与节点健康证明审核通过") request.supplierId request.tenantId
        (.ofToken w.deployment.keyrings.credentialLookup token) events
        (state.version - events.length) state.version auditUuid := by
  unfold approveAuthorization at h
  simp only [Except.bind_eq_ok, exists_unit] at h
  obtain ⟨-, request, hrequest, h⟩ := h
  obtain ⟨hmem, rfl, htenant⟩ := reviewedRequest_eq_ok hrequest
  split at h
  · exact Or.inl (Except.pure_eq_ok.mp h).symm
  · simp only [Except.bind_eq_ok, demand_eq_ok, exists_unit, found_eq_ok, Except.pure_eq_ok] at h
    obtain ⟨hpending, token, htoken, -, events, hevents, state, hstate, rfl⟩ := h
    refine Or.inr ⟨request, token, events, state, rfl, ?_, rfl⟩
    exact
      { observed := ⟨_, w.reads_mem ages 0, hmem⟩
        tenant := htenant
        pending := by simpa using hpending
        opens := decryptCredential_eq_some htoken
        builds := hevents
        leads := hstate }

theorem approveAuthorization_sent {requestId commandId operationUuid auditUuid : String}
    {reviewNote : Option String} {eventUuids : List String}
    (h : approveAuthorization (w.reads ages) w.deployment.keyrings identity requestId commandId
      reviewNote operationUuid auditUuid eventUuids = .ok batch)
    (hnew : Draws w (.service ages (.approveAuthorization identity requestId commandId reviewNote
      operationUuid auditUuid eventUuids)) operationUuid) :
    Sent w (.service ages (.approveAuthorization identity requestId commandId reviewNote
      operationUuid auditUuid eventUuids)) batch := by
  rcases approveAuthorization_eq_ok h with rfl | ⟨request, token, events, state, rfl, hof, rfl⟩
  · exact .nil
  · exact .command (.approval ages identity commandId reviewNote operationUuid auditUuid
      eventUuids request token events state hnew hof)

theorem ownedRequest_eq_ok {db : MarketplaceDb} {supplierId requestId : String}
    {r : AuthorizationRow} (h : ownedRequest db identity supplierId requestId = .ok r) :
    r ∈ db.rows .authorizationRequests ∧ r.requestId = requestId ∧
      r.tenantId = identity.tenantId ∧ r.supplierId = supplierId := by
  have hfind := found_eq_ok.mp h
  have hp := List.find?_some hfind
  simp only [Bool.and_eq_true, beq_iff_eq] at hp
  exact ⟨List.mem_of_find?_eq_some hfind, hp.1.1, hp.1.2, hp.2⟩

theorem revokeAuthorization_sent
    {requestId commandId reasonCode operationUuid eventUuid : String}
    (h : revokeAuthorization (w.reads ages) identity requestId commandId reasonCode operationUuid
      eventUuid = .ok batch) (hnew : Draws w call operationUuid) : Sent w call batch := by
  unfold revokeAuthorization at h
  simp only [Except.bind_eq_ok] at h
  obtain ⟨supplier, hsupplier, request, hrequest, h⟩ := h
  obtain ⟨hmemSupplier, htenant⟩ := requireSupplierRow_eq_ok hsupplier
  obtain ⟨hmem, rfl, howner⟩ := ownedRequest_eq_ok hrequest
  have hof : LifecycleOf w call identity supplier request (w.reads ages 4).clock operationUuid :=
    { observedSupplier := ⟨_, w.reads_mem ages 0, hmemSupplier⟩
      tenant := htenant
      observed := ⟨_, w.reads_mem ages 1, hmem⟩
      owner := howner
      observedNow := w.reads_clock ages 4
      operation := hnew }
  split at h
  · simp only [Except.bind_eq_ok, demand_eq_ok, exists_unit, Except.pure_eq_ok] at h
    obtain ⟨-, rfl⟩ := h
    exact .nil
  · split at h
    · rename_i hpending
      obtain rfl := Except.pure_eq_ok.mp h
      exact .command (.withdrawal identity supplier request commandId reasonCode operationUuid _
        hof hpending)
    · unfold revokeApprovedAuthorization at h
      simp only [Except.bind_eq_ok, demand_eq_ok, exists_unit, found_eq_ok, uncaught_eq_ok,
        mapDomainError_eq_ok, Except.pure_eq_ok, Bool.and_eq_true, beq_iff_eq] at h
      obtain ⟨⟨happroved, hvalid⟩, state?, hstate, state, rfl, hversion, event, hevent, rfl⟩ := h
      exact .command (.revocation identity supplier request commandId reasonCode operationUuid
        eventUuid _ _ state event hof (w.reads_mem ages 5) happroved hstate hversion hevent
        hvalid)

theorem rotateAuthorizationCredential_sent
    {requestId commandId reasonCode gatewayBearerToken operationUuid iv : String}
    (h : rotateAuthorizationCredential (w.reads ages) w.deployment.keyrings identity requestId
      commandId reasonCode gatewayBearerToken operationUuid iv = .ok batch)
    (hnew : Draws w call operationUuid) : Sent w call batch := by
  unfold rotateAuthorizationCredential at h
  simp only [Except.bind_eq_ok] at h
  obtain ⟨supplier, hsupplier, request, hrequest, h⟩ := h
  obtain ⟨hmemSupplier, htenant⟩ := requireSupplierRow_eq_ok hsupplier
  obtain ⟨hmem, rfl, howner⟩ := ownedRequest_eq_ok hrequest
  split at h
  · simp only [Except.bind_eq_ok, demand_eq_ok, exists_unit, Except.pure_eq_ok] at h
    obtain ⟨-, rfl⟩ := h
    exact .nil
  · simp only [Except.bind_eq_ok, demand_eq_ok, exists_unit, found_eq_ok, Except.pure_eq_ok] at h
    obtain ⟨hcurrent, currentToken, -, -, rfl⟩ := h
    simp only [Bool.and_eq_true, beq_iff_eq, bne_iff_ne] at hcurrent
    refine .command (.rotation identity supplier request commandId reasonCode operationUuid
      gatewayBearerToken iv _ ?_ hcurrent.1.1 hcurrent.1.2 hcurrent.2)
    exact
      { observedSupplier := ⟨_, w.reads_mem ages 0, hmemSupplier⟩
        tenant := htenant
        observed := ⟨_, w.reads_mem ages 1, hmem⟩
        owner := howner
        observedNow := w.reads_clock ages 3
        operation := hnew }

theorem createCapacityOffer_sent {input : CreateCapacityOfferRequest}
    {offerUuid eventUuid auditUuid : String}
    (h : createCapacityOffer (w.reads ages) identity input offerUuid eventUuid auditUuid =
      .ok batch) : Sent w call batch := by
  unfold createCapacityOffer at h
  simp only [Except.bind_eq_ok] at h
  obtain ⟨validUntil, -, h⟩ := h
  split at h
  · simp only [Except.bind_eq_ok, demand_eq_ok, exists_unit, Except.pure_eq_ok] at h
    obtain ⟨-, rfl⟩ := h
    exact .nil
  · simp only [Except.bind_eq_ok, demand_eq_ok, exists_unit, found_eq_ok, uncaught_eq_ok,
      mapDomainError_eq_ok, Except.pure_eq_ok] at h
    obtain ⟨-, supplier, -, authorization, -, state?, -, state, -, event, -, rfl⟩ := h
    refine .routine ?_
    simp only [publicationBatch, List.forall_mem_cons, forall_mem_nil_iff, and_true]
    refine ⟨.publishOffer _ _ _ _, .publicationEvent _ _ _, .audit _, .tenantKeyOrIgnore _ ?_⟩
    intro db k hk
    split at hk
    · obtain rfl := List.mem_singleton.mp hk
      exact ⟨identity.tenantId_ne_platform, by simp [authorizationOperations]⟩
    · simp at hk

theorem setSupplyState_sent {commandId auditUuid : String} {enabled : Bool}
    (h : setSupplyState (w.reads ages) identity commandId enabled auditUuid = .ok batch) :
    Sent w call batch := by
  unfold setSupplyState at h
  split at h
  · cases h
    exact .nil
  · simp only [Except.bind_eq_ok, demand_eq_ok, exists_unit, Except.pure_eq_ok] at h
    obtain ⟨supplier, -, -, rfl⟩ := h
    refine .routine ?_
    simp only [supplyBatch, List.forall_mem_cons, forall_mem_nil_iff, and_true]
    refine ⟨.setSupply _ _ _ _, .audit _, .tenantKey _ ?_⟩
    intro db k hk
    split at hk
    · obtain rfl := List.mem_singleton.mp hk
      exact ⟨identity.tenantId_ne_platform, by simp [authorizationOperations]⟩
    · simp at hk

/-! ## Artifact requests -/

theorem createArtifactUpload_sent {policy : MarketplaceRuntimePolicy}
    {input : CreateArtifactUploadRequest} {artifactUuid auditUuid : String}
    (h : createArtifactUpload (w.reads ages) policy identity input artifactUuid auditUuid =
      .ok batch) : Sent w call batch := by
  unfold createArtifactUpload at h
  simp only [Except.bind_eq_ok, demand_eq_ok, exists_unit, Except.pure_eq_ok] at h
  obtain ⟨-, rfl⟩ := h
  refine .routine ?_
  simp only [List.forall_mem_cons, forall_mem_nil_iff, and_true]
  exact ⟨.free rfl rfl, .audit _⟩

theorem ChunkWrite.batch_sent (write : ChunkWrite) : Sent w call write.batch := by
  refine .routine ?_
  cases write <;>
    simp only [ChunkWrite.batch, List.forall_mem_cons, forall_mem_nil_iff, and_true,
      List.forall_mem_append, List.forall_mem_map, List.mem_flatMap]
  case tombstone chunks now retainUntil =>
    rintro s ⟨chunk, -, hs⟩
    simp only [List.mem_cons, List.not_mem_nil, or_false] at hs
    rcases hs with rfl | rfl <;> exact .free rfl rfl
  case drained storageKeys now retryAt =>
    rintro s ⟨storageKey, -, hs⟩
    simp only [List.mem_cons, List.not_mem_nil, or_false] at hs
    rcases hs with rfl | rfl <;> exact .free rfl rfl
  case finalize chunk =>
    exact ⟨.free rfl rfl, .free rfl rfl, .free rfl rfl⟩
  case restore chunk now => exact ⟨.free rfl rfl, .free rfl rfl⟩
  case finalizePurge artifactId tenantId chunks now =>
    exact ⟨fun _ _ => .free rfl rfl, .free rfl rfl⟩
  case retried storageKeys now retryAt => exact fun _ _ => .free rfl rfl
  all_goals exact .free rfl rfl

theorem completeArtifactUpload_sent {artifactId auditUuid : String} {manifestSha256 : Digest}
    (h : completeArtifactUpload (w.reads ages) identity artifactId manifestSha256 auditUuid =
      .ok batch) : Sent w call batch := by
  unfold completeArtifactUpload at h
  simp only [Except.bind_eq_ok] at h
  obtain ⟨artifact, -, h⟩ := h
  split at h
  · obtain rfl := Except.pure_eq_ok.mp h
    exact .nil
  · simp only [Except.bind_eq_ok, demand_eq_ok, exists_unit, Except.pure_eq_ok] at h
    obtain ⟨-, -, rfl⟩ := h
    refine .routine ?_
    simp only [List.forall_mem_cons, forall_mem_nil_iff, and_true]
    exact ⟨.free rfl rfl, .audit _⟩

theorem createArtifactTask_sent {policy : MarketplaceRuntimePolicy}
    {input : CreateArtifactTaskRequest} {idempotencyKey taskUuid iv auditUuid : String}
    (h : createArtifactTask (w.reads ages) policy identity input idempotencyKey taskUuid iv
      auditUuid = .ok batch) (hnew : taskUuid ∉ w.drawn) : Sent w call batch := by
  unfold createArtifactTask at h
  simp only [Except.bind_eq_ok, demand_eq_ok, exists_unit] at h
  obtain ⟨artifact, -, -, h⟩ := h
  split at h
  · obtain rfl := Except.pure_eq_ok.mp h
    exact .nil
  · simp only [Except.bind_eq_ok, uncaught_eq_ok, Except.pure_eq_ok] at h
    obtain ⟨selected, -, charge, -, rfl⟩ := h
    refine .routine ?_
    simp only [artifactReservationBatch, List.forall_mem_cons, forall_mem_nil_iff, and_true]
    exact ⟨.reserveTask identity input selected artifact _ _ _ charge _ _ ⟨taskUuid, hnew, rfl⟩,
      .audit _⟩

theorem bindCancellation_sent {taskId commandId : String}
    (h : bindCancellation (w.reads ages) identity taskId commandId = .ok batch) :
    Sent w call batch := by
  unfold bindCancellation at h
  simp only [Except.bind_eq_ok, demand_eq_ok, exists_unit, Except.pure_eq_ok] at h
  obtain ⟨-, task, -, decision, -, rfl⟩ := h
  refine .singleton (.tenantKeyOrIgnore _ ?_)
  simp [identity.tenantId_ne_platform, authorizationOperations]

theorem cancelArtifactTask_sent {taskId commandId operationUuid auditUuid : String}
    (h : cancelArtifactTask (w.reads ages) identity taskId commandId operationUuid auditUuid =
      .ok batch) : Sent w call batch := by
  unfold cancelArtifactTask at h
  simp only [Except.bind_eq_ok, demand_eq_ok, exists_unit] at h
  obtain ⟨task, -, decision, -, -, h⟩ := h
  split at h
  · obtain rfl := Except.pure_eq_ok.mp h
    refine .routine ?_
    simp only [cancellationBatch, List.forall_mem_cons, forall_mem_nil_iff, and_true]
    refine ⟨.tenantKeyOrIgnore _ ?_, .cancelTask _, .free rfl rfl, .audit _⟩
    intro db k hk
    split at hk
    · obtain rfl := List.mem_singleton.mp hk
      exact ⟨identity.tenantId_ne_platform, by simp [authorizationOperations]⟩
    · simp at hk
  · obtain rfl := Except.pure_eq_ok.mp h
    exact .nil

theorem sweepArtifactTasks_sent (now : Nat) :
    Sent w call (sweepArtifactTasks w.deployment.policy now) := by
  refine .routine ?_
  simp only [sweepArtifactTasks, List.forall_mem_cons, forall_mem_nil_iff, and_true]
  refine ⟨.endCancelled _ _ _ _, .requeue _ _ fun t ht => ?_, .exhaust _ _ _⟩
  simp only [Bool.and_eq_true, decide_eq_true_eq] at ht
  exact ht.1.2

theorem claimExpiredArtifact_sent {now : Nat}
    (h : claimExpiredArtifact (w.reads ages) now = .ok batch) : Sent w call batch := by
  unfold claimExpiredArtifact at h
  split at h
  · cases h
    exact .nil
  · cases h
    exact .singleton (.free rfl rfl)

theorem purgeInferenceOutput_sent {jobId auditUuid : String}
    (h : purgeInferenceOutput (w.reads ages) identity jobId auditUuid = .ok batch) :
    Sent w call batch := by
  unfold purgeInferenceOutput at h
  simp only [Except.bind_eq_ok] at h
  obtain ⟨job, -, h⟩ := h
  split at h
  · obtain rfl := Except.pure_eq_ok.mp h
    exact .nil
  · simp only [Except.bind_eq_ok, demand_eq_ok, exists_unit, Except.pure_eq_ok] at h
    obtain ⟨-, rfl⟩ := h
    refine .routine ?_
    simp only [List.forall_mem_cons, forall_mem_nil_iff, and_true]
    exact ⟨.purgeOutput _ _ _, .audit _⟩

theorem prepareTaskPurge_sent {taskId : String}
    (h : prepareTaskPurge (w.reads ages) identity taskId = .ok batch) : Sent w call batch := by
  unfold prepareTaskPurge at h
  simp only [Except.bind_eq_ok, demand_eq_ok, exists_unit] at h
  obtain ⟨task, -, -, -, h⟩ := h
  split at h
  · obtain rfl := Except.pure_eq_ok.mp h
    refine .routine ?_
    simp only [List.forall_mem_cons, forall_mem_nil_iff, and_true]
    exact ⟨.purgeQueuedTask _ _ _, .free rfl rfl⟩
  · obtain rfl := Except.pure_eq_ok.mp h
    refine .routine ?_
    simp only [List.forall_mem_cons, forall_mem_nil_iff, and_true]
    exact ⟨.purgeFinishedTask _ _ _, .free rfl rfl⟩

theorem recordArtifactPurge_sent {artifactId : String} {taskId : Option String}
    (h : recordArtifactPurge (w.reads ages) identity artifactId taskId = .ok batch) :
    Sent w call batch := by
  unfold recordArtifactPurge at h
  simp only [Except.bind_eq_ok, demand_eq_ok, exists_unit, Except.pure_eq_ok] at h
  obtain ⟨artifact, -, -, rfl⟩ := h
  refine .routine ?_
  cases taskId with
  | none =>
      simp only [List.forall_mem_cons, forall_mem_nil_iff, and_true]
      exact .auditOrIgnore _
  | some taskId =>
      simp only [List.forall_mem_cons, forall_mem_nil_iff, and_true]
      exact ⟨.auditOrIgnore _, .markPurged _ _ _, .auditOrIgnore _⟩

/-! ## Worker requests -/

variable {agent : AgentAuthorizationIdentity}

theorem registerHeartbeat_sent {input : ArtifactTaskClaimRequest}
    (h : registerHeartbeat (w.reads ages) agent input = .ok batch) : Sent w call batch := by
  unfold registerHeartbeat at h
  simp only [Except.bind_eq_ok, demand_eq_ok, exists_unit, Except.pure_eq_ok] at h
  obtain ⟨-, rfl⟩ := h
  exact .singleton (.free rfl rfl)

theorem expireLeases_sent (supplierTenantId : String) (now : Nat) :
    Sent w call (expireLeases w.deployment.policy supplierTenantId now) := by
  refine .routine ?_
  simp only [expireLeases, List.forall_mem_cons, forall_mem_nil_iff, and_true]
  refine ⟨.endCancelled _ _ _ _, .requeue _ _ fun t ht => ?_, .exhaust _ _ _⟩
  simp only [Bool.and_eq_true, decide_eq_true_eq] at ht
  exact ht.2

theorem claimArtifactTask_sent {policy : MarketplaceRuntimePolicy}
    {input : ArtifactTaskClaimRequest} {leaseToken : String}
    (h : claimArtifactTask (w.reads ages) policy agent input leaseToken = .ok batch)
    (hnew : leaseToken ∉ w.drawn) :
    Sent w (.service ages (.claimArtifactTask agent input leaseToken)) batch := by
  unfold claimArtifactTask at h
  simp only [Except.bind_eq_ok, demand_eq_ok, exists_unit] at h
  obtain ⟨-, h⟩ := h
  split at h
  · obtain rfl := Except.pure_eq_ok.mp h
    exact .nil
  · rename_i candidate hfound
    simp only [Except.bind_eq_ok, Except.pure_eq_ok] at h
    obtain ⟨authorization, -, rfl⟩ := h
    exact .command (.claim ages agent input leaseToken _ candidate ⟨hnew, rfl, min_le_right _ _⟩
      ⟨hfound, rfl, rfl, rfl⟩)

theorem observeCancellation_sent {taskId leaseToken : String}
    (h : observeCancellation (w.reads ages) agent taskId leaseToken = .ok batch) :
    Sent w call batch := by
  unfold observeCancellation at h
  simp only [Except.bind_eq_ok, demand_eq_ok, exists_unit, Except.pure_eq_ok] at h
  obtain ⟨task, -, -, rfl⟩ := h
  refine .routine ?_
  simp only [List.forall_mem_cons, forall_mem_nil_iff, and_true]
  exact ⟨.endCancelled _ _ _ _, .free rfl rfl⟩

/-- What {lit}`requireLeasedTask` returns about a stored task. -/
structure LeasedRead (w : World) (agent : AgentAuthorizationIdentity) (taskId leaseToken : String)
    (row : WorkerTaskRow) : Prop where
  observed : w.observed .artifactTasks row.task
  sameTask : row.task.taskId = taskId
  supplier : row.task.supplierTenantId = agent.supplierTenantId
  digest : row.task.leaseDigest = some (sha256Hex leaseToken)

/-- A leased task is a stored task of the agent's supplier. -/
theorem requireLeasedTask_eq_ok {taskId leaseToken : String} {row : WorkerTaskRow}
    (h : requireLeasedTask (w.reads ages) agent taskId leaseToken = .ok row) :
    LeasedRead w agent taskId leaseToken row := by
  unfold requireLeasedTask at h
  simp only [Except.bind_eq_ok, demand_eq_ok, exists_unit, found_eq_ok, Except.pure_eq_ok] at h
  obtain ⟨found, hfind, -, rfl⟩ := h
  have hmem := List.mem_of_find?_eq_some hfind
  have hp := List.find?_some hfind
  simp only [ArtifactTaskRow.isHeldWith, Bool.and_eq_true, beq_iff_eq] at hp
  simp only [workerTaskRows, List.mem_filter, List.mem_flatMap, List.mem_map] at hmem
  obtain ⟨⟨task, htask, artifact, -, offer, -, rfl⟩, -⟩ := hmem
  exact
    { observed := ⟨_, w.reads_mem ages 1, htask⟩
      sameTask := hp.1
      supplier := hp.2.1.1.1.1.1
      digest := hp.2.1.1.1.1.2 }

theorem checkpointArtifactTask_sent {policy : MarketplaceRuntimePolicy}
    {input : ArtifactTaskCheckpointRequest} {checkpointUuid : String}
    (h : checkpointArtifactTask (w.reads ages) policy agent input checkpointUuid = .ok batch) :
    Sent w (.service ages (.checkpointArtifactTask agent input checkpointUuid)) batch := by
  unfold checkpointArtifactTask at h
  simp only [Except.bind_eq_ok, demand_eq_ok, exists_unit, Except.pure_eq_ok] at h
  obtain ⟨row, hrow, -, -, rfl⟩ := h
  have hread := requireLeasedTask_eq_ok hrow
  exact .command (.checkpoint ages agent input checkpointUuid _ row.task
    ⟨hread.observed, rfl, hread.digest⟩ (min_le_right _ _)
    ⟨hread.sameTask, rfl, ⟨rfl, rfl⟩, rfl, rfl, rfl, rfl⟩)

theorem failArtifactTask_sent {taskId leaseToken code : String} {retryable : Bool}
    (h : failArtifactTask (w.reads ages) w.deployment.policy agent taskId leaseToken code
      retryable = .ok batch) : Sent w call batch := by
  unfold failArtifactTask at h
  simp only [Except.bind_eq_ok, Except.pure_eq_ok] at h
  obtain ⟨row, hrow, rfl⟩ := h
  have hread := requireLeasedTask_eq_ok hrow
  refine .singleton (.failTask _ _ _ _ _ _ row.task ⟨hread.observed, rfl, hread.digest⟩ ?_)
  intro hretry
  simp only [Bool.and_eq_true, decide_eq_true_eq] at hretry
  exact hretry.2

theorem completeArtifactTask_sent {policy : MarketplaceRuntimePolicy}
    {input : ArtifactTaskCompleteRequest} {outputIv : String} {uuids : CompletionUuids}
    (h : ((completeArtifactTask (w.reads ages) policy agent input outputIv).map fun s =>
      artifactCompletionBatch s uuids) = .ok batch) (huuids : uuids.Fresh w)
    (hcall : call.uuids = uuids.toList) : Sent w call batch := by
  cases hs : completeArtifactTask (w.reads ages) policy agent input outputIv with
  | error e => simp [hs, Except.map] at h
  | ok s =>
      obtain rfl : artifactCompletionBatch s uuids = batch := by simpa [hs, Except.map] using h
      unfold completeArtifactTask at hs
      simp only [Except.bind_eq_ok, demand_eq_ok, exists_unit, uncaught_eq_ok,
        Except.pure_eq_ok] at hs
      obtain ⟨row, hrow, -, -, -, hreported, amounts, hamounts, -, rfl⟩ := hs
      have hread := requireLeasedTask_eq_ok hrow
      exact .artifactCompletion _ uuids _ _ _ hread.observed hread.supplier hamounts
        (beq_iff_eq.mp hreported) huuids hcall

/-! ## Maintenance -/

theorem rewrapStatements_routine {keyring : ResolvedKeyring} {now : Nat}
    {rows : List (AuthorizationRow × String)} {batch : Batch}
    (h : rewrapStatements keyring now rows = .ok batch) : ∀ s ∈ batch, Routine w s.table s := by
  induction rows generalizing batch with
  | nil =>
      cases h
      simp
  | cons row rows ih =>
      unfold rewrapStatements at h
      simp only [Except.bind_eq_ok, Except.pure_eq_ok] at h
      obtain ⟨encrypted, hencrypted, statements, hstatements, rfl⟩ := h
      unfold rewrapCredential at hencrypted
      simp only [Except.bind_eq_ok, found_eq_ok, Except.pure_eq_ok] at hencrypted
      obtain ⟨plaintext, hplaintext, rfl⟩ := hencrypted
      have hopens := decryptCredential_eq_some hplaintext
      refine List.forall_mem_cons.mpr ⟨.rewrap _ _ _ _ ?_ ?_, ih hstatements⟩
      · rw [hopens]; rfl
      · rw [hopens]; rfl

theorem maintenanceBatch_sent (policy : MarketplaceRuntimePolicy) {now : Nat}
    (hnow : w.observedClock now) : Sent w call (maintenanceBatch policy now) := by
  refine .routine ?_
  simp only [maintenanceBatch, List.forall_mem_cons, forall_mem_nil_iff, and_true]
  exact ⟨.expireReservations _ _, .purgeOutputs _, .expirePending _ _, .scrubExpired _ hnow,
    .scrubTerminated _, .free rfl rfl, .deleteNonces _ hnow, .free rfl rfl⟩

end Requests

/-! ## Service requests -/

theorem World.isFresh_eq {w : World} {uuids : List String} :
    w.isFresh uuids = true ↔ uuids.Nodup ∧ (∀ uuid ∈ uuids, uuid ∉ w.drawn) ∧
      ∀ uuid ∈ uuids, isPlain uuid = true := by
  simp [World.isFresh, forall_and]

/-- Every request sends a classified batch. -/
theorem ServiceRequest.batch_sent {w : World} {ages : List Nat} {request : ServiceRequest}
    {batch : Batch} (h : request.batch w.deployment (w.reads ages) = .ok batch)
    (hfresh : w.isFresh request.uuids = true) : Sent w (.service ages request) batch := by
  obtain ⟨hnodup, hnew, hplain⟩ := World.isFresh_eq.mp hfresh
  have hdraws : ∀ uuid ∈ request.uuids, Draws w (.service ages request) uuid :=
    fun uuid huuid => ⟨hnew uuid huuid, huuid⟩
  cases request with
  | ensureUser identity =>
      cases h
      exact ensureUser_sent _ _
  | registerSupplierProfile identity input supplierUuid eventUuid auditUuid =>
      exact registerSupplierProfile_sent h (hnew _ (by simp [uuids]))
  | submitAuthorizationRequest identity input requestUuid iv auditUuid =>
      exact submitAuthorizationRequest_sent h (hnew _ (by simp [uuids]))
        (hplain _ (by simp [uuids]))
  | rejectAuthorization identity requestId commandId reviewNote operationUuid auditUuid =>
      exact rejectAuthorization_sent h (hdraws _ (by simp [uuids]))
  | approveAuthorization identity requestId commandId reviewNote operationUuid auditUuid
      eventUuids =>
      exact approveAuthorization_sent h (hdraws _ (by simp [uuids]))
  | revokeAuthorization identity requestId commandId reasonCode operationUuid eventUuid =>
      exact revokeAuthorization_sent h (hdraws _ (by simp [uuids]))
  | rotateAuthorizationCredential identity requestId commandId reasonCode gatewayBearerToken
      operationUuid iv =>
      exact rotateAuthorizationCredential_sent h (hdraws _ (by simp [uuids]))
  | createCapacityOffer identity input offerUuid eventUuid auditUuid =>
      exact createCapacityOffer_sent h
  | setSupplyState identity commandId enabled auditUuid => exact setSupplyState_sent h
  | cleanupStaleInferenceReservations =>
      cases h
      exact .singleton (.expireReservations _ _)
  | cleanupExpiredInferenceContent =>
      cases h
      exact .singleton (.purgeOutputs _)
  | createArtifactUpload identity input artifactUuid auditUuid =>
      exact createArtifactUpload_sent h
  | writeChunk write =>
      cases h
      exact write.batch_sent
  | completeArtifactUpload identity artifactId manifestSha256 auditUuid =>
      exact completeArtifactUpload_sent h
  | createArtifactTask identity input idempotencyKey taskUuid iv auditUuid =>
      exact createArtifactTask_sent h (hnew _ (by simp [uuids]))
  | bindCancellation identity taskId commandId => exact bindCancellation_sent h
  | cancelArtifactTask identity taskId commandId operationUuid auditUuid =>
      exact cancelArtifactTask_sent h
  | sweepArtifactTasks =>
      cases h
      exact sweepArtifactTasks_sent _
  | claimExpiredArtifact => exact claimExpiredArtifact_sent h
  | purgeExpiredTaskOutputs =>
      cases h
      exact .singleton (.purgeTaskOutputs _)
  | purgeInferenceOutput identity jobId auditUuid => exact purgeInferenceOutput_sent h
  | prepareTaskPurge identity taskId => exact prepareTaskPurge_sent h
  | claimArtifactPurge identity artifactId =>
      cases h
      exact .singleton (.free rfl rfl)
  | recordArtifactPurge identity artifactId taskId => exact recordArtifactPurge_sent h
  | registerHeartbeat identity input => exact registerHeartbeat_sent h
  | expireLeases supplierTenantId =>
      cases h
      exact expireLeases_sent _ _
  | claimArtifactTask identity input leaseToken =>
      exact claimArtifactTask_sent h (hnew _ (by simp [uuids]))
  | observeCancellation identity taskId leaseToken => exact observeCancellation_sent h
  | checkpointArtifactTask identity input checkpointUuid => exact checkpointArtifactTask_sent h
  | failArtifactTask identity taskId leaseToken code retryable => exact failArtifactTask_sent h
  | expireFailedArtifact artifactId =>
      cases h
      exact .singleton (.free rfl rfl)
  | completeArtifactTask identity input outputIv uuids =>
      exact completeArtifactTask_sent h ⟨hnodup, hnew, hplain⟩ rfl
  | runMaintenanceBatch =>
      cases h
      exact maintenanceBatch_sent _ (w.reads_clock ages 0)
  | rotateCredentialEncryptions ivs => exact .routine (rewrapStatements_routine h)

/-! ## Inferences and authentications -/

theorem reserveInference_eq_ok {reads : Reads} {policy : MarketplaceRuntimePolicy}
    {identity : RequestIdentity} {input : RunInferenceRequest} {idempotencyKey jobUuid : String}
    {run : InferenceRun} {batch : Batch}
    (h : reserveInference reads policy identity input idempotencyKey jobUuid =
      .ok (some (run, batch))) :
    run.jobId = "job-" ++ jobUuid ∧
      run.selected.offer ∈ (reads 2).rows .capacityOffers ∧
      ∃ reservationExpiresAt, batch = reservationBatch run idempotencyKey reservationExpiresAt := by
  unfold reserveInference at h
  split at h
  · simp at h
  · simp only [Except.bind_eq_ok, demand_eq_ok, exists_unit, uncaught_eq_ok, Except.pure_eq_ok,
      Option.some.injEq, Prod.mk.injEq] at h
    obtain ⟨selected, hselected, -, charge, -, rfl, rfl⟩ := h
    have hmem := firstBy_mem (found_eq_ok.mp hselected)
    simp only [offerCandidates, List.mem_filter, List.mem_flatMap, List.mem_map] at hmem
    obtain ⟨⟨offer, hoffer, supplier, -, authorization, -, rfl⟩, -⟩ := hmem
    exact ⟨rfl, hoffer, _, rfl⟩

theorem reservationBatch_sent {w : World} {call : Call} {run : InferenceRun}
    {idempotencyKey : String} {reservationExpiresAt : Nat}
    (hid : ∃ uuid, uuid ∉ w.drawn ∧ run.jobId = "job-" ++ uuid)
    (hoffer : w.observed .capacityOffers run.selected.offer) :
    Sent w call (reservationBatch run idempotencyKey reservationExpiresAt) :=
  .singleton (.reserveInference run idempotencyKey reservationExpiresAt hid hoffer)

/-- The batches of an authentication are routine. -/
theorem AgentCall.batch_sent {w : World} {call : Call} {agentCall : AgentCall}
    (h : agentCall ∈ w.agentCalls) (hnow : w.observedClock agentCall.now) :
    Sent w call agentCall.batch := by
  have hsweep : Sent w call agentCall.sweepBatch := .singleton (.migrateAll agentCall h)
  unfold AgentCall.batch
  split
  · exact .singleton (.purgeNonces _ hnow)
  · exact .singleton (.claimNonce agentCall h)
  · split
    · exact hsweep
    · refine .routine ?_
      simp only [List.forall_mem_map]
      exact fun stale hstale => .migrateRow agentCall h stale hstale
  · exact hsweep
  · exact .nil
  · exact .nil
  · exact .nil

/-! ## Steps -/

/-- What a step may do to the database. -/
inductive Stepped (w : World) (call : Call) (w' : World) : Prop
  | idle (hdb : w'.db = w.db) (hpast : w'.past = w.past)
  | clock (instant : Nat) (hcall : call = .setClock instant)
      (hdb : w'.db = { w.db with clock := instant }) (hpast : w'.past = w.db :: w.past)
  | sent (batch : Batch) (hsent : Sent w call batch) (hrun : runBatch w.db batch = some w'.db)
      (hbound : (w'.db.rows .marketplaceEvents).length ≤ maxSafeInteger)
      (hpast : w'.past = w.db :: w.past)

theorem World.result_eq_some {w : World} {batch : Batch} {db : MarketplaceDb} :
    w.result batch = some db ↔
      runBatch w.db batch = some db ∧
        (db.rows .marketplaceEvents).length ≤ maxSafeInteger := by
  simp [World.result, Option.filter_eq_some_iff]

theorem Stepped.of_result {w w' : World} {call : Call} {batch : Batch}
    (hsent : Sent w call batch) (hresult : w.result batch = some w'.db)
    (hpast : w'.past = w.db :: w.past) : Stepped w call w' :=
  .sent batch hsent (World.result_eq_some.mp hresult).1 (World.result_eq_some.mp hresult).2 hpast

theorem World.send_stepped {w w' : World} {call : Call} {batch : Batch}
    (hsent : Sent w call batch) (hdb : w'.db = (w.send batch).db)
    (hpast : w'.past = (w.send batch).past) : Stepped w call w' := by
  unfold World.send at hdb hpast
  cases hresult : w.result batch with
  | none =>
      simp only [hresult] at hdb hpast
      exact .idle hdb hpast
  | some db =>
      simp only [hresult] at hdb hpast
      exact .of_result hsent (by rw [hresult, hdb]; rfl) hpast

/-- The clocks that authentications in flight remember were observed. -/
def World.AgentsObserved (w : World) : Prop :=
  ∀ agentCall ∈ w.agentCalls, w.observedClock agentCall.now

theorem reserve_stepped {w : World} {call : Call}
    {reservation : Request (Option (InferenceRun × Batch))}
    (hsent : ∀ run batch, reservation = .ok (some (run, batch)) → Sent w call batch) :
    Stepped w call (w.reserve reservation) := by
  unfold World.reserve
  split
  · rename_i run batch
    split
    · rename_i db hresult
      split <;> exact .of_result (hsent run batch rfl) hresult rfl
    · exact .idle rfl rfl
  · exact .idle rfl rfl

theorem advanceAgent_stepped {w : World} {call : Call} {index : Nat}
    (hagents : w.AgentsObserved) : Stepped w call (w.advanceAgent index) := by
  unfold World.advanceAgent
  split
  · exact .idle rfl rfl
  · rename_i agentCall hcall
    have hmem := List.mem_of_getElem? hcall
    split
    · rename_i db hresult
      exact .of_result (AgentCall.batch_sent hmem (hagents _ hmem)) hresult rfl
    · exact .idle rfl rfl

theorem dispatchBatch_sent {w : World} {call : Call} (run : InferenceRun) :
    Sent w call (dispatchBatch run) :=
  .singleton (.startInference _ _)

theorem failureBatch_sent {w : World} {call : Call} (run : InferenceRun) (code : String)
    (now : Nat) : Sent w call (failureBatch run code now) :=
  .singleton (.failInference _ _ _)

/-- The shape of a call whose random values are new. -/
theorem apply_stepped {w : World} {call : Call} (hagents : w.AgentsObserved)
    (hfresh : w.isFresh call.uuids = true) : Stepped w call (w.apply call) := by
  obtain ⟨hnodup, hnew, hplain⟩ := World.isFresh_eq.mp hfresh
  cases call with
  | setClock instant => exact .clock instant rfl rfl rfl
  | deploy deployment =>
      simp only [World.apply]
      split <;> exact .idle rfl rfl
  | service ages request =>
      cases hbatch : request.batch w.deployment (w.reads ages) with
      | error e =>
          have happly : w.apply (.service ages request) = w := by
            simp [World.apply, World.perform, hbatch]
          exact .idle (by rw [happly]) (by rw [happly])
      | ok batch =>
          have happly : w.apply (.service ages request) = w.send batch := by
            simp [World.apply, World.perform, hbatch]
          exact World.send_stepped (ServiceRequest.batch_sent hbatch hfresh) (by rw [happly])
            (by rw [happly])
  | reserveInference ages identity input idempotencyKey jobUuid =>
      refine reserve_stepped ?_
      intro run batch h
      obtain ⟨hid, hoffer, expires, rfl⟩ := reserveInference_eq_ok h
      exact reservationBatch_sent ⟨jobUuid, hnew _ (by simp [Call.uuids]), hid⟩
        ⟨_, w.reads_mem ages 2, hoffer⟩
  | dispatchInference index =>
      simp only [World.apply, World.dispatch]
      split
      · rename_i run _
        exact World.send_stepped (dispatchBatch_sent run) rfl rfl
      · exact .idle rfl rfl
  | settleInference ages index result outputIv uuids =>
      simp only [World.apply, World.settle]
      split
      · rename_i run hrun
        split
        · rename_i s hsettle
          exact World.send_stepped
            (.inferenceCompletion ages index run result outputIv s uuids hrun hsettle
              ⟨hnodup, hnew, hplain⟩) rfl rfl
        · exact .idle rfl rfl
      · exact .idle rfl rfl
  | failInference ages index code =>
      simp only [World.apply, World.failInference]
      split
      · rename_i run phase _
        split
        · exact World.send_stepped (failureBatch_sent run code _) rfl rfl
        · exact .idle rfl rfl
      · exact .idle rfl rfl
  | authenticateAgent ages request =>
      simp only [World.apply, World.authenticate]
      split <;> exact .idle rfl rfl
  | advanceAgent index => exact advanceAgent_stepped hagents

/-- Every step idles, moves the clock or commits a batch of the inventory. -/
theorem step_stepped {w : World} (call : Call) (hagents : w.AgentsObserved) :
    Stepped w call (step w call) := by
  unfold step
  split
  · rename_i hfresh
    cases apply_stepped hagents hfresh with
    | idle hdb hpast => exact .idle hdb hpast
    | clock instant hcall hdb hpast => exact .clock instant hcall hdb hpast
    | sent batch hsent hrun hbound hpast => exact .sent batch hsent hrun hbound hpast
  · exact .idle rfl rfl

end Server
end TokenStreaming
