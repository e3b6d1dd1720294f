import TokenStreaming.Server.Classification
import TokenStreaming.Server.Precedence

/-!
# Control plane - Runs and reachable states

Rules that turn facts about statements and batches into facts about every
reachable state, and the facts all later modules start from: unique indexes
hold, and every snapshot a request may still have read precedes the current
state.

Main results:

- Theorem {lit}`step_sound`: one step keeps the state sound.
- Theorem {lit}`Reachable.sound`: every reachable state is sound.
- Theorem {lit}`Reachable.snapshots`: the rule of database invariants.
- Theorem {lit}`run_follows`: the end of a run follows its beginning.
-/

namespace TokenStreaming
namespace Server

open Relational Domain TransitionSystem

/-! ## What a step leaves alone -/

section Frames

variable (w : World)

@[simp]
theorem World.commit_agentCalls (db : MarketplaceDb) : (w.commit db).agentCalls = w.agentCalls :=
  rfl

@[simp]
theorem World.send_agentCalls (batch : Batch) : (w.send batch).agentCalls = w.agentCalls := by
  unfold World.send
  split <;> rfl

@[simp]
theorem World.send_inferences (batch : Batch) : (w.send batch).inferences = w.inferences := by
  unfold World.send
  split <;> rfl

@[simp]
theorem World.send_deployment (batch : Batch) : (w.send batch).deployment = w.deployment := by
  unfold World.send
  split <;> rfl

@[simp]
theorem World.send_drawn (batch : Batch) : (w.send batch).drawn = w.drawn := by
  unfold World.send
  split <;> rfl

end Frames

/-! ## Authentications in flight -/

/-- How the authentications in flight change across a step. -/
inductive AgentsStepped (w : World) (call : Call) (w' : World) : Prop
  | same (h : w'.agentCalls = w.agentCalls)
  | begun (ages : List Nat) (request : AgentRequest) (agentCall : AgentCall)
      (hcall : call = .authenticateAgent ages request)
      (hverified : verifyAgentRequest (w.reads ages) w.deployment.keyrings.credentialLookup
        request = .ok agentCall)
      (h : w'.agentCalls = w.agentCalls ++ [agentCall]) (hdb : w'.db = w.db)
  | advanced (index : Nat) (agentCall : AgentCall) (hcall : call = .advanceAgent index)
      (hget : w.agentCalls[index]? = some agentCall)
      (hresult : w.result agentCall.batch = some w'.db)
      (h : w'.agentCalls =
        w.agentCalls.set index { agentCall with phase := agentCall.next w.db })
  | aborted (index : Nat) (agentCall : AgentCall) (hcall : call = .advanceAgent index)
      (hget : w.agentCalls[index]? = some agentCall)
      (h : w'.agentCalls = w.agentCalls.set index { agentCall with phase := .refused })
      (hdb : w'.db = w.db)

theorem apply_agents (w : World) (call : Call) : AgentsStepped w call (w.apply call) := by
  cases call with
  | setClock instant => exact .same rfl
  | deploy deployment =>
      simp only [World.apply]
      split <;> exact .same rfl
  | service ages request =>
      refine .same ?_
      simp only [World.apply, World.perform]
      split
      · exact w.send_agentCalls _
      · rfl
  | reserveInference ages identity input idempotencyKey jobUuid =>
      refine .same ?_
      simp only [World.apply, World.reserve]
      split
      · split
        · split <;> rfl
        · rfl
      · rfl
  | dispatchInference index =>
      refine .same ?_
      simp only [World.apply, World.dispatch]
      split
      · exact w.send_agentCalls _
      · rfl
  | settleInference ages index result outputIv uuids =>
      refine .same ?_
      simp only [World.apply, World.settle]
      split
      · split
        · exact w.send_agentCalls _
        · rfl
      · rfl
  | failInference ages index code =>
      refine .same ?_
      simp only [World.apply, World.failInference]
      split
      · split
        · exact w.send_agentCalls _
        · rfl
      · rfl
  | authenticateAgent ages request =>
      simp only [World.apply, World.authenticate]
      split
      · rename_i agentCall hverified
        exact .begun ages request agentCall rfl hverified rfl rfl
      · exact .same rfl
  | advanceAgent index =>
      simp only [World.apply, World.advanceAgent]
      split
      · exact .same rfl
      · rename_i agentCall hget
        split
        · rename_i db hresult
          exact .advanced index agentCall rfl hget hresult rfl
        · exact .aborted index agentCall rfl hget rfl rfl

theorem step_agents (w : World) (call : Call) : AgentsStepped w call (step w call) := by
  unfold step
  split
  · cases apply_agents w call with
    | same h => exact .same h
    | begun ages request agentCall hcall hverified h hdb =>
        exact .begun ages request agentCall hcall hverified h hdb
    | advanced index agentCall hcall hget hresult h =>
        exact .advanced index agentCall hcall hget hresult h
    | aborted index agentCall hcall hget h hdb =>
        exact .aborted index agentCall hcall hget h hdb
  · exact .same rfl

theorem verifyAgentRequest_eq_ok {reads : Reads} {keyring : ResolvedKeyring}
    {request : AgentRequest} {agentCall : AgentCall}
    (h : verifyAgentRequest reads keyring request = .ok agentCall) :
    timestampIsFresh (reads 2).clock request.timestampMs = true ∧
      request.signature = .hmac request.gatewayToken request.payload ∧
      agentCall =
        { request, keyring, now := (reads 0).clock
          rows := authenticatedRows (reads 1) (.ofToken keyring request.gatewayToken)
            (reads 0).clock
          phase := .verified } := by
  simp only [verifyAgentRequest, Except.bind_eq_ok, demand_eq_ok, exists_unit,
    Except.pure_eq_ok, Bool.and_eq_true, beq_iff_eq] at h
  obtain ⟨hfresh, ⟨hsignature, -⟩, -, rfl⟩ := h
  exact ⟨hfresh, hsignature, rfl⟩

/-! ## Soundness -/

/-- What holds of every state of a run, whatever the requests. -/
structure World.Sound (w : World) : Prop where
  agents : w.AgentsObserved
  consistent : ∀ snap ∈ w.snapshots, Consistent snap
  follows : ∀ snap ∈ w.snapshots, Follows snap w.db
  bounded : ∀ snap ∈ w.snapshots, (snap.rows .marketplaceEvents).length ≤ maxSafeInteger

theorem World.start_sound (clock : Nat) (deployment : Deployment) :
    (World.start clock deployment).Sound where
  agents := by simp [World.AgentsObserved, World.start]
  consistent := by
    simp only [World.snapshots, World.start, List.mem_singleton, forall_eq]
    exact MarketplaceDb.empty_consistent clock
  follows := by
    simp only [World.snapshots, World.start, List.mem_singleton, forall_eq]
    exact Follows.refl _
  bounded := by
    simp [World.snapshots, World.start, MarketplaceDb.empty]

/-- The current state is a snapshot. -/
theorem World.db_mem (w : World) : w.db ∈ w.snapshots :=
  List.mem_cons_self

/-- A step keeps every snapshot. -/
theorem Stepped.snapshots_subset {w w' : World} {call : Call} (h : Stepped w call w') :
    w.snapshots ⊆ w'.snapshots := by
  intro snap hsnap
  cases h with
  | idle hdb hpast => rwa [World.snapshots, hdb, hpast]
  | clock instant hcall hdb hpast =>
      rw [World.snapshots, hpast]
      exact List.mem_cons_of_mem _ hsnap
  | sent batch hsent hrun hbound hpast =>
      rw [World.snapshots, hpast]
      exact List.mem_cons_of_mem _ hsnap

/-- The snapshots after a step are the old ones and the new state. -/
theorem Stepped.snapshots_eq {w w' : World} {call : Call} (h : Stepped w call w')
    {snap : MarketplaceDb} (hsnap : snap ∈ w'.snapshots) : snap = w'.db ∨ snap ∈ w.snapshots := by
  rcases List.mem_cons.mp hsnap with heq | hmem
  · exact Or.inl heq
  · cases h with
    | idle hdb hpast =>
        rw [hpast] at hmem
        exact Or.inr (List.mem_cons_of_mem _ hmem)
    | clock instant hcall hdb hpast =>
        rw [hpast] at hmem
        exact Or.inr hmem
    | sent batch hsent hrun hbound hpast =>
        rw [hpast] at hmem
        exact Or.inr hmem

/-- A step leads to a later state. -/
theorem Stepped.follows {w w' : World} {call : Call} (h : Stepped w call w') :
    Follows w.db w'.db := by
  cases h with
  | idle hdb hpast =>
      rw [hdb]
      exact Follows.refl _
  | clock instant hcall hdb hpast =>
      rw [hdb]
      exact Follows.setClock _ instant
  | sent batch hsent hrun hbound hpast => exact runBatch_follows hsent.issued hrun

theorem step_agentsObserved {w : World} (call : Call) (h : w.AgentsObserved) :
    (step w call).AgentsObserved := by
  have hsubset := (step_stepped call h).snapshots_subset
  have hold : ∀ agentCall ∈ w.agentCalls, (step w call).observedClock agentCall.now := by
    intro agentCall hmem
    obtain ⟨snap, hsnap, hnow⟩ := h agentCall hmem
    exact ⟨snap, hsubset hsnap, hnow⟩
  intro agentCall hmem
  cases step_agents w call with
  | same heq => exact hold agentCall (heq ▸ hmem)
  | begun ages request begun _ hverified heq _ =>
      rw [heq] at hmem
      rcases List.mem_append.mp hmem with hmem | hmem
      · exact hold agentCall hmem
      · obtain rfl := List.mem_singleton.mp hmem
        obtain ⟨-, -, rfl⟩ := verifyAgentRequest_eq_ok hverified
        exact ⟨_, hsubset (w.reads_mem ages 0), rfl⟩
  | advanced index advanced _ hget _ heq =>
      rw [heq] at hmem
      rcases List.mem_or_eq_of_mem_set hmem with hmem | rfl
      · exact hold agentCall hmem
      · exact hold advanced (List.mem_of_getElem? hget)
  | aborted index aborted _ hget heq _ =>
      rw [heq] at hmem
      rcases List.mem_or_eq_of_mem_set hmem with hmem | rfl
      · exact hold agentCall hmem
      · exact hold aborted (List.mem_of_getElem? hget)

/-- Every step keeps the state sound. -/
theorem step_sound {w : World} (call : Call) (h : w.Sound) : (step w call).Sound := by
  have hstepped := step_stepped call h.agents
  have hfollows := hstepped.follows
  refine
    { agents := step_agentsObserved call h.agents
      consistent := fun snap hsnap => ?_
      follows := fun snap hsnap => ?_
      bounded := fun snap hsnap => ?_ }
  · rcases hstepped.snapshots_eq hsnap with rfl | hold
    · cases hstepped with
      | idle hdb _ =>
          rw [hdb]
          exact h.consistent _ w.db_mem
      | clock instant _ hdb _ =>
          rw [hdb]
          exact fun t => h.consistent w.db w.db_mem t
      | sent batch _ hrun _ _ => exact (h.consistent _ w.db_mem).runBatch hrun
    · exact h.consistent snap hold
  · rcases hstepped.snapshots_eq hsnap with rfl | hold
    · exact Follows.refl _
    · exact (h.follows snap hold).trans hfollows
  · rcases hstepped.snapshots_eq hsnap with rfl | hold
    · cases hstepped with
      | idle hdb _ =>
          rw [hdb]
          exact h.bounded _ w.db_mem
      | clock instant _ hdb _ =>
          rw [hdb]
          exact h.bounded w.db w.db_mem
      | sent batch _ _ hbound _ => exact hbound
    · exact h.bounded snap hold

/-! ## Reachable states -/

theorem Reachable.start (clock : Nat) (deployment : Deployment) :
    Reachable (World.start clock deployment) :=
  ⟨clock, deployment, [], rfl⟩

theorem Reachable.after {w : World} (h : Reachable w) (calls : List Call) :
    Reachable (run step w calls) := by
  obtain ⟨clock, deployment, first, rfl⟩ := h
  exact ⟨clock, deployment, first ++ calls, (run_append _ first calls).symm⟩

theorem Reachable.step {w : World} (h : Reachable w) (call : Call) :
    Reachable (Server.step w call) :=
  h.after [call]

/-- What holds initially and is preserved by every step holds of every reachable state. -/
theorem Reachable.induction {P : World → Prop}
    (h0 : ∀ clock deployment, P (World.start clock deployment))
    (hstep : ∀ w call, Reachable w → P w → P (Server.step w call)) {w : World}
    (h : Reachable w) : P w := by
  obtain ⟨clock, deployment, calls, rfl⟩ := h
  have hinv := run_invariant (I := fun w => Reachable w ∧ P w)
    (fun w call hw => ⟨hw.1.step call, hstep w call hw.1 hw.2⟩) calls
    ⟨.start clock deployment, h0 clock deployment⟩
  exact hinv.2

theorem Reachable.sound {w : World} (h : Reachable w) : w.Sound :=
  h.induction World.start_sound fun _ call _ hw => step_sound call hw

/-- The step of a reachable state has a shape. -/
theorem Reachable.stepped {w : World} (h : Reachable w) (call : Call) :
    Stepped w call (Server.step w call) :=
  step_stepped call h.sound.agents

theorem Reachable.consistent {w : World} (h : Reachable w) : Consistent w.db :=
  h.sound.consistent _ w.db_mem

/-- The end of a run follows its beginning. -/
theorem run_follows {w : World} (h : Reachable w) (calls : List Call) :
    Follows w.db (run step w calls).db :=
  run_related (R := fun a b : World => Follows a.db b.db) (fun w => Follows.refl w.db)
    (fun _ _ _ => Follows.trans) (fun _ call hw => Reachable.step hw call)
    (fun _ call hw => (Reachable.stepped hw call).follows) calls h

/-- What a request does to the database: nothing, or what its batch does. -/
theorem step_service (w : World) (ages : List Nat) (request : ServiceRequest) :
    (Server.step w (.service ages request)).db = w.db ∨
      ∃ batch, w.isFresh request.uuids = true ∧
        request.batch w.deployment (w.reads ages) = .ok batch ∧
        runBatch w.db batch = some (Server.step w (.service ages request)).db := by
  unfold Server.step
  by_cases hfresh : w.isFresh (Call.service ages request).uuids = true
  · rw [if_pos hfresh]
    cases hbatch : request.batch w.deployment (w.reads ages) with
    | error e =>
        left
        simp [World.apply, World.perform, hbatch, World.draw]
    | ok batch =>
        cases hresult : w.result batch with
        | none =>
            left
            simp [World.apply, World.perform, hbatch, World.send, hresult, World.draw]
        | some db =>
            have hdb : (World.draw (w.apply (.service ages request))
                (Call.service ages request).uuids).db = db := by
              simp [World.apply, World.perform, hbatch, World.send, hresult, World.draw,
                World.commit]
            refine Or.inr ⟨batch, hfresh, rfl, ?_⟩
            rw [hdb]
            exact (World.result_eq_some.mp hresult).1
  · rw [if_neg hfresh]
    exact Or.inl rfl

/-- What the next write of an authentication does to the database. -/
theorem step_advanceAgent (w : World) (index : Nat) :
    (Server.step w (.advanceAgent index)).db = w.db ∨
      ∃ call, w.agentCalls[index]? = some call ∧
        runBatch w.db call.batch = some (Server.step w (.advanceAgent index)).db := by
  have hfresh : w.isFresh (Call.advanceAgent index).uuids = true := by
    simp [Call.uuids, World.isFresh]
  unfold Server.step
  rw [if_pos hfresh]
  cases hcall : w.agentCalls[index]? with
  | none =>
      left
      simp [World.apply, World.advanceAgent, hcall, World.draw]
  | some call =>
      cases hresult : w.result call.batch with
      | none =>
          left
          simp [World.apply, World.advanceAgent, hcall, hresult, World.draw]
      | some db =>
          have hdb : (World.draw (w.apply (.advanceAgent index))
              (Call.advanceAgent index).uuids).db = db := by
            simp [World.apply, World.advanceAgent, hcall, hresult, World.draw, World.commit]
          refine Or.inr ⟨call, rfl, ?_⟩
          rw [hdb]
          exact (World.result_eq_some.mp hresult).1

/--
The rule of database invariants: a property of database states that the clock
does not touch and that every sent batch preserves holds of all snapshots.
-/
theorem Reachable.snapshots {P : MarketplaceDb → Prop} (h0 : ∀ clock, P (.empty clock))
    (hclock : ∀ db instant, P db → P { db with clock := instant })
    (hsent : ∀ w call batch db, Reachable w → (∀ snap ∈ w.snapshots, P snap) →
      Sent w call batch → runBatch w.db batch = some db →
      (db.rows .marketplaceEvents).length ≤ maxSafeInteger → P db)
    {w : World} (h : Reachable w) : ∀ snap ∈ w.snapshots, P snap := by
  refine h.induction (P := fun w => ∀ snap ∈ w.snapshots, P snap) ?_ ?_
  · intro clock deployment
    simpa [World.snapshots, World.start] using h0 clock
  · intro w call hw ih snap hsnap
    have hstepped := hw.stepped call
    rcases hstepped.snapshots_eq hsnap with rfl | hold
    · cases hstepped with
      | idle hdb _ =>
          rw [hdb]
          exact ih _ w.db_mem
      | clock instant _ hdb _ =>
          rw [hdb]
          exact hclock w.db instant (ih _ w.db_mem)
      | sent batch hs hrun hbound _ => exact hsent w call batch _ hw ih hs hrun hbound
    · exact ih snap hold

/-- What every commanded statement preserves after a consistent state, a command preserves. -/
theorem Command.preserves {w : World} {call : Call} {batch : Batch} {P : MarketplaceDb → Prop}
    (hcommand : Command w call batch) {db : MarketplaceDb} (hsound : w.Sound)
    (hrun : runBatch w.db batch = some db)
    (hstatement : ∀ t s a b, Commanded w t s → Consistent a → Follows w.db a → P a →
      s.apply a = some b → P b) (h : P w.db) : P db := by
  have hall := runBatch_induction (P := fun d => Consistent d ∧ Follows w.db d ∧ P d) hrun
    ⟨hsound.consistent _ w.db_mem, Follows.refl _, h⟩
    fun s hs a b ha hb =>
      have hissued := hcommand.commanded s hs
      ⟨ha.1.apply hb, ha.2.1.trans ((Issued.commanded hissued).follows hb),
        hstatement s.table s a b hissued ha.1 ha.2.1 ha.2.2 hb⟩
  exact hall.2.2

/-- The same for all issued statements and all sent batches. -/
theorem Sent.preserves {w : World} {call : Call} {batch : Batch} {P : MarketplaceDb → Prop}
    (hsent : Sent w call batch) {db : MarketplaceDb} (hsound : w.Sound)
    (hrun : runBatch w.db batch = some db)
    (hstatement : ∀ t s a b, Issued w t s → Consistent a → Follows w.db a → P a →
      s.apply a = some b → P b) (h : P w.db) : P db := by
  have hall := runBatch_induction (P := fun d => Consistent d ∧ Follows w.db d ∧ P d) hrun
    ⟨hsound.consistent _ w.db_mem, Follows.refl _, h⟩
    fun s hs a b ha hb =>
      have hissued := hsent.issued s hs
      ⟨ha.1.apply hb, ha.2.1.trans (hissued.follows hb),
        hstatement s.table s a b hissued ha.1 ha.2.1 ha.2.2 hb⟩
  exact hall.2.2

/-! ## A sample run

A supplier registers, is approved, publishes an offer and goes online; a buyer
with its welcome credit runs one inference.
-/

def sampleDeployment : Deployment where
  settings := {}
  keyrings :=
    { credential := { activeKeyId := "credential-v3", otherKeyIds := [] }
      credentialLookup := { activeKeyId := "lookup-v3", otherKeyIds := [] } }

def sampleMember (name : String) (isAdmin : Bool) (h : "tenant-" ++ name ≠ "platform") :
    RequestIdentity where
  userId := "user-" ++ name
  tenantId := "tenant-" ++ name
  actorId := "actor-" ++ name
  isAdmin := isAdmin
  tenantId_ne_platform := h

def sampleSupplier : RequestIdentity := sampleMember "supplier" false (by decide)

def sampleReviewer : RequestIdentity := sampleMember "reviewer" true (by decide)

def sampleBuyer : RequestIdentity := sampleMember "buyer" false (by decide)

def sampleLimits : CapacityLimits where
  requestsPerMinute := 60
  tokensPerMinute := 100000
  concurrency := 2
  maxOutputTokens := 1000

def sampleRegistration : RegisterSupplierRequest where
  commandId := "register-1"
  kind := .individual
  legalName := "Sample Supplier"
  displayName := "Sample"
  countryCode := "CN"
  taxResidenceCountryCode := "CN"

/-- A bearer token of 43 characters. -/
def sampleToken : String := "abcdefghijklmnopqrstuvwxyz0123456789ABCDEFG"

def sampleSubmission (commandId token : String) : CreateAuthorizationRequest where
  commandId := commandId
  providerId := "provider-1"
  sourceType := .apiProject
  meteringMode := .providerReport
  evidenceRef := "evidence-1"
  modelPattern := "model-*"
  regionCode := "CN"
  dataClasses := [.p0, .p1]
  limits := sampleLimits
  validUntil := .ofInstant 86400000
  gatewayEndpoint := "https://node.example"
  gatewayBearerToken := token

def sampleOffer : CreateCapacityOfferRequest where
  commandId := "offer-1"
  authorizationRequestId := "authorization-request-a1"
  model := "model-a"
  dataClasses := [.p0]
  limits := sampleLimits
  priceMicrosPerMillionTokens := 2000000
  validUntil := .ofInstant 43200000

def sampleInference : RunInferenceRequest where
  model := "model-a"
  input := "hello"
  dataClass := .p0
  maxOutputTokens := 100
  privacyMode := .strict

def sampleResult : GatewayResult where
  output := "world"
  usage := ⟨10, 20, 30⟩
  evidence :=
    { providerId := "provider-1"
      requestedModel := "model-a"
      servedModel := "model-a"
      providerRequestId := "provider-request-1"
      evidenceDigest := "digest-1"
      outputSha256 := sha256Hex "world"
      usage := ⟨10, 20, 30⟩
      receiptRef := none
      completedAt := "1970-01-01T00:00:01.000Z" }

def sampleCalls : List Call :=
  [.service [] (.registerSupplierProfile sampleSupplier sampleRegistration "s1" "e1" "u1"),
    .service [] (.submitAuthorizationRequest sampleSupplier
      (sampleSubmission "submit-1" sampleToken) "a1" "iv1" "u2"),
    .service [] (.approveAuthorization sampleReviewer "authorization-request-a1" "review-1" none
      "r1" "u3" ["e2", "e3", "e4", "e5", "e6", "e7"]),
    .service [] (.createCapacityOffer sampleSupplier sampleOffer "o1" "e8" "u4"),
    .service [] (.setSupplyState sampleSupplier "supply-1" true "u5"),
    .service [] (.ensureUser sampleBuyer),
    .reserveInference [] sampleBuyer sampleInference "key-1" "j1",
    .dispatchInference 0,
    .settleInference [] 0 sampleResult "iv2" ⟨"c1", "c2", "c3", "c4", "c5", "c6"⟩]

/-- The state after the first calls of the sample run. -/
def sampleWorld (n : Nat) : World :=
  run step (World.start 1000 sampleDeployment) (sampleCalls.take n)

theorem sampleWorld_reachable (n : Nat) : Reachable (sampleWorld n) :=
  ⟨1000, sampleDeployment, sampleCalls.take n, rfl⟩

def sampleAgent : AgentAuthorizationIdentity where
  credentialDigest := sha256Hex sampleToken
  gatewayToken := sampleToken
  supplierTenantId := "tenant-supplier"
  supplierId := "supplier-s1"
  signedJobId := "job"
  authorizations :=
    [{ requestId := "authorization-request-a1"
       authorizationRevision := 1
       providerId := "provider-1"
       modelPattern := "model-a" }]

def sampleWorker (workerId : String) : ArtifactTaskClaimRequest where
  workerId := workerId
  providerId := "provider-1"
  allowedModels := ["model-a"]
  supportedMediaTypes := ["text/plain"]
  maxArtifactBytes := 1000000

def sampleChunk : ArtifactChunkRow where
  artifactId := "artifact-f1"
  tenantId := "tenant-buyer"
  partNumber := 1
  sizeBytes := 5
  plaintextSha256 := sha256Hex "hello"
  ciphertextSha256 := sha256Hex "sealed"
  storageKey := "object-1"
  iv := "iv3"
  uploadStatus := .pending
  uploadedAt := 1000

def sampleTask : CreateArtifactTaskRequest where
  artifactId := "artifact-f1"
  model := "model-a"
  instruction := "summarize"
  dataClass := .p0
  maxOutputTokens := 100
  maxTotalTokens := 1000

def sampleUpload : CreateArtifactUploadRequest where
  fileName := "a.txt"
  mediaType := "text/plain"
  sizeBytes := 5
  privacyMode := .standard

def sampleCheckpoint : ArtifactTaskCheckpointRequest where
  taskId := "artifact-task-t1"
  leaseToken := "lease-1"
  completedSegments := 1
  totalSegments := 1
  processedBytes := 5
  usage := ⟨10, 20, 30⟩

/-- The buyer uploads a file, a worker executes a task on it and the buyer cancels. -/
def sampleArtifactCalls : List Call :=
  [.service [] (.createArtifactUpload sampleBuyer sampleUpload "f1" "u6"),
    .service [] (.writeChunk (.claim sampleChunk)),
    .service [] (.writeChunk (.finalize sampleChunk)),
    .service [] (.completeArtifactUpload sampleBuyer "artifact-f1" (sha256Hex "manifest") "u7"),
    .service [] (.registerHeartbeat sampleAgent (sampleWorker "worker-1")),
    .service [] (.createArtifactTask sampleBuyer sampleTask "key-2" "t1" "iv4" "u8"),
    .service [] (.claimArtifactTask sampleAgent (sampleWorker "worker-1") "lease-1"),
    .service [] (.checkpointArtifactTask sampleAgent sampleCheckpoint "k1"),
    .service [] (.bindCancellation sampleBuyer "artifact-task-t1" "cancel-1"),
    .service [] (.cancelArtifactTask sampleBuyer "artifact-task-t1" "cancel-1" "x1" "u9")]

/-- The state after the first calls of the sample task. -/
def sampleArtifactWorld (n : Nat) : World :=
  run step (sampleWorld 6) (sampleArtifactCalls.take n)

theorem sampleArtifactWorld_reachable (n : Nat) : Reachable (sampleArtifactWorld n) :=
  (sampleWorld_reachable 6).after (sampleArtifactCalls.take n)

end Server
end TokenStreaming
