import TokenStreaming.Domain.SettlementBounds
import TokenStreaming.Domain.TextSizes
import TokenStreaming.Gateway.EvidenceAgreement
import TokenStreaming.Server.ArtifactIntake
import TokenStreaming.Server.Origins

/-!
# Control plane - Charges stay within their reservations

An inference reserves the price of an estimated input and the whole output, an artifact
task the price of its total; both are later settled for the tokens the supplier reports.
The checks on a report bound its tokens by what was reserved, at the same price, so the
last check of a settlement never fails.  The checks on requests bound every reservation.

Main results:

- Theorem {lit}`settleInference_within`: an answer the gateway call accepts is settled
  within its reservation.
- Theorem {lit}`Reachable.tasksPriced`: every task reserves the price of its total.
- Theorem {lit}`Reachable.chargesCovered`: no recorded charge exceeds its reservation.
- Theorem {lit}`AdmittedRun.amountsFit`: reservations fit a signed 64-bit integer.
-/

namespace TokenStreaming
namespace Server

open Relational Domain Gateway TransitionSystem
open Json (JsonValue)
open SupplierNode (SupplierGatewayUsage integerMember)

/-! ## Errors -/

theorem Except.bind_eq_error {ε α β : Type} {x : Except ε α} {f : α → Except ε β} {e : ε} :
    (x >>= f) = .error e ↔ x = .error e ∨ ∃ a, x = .ok a ∧ f a = .error e := by
  cases x with
  | error e' => simp [bind, Except.bind]
  | ok a => simp [bind, Except.bind]

theorem demand_eq_error {condition : Bool} {error e : ApiError} :
    demand condition error = .error e ↔ condition = false ∧ error = e := by
  unfold demand
  cases condition <;> simp

theorem found_eq_error {α : Type} {row : Option α} {error e : ApiError} :
    found row error = .error e ↔ row = none ∧ error = e := by
  unfold found
  cases row <;> simp

theorem uncaught_eq_error {α : Type} {result : Checked α} {e : ApiError}
    (h : uncaught result = .error e) : internalError = e := by
  cases result with
  | error _ => exact Except.error.inj h
  | ok _ => cases h

/-! ## Inference -/

/-- The token counts of an answer, as the settlement takes them. -/
def tokenCounts (usage : SupplierGatewayUsage) : GatewayUsage where
  inputTokens := usage.inputTokens.toNat
  outputTokens := usage.outputTokens.toNat
  totalTokens := usage.totalTokens.toNat

theorem positiveSafeInteger_nonneg {members : List (String × JsonValue)} {name label : String}
    {allowZero : Bool} {value : Int} (h : positiveSafeInteger members name label allowZero = .ok value) :
    0 ≤ value := by
  cases hmember : integerMember members name with
  | none =>
      unfold positiveSafeInteger at h
      rw [hmember] at h
      cases h
  | some n =>
      obtain ⟨⟨hmin, -⟩, rfl⟩ := (positiveSafeInteger_eq_ok hmember).mp h
      refine Int.le_trans ?_ hmin
      split <;> decide

/-- An accepted answer reports the sum of its input and its output. -/
theorem readResponse_total {call : GatewayCall} {dates : DateParser} {verifiedAt status : Nat}
    {raw : String} {answer : GatewayAnswer}
    (h : call.readResponse dates verifiedAt status raw = .ok answer) :
    (tokenCounts answer.usage).totalTokens =
      (tokenCounts answer.usage).inputTokens + (tokenCounts answer.usage).outputTokens := by
  unfold GatewayCall.readResponse at h
  simp only [Except.bind_eq_ok, demand_eq_ok, exists_unit] at h
  obtain ⟨-, -, h⟩ := h
  split at h
  · cases h
  · split at h
    · rename_i usage _
      simp only [GatewayCall.readMembers, Except.bind_eq_ok, demand_eq_ok, exists_unit,
        Except.pure_eq_ok, beq_iff_eq] at h
      obtain ⟨-, -, output, -, input, hinput, used, hused, total, -, hsum, signature, -, evidence, -,
        rfl⟩ := h
      have hinput0 := positiveSafeInteger_nonneg hinput
      have hused0 := positiveSafeInteger_nonneg hused
      simp only [tokenCounts]
      omega
    · cases h
  · cases h

/-- What a reservation computes. -/
theorem reserveInference_estimate {reads : Reads} {policy : MarketplaceRuntimePolicy}
    {identity : RequestIdentity} {input : RunInferenceRequest} {idempotencyKey jobUuid : String}
    {run : InferenceRun} {batch : Batch}
    (h : reserveInference reads policy identity input idempotencyKey jobUuid =
      .ok (some (run, batch))) :
    run.input = input ∧ run.estimatedInputTokens = max 1 input.input.utf8ByteSize ∧
      estimateMaximumChargeMicros (run.estimatedInputTokens + 256) run.input.maxOutputTokens
        run.selected.offer.priceMicrosPerMillionTokens = .ok run.estimatedCharge := by
  unfold reserveInference at h
  split at h
  · cases h
  · simp only [Except.bind_eq_ok, demand_eq_ok, exists_unit, uncaught_eq_ok, Except.pure_eq_ok,
      Option.some.injEq, Prod.mk.injEq] at h
    obtain ⟨selected, -, -, charge, hcharge, rfl, -⟩ := h
    exact ⟨rfl, rfl, hcharge⟩

/-- Usage within the bounds of a reservation costs no more than the reservation. -/
theorem InferenceRun.charge_le {run : InferenceRun}
    (hestimate : estimateMaximumChargeMicros (run.estimatedInputTokens + 256)
      run.input.maxOutputTokens run.selected.offer.priceMicrosPerMillionTokens =
        .ok run.estimatedCharge)
    {usage : GatewayUsage} (htotal : usage.totalTokens = usage.inputTokens + usage.outputTokens)
    (hinput : usage.inputTokens ≤ run.estimatedInputTokens + 256)
    (houtput : usage.outputTokens ≤ run.input.maxOutputTokens) {platformFeeBps : Nat}
    {amounts : SettlementAmounts}
    (hamounts : calculateSettlement
      { totalTokens := usage.totalTokens
        priceMicrosPerMillionTokens := run.selected.offer.priceMicrosPerMillionTokens
        platformFeeBps := platformFeeBps } = .ok amounts) :
    amounts.buyerChargeMicros ≤ run.estimatedCharge := by
  refine @charge_le_estimate ⟨usage.totalTokens,
    run.selected.offer.priceMicrosPerMillionTokens, platformFeeBps⟩ _ _ _ _ hestimate hamounts ?_
  simp only [htotal]
  exact Nat.add_le_add hinput houtput

/-- The settlement of an answer the gateway call accepted never meets a charge above its
reservation. -/
theorem settleInference_within {run : InferenceRun}
    (hestimate : estimateMaximumChargeMicros (run.estimatedInputTokens + 256)
      run.input.maxOutputTokens run.selected.offer.priceMicrosPerMillionTokens =
        .ok run.estimatedCharge)
    {result : GatewayResult}
    (htotal : result.usage.totalTokens = result.usage.inputTokens + result.usage.outputTokens)
    (reads : Reads) (keyrings : ResolvedKeyring) (policy : MarketplaceRuntimePolicy)
    (outputIv : String) :
    settleInference reads keyrings policy run result outputIv ≠
      .error (gatewayFailed "最终计量超过请求预留上限，平台已阻止记账。") := by
  intro h
  have hcode : internalError ≠ gatewayFailed "最终计量超过请求预留上限，平台已阻止记账。" := by
    simp [internalError, gatewayFailed]
  unfold settleInference at h
  rcases Except.bind_eq_error.mp h with htoken | ⟨_, -, h⟩
  · exact hcode (found_eq_error.mp htoken).2
  rcases Except.bind_eq_error.mp h with hinput | ⟨_, hinput, h⟩
  · have hmessage := congrArg ApiError.message (demand_eq_error.mp hinput).2
    simp [gatewayFailed] at hmessage
  rcases Except.bind_eq_error.mp h with houtput | ⟨_, houtput, h⟩
  · have hmessage := congrArg ApiError.message (demand_eq_error.mp houtput).2
    simp [gatewayFailed] at hmessage
  rcases Except.bind_eq_error.mp h with hamounts | ⟨amounts, hamounts, h⟩
  · exact hcode (uncaught_eq_error hamounts)
  rcases Except.bind_eq_error.mp h with hcharge | ⟨_, -, h⟩
  · have hle := InferenceRun.charge_le hestimate htotal
      (of_decide_eq_true (demand_eq_ok.mp hinput)) (of_decide_eq_true (demand_eq_ok.mp houtput))
      (uncaught_eq_ok.mp hamounts)
    have hfalse := (demand_eq_error.mp hcharge).1
    rw [decide_eq_true hle] at hfalse
    cases hfalse
  · cases h

/-! ## Artifact tasks -/

theorem validateUsage_eq_ok {usage : GatewayUsage} {maximumTotalTokens : Nat} {u : Unit} :
    validateUsage usage maximumTotalTokens = .ok u ↔
      usage.totalTokens ≤ maximumTotalTokens ∧
        usage.totalTokens = usage.inputTokens + usage.outputTokens := by
  simp [validateUsage]

/-- Every task reserved the price of its total at the price of its offer. -/
def TasksPriced (db : MarketplaceDb) : Prop :=
  ∀ task ∈ db.rows .artifactTasks, ∃ offer ∈ db.rows .capacityOffers,
    offer.offerId = task.offerId ∧
      estimateArtifactMaximumChargeMicros task.maxTotalTokens offer.priceMicrosPerMillionTokens =
        .ok task.reservedChargeMicros

/-- A moved task keeps what it was priced by. -/
theorem TasksPriced.moved {a b : MarketplaceDb} (h : TasksPriced a) (hfollows : Follows a b)
    {old task : ArtifactTaskRow} (hold : old ∈ a.rows .artifactTasks) (hmove : TaskMove old task) :
    ∃ offer ∈ b.rows .capacityOffers, offer.offerId = task.offerId ∧
      estimateArtifactMaximumChargeMicros task.maxTotalTokens offer.priceMicrosPerMillionTokens =
        .ok task.reservedChargeMicros := by
  obtain ⟨offer, hoffer, hid, hestimate⟩ := h old hold
  have hofferId : task.offerId = old.offerId := congrArg TaskTerms.offerId hmove.terms
  have htotal : task.maxTotalTokens = old.maxTotalTokens :=
    congrArg TaskTerms.maxTotalTokens hmove.terms
  have hcharge : task.reservedChargeMicros = old.reservedChargeMicros :=
    congrArg TaskTerms.reservedChargeMicros hmove.terms
  refine ⟨offer, hfollows.mem rfl hoffer, hid.trans hofferId.symm, ?_⟩
  rw [htotal, hcharge]
  exact hestimate

theorem Reachable.tasksPriced {w : World} (h : Reachable w) :
    ∀ snap ∈ w.snapshots, TasksPriced snap := by
  refine h.admittedRun.snapshots ?_ (fun _ _ hdb => hdb) ?_
  · intro clock task htask
    cases htask
  · intro w call batch db hw _ ih hsends _ hrun hfollows task htask
    rcases hsends.task_origin hrun hfollows task htask with ⟨old, hold, hmove⟩ |
      ⟨ages, identity, input, idempotencyKey, taskUuid, iv, auditUuid, rfl, hreserved⟩
    · exact (ih _ w.db_mem).moved hfollows hold hmove
    · obtain ⟨selected, artifact, charge, hoffer, -, hcharge, rfl⟩ := hreserved.row
      have hstored : selected.offer ∈ db.rows .capacityOffers :=
        hfollows.mem rfl ((hw.reachable.sound.follows _ (w.reads_mem ages 4)).mem rfl hoffer)
      exact ⟨selected.offer, hstored, rfl, hcharge⟩

/-- Usage a task's bound admits costs no more than the task reserved. -/
theorem TasksPriced.charge_le {db : MarketplaceDb} (hconsistent : Consistent db)
    (hpriced : TasksPriced db) {task : ArtifactTaskRow} {offer : OfferRow}
    (htask : task ∈ db.rows .artifactTasks) (hoffer : offer ∈ db.rows .capacityOffers)
    (hid : offer.offerId = task.offerId) {usage : GatewayUsage}
    (husage : validateUsage usage task.maxTotalTokens = .ok ()) {platformFeeBps : Nat}
    {amounts : SettlementAmounts}
    (hamounts : calculateSettlement
      { totalTokens := usage.totalTokens
        priceMicrosPerMillionTokens := offer.priceMicrosPerMillionTokens
        platformFeeBps := platformFeeBps } = .ok amounts) :
    amounts.buyerChargeMicros ≤ task.reservedChargeMicros := by
  obtain ⟨priced, hmem, hpricedId, hestimate⟩ := hpriced task htask
  obtain rfl : offer = priced := offer_unique hconsistent hoffer hmem (hid.trans hpricedId.symm)
  exact @charge_le_artifactEstimate ⟨usage.totalTokens, offer.priceMicrosPerMillionTokens,
    platformFeeBps⟩ _ _ _ hestimate hamounts (validateUsage_eq_ok.mp husage).1

/-- The row a leased task is read from joins it with its stored offer. -/
theorem workerTaskRows_mem {db : MarketplaceDb} {tasks : List ArtifactTaskRow} {row : WorkerTaskRow}
    (h : row ∈ workerTaskRows db tasks) :
    row.task ∈ tasks ∧ row.artifact ∈ db.rows .artifacts ∧
      row.offer ∈ db.rows .capacityOffers ∧ row.joins = true := by
  simp only [workerTaskRows, List.mem_filter, List.mem_flatMap, List.mem_map] at h
  obtain ⟨⟨task, htask, artifact, hartifact, offer, hoffer, rfl⟩, hjoins⟩ := h
  exact ⟨htask, hartifact, hoffer, hjoins⟩

/-- A completion never meets a charge above the reservation of its task. -/
theorem completeArtifactTask_within {reads : Reads} {identity : AgentAuthorizationIdentity}
    {input : ArtifactTaskCompleteRequest} (hconsistent : Consistent (reads 1))
    (hpriced : TasksPriced (reads 1)) (policy : MarketplaceRuntimePolicy) (outputIv : String) :
    completeArtifactTask reads policy identity input outputIv ≠
      .error (integrityFailed "最终费用超过任务预留上限。") := by
  intro h
  unfold completeArtifactTask at h
  rcases Except.bind_eq_error.mp h with hlease | ⟨row, hlease, h⟩
  · have hcode : invalidLease.code = "ARTIFACT_INTEGRITY_FAILED" := by
      unfold requireLeasedTask at hlease
      rcases Except.bind_eq_error.mp hlease with hfound | ⟨_, -, hlease⟩
      · exact congrArg ApiError.code (found_eq_error.mp hfound).2
      · rcases Except.bind_eq_error.mp hlease with hdemand | ⟨_, -, hlease⟩
        · exact congrArg ApiError.code (demand_eq_error.mp hdemand).2
        · cases hlease
    revert hcode
    decide
  rcases Except.bind_eq_error.mp h with husage | ⟨_, husage, h⟩
  · have hcode := congrArg ApiError.code (demand_eq_error.mp husage).2
    revert hcode
    simp [integrityFailed]
  rcases Except.bind_eq_error.mp h with hbytes | ⟨_, -, h⟩
  · have hmessage := congrArg ApiError.message (demand_eq_error.mp hbytes).2
    simp [integrityFailed] at hmessage
  rcases Except.bind_eq_error.mp h with hsegments | ⟨_, -, h⟩
  · have hmessage := congrArg ApiError.message (demand_eq_error.mp hsegments).2
    simp [integrityFailed] at hmessage
  rcases Except.bind_eq_error.mp h with htokens | ⟨_, -, h⟩
  · have hmessage := congrArg ApiError.message (demand_eq_error.mp htokens).2
    simp [integrityFailed] at hmessage
  rcases Except.bind_eq_error.mp h with hamounts | ⟨amounts, hamounts, h⟩
  · have hcode := congrArg ApiError.code (uncaught_eq_error hamounts)
    simp [internalError, integrityFailed] at hcode
  rcases Except.bind_eq_error.mp h with hcharge | ⟨_, -, h⟩
  · unfold requireLeasedTask at hlease
    obtain ⟨found, hfound, hlease⟩ := Except.bind_eq_ok.mp hlease
    obtain ⟨_, -, hlease⟩ := Except.bind_eq_ok.mp hlease
    obtain rfl := Except.ok.inj hlease
    obtain ⟨htask, -, hoffer, hjoins⟩ :=
      workerTaskRows_mem (List.mem_of_find?_eq_some (found_eq_ok.mp hfound))
    simp only [WorkerTaskRow.joins, Bool.and_eq_true, beq_iff_eq] at hjoins
    have hle := hpriced.charge_le hconsistent htask hoffer hjoins.1.1.2 husage
      (uncaught_eq_ok.mp hamounts)
    have hfalse := (demand_eq_error.mp hcharge).1
    rw [decide_eq_true hle] at hfalse
    cases hfalse
  · cases h

/-! ## Recorded charges -/

/-- A recorded charge stays below the reservation of its inference. -/
def InferenceJobRow.IsCovered (job : InferenceJobRow) : Prop :=
  ∀ charge, job.chargeMicros = some charge → charge ≤ job.reservedChargeMicros

/-- A recorded charge stays below the reservation of its task. -/
def ArtifactTaskRow.IsCovered (task : ArtifactTaskRow) : Prop :=
  ∀ charge, task.chargeMicros = some charge → charge ≤ task.reservedChargeMicros

theorem JobQuiet.chargeMicros {a b : InferenceJobRow} (h : JobQuiet a b) :
    b.chargeMicros = a.chargeMicros := by
  by_cases hcompleted : b.status = .completed
  · have hended : a.status.isActive = false := by
      rw [h.notCompleted hcompleted]
      rfl
    exact (h.settled hended).1
  · exact h.charge hcompleted

theorem TaskQuiet.chargeMicros {a b : ArtifactTaskRow} (h : TaskQuiet a b) :
    b.chargeMicros = a.chargeMicros := by
  by_cases hcompleted : b.status = .completed
  · have hended : a.phase.isOver = true := by
      rw [a.phase_isOver, h.notCompleted hcompleted]
      rfl
    exact (h.settled hended).1
  · exact h.charge hcompleted

theorem InferenceJobRow.IsCovered.of_same {a b : InferenceJobRow} (h : a.IsCovered)
    (hterms : b.terms = a.terms) (hcharge : b.chargeMicros = a.chargeMicros) : b.IsCovered := by
  intro charge hsome
  have hreserved : b.reservedChargeMicros = a.reservedChargeMicros :=
    congrArg JobTerms.reservedChargeMicros hterms
  rw [hreserved]
  exact h charge (hcharge.symm.trans hsome)

theorem ArtifactTaskRow.IsCovered.of_same {a b : ArtifactTaskRow} (h : a.IsCovered)
    (hterms : b.terms = a.terms) (hcharge : b.chargeMicros = a.chargeMicros) : b.IsCovered := by
  intro charge hsome
  have hreserved : b.reservedChargeMicros = a.reservedChargeMicros :=
    congrArg TaskTerms.reservedChargeMicros hterms
  rw [hreserved]
  exact h charge (hcharge.symm.trans hsome)

/-- Every statement keeps the charges of inferences covered. -/
theorem Issued.jobs_covered {w : World} {t : MarketplaceTable} {s : MarketplaceStatement}
    (h : Issued w t s) (db : MarketplaceDb) :
    s.Respects db .inferenceJobs (fun a b => a.IsCovered → b.IsCovered)
      InferenceJobRow.IsCovered := by
  by_cases ht : t = .inferenceJobs
  · subst ht
    rcases h.job_cases with hs | ⟨c, rfl⟩
    · intro db' hdb
      refine (hs.respects db db' hdb).mono (fun a b _ hmove ha => ?_) fun job hnew charge hsome => ?_
      · exact ha.of_same hmove.terms hmove.chargeMicros
      · obtain ⟨d, hnew⟩ := hnew
        rw [hnew.uncharged] at hsome
        cases hsome
    · refine Statement.update_respects (fun _ hr => hr) fun job _ hadmits _ charge hsome => ?_
      simp only [InferenceCompletion.admits, Bool.and_eq_true, decide_eq_true_eq] at hadmits
      obtain rfl : c.chargeMicros = charge := Option.some.inj hsome
      exact hadmits.1.2
  · refine Statement.respects_of_ne (fun _ hr => hr) ?_
    rw [h.table_eq]
    exact fun hne => ht hne.symm

/-- Every statement keeps the charges of tasks covered. -/
theorem Issued.tasks_covered {w : World} {t : MarketplaceTable} {s : MarketplaceStatement}
    (h : Issued w t s) (db : MarketplaceDb) :
    s.Respects db .artifactTasks (fun a b => a.IsCovered → b.IsCovered)
      ArtifactTaskRow.IsCovered := by
  by_cases ht : t = .artifactTasks
  · subst ht
    rcases h.task_cases with hs | ⟨c, rfl⟩
    · cases hs with
      | reserve task d maximumActiveTasks hnew _ _ =>
          refine Statement.insertOrIgnore_respects (fun _ hr => hr) fun r hr => ?_
          split at hr
          · intro charge hsome
            rw [List.mem_singleton.mp hr, hnew.uncharged] at hsome
            cases hsome
          · cases hr
      | claim c => exact Statement.update_respects (fun _ hr => hr) fun _ _ _ hr => hr
      | quiet selects assign hquiet =>
          refine Statement.update_respects (fun _ hr => hr) fun r _ hr hcovered => ?_
          exact hcovered.of_same (hquiet db r hr).terms (hquiet db r hr).chargeMicros
    · refine Statement.update_respects (fun _ hr => hr) fun task _ hadmits _ charge hsome => ?_
      simp only [ArtifactCompletion.admits, Bool.and_eq_true, decide_eq_true_eq] at hadmits
      obtain rfl : c.chargeMicros = charge := Option.some.inj hsome
      exact hadmits.1.2
  · refine Statement.respects_of_ne (fun _ hr => hr) ?_
    rw [h.table_eq]
    exact fun hne => ht hne.symm

/-- No recorded charge exceeds what was reserved for it. -/
structure ChargesCovered (db : MarketplaceDb) : Prop where
  jobs : ∀ job ∈ db.rows .inferenceJobs, job.IsCovered
  tasks : ∀ task ∈ db.rows .artifactTasks, task.IsCovered

/-- In a table that respects a property, every row has it. -/
theorem Evolves.forall_mem {α : Type} {P : α → Prop} {old new : List α}
    (h : Evolves (fun a b => P a → P b) P old new) (hold : ∀ r ∈ old, P r) : ∀ r ∈ new, P r := by
  intro r hr
  rcases h.of_mem_new hr with ⟨a, ha, hmove⟩ | hnew
  · exact hmove (hold a ha)
  · exact hnew

theorem Reachable.chargesCovered {w : World} (h : Reachable w) :
    ∀ snap ∈ w.snapshots, ChargesCovered snap := by
  refine h.snapshots (fun clock => ⟨by simp [MarketplaceDb.empty], by simp [MarketplaceDb.empty]⟩)
    (fun _ _ hdb => ⟨hdb.jobs, hdb.tasks⟩) ?_
  intro w call batch db hw ih hsent hrun _
  refine hsent.preserves hw.sound hrun (fun t s a b hissued _ _ ha hs => ?_) (ih _ w.db_mem)
  exact ⟨Evolves.forall_mem (hissued.jobs_covered a b hs) ha.jobs,
    Evolves.forall_mem (hissued.tasks_covered a b hs) ha.tasks⟩

/-! ## Amounts of admitted calls -/

/-- {lit}`/^[1-9][0-9]{0,15}$/` of {lit}`assertPositiveIntegerString`. -/
def isPositiveIntegerString (value : String) : Bool :=
  match value.toList with
  | [] => false
  | first :: rest =>
      '1' ≤ first && first ≤ '9' && rest.length ≤ 15 && rest.all fun c => c.isDigit

/-- The input of the call passed the checks its request makes on it. -/
def Call.PassesInputChecks : Call → Prop
  | .service _ (.createCapacityOffer _ input _ _ _) =>
      ∃ text, isPositiveIntegerString text = true ∧
        input.priceMicrosPerMillionTokens = Nat.ofDigitChars 10 text.toList 0
  | .service _ (.createArtifactTask _ input _ _ _ _) =>
      ∃ body, normalizeArtifactTask body = .ok input
  | .reserveInference _ _ input _ _ => validateInferenceInput input = .ok ()
  | _ => True

theorem isPositiveIntegerString_lt {value : String} (h : isPositiveIntegerString value = true) :
    Nat.ofDigitChars 10 value.toList 0 < 10 ^ 16 := by
  unfold isPositiveIntegerString at h
  cases hvalue : value.toList with
  | nil => simp [hvalue] at h
  | cons first rest =>
      simp only [hvalue, Bool.and_eq_true, decide_eq_true_eq, List.all_eq_true] at h
      obtain ⟨⟨⟨hmin, hmax⟩, hlength⟩, hdigits⟩ := h
      have hall : ∀ c ∈ first :: rest, c.isDigit = true := by
        intro c hc
        rcases List.mem_cons.mp hc with rfl | hc
        · simp only [Char.isDigit, Bool.and_eq_true, decide_eq_true_eq]
          exact ⟨Char.le_trans (by decide) hmin, hmax⟩
        · exact hdigits c hc
      have hlt := SupplierNode.ofDigitChars_lt hall (show 0 < 10 ^ 0 by decide)
      refine Nat.lt_of_lt_of_le hlt (Nat.pow_le_pow_right (by decide) ?_)
      simp only [List.length_cons]
      omega

/-- Every stored amount fits a signed 64-bit integer. -/
structure AmountsFit (db : MarketplaceDb) : Prop where
  prices : ∀ offer ∈ db.rows .capacityOffers, offer.priceMicrosPerMillionTokens < 10 ^ 16
  jobs : ∀ job ∈ db.rows .inferenceJobs, job.reservedChargeMicros < 2 ^ 63
  tasks : ∀ task ∈ db.rows .artifactTasks, task.reservedChargeMicros < 2 ^ 63

/-- The reservation of an admitted inference at an admitted price. -/
theorem inference_estimate_lt {input : RunInferenceRequest} {price charge : Nat}
    (hinput : validateInferenceInput input = .ok ()) (hprice : price < 10 ^ 16)
    (h : estimateMaximumChargeMicros (max 1 input.input.utf8ByteSize + 256) input.maxOutputTokens
      price = .ok charge) : charge < 2 ^ 63 := by
  simp only [validateInferenceInput, Except.bind_eq_ok, demand_eq_ok, exists_unit,
    Bool.and_eq_true, decide_eq_true_eq] at hinput
  obtain ⟨-, ⟨-, hlength⟩, -, -, houtput⟩ := hinput
  have hbytes := utf8ByteSize_le input.input
  have htokens : max 1 (max 1 input.input.utf8ByteSize + 256 + input.maxOutputTokens) ≤ 153024 := by
    omega
  have hproduct := Nat.mul_le_mul htokens (Nat.le_of_lt hprice)
  have hbound : 153024 * 10 ^ 16 ≤ 10 ^ 17 * 1000000 := by norm_num
  have hle := estimateMaximumChargeMicros_le h (hproduct.trans hbound)
  exact Nat.lt_of_le_of_lt hle (by norm_num)

/-- The reservation of an admitted artifact task at an admitted price. -/
theorem artifact_estimate_lt {body input : CreateArtifactTaskRequest} {price charge : Nat}
    (hinput : normalizeArtifactTask body = .ok input) (hprice : price < 10 ^ 16)
    (h : estimateArtifactMaximumChargeMicros input.maxTotalTokens price = .ok charge) :
    charge < 2 ^ 63 := by
  obtain ⟨haccepted, rfl⟩ := normalizeArtifactTask_eq_ok.mp hinput
  have htotal : body.trimmed.maxTotalTokens ≤ 10000000 := haccepted.maxTotalTokens.2
  have hproduct := Nat.mul_le_mul htotal (Nat.le_of_lt hprice)
  have hbound : 10000000 * 10 ^ 16 ≤ 10 ^ 17 * 1000000 := by norm_num
  have hle := estimateArtifactMaximumChargeMicros_le h (hproduct.trans hbound)
  exact Nat.lt_of_le_of_lt hle (by norm_num)

/-- Calls whose inputs passed their checks only store amounts that fit. -/
theorem AdmittedRun.amountsFit {w : World} (h : AdmittedRun Call.PassesInputChecks w) :
    ∀ snap ∈ w.snapshots, AmountsFit snap := by
  refine h.snapshots ?_ (fun _ _ hdb => ⟨hdb.prices, hdb.jobs, hdb.tasks⟩) ?_
  · intro clock
    exact ⟨by simp [MarketplaceDb.empty], by simp [MarketplaceDb.empty],
      by simp [MarketplaceDb.empty]⟩
  · intro w call batch db hw hadmits ih hsends _ hrun hfollows
    have hfit := ih _ w.db_mem
    refine ⟨fun offer hoffer => ?_, fun job hjob => ?_, fun task htask => ?_⟩
    · rcases hsends.offer_origin hrun hfollows offer hoffer with hold |
        ⟨ages, identity, input, offerUuid, eventUuid, auditUuid, rfl, hprice⟩
      · exact hfit.prices offer hold
      · obtain ⟨text, htext, hvalue⟩ := hadmits
        rw [hprice, hvalue]
        exact isPositiveIntegerString_lt htext
    · rcases hsends.job_origin hrun hfollows job hjob with ⟨old, hold, hmove⟩ |
        ⟨ages, identity, input, idempotencyKey, jobUuid, run, expires, rfl, hreserve, rfl⟩
      · rw [show job.reservedChargeMicros = old.reservedChargeMicros from
          congrArg JobTerms.reservedChargeMicros hmove.terms]
        exact hfit.jobs old hold
      · obtain ⟨rfl, htokens, hestimate⟩ := reserveInference_estimate hreserve
        have hoffer := (reserveInference_eq_ok hreserve).2.1
        rw [htokens] at hestimate
        exact inference_estimate_lt hadmits ((ih _ (w.reads_mem ages 2)).prices _ hoffer) hestimate
    · rcases hsends.task_origin hrun hfollows task htask with ⟨old, hold, hmove⟩ |
        ⟨ages, identity, input, idempotencyKey, taskUuid, iv, auditUuid, rfl, hreserved⟩
      · rw [show task.reservedChargeMicros = old.reservedChargeMicros from
          congrArg TaskTerms.reservedChargeMicros hmove.terms]
        exact hfit.tasks old hold
      · obtain ⟨body, hbody⟩ := hadmits
        obtain ⟨selected, artifact, charge, hoffer, -, hestimate, rfl⟩ := hreserved.row
        exact artifact_estimate_lt hbody ((ih _ (w.reads_mem ages 4)).prices _ hoffer) hestimate

/-! ## The guarantees together -/

/-- What an inference within its checks costs. -/
structure InferenceWithin (run : InferenceRun) (result : GatewayResult) : Prop where
  reserved : estimateMaximumChargeMicros (run.estimatedInputTokens + 256)
    run.input.maxOutputTokens run.selected.offer.priceMicrosPerMillionTokens =
      .ok run.estimatedCharge
  charge : result.usage.inputTokens ≤ run.estimatedInputTokens + 256 →
    result.usage.outputTokens ≤ run.input.maxOutputTokens →
    ∀ platformFeeBps amounts, calculateSettlement
        { totalTokens := result.usage.totalTokens
          priceMicrosPerMillionTokens := run.selected.offer.priceMicrosPerMillionTokens
          platformFeeBps := platformFeeBps } = .ok amounts →
      amounts.buyerChargeMicros ≤ run.estimatedCharge
  unreachable : ∀ reads keyrings policy outputIv,
    settleInference reads keyrings policy run result outputIv ≠
      .error (gatewayFailed "最终计量超过请求预留上限，平台已阻止记账。")

/-- What an artifact task within its checks costs. -/
structure TaskWithin (offer : OfferRow) (task : ArtifactTaskRow) : Prop where
  reserved : estimateArtifactMaximumChargeMicros task.maxTotalTokens
    offer.priceMicrosPerMillionTokens = .ok task.reservedChargeMicros
  charge : ∀ usage, validateUsage usage task.maxTotalTokens = .ok () →
    ∀ platformFeeBps amounts, calculateSettlement
        { totalTokens := usage.totalTokens
          priceMicrosPerMillionTokens := offer.priceMicrosPerMillionTokens
          platformFeeBps := platformFeeBps } = .ok amounts →
      amounts.buyerChargeMicros ≤ task.reservedChargeMicros

theorem inference_within {reads : Reads} {policy : MarketplaceRuntimePolicy}
    {identity : RequestIdentity} {input : RunInferenceRequest} {idempotencyKey jobUuid : String}
    {run : InferenceRun} {batch : Batch}
    (hreserve : reserveInference reads policy identity input idempotencyKey jobUuid =
      .ok (some (run, batch)))
    {call : GatewayCall} {dates : DateParser} {verifiedAt status : Nat} {raw : String}
    {answer : GatewayAnswer} (hanswer : call.readResponse dates verifiedAt status raw = .ok answer)
    {result : GatewayResult} (husage : result.usage = tokenCounts answer.usage) :
    InferenceWithin run result := by
  obtain ⟨-, -, hestimate⟩ := reserveInference_estimate hreserve
  have htotal : result.usage.totalTokens = result.usage.inputTokens + result.usage.outputTokens := by
    rw [husage]
    exact readResponse_total hanswer
  exact
    { reserved := hestimate
      charge := fun hinput houtput _ _ =>
        InferenceRun.charge_le hestimate htotal hinput houtput
      unreachable := settleInference_within hestimate htotal }

theorem Reachable.task_within {w : World} (h : Reachable w) {db : MarketplaceDb}
    (hdb : db ∈ w.snapshots) {task : ArtifactTaskRow} {offer : OfferRow}
    (htask : task ∈ db.rows .artifactTasks) (hoffer : offer ∈ db.rows .capacityOffers)
    (hid : offer.offerId = task.offerId) : TaskWithin offer task := by
  have hconsistent := h.sound.consistent db hdb
  have hpriced := h.tasksPriced db hdb
  obtain ⟨priced, hmem, hpricedId, hestimate⟩ := hpriced task htask
  obtain rfl : offer = priced := offer_unique hconsistent hoffer hmem (hid.trans hpricedId.symm)
  exact
    { reserved := hestimate
      charge := fun _ husage _ _ => hpriced.charge_le hconsistent htask hoffer hid husage }

/--
Settlement is exact and monotone; what an admitted inference or artifact task is settled
for stays within its reservation, so the last check of a settlement never fails; and the
amounts stored by admitted calls fit a signed 64-bit integer.
-/
theorem settlement_exact_and_reserved :
    (∀ quote amounts, calculateSettlement quote = .ok amounts →
      amounts.buyerChargeMicros =
          ⌈((quote.totalTokens * quote.priceMicrosPerMillionTokens : Nat) : ℚ) / 10 ^ 6⌉₊ ∧
        amounts.buyerChargeMicros = amounts.supplierCreditMicros + amounts.platformFeeMicros ∧
        1 ≤ amounts.supplierCreditMicros ∧
        2 * amounts.platformFeeMicros ≤ amounts.buyerChargeMicros) ∧
    (∀ a b x y, calculateSettlement a = .ok x → calculateSettlement b = .ok y →
      a.totalTokens ≤ b.totalTokens →
      a.priceMicrosPerMillionTokens ≤ b.priceMicrosPerMillionTokens →
      x.buyerChargeMicros ≤ y.buyerChargeMicros) ∧
    (∀ reads policy identity input idempotencyKey jobUuid run batch,
      reserveInference reads policy identity input idempotencyKey jobUuid =
        .ok (some (run, batch)) →
      ∀ (call : GatewayCall) dates verifiedAt status raw answer result,
        call.readResponse dates verifiedAt status raw = .ok answer →
        result.usage = tokenCounts answer.usage → InferenceWithin run result) ∧
    (∀ w, Reachable w → ∀ db ∈ w.snapshots, ∀ task ∈ db.rows .artifactTasks,
      ∃ offer ∈ db.rows .capacityOffers, offer.offerId = task.offerId ∧ TaskWithin offer task) ∧
    (∀ w, Reachable w → ∀ ages policy identity input outputIv,
      completeArtifactTask (w.reads ages) policy identity input outputIv ≠
        .error (integrityFailed "最终费用超过任务预留上限。")) ∧
    (∀ w, AdmittedRun Call.PassesInputChecks w → ∀ db ∈ w.snapshots,
      (∀ job ∈ db.rows .inferenceJobs, job.reservedChargeMicros < 2 ^ 63 ∧
        ∀ charge, job.chargeMicros = some charge → charge < 2 ^ 63) ∧
      ∀ task ∈ db.rows .artifactTasks, task.reservedChargeMicros < 2 ^ 63 ∧
        ∀ charge, task.chargeMicros = some charge → charge < 2 ^ 63) := by
  refine ⟨fun quote amounts h => ?_, fun a b x y => calculateSettlement_charge_mono, ?_, ?_, ?_, ?_⟩
  · refine ⟨calculateSettlement_charge_eq_ceil h, calculateSettlement_conserves h,
      calculateSettlement_credit_pos h, ?_⟩
    obtain ⟨-, -, hbps, rfl⟩ := calculateSettlement_eq_ok.mp h
    exact SettlementQuote.fee_le hbps
  · intro reads policy identity input idempotencyKey jobUuid run batch hreserve call dates
      verifiedAt status raw answer result hanswer husage
    exact inference_within hreserve hanswer husage
  · intro w hw db hdb task htask
    obtain ⟨offer, hoffer, hid, -⟩ := hw.tasksPriced db hdb task htask
    exact ⟨offer, hoffer, hid, hw.task_within hdb htask hoffer hid⟩
  · intro w hw ages policy identity input outputIv
    have hread := w.reads_mem ages 1
    exact completeArtifactTask_within (hw.sound.consistent _ hread) (hw.tasksPriced _ hread) policy
      outputIv
  · intro w hw db hdb
    have hfit := hw.amountsFit db hdb
    have hcovered := hw.reachable.chargesCovered db hdb
    refine ⟨fun job hjob => ⟨hfit.jobs job hjob, fun charge hcharge => ?_⟩,
      fun task htask => ⟨hfit.tasks task htask, fun charge hcharge => ?_⟩⟩
    · exact Nat.lt_of_le_of_lt (hcovered.jobs job hjob charge hcharge) (hfit.jobs job hjob)
    · exact Nat.lt_of_le_of_lt (hcovered.tasks task htask charge hcharge) (hfit.tasks task htask)

/-- The sample calls up to the artifact task pass their input checks. -/
theorem sampleCalls_pass :
    ∀ call ∈ sampleCalls.take 7 ++ sampleArtifactCalls.take 6, call.PassesInputChecks := by
  have hprice : isPositiveIntegerString "2000000" = true ∧
      sampleOffer.priceMicrosPerMillionTokens = Nat.ofDigitChars 10 "2000000".toList 0 := by
    decide
  have hinference : validateInferenceInput sampleInference = .ok () := by
    decide
  have htask : normalizeArtifactTask sampleTask = .ok sampleTask := by
    have htexts : trimText "model-a" = "model-a" ∧ trimText "summarize" = "summarize" := by
      decide
    refine normalizeArtifactTask_eq_ok.mpr ⟨?_, ?_⟩
    · constructor <;> decide
    · simp only [CreateArtifactTaskRequest.trimmed, sampleTask, htexts]
  intro call hcall
  simp only [sampleCalls, sampleArtifactCalls, List.take_succ_cons, List.take_zero,
    List.cons_append, List.nil_append, List.mem_cons, List.not_mem_nil, or_false] at hcall
  rcases hcall with rfl | rfl | rfl | rfl | rfl | rfl | rfl | rfl | rfl | rfl | rfl | rfl | rfl
  case inr.inr.inr.inl => exact ⟨"2000000", hprice⟩
  case inr.inr.inr.inr.inr.inr.inl => exact hinference
  case inr.inr.inr.inr.inr.inr.inr.inr.inr.inr.inr.inr => exact ⟨sampleTask, htask⟩
  all_goals exact trivial

/-- Thirty tokens at the sample price, and the sample run with its inference and its task. -/
theorem settlement_exact_and_reserved_sample :
    2 * 6 ≤ 60 ∧ ∀ db ∈ (run step (World.start 1000 sampleDeployment)
        (sampleCalls.take 7 ++ sampleArtifactCalls.take 6)).snapshots,
      ∀ job ∈ db.rows .inferenceJobs, job.reservedChargeMicros < 2 ^ 63 := by
  obtain ⟨hexact, -, -, -, -, hfit⟩ := settlement_exact_and_reserved
  refine ⟨(hexact ⟨30, 2000000, 1000⟩ ⟨60, 54, 6⟩ (by decide)).2.2.2, fun db hdb job hjob => ?_⟩
  exact ((hfit _ ⟨1000, sampleDeployment, _, sampleCalls_pass, rfl⟩ db hdb).1 job hjob).1

end Server
end TokenStreaming
