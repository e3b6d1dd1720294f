import Mathlib.Algebra.Order.Ring.Unbundled.Rat
import TokenStreaming.Providers.ModelPolicy
import TokenStreaming.Storage.TelemetryConservation

/-!
# Providers - Routing stays in the requested family

Where no model is requested, the model comes from the manifest.  Its family
should be the requested provider, or an available one.  The fields that name a
model for a mode see to that.  A candidate of the manifest's list is judged by
the provider it declares instead of by its family, and a declaration of
{lit}`auto`, or one that cannot be read, is judged by nothing at all.

Main results:

- Theorem {lit}`foreign_declares`: only a candidate that declares a provider is of a
  foreign family.
- Theorem {lit}`routing_stays_in_family_iff`: the selection stays in the family if and
  only if every admitted candidate of a foreign family is outranked by another.
-/

namespace TokenStreaming
namespace Providers

open Core Domain Json Storage

variable {F : Type} (platform : RoutingPlatform F)

/-! ## What routing promises -/

/-- No model is requested by the command line or by the environment. -/
def NoModelRequested (input : ModelSelectionInput F) : Prop :=
  requestedModelOf input = none ∧ normalizedValue input.environmentModel = none

/-- The family of the model is not the requested provider, or is not available. -/
def Foreign (input : ModelSelectionInput F) (model : String) : Prop :=
  ∃ inferred, inferProviderFromModel platform.toLowerCase (some model) = some inferred ∧
    ((∃ name : CommercialProviderName,
        input.requestedProvider = some name.provider ∧ inferred ≠ name) ∨
      (requestsAuto input.requestedProvider = true ∧
        hasAvailableCommercialProvider input.availableProviders = true ∧
        includesProvider input.availableProviders inferred.provider = false))

/-- A selection that does not cross provider families. -/
structure StaysInFamily (input : ModelSelectionInput F) (selection : ModelSelection F) : Prop where
  /-- Where a commercial provider is requested, the manifest's model is of its family. -/
  requested : ∀ name : CommercialProviderName, input.requestedProvider = some name.provider →
    selection.source = .scored ∨ selection.source = .manifest →
      ∀ model, selection.model = some model →
        ∀ inferred, inferProviderFromModel platform.toLowerCase (some model) = some inferred →
          inferred = name
  /-- Where none is requested and one is available, the model's family is available. -/
  available : requestsAuto input.requestedProvider = true →
    hasAvailableCommercialProvider input.availableProviders = true →
      ∀ model, selection.model = some model →
        ∀ inferred, inferProviderFromModel platform.toLowerCase (some model) = some inferred →
          includesProvider input.availableProviders inferred.provider = true
  /-- And then the stub takes over only where the stub itself was chosen. -/
  noStub : requestsAuto input.requestedProvider = true →
    hasAvailableCommercialProvider input.availableProviders = true →
      ∀ options : ProviderFactoryOptions, options.model = selection.model →
        (∀ name : CommercialProviderName,
          includesProvider input.availableProviders name.provider = true →
            options.reaches name) →
            resolveEffectiveProviderName platform.toLowerCase selection.provider options =
              stubProvider → selection.provider = .stub

/-! ## Models that are not foreign -/

variable {platform}

theorem requestsAuto_commercial (name : CommercialProviderName) :
    requestsAuto (some name.provider) = false := by
  cases name <;> rfl

/-- The models that the manifest names for a mode are checked by their family. -/
theorem not_foreign_of_usable {input : ModelSelectionInput F} {value : Option JsonValue}
    {model : String} (h : usablePolicyModel platform value input = some model) :
    ¬Foreign platform input model := by
  rintro ⟨inferred, hinferred, hforeign⟩
  unfold usablePolicyModel at h
  cases hvalue : stringValue value with
  | none =>
      rw [hvalue] at h
      cases h
  | some named =>
      rw [hvalue] at h
      dsimp only at h
      cases hnamed : inferProviderFromModel platform.toLowerCase (some named) with
      | none =>
          rw [hnamed] at h
          dsimp only at h
          rw [Option.some.injEq] at h
          rw [h, hinferred] at hnamed
          cases hnamed
      | some family =>
          rw [hnamed] at h
          dsimp only at h
          split at h
          · cases h
          · rename_i hrequested
            split at h
            · cases h
            · rename_i havailable
              rw [Option.some.injEq] at h
              rw [h, hinferred, Option.some.injEq] at hnamed
              subst hnamed
              rcases hforeign with ⟨name, hname, hne⟩ | ⟨hauto, hsome, hmissing⟩
              · rw [hname, requestsAuto_commercial] at hrequested
                have hsame : name.provider = inferred.provider := by simpa using hrequested
                exact hne (CommercialProviderName.provider_injective hsame).symm
              · rw [hsome, hauto, hmissing] at havailable
                exact havailable rfl

/-- The candidate has the provider of its model's family. -/
def FollowsFamily (platform : RoutingPlatform F) (candidate : ModelCandidate F) : Prop :=
  candidate.provider =
    ((inferProviderFromModel platform.toLowerCase (some candidate.model)).map
      CommercialProviderName.provider).getD .auto

/-- A candidate that passes under the provider of its family is not foreign. -/
theorem not_foreign_of_followsFamily {input : ModelSelectionInput F}
    {candidate : ModelCandidate F} (hfamily : FollowsFamily platform candidate)
    (hpass : passesFilters input.requestedProvider input.availableProviders candidate = true) :
    ¬Foreign platform input candidate.model := by
  rintro ⟨inferred, hinferred, hforeign⟩
  have hprovider : candidate.provider = inferred.provider := by
    rw [hfamily, hinferred]
    rfl
  simp only [passesFilters, hprovider, Bool.and_eq_true, Bool.not_eq_true'] at hpass
  rcases hforeign with ⟨name, hname, hne⟩ | ⟨hauto, hsome, hmissing⟩
  · have hfirst := hpass.1
    rw [hname, requestsAuto_commercial] at hfirst
    have hsame : inferred.provider = name.provider := by
      simpa [inferred.provider_ne_auto] using hfirst
    exact hne (CommercialProviderName.provider_injective hsame)
  · have hsecond := hpass.2
    rw [preferredProvider, if_pos hauto, hsome, hmissing, hauto] at hsecond
    simp [inferred.provider_ne_auto, inferred.provider_ne_stub] at hsecond

/-- The specification names a provider. -/
def declaresProvider (value : String) : Bool :=
  match splitParts ';' value with
  | [] => false
  | _ :: parts => (specFields parts).has "provider"

theorem followsFamily_of_mem_legacyCandidates {models : Option ModelsPolicy}
    {candidate : ModelCandidate F} (h : candidate ∈ legacyCandidates platform models) :
    FollowsFamily platform candidate := by
  obtain ⟨found, hfound, hsome⟩ := List.mem_filterMap.mp h
  have hlegacy : ∃ value mode, legacyCandidate platform value mode = some candidate := by
    simp only [List.mem_cons, List.not_mem_nil, or_false] at hfound
    rcases hfound with rfl | rfl | rfl | rfl
    · exact ⟨_, _, hsome⟩
    · exact ⟨_, _, hsome⟩
    · exact ⟨_, _, hsome⟩
    · exact ⟨_, _, hsome⟩
  obtain ⟨value, mode, hvalue⟩ := hlegacy
  obtain ⟨model, _, rfl⟩ := Option.map_eq_some_iff.mp hvalue
  rfl

/-- A specification that names no provider leaves it to the family. -/
theorem followsFamily_of_parseCandidateSpec {value : String} {candidate : ModelCandidate F}
    (h : parseCandidateSpec platform value = some candidate)
    (hdeclares : declaresProvider value = false) : FollowsFamily platform candidate := by
  unfold parseCandidateSpec at h
  unfold declaresProvider at hdeclares
  cases hparts : splitParts ';' value with
  | nil =>
      rw [hparts] at h
      cases h
  | cons modelPart parts =>
      rw [hparts] at h hdeclares
      dsimp only at h hdeclares
      rw [Option.some.injEq] at h
      subst h
      rw [FollowsFamily, specProvider, hdeclares, if_neg Bool.false_ne_true]

/-- Only a candidate that declares a provider is of a foreign family. -/
theorem foreign_declares {input : ModelSelectionInput F} {admitted : ModelCandidate F}
    (hmem : admitted ∈ parseModelCandidates platform input.models input.requestedProvider
      input.availableProviders)
    (hforeign : Foreign platform input admitted.model) :
    ∃ value ∈ stringArray (policyValue input.models "model_candidates"),
      declaresProvider value = true ∧
        (parseCandidateSpec platform value).map (fun candidate => candidate.model) =
          some admitted.model := by
  obtain ⟨candidate, hcandidate, hpass, rfl⟩ := mem_parseModelCandidates platform hmem
  rcases List.mem_append.mp hcandidate with hlegacy | hexplicit
  · have hfamily := followsFamily_of_mem_legacyCandidates hlegacy
    have hnot : ¬Foreign platform input candidate.model :=
      not_foreign_of_followsFamily hfamily hpass
    exact absurd hforeign hnot
  · obtain ⟨value, hvalue, hspec⟩ := List.mem_filterMap.mp hexplicit
    refine ⟨value, hvalue, ?_, by rw [hspec]; rfl⟩
    by_contra hdeclares
    rw [Bool.not_eq_true] at hdeclares
    have hfamily := followsFamily_of_parseCandidateSpec hspec hdeclares
    have hnot : ¬Foreign platform input candidate.model :=
      not_foreign_of_followsFamily hfamily hpass
    exact hnot hforeign

/-! ## The selected model -/

theorem resolve_of_no_model {input : ModelSelectionInput F} (h : NoModelRequested input) :
    resolveModelSelection platform input = selectFromManifest platform input := by
  rw [resolveModelSelection, h.1, h.2]

/-- The model is the first candidate's, or one that was checked by its family. -/
theorem selectFromManifest_model {input : ModelSelectionInput F} {model : String}
    (h : (selectFromManifest platform input).model = some model) :
    (∃ first, (sortBy (byScore platform) (scoredCandidates platform input)).head? = some first ∧
        first.model = model) ∨
      ¬Foreign platform input model := by
  unfold selectFromManifest at h
  dsimp only at h
  cases hselected : (scoreModelCandidates platform input).selected with
  | some selected =>
      rw [hselected] at h
      exact Or.inl ⟨selected, hselected, Option.some.inj h⟩
  | none =>
      rw [hselected] at h
      dsimp only at h
      cases hpolicy : policyModel platform input with
      | none =>
          rw [hpolicy] at h
          cases h
      | some named =>
          rw [hpolicy] at h
          dsimp only at h
          rw [Option.some.injEq] at h
          subst h
          dsimp only [policyModel] at hpolicy
          rw [Option.orElse_eq_or, Option.or_eq_some_iff] at hpolicy
          rcases hpolicy with hmode | ⟨_, hdefault⟩
          · exact Or.inr (not_foreign_of_usable hmode)
          · exact Or.inr (not_foreign_of_usable hdefault)

/-- The first candidate is selected. -/
theorem selectFromManifest_of_first {input : ModelSelectionInput F}
    {first : ScoredModelCandidate F}
    (h : (sortBy (byScore platform) (scoredCandidates platform input)).head? = some first) :
    (selectFromManifest platform input).model = some first.model ∧
      (selectFromManifest platform input).source = .scored := by
  have hselected : (scoreModelCandidates platform input).selected = some first := h
  unfold selectFromManifest
  dsimp only
  rw [hselected]
  exact ⟨rfl, rfl⟩

/-- A model is selected from the manifest, or there is none. -/
theorem selectFromManifest_source {input : ModelSelectionInput F} {model : String}
    (h : (selectFromManifest platform input).model = some model) :
    (selectFromManifest platform input).source = .scored ∨
      (selectFromManifest platform input).source = .manifest := by
  unfold selectFromManifest at h ⊢
  dsimp only at h ⊢
  cases hselected : (scoreModelCandidates platform input).selected with
  | some selected => exact Or.inl rfl
  | none =>
      rw [hselected] at h
      dsimp only at h ⊢
      cases hpolicy : policyModel platform input with
      | none =>
          rw [hpolicy] at h
          cases h
      | some named => exact Or.inr rfl

/-! ## Keeping the stub out -/

/-- Some available provider is a commercial one. -/
theorem exists_available {availableProviders : Option (List ProviderName)}
    (h : hasAvailableCommercialProvider availableProviders = true) :
    ∃ name : CommercialProviderName,
      includesProvider availableProviders name.provider = true := by
  obtain ⟨provider, hmem, hcommercial⟩ := List.any_eq_true.mp h
  have hmem' : includesProvider availableProviders provider = true :=
    List.contains_iff_mem.mpr hmem
  rw [Bool.or_eq_true, Bool.or_eq_true, beq_iff_eq, beq_iff_eq, beq_iff_eq] at hcommercial
  rcases hcommercial with (rfl | rfl) | rfl
  · exact ⟨.openai, hmem'⟩
  · exact ⟨.anthropic, hmem'⟩
  · exact ⟨.gemini, hmem'⟩

/-- A model whose family is available is not left to the stub. -/
theorem effective_ne_stub {input : ModelSelectionInput F} {selection : ModelSelection F}
    (hsome : hasAvailableCommercialProvider input.availableProviders = true)
    (hfamily : ∀ model, selection.model = some model →
      ∀ inferred, inferProviderFromModel platform.toLowerCase (some model) = some inferred →
        includesProvider input.availableProviders inferred.provider = true)
    {options : ProviderFactoryOptions} (hmodel : options.model = selection.model)
    (hreaches : ∀ name : CommercialProviderName,
      includesProvider input.availableProviders name.provider = true → options.reaches name)
    (hstub : resolveEffectiveProviderName platform.toLowerCase selection.provider options =
      stubProvider) :
    selection.provider = .stub := by
  by_cases hauto : selection.provider = .auto
  · exfalso
    rw [hauto] at hstub
    refine effective_auto_ne_stub platform.toLowerCase ?_ ?_ hstub
    · intro name hname
      cases hselected : selection.model with
      | none =>
          rw [hmodel, hselected] at hname
          cases hname
      | some model =>
          rw [hmodel, hselected] at hname
          exact hreaches name (hfamily model hselected name hname)
    · obtain ⟨name, hname⟩ := exists_available hsome
      exact ⟨name, hreaches name hname⟩
  · rw [resolveEffectiveProviderName, dif_pos hauto] at hstub
    exact congrArg Subtype.val hstub

/-- The selection stays in the family when its model is not foreign. -/
theorem staysInFamily_of_not_foreign {input : ModelSelectionInput F}
    {selection : ModelSelection F}
    (h : ∀ model, selection.model = some model → ¬Foreign platform input model) :
    StaysInFamily platform input selection := by
  have havailable : requestsAuto input.requestedProvider = true →
      hasAvailableCommercialProvider input.availableProviders = true →
        ∀ model, selection.model = some model →
          ∀ inferred, inferProviderFromModel platform.toLowerCase (some model) = some inferred →
            includesProvider input.availableProviders inferred.provider = true := by
    intro hauto hsome model hmodel inferred hinferred
    by_contra hmissing
    rw [Bool.not_eq_true] at hmissing
    exact h model hmodel ⟨inferred, hinferred, Or.inr ⟨hauto, hsome, hmissing⟩⟩
  constructor
  · intro name hname _ model hmodel inferred hinferred
    by_contra hne
    exact h model hmodel ⟨inferred, hinferred, Or.inl ⟨name, hname, hne⟩⟩
  · exact havailable
  · intro hauto hsome options hmodel hreaches hstub
    exact effective_ne_stub hsome (havailable hauto hsome) hmodel hreaches hstub

/-- A foreign model from the manifest leaves the family. -/
theorem not_foreign_of_staysInFamily {input : ModelSelectionInput F}
    {selection : ModelSelection F} (h : StaysInFamily platform input selection) {model : String}
    (hsource : selection.source = .scored ∨ selection.source = .manifest)
    (hmodel : selection.model = some model) : ¬Foreign platform input model := by
  rintro ⟨inferred, hinferred, ⟨name, hname, hne⟩ | ⟨hauto, hsome, hmissing⟩⟩
  · exact hne (h.requested name hname hsource model hmodel inferred hinferred)
  · rw [h.available hauto hsome model hmodel inferred hinferred] at hmissing
    cases hmissing

theorem byScore_ordered (platform : RoutingPlatform F) : Std.TransCmp (byScore platform) := by
  have hnumbers := platform.numbers_ordered
  have htexts := platform.texts_ordered
  have hscore : Std.TransCmp fun left right : ScoredModelCandidate F =>
      platform.compare right.score left.score :=
    { eq_swap := hnumbers.eq_swap
      isLE_trans := fun hab hbc => hnumbers.isLE_trans hbc hab }
  have hmodel : Std.TransCmp fun left right : ScoredModelCandidate F =>
      platform.localeCompare left.model right.model :=
    { eq_swap := htexts.eq_swap
      isLE_trans := htexts.isLE_trans }
  exact inferInstanceAs (Std.TransCmp (compareLex _ _))

variable (platform)

/-! ## A sample platform -/

/-- The number that digits write. -/
def digitsNumber (digits : List Char) : Rat :=
  ((digits.foldl (fun n digit => 10 * n + (digit.toNat - '0'.toNat)) 0 : Nat) : Rat)

/-- {lit}`Number(value)` for the texts that are blank, or digits with at most one point. -/
def parseDecimal (value : String) : Option Rat :=
  match (trimBoth value.toList).splitOn '.' with
  | [whole] => if whole.all Char.isDigit then some (digitsNumber whole) else none
  | [whole, places] =>
      if (whole ++ places).all Char.isDigit && whole ++ places != [] then
        some (digitsNumber (whole ++ places) / ((10 ^ places.length : Nat) : Rat))
      else none
  | _ => none

theorem rational_numbers_ordered : Std.TransCmp rationalPlatform.compare where
  eq_swap := by
    intro a b
    rcases lt_trichotomy a b with h | rfl | h
    · simp [Platform.compare, rationalPlatform, h, h.not_gt]
    · simp [Platform.compare, rationalPlatform]
    · simp [Platform.compare, rationalPlatform, h, h.not_gt]
  isLE_trans := by
    have hle : ∀ a b : Rat, (rationalPlatform.compare a b).isLE = true ↔ a ≤ b := by
      intro a b
      rcases lt_trichotomy a b with h | rfl | h
      · simp [Platform.compare, rationalPlatform, h, h.le]
      · simp [Platform.compare, rationalPlatform]
      · simp [Platform.compare, rationalPlatform, h, h.not_gt]
    intro a b c hab hbc
    rw [hle] at hab hbc ⊢
    exact hab.trans hbc

/-- Exact decimals. -/
def rationalRouting : RoutingPlatform Rat :=
  { rationalPlatform with
    parseNumber := parseDecimal
    min := fun a b => if b < a then b else a
    numbers_ordered := rational_numbers_ordered
    texts_ordered := inferInstanceAs (Std.TransCmp fun a b : String => compare a b) }

/-- A manifest with candidates, read where only OpenAI has a key. -/
def sampleInput (candidates : List String) : ModelSelectionInput Rat where
  mode := .auto
  requestedProvider := some .auto
  requestedModel := none
  environmentModel := none
  models := some fun key =>
    if key = "model_candidates" then some (.array (candidates.map .string)) else none
  telemetry := none
  riskLevel := none
  task := some "Fix the login bug"
  availableProviders := some [.stub, .openai]

/-! ## Staying in the family -/

/-- Where no model is requested, the selection stays in the family if and only if every admitted
candidate of a foreign family is outranked by another admitted candidate. -/
theorem routing_stays_in_family_iff {input : ModelSelectionInput F}
    (h : NoModelRequested input) :
    StaysInFamily platform input (resolveModelSelection platform input) ↔
      ∀ candidate ∈ scoredCandidates platform input, Foreign platform input candidate.model →
        ∃ other ∈ scoredCandidates platform input,
          Outranks (byScore platform) (scoredCandidates platform input) other candidate := by
  have hordered := byScore_ordered platform
  rw [resolve_of_no_model h, ← first_avoids_iff (byScore platform)
    (nodup_scoredCandidates platform input) fun candidate =>
      Foreign platform input candidate.model]
  constructor
  · intro hstays first hfirst
    obtain ⟨hmodel, hsource⟩ := selectFromManifest_of_first hfirst
    exact not_foreign_of_staysInFamily hstays (Or.inl hsource) hmodel
  · intro hfirst
    refine staysInFamily_of_not_foreign ?_
    intro model hmodel
    rcases selectFromManifest_model hmodel with ⟨first, hhead, rfl⟩ | hnot
    · exact hfirst first hhead
    · exact hnot

/-- A candidate that declares {lit}`auto` is outranked by a better one of an available family. -/
theorem routing_stays_in_family_sample :
    StaysInFamily rationalRouting
      (sampleInput ["claude-x;provider=auto;quality=0.5", "gpt-x;quality=0.9"])
      (resolveModelSelection rationalRouting
        (sampleInput ["claude-x;provider=auto;quality=0.5", "gpt-x;quality=0.9"])) := by
  refine (routing_stays_in_family_iff rationalRouting ⟨rfl, rfl⟩).mpr ?_
  have hmodels : (scoredCandidates rationalRouting
      (sampleInput ["claude-x;provider=auto;quality=0.5", "gpt-x;quality=0.9"])).map
        (fun candidate => candidate.model) = ["claude-x", "gpt-x"] := by
    decide +kernel
  have hbetter : (scoredCandidates rationalRouting
      (sampleInput ["claude-x;provider=auto;quality=0.5", "gpt-x;quality=0.9"])).Pairwise
        fun first second => byScore rationalRouting second first = .lt := by
    decide +kernel
  have havailable : ¬Foreign rationalRouting
      (sampleInput ["claude-x;provider=auto;quality=0.5", "gpt-x;quality=0.9"]) "gpt-x" := by
    rintro ⟨inferred, hinferred, hforeign⟩
    have hopenai : inferProviderFromModel rationalRouting.toLowerCase (some "gpt-x") =
        some .openai := by
      decide +kernel
    rw [hopenai, Option.some.injEq] at hinferred
    subst hinferred
    rcases hforeign with ⟨name, hname, _⟩ | ⟨_, _, hmissing⟩
    · exact name.provider_ne_auto (Option.some.inj hname).symm
    · cases hmissing
  obtain ⟨claude, rest, hscored, hclaude, hrest⟩ := List.map_eq_cons_iff.mp hmodels
  obtain ⟨gpt, last, hlast, hgpt, hnil⟩ := List.map_eq_cons_iff.mp hrest
  rw [List.map_eq_nil_iff.mp hnil] at hlast
  rw [hlast] at hscored
  rw [hscored] at hbetter ⊢
  intro candidate hmem hforeign
  rcases List.mem_pair.mp hmem with rfl | rfl
  · exact ⟨gpt, by simp, Or.inl (List.rel_of_pairwise_cons hbetter (by simp))⟩
  · rw [hgpt] at hforeign
    exact absurd hforeign havailable

/-- A candidate that declares {lit}`auto` is selected although its family is not available. -/
theorem declared_auto_crosses_family :
    ¬∀ input : ModelSelectionInput Rat, NoModelRequested input →
      StaysInFamily rationalRouting input (resolveModelSelection rationalRouting input) := by
  intro hall
  have hstays := hall (sampleInput ["claude-x;provider=auto"]) ⟨rfl, rfl⟩
  have hmodel : (resolveModelSelection rationalRouting
      (sampleInput ["claude-x;provider=auto"])).model = some "claude-x" := by
    decide +kernel
  have havailable := hstays.available rfl rfl "claude-x" hmodel .anthropic (by decide +kernel)
  cases havailable

end Providers
end TokenStreaming
