import TokenStreaming.Core.Names
import TokenStreaming.Core.Texts

/-!
# Providers - Choosing a provider

Model providers are named, and a provider called {lit}`auto` is resolved by the
family of the model and by the API keys in the environment.  Lower case is left
to the platform.

Main results:

- Theorem {lit}`effective_auto_ne_stub`: {lit}`auto` is not resolved to the stub where
  the model's provider, or some provider for a model of no family, has a key.
-/

namespace TokenStreaming
namespace Providers

open Core Domain

/-! ## Names -/

inductive CommercialProviderName where
  | openai
  | anthropic
  | gemini
deriving DecidableEq

/-- A provider that can be created. -/
abbrev ConcreteProviderName :=
  { provider : ProviderName // provider ≠ .auto }

def CommercialProviderName.provider : CommercialProviderName → ProviderName
  | .openai => .openai
  | .anthropic => .anthropic
  | .gemini => .gemini

theorem CommercialProviderName.provider_injective :
    Function.Injective CommercialProviderName.provider := by
  intro name name' h
  cases name <;> cases name' <;> first | rfl | cases h

theorem CommercialProviderName.provider_ne_auto (name : CommercialProviderName) :
    name.provider ≠ .auto := by
  cases name <;> decide

theorem CommercialProviderName.provider_ne_stub (name : CommercialProviderName) :
    name.provider ≠ .stub := by
  cases name <;> decide

def CommercialProviderName.concrete (name : CommercialProviderName) : ConcreteProviderName :=
  ⟨name.provider, name.provider_ne_auto⟩

def stubProvider : ConcreteProviderName :=
  ⟨.stub, by decide⟩

/-- {lit}`COMMERCIAL_PROVIDER_NAMES`. -/
def commercialProviderNames : List CommercialProviderName :=
  [.openai, .anthropic, .gemini]

theorem mem_commercialProviderNames (name : CommercialProviderName) :
    name ∈ commercialProviderNames := by
  cases name <;> decide

/-- {lit}`DEFINITIONS[name].apiKeyEnv`. -/
def CommercialProviderName.apiKeyEnv : CommercialProviderName → String
  | .openai => "OPENAI_API_KEY"
  | .anthropic => "ANTHROPIC_API_KEY"
  | .gemini => "GEMINI_API_KEY"

/-! ## The family of a model -/

/-- {lit}`value.trim()`. -/
def trimmed (value : String) : String :=
  String.ofList (trimBoth value.toList)

def normalizedValue (value : Option String) : Option String :=
  (value.map trimmed).filter fun normalized => normalized ≠ ""

/-- {lit}`/^o[1-9](?:-|$)/.test(name)`. -/
def isReasoningSeries (name : String) : Bool :=
  match name.toList with
  | 'o' :: digit :: rest =>
      decide ('1' ≤ digit) && decide (digit ≤ '9') && (rest.isEmpty || rest.head? == some '-')
  | _ => false

variable (toLowerCase : String → String)

def inferProviderFromModel (model : Option String) : Option CommercialProviderName :=
  (((normalizedValue model).map toLowerCase).filter fun name => name ≠ "").bind fun name =>
    if startsWith name "claude-" then some .anthropic
    else if startsWith name "gemini-" || startsWith name "gemma-" then some .gemini
    else if startsWith name "gpt-" || isReasoningSeries name || startsWith name "chatgpt-" then
      some .openai
    else none

/-! ## The effective provider -/

/-- What {lit}`resolveEffectiveProviderName` is given beside the requested provider. -/
structure ProviderFactoryOptions where
  model : Option String
  apiKey : Option String
  environment : String → Option String

/-- The environment has a key for the provider. -/
def hasApiKey (environment : String → Option String) (name : CommercialProviderName) : Bool :=
  (normalizedValue (environment name.apiKeyEnv)).isSome

def resolveEffectiveProviderName (requestedProvider : ProviderName)
    (options : ProviderFactoryOptions) : ConcreteProviderName :=
  if h : requestedProvider ≠ .auto then ⟨requestedProvider, h⟩
  else if (normalizedValue options.apiKey).isSome then CommercialProviderName.openai.concrete
  else
    match inferProviderFromModel toLowerCase options.model with
    | some inferred =>
        if hasApiKey options.environment inferred then inferred.concrete else stubProvider
    | none =>
        ((commercialProviderNames.find? (hasApiKey options.environment)).map
          CommercialProviderName.concrete).getD stubProvider

def availableProviderNames (environment : String → Option String) : List ConcreteProviderName :=
  stubProvider ::
    (commercialProviderNames.filter (hasApiKey environment)).map CommercialProviderName.concrete

/-- The options reach a provider: its key is in the environment, or a key is passed. -/
def ProviderFactoryOptions.reaches (options : ProviderFactoryOptions)
    (name : CommercialProviderName) : Prop :=
  (normalizedValue options.apiKey).isSome = true ∨ hasApiKey options.environment name = true

theorem concrete_ne_stub (name : CommercialProviderName) : name.concrete ≠ stubProvider := by
  intro h
  exact name.provider_ne_stub (congrArg Subtype.val h)

/-- Where the family of the model is reached, or a model of no family finds some provider that
is, {lit}`auto` is not resolved to the stub. -/
theorem effective_auto_ne_stub {options : ProviderFactoryOptions}
    (hfamily : ∀ name, inferProviderFromModel toLowerCase options.model = some name →
      options.reaches name)
    (hsome : ∃ name, options.reaches name) :
    resolveEffectiveProviderName toLowerCase .auto options ≠ stubProvider := by
  rw [resolveEffectiveProviderName, dif_neg (by simp)]
  by_cases hkey : (normalizedValue options.apiKey).isSome = true
  · rw [if_pos hkey]
    exact concrete_ne_stub _
  · rw [if_neg hkey]
    cases hinfer : inferProviderFromModel toLowerCase options.model with
    | some inferred =>
        have hreached := (hfamily inferred hinfer).resolve_left hkey
        simp only [hreached, if_true]
        exact concrete_ne_stub _
    | none =>
        obtain ⟨name, hname⟩ := hsome
        have hreached := hname.resolve_left hkey
        have hfind : (commercialProviderNames.find? (hasApiKey options.environment)).isSome =
            true :=
          List.find?_isSome.mpr ⟨name, mem_commercialProviderNames name, hreached⟩
        obtain ⟨found, hfound⟩ := Option.isSome_iff_exists.mp hfind
        simp only [hfound, Option.map_some, Option.getD_some]
        exact concrete_ne_stub _

/-- The available providers are the stub and those with a key. -/
theorem mem_availableProviderNames {environment : String → Option String}
    {name : CommercialProviderName} :
    name.concrete ∈ availableProviderNames environment ↔ hasApiKey environment name = true := by
  rw [availableProviderNames, List.mem_cons, List.mem_map]
  constructor
  · intro h
    rcases h with h | ⟨name', hmem, heq⟩
    · exact absurd h (concrete_ne_stub name)
    · have hsame : name' = name :=
        CommercialProviderName.provider_injective (congrArg Subtype.val heq)
      rw [← hsame]
      exact (List.mem_filter.mp hmem).2
  · intro h
    exact Or.inr ⟨name, List.mem_filter.mpr ⟨mem_commercialProviderNames name, h⟩, rfl⟩

end Providers
end TokenStreaming
