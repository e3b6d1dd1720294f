import Mathlib.Algebra.Order.Floor.Semiring
import TokenStreaming.Context.ContextBuilder

/-!
# Context - Budgets and reasons of the selected sources

The snippets of a context keep the budgets of the plan.  They have different
paths and one reason each, unless a path with a backslash was offered whose
normal form is loaded.

Main results:

- Theorem {lit}`loadSourceSnippets_eq`: the snippets are the first candidates
  that can be read.
- Theorem {lit}`le_boundedBudget_iff`: a budget is the plan's number, cut to the
  upper bound.
- Theorem {lit}`trimTo_length_le`: a content is cut to its budget.
- Theorem {lit}`one_reason_iff`: a loaded path has one reason if and only if it
  was offered in its normal form alone.
- Theorem {lit}`backslash_offered`: the inputs from which a path with a backslash
  is offered.
- Theorem {lit}`context_explains_itself_iff`: all of it, for every input.
-/

namespace TokenStreaming
namespace Context

open Core Domain

/-! ## Budgets -/

/-- The budget a plan asks for; one that is missing, not finite or not positive is the default. -/
def planBudget (value : Option PlanNumber) (fallback : Nat) : ℚ :=
  match value with
  | some (.finite number) => if number ≤ 0 then fallback else number
  | _ => fallback

/-- A number of things is within the budget in force if and only if it is within the plan's
budget and the upper bound. -/
theorem le_boundedBudget_iff {value : Option PlanNumber} {fallback upperBound n : Nat}
    (h : fallback ≤ upperBound) :
    n ≤ boundedBudget value fallback upperBound ↔
      (n : ℚ) ≤ min (planBudget value fallback) upperBound := by
  have hfallback : n ≤ fallback ↔ (n : ℚ) ≤ min (fallback : ℚ) upperBound := by
    rw [min_eq_left (by exact_mod_cast h), Nat.cast_le]
  match value with
  | none => exact hfallback
  | some .notFinite => exact hfallback
  | some (.finite number) =>
      unfold boundedBudget planBudget
      dsimp only
      by_cases hnumber : number ≤ 0
      · rw [if_pos hnumber, if_pos hnumber]
        exact hfallback
      · rw [if_neg hnumber, if_neg hnumber, le_min_iff, le_min_iff, Nat.cast_le]
        refine and_congr_left fun _ => ?_
        have hfloor : 0 ≤ number.floor :=
          Rat.le_floor_iff.mpr (by exact_mod_cast le_of_lt (not_le.mp hnumber))
        rw [← Int.ofNat_le, Int.toNat_of_nonneg hfloor, Rat.le_floor_iff]
        norm_cast

/-- A content is cut to its budget. -/
theorem trimTo_length_le (value : List Nat) (maxLength : Nat) :
    (trimTo value maxLength).length ≤ maxLength := by
  unfold trimTo
  dsimp only
  split
  · assumption
  · split
    · exact List.length_take_le _ _
    · rename_i hlong hmarker
      rw [List.length_append, List.length_take]
      omega

/-! ## Snippets -/

section Snippets

variable (readTextFile : String → Option (List Nat))

/-- The first candidates that can be read, up to a number. -/
def loadedPaths (n : Nat) (candidates : List String) : List String :=
  (candidates.filter fun candidate => (readTextFile candidate).isSome).take n

/-- The snippets are those of the first candidates that can be read. -/
theorem loadSourceSnippets_eq (maxSourceCharacters n : Nat) (candidates : List String) :
    loadSourceSnippets readTextFile maxSourceCharacters n candidates =
      (loadedPaths readTextFile n candidates).map fun path =>
        snippetOf maxSourceCharacters path ((readTextFile path).getD []) := by
  unfold loadedPaths
  induction candidates generalizing n with
  | nil => cases n <;> rfl
  | cons candidate candidates ih =>
      cases n with
      | zero => rfl
      | succ n =>
          cases hread : readTextFile candidate with
          | none => simp [loadSourceSnippets, hread, ih]
          | some content => simp [loadSourceSnippets, hread, ih]

theorem paths_loadSourceSnippets (maxSourceCharacters n : Nat) (candidates : List String) :
    (loadSourceSnippets readTextFile maxSourceCharacters n candidates).map SourceSnippet.path =
      loadedPaths readTextFile n candidates := by
  rw [loadSourceSnippets_eq, List.map_map]
  exact List.map_id _

/-- A path that is loaded is one that can be read, behind fewer others than the budget allows. -/
theorem mem_loadedPaths_iff {n : Nat} {candidates : List String} {path : String} :
    path ∈ loadedPaths readTextFile n candidates ↔
      (readTextFile path).isSome = true ∧ ∃ before after, candidates = before ++ path :: after ∧
        (before.filter fun candidate => (readTextFile candidate).isSome).length < n := by
  unfold loadedPaths
  induction candidates generalizing n with
  | nil => simp
  | cons candidate candidates ih =>
      cases n with
      | zero => simp
      | succ n =>
          by_cases hread : (readTextFile candidate).isSome = true
          · rw [List.filter_cons, if_pos hread, List.take_succ_cons, List.mem_cons, ih]
            constructor
            · rintro (rfl | ⟨hpath, before, after, hsplit, hfew⟩)
              · exact ⟨hread, [], candidates, rfl, Nat.succ_pos n⟩
              · refine ⟨hpath, candidate :: before, after, by rw [hsplit]; rfl, ?_⟩
                rw [List.filter_cons, if_pos hread, List.length_cons]
                omega
            · rintro ⟨hpath, before, after, hsplit, hfew⟩
              cases before with
              | nil =>
                  rw [List.nil_append, List.cons.injEq] at hsplit
                  exact Or.inl hsplit.1.symm
              | cons first before =>
                  rw [List.cons_append, List.cons.injEq] at hsplit
                  refine Or.inr ⟨hpath, before, after, hsplit.2, ?_⟩
                  rw [List.filter_cons, ← hsplit.1, if_pos hread, List.length_cons] at hfew
                  omega
          · rw [List.filter_cons, if_neg hread, ih]
            constructor
            · rintro ⟨hpath, before, after, hsplit, hfew⟩
              refine ⟨hpath, candidate :: before, after, by rw [hsplit]; rfl, ?_⟩
              rw [List.filter_cons, if_neg hread]
              exact hfew
            · rintro ⟨hpath, before, after, hsplit, hfew⟩
              cases before with
              | nil =>
                  rw [List.nil_append, List.cons.injEq] at hsplit
                  exact absurd (hsplit.1 ▸ hpath) hread
              | cons first before =>
                  rw [List.cons_append, List.cons.injEq] at hsplit
                  refine ⟨hpath, before, after, hsplit.2, ?_⟩
                  rw [List.filter_cons, ← hsplit.1, if_neg hread] at hfew
                  exact hfew

end Snippets

/-! ## Candidates and reasons -/

/-- The candidates and the reasons after any number of offers. -/
structure CollectedFrom (paths : List String) (collected : Collected) : Prop where
  nodup : collected.candidates.Nodup
  mem_iff : ∀ path, path ∈ collected.candidates ↔ path ∈ paths
  reason_isSome : ∀ path, (collected.reasons.get path).isSome = true ↔ path ∈ paths
  target : ∀ path reason, collected.reasons.get path = some reason →
    reason.target = path ∧ reason.kind = .source

theorem CollectedFrom.collect {paths : List String} {collected : Collected}
    (h : CollectedFrom paths collected) (offer : Offer) :
    CollectedFrom (paths ++ [offer.path]) (Context.collect collected offer) where
  nodup := by
    unfold Context.collect
    dsimp only
    split
    · exact h.nodup
    · rename_i hnew
      rw [List.nodup_append]
      refine ⟨h.nodup, List.nodup_singleton _, ?_⟩
      intro path hpath other hother heq
      rw [List.mem_singleton] at hother
      exact hnew (hother ▸ heq ▸ hpath)
  mem_iff := by
    intro path
    unfold Context.collect
    dsimp only
    rw [List.mem_append, List.mem_singleton, ← h.mem_iff]
    split
    · rename_i hold
      constructor
      · exact Or.inl
      · rintro (hmem | rfl)
        · exact hmem
        · exact hold
    · rw [List.mem_append, List.mem_singleton]
  reason_isSome := by
    intro path
    unfold Context.collect
    dsimp only
    rw [List.mem_append, List.mem_singleton, ← h.reason_isSome]
    by_cases hpath : path = offer.path
    · simp [hpath]
    · rw [InsertionMap.get_set_ne hpath]
      simp [hpath]
  target := by
    intro path reason hreason
    unfold Context.collect at hreason
    dsimp only at hreason
    by_cases hpath : path = offer.path
    · rw [hpath, InsertionMap.get_set_self] at hreason
      rw [← Option.some.inj hreason]
      exact ⟨hpath.symm, rfl⟩
    · rw [InsertionMap.get_set_ne hpath] at hreason
      exact h.target path reason hreason

/-- The candidates are the paths that were offered, and these have a reason. -/
theorem collectedFrom_collectAll (offered : List Offer) :
    CollectedFrom (offered.map Offer.path) (collectAll offered) := by
  have hrun : ∀ (rest : List Offer) (paths : List String) (collected : Collected),
      CollectedFrom paths collected →
      CollectedFrom (paths ++ rest.map Offer.path) (rest.foldl collect collected) := by
    intro rest
    induction rest with
    | nil =>
        intro paths collected h
        rw [List.map_nil, List.append_nil]
        exact h
    | cons offer rest ih =>
        intro paths collected h
        have hnext := ih (paths ++ [offer.path]) (collect collected offer) (h.collect offer)
        rw [List.append_assoc, List.singleton_append] at hnext
        exact hnext
  refine hrun offered [] ⟨[], InsertionMap.empty⟩ ?_
  exact
    { nodup := List.nodup_nil
      mem_iff := fun path => Iff.rfl
      reason_isSome := fun path => by simp
      target := fun path reason h => by cases h }

/-! ## Spellings -/

theorem normalizeRepoPath_eq_self {path : String} (h : '\\' ∉ path.toList) :
    normalizeRepoPath path = path := by
  apply String.toList_injective
  rw [normalizeRepoPath, String.toList_ofList]
  refine (List.map_congr_left ?_).trans (List.map_id _)
  intro c hc
  refine if_neg ?_
  rintro rfl
  exact h hc

/-- A normal form holds no backslash. -/
theorem backslash_notMem_normalizeRepoPath (path : String) :
    '\\' ∉ (normalizeRepoPath path).toList := by
  rw [normalizeRepoPath, String.toList_ofList, List.mem_map]
  rintro ⟨c, _, hc⟩
  split at hc
  · exact absurd hc (by decide)
  · rename_i hne
    exact hne hc

/-- How often a normal form occurs among the candidates. -/
theorem count_candidates {spellings : List String} {path : String}
    (hreadable : isReadableSourceFile path = true) :
    ((spellings.map normalizeRepoPath).filter isReadableSourceFile).count path =
      (spellings.filter fun spelling => normalizeRepoPath spelling = path).length := by
  rw [List.count_filter hreadable, List.count_eq_countP, List.countP_map,
    List.countP_eq_length_filter]
  refine congrArg List.length (List.filter_congr ?_)
  intro spelling _
  rfl

/-- A path that is the normal form of two spellings is counted twice, else once. -/
theorem count_candidates_eq_one_iff {spellings : List String} (hnodup : spellings.Nodup)
    {path : String} (hreadable : isReadableSourceFile path = true) (hpath : path ∈ spellings)
    (hnormal : normalizeRepoPath path = path) :
    ((spellings.map normalizeRepoPath).filter isReadableSourceFile).count path = 1 ↔
      ∀ spelling ∈ spellings, normalizeRepoPath spelling = path → spelling = path := by
  rw [count_candidates hreadable, List.length_eq_one_iff]
  have hself : path ∈ spellings.filter fun spelling => normalizeRepoPath spelling = path :=
    List.mem_filter.mpr ⟨hpath, decide_eq_true hnormal⟩
  constructor
  · rintro ⟨only, honly⟩ spelling hspelling hnormalizes
    have hmem : spelling ∈ spellings.filter fun spelling => normalizeRepoPath spelling = path :=
      List.mem_filter.mpr ⟨hspelling, decide_eq_true hnormalizes⟩
    rw [honly, List.mem_singleton] at hself hmem
    rw [hmem, hself]
  · intro honly
    refine ⟨path, ?_⟩
    have hall : ∀ spelling ∈ spellings.filter fun spelling => normalizeRepoPath spelling = path,
        spelling = path := by
      intro spelling hspelling
      obtain ⟨hmem, hnormalizes⟩ := List.mem_filter.mp hspelling
      exact honly spelling hmem (of_decide_eq_true hnormalizes)
    have hreplicate := List.eq_replicate_of_mem hall
    have hnodup' := hnodup.filter fun spelling => decide (normalizeRepoPath spelling = path)
    rw [hreplicate, List.nodup_replicate] at hnodup'
    have hpos := List.length_pos_of_mem hself
    have hlength : (spellings.filter fun spelling =>
        decide (normalizeRepoPath spelling = path)).length = 1 := by
      omega
    rw [hreplicate, hlength]
    rfl

/-- How many reasons have a target, where every reason targets its own key. -/
theorem length_reasons {get : String → Option ContextSelectionReason} {candidates : List String}
    (hget : ∀ path reason, get path = some reason → reason.target = path) (path : String) :
    ((candidates.filterMap get).filter fun reason => reason.target = path).length =
      if (get path).isSome then candidates.count path else 0 := by
  induction candidates with
  | nil => simp
  | cons candidate candidates ih =>
      rw [List.filterMap_cons, List.count_cons]
      cases hreason : get candidate with
      | none =>
          dsimp only
          rw [ih]
          by_cases hpath : candidate = path
          · subst hpath
            simp [hreason]
          · simp [hpath]
      | some reason =>
          have htarget := hget candidate reason hreason
          dsimp only
          rw [List.filter_cons, htarget]
          by_cases hpath : candidate = path
          · subst hpath
            simp only [decide_true, if_true, List.length_cons, ih, hreason, Option.isSome_some,
              BEq.rfl]
          · simp [hpath, ih]

/-! ## Where backslashes come from -/

theorem backslash_notMem_neighbor (platform : Platform) {repoRoot manifestPath fileName : String}
    (hfile : '\\' ∉ fileName.toList) :
    '\\' ∉ (toRelativeManifestNeighbor platform repoRoot manifestPath fileName).toList := by
  unfold toRelativeManifestNeighbor
  split
  · exact hfile
  · exact backslash_notMem_normalizeRepoPath _

/-- A path with a backslash is offered as it was declared as the public API of a module, or it
is the service file of a workflow whose own path has no directory. -/
theorem backslash_offered (platform : Platform) (input : ContextInput) {path : String}
    (hpath : path ∈ (offered platform input).map Offer.path) (hbackslash : '\\' ∈ path.toList) :
    (∃ manifest ∈ input.modules, path ∈ manifest.publicApi) ∨
      ∃ manifest ∈ input.workflows, path = manifest.name ++ ".service.ts" ∧
        directoryOf (normalizeRepoPath manifest.path) = none := by
  obtain ⟨offer, hoffer, rfl⟩ := List.mem_map.mp hpath
  unfold offered offers at hoffer
  rw [List.mem_append, List.mem_append, List.mem_append] at hoffer
  rcases hoffer with ((hplanned | hmodule) | hworkflow) | htracked
  · obtain ⟨apiPath, _, rfl⟩ := List.mem_map.mp hplanned
    exact absurd hbackslash (backslash_notMem_normalizeRepoPath apiPath)
  · obtain ⟨manifest, hmanifest, hoffers⟩ := List.mem_flatMap.mp hmodule
    unfold moduleOffers at hoffers
    split at hoffers
    · rcases List.mem_append.mp hoffers with hapi | hneighbor
      · obtain ⟨apiPath, hapiPath, rfl⟩ := List.mem_map.mp hapi
        exact Or.inl ⟨manifest, hmanifest, hapiPath⟩
      · obtain ⟨neighbor, hneighbors, rfl⟩ := List.mem_map.mp hneighbor
        have hplain : ∀ name ∈ ["README.md", "index.ts", "api.ts"], '\\' ∉ name.toList := by
          decide +kernel
        dsimp only at hbackslash
        exact absurd hbackslash (backslash_notMem_neighbor platform (hplain neighbor hneighbors))
    · cases hoffers
  · obtain ⟨manifest, hmanifest, hoffers⟩ := List.mem_flatMap.mp hworkflow
    unfold workflowOffers at hoffers
    split at hoffers
    · obtain ⟨neighbor, hneighbors, rfl⟩ := List.mem_map.mp hoffers
      rw [List.mem_cons, List.mem_singleton] at hneighbors
      rcases hneighbors with rfl | rfl
      · have hplain : '\\' ∉ "README.md".toList := by decide +kernel
        dsimp only at hbackslash
        exact absurd hbackslash (backslash_notMem_neighbor platform hplain)
      · refine Or.inr ⟨manifest, hmanifest, ?_⟩
        dsimp only at hbackslash ⊢
        unfold toRelativeManifestNeighbor at hbackslash ⊢
        split at hbackslash
        · rename_i hdirectory
          rw [hdirectory]
          exact ⟨rfl, rfl⟩
        · exact absurd hbackslash (backslash_notMem_normalizeRepoPath _)
    · cases hoffers
  · obtain ⟨file, hfile, rfl⟩ := List.mem_map.mp htracked
    obtain ⟨tracked, _, rfl⟩ := List.mem_map.mp (List.mem_filter.mp hfile).1
    exact absurd hbackslash (backslash_notMem_normalizeRepoPath tracked)

/-! ## Reasons of the loaded files -/

variable (platform : Platform) (readTextFile : String → Option (List Nat)) (input : ContextInput)

/-- The reasons for source files in a bundle. -/
def sourceReasons (bundle : RuntimeContextBundle) : List ContextSelectionReason :=
  bundle.selectionReasons.filter fun reason => reason.kind = .source

/-- The candidates of an input: the normal forms of the offered paths, each spelling once, that
are source files. -/
def candidateFiles : List String :=
  ((collectAll (offered platform input)).candidates.map normalizeRepoPath).filter
    isReadableSourceFile

/-- The paths of the snippets. -/
theorem paths_buildRuntimeContext :
    (buildRuntimeContext platform readTextFile input).sourceSnippets.map SourceSnippet.path =
      loadedPaths readTextFile (maxSourceFiles input) (candidateFiles platform input) :=
  paths_loadSourceSnippets readTextFile _ _ _

/-- A selection has the kind it was made for. -/
theorem kind_mergePlannedSelections {inferred : List ContextSelectionReason}
    {plannedTargets : List String} {kind : SelectionKind}
    (h : ∀ reason ∈ inferred, reason.kind = kind) :
    ∀ reason ∈ mergePlannedSelections inferred plannedTargets kind, reason.kind = kind := by
  have hinferred : ∀ (rest : List ContextSelectionReason)
      (selections : InsertionMap String ContextSelectionReason),
      (∀ reason ∈ rest, reason.kind = kind) → (∀ e ∈ selections.entries, e.2.kind = kind) →
      ∀ e ∈ (rest.foldl (fun selections selection => selections.set selection.target selection)
        selections).entries, e.2.kind = kind := by
    intro rest
    induction rest with
    | nil => exact fun selections _ hold => hold
    | cons first rest ih =>
        intro selections hrest hold
        refine ih _ (fun reason hreason => hrest reason (List.mem_cons_of_mem _ hreason)) ?_
        intro e he
        rcases InsertionMap.mem_entries_set.mp he with rfl | ⟨hmem, _⟩
        · exact hrest first List.mem_cons_self
        · exact hold e hmem
  have hplanned : ∀ (rest : List String)
      (selections : InsertionMap String ContextSelectionReason),
      (∀ e ∈ selections.entries, e.2.kind = kind) →
      ∀ e ∈ (rest.foldl (fun selections target =>
        if selections.has target then selections
        else selections.set target
          { kind, target, reason := "Execution strategy selected this context boundary." })
        selections).entries, e.2.kind = kind := by
    intro rest
    induction rest with
    | nil => exact fun selections hold => hold
    | cons first rest ih =>
        intro selections hold
        refine ih _ ?_
        dsimp only
        split
        · exact hold
        · intro e he
          rcases InsertionMap.mem_entries_set.mp he with rfl | ⟨hmem, _⟩
          · rfl
          · exact hold e hmem
  intro reason hreason
  obtain ⟨e, he, rfl⟩ := List.mem_map.mp hreason
  exact hplanned _ _ (hinferred inferred _ h fun e he => by cases he) e he

theorem kind_moduleSelection : ∀ reason ∈ moduleSelection platform input, reason.kind = .module := by
  refine kind_mergePlannedSelections ?_
  intro reason hreason
  obtain ⟨manifest, _, hmatch⟩ := List.mem_filterMap.mp hreason
  obtain ⟨found, _, rfl⟩ := Option.map_eq_some_iff.mp hmatch
  rfl

theorem kind_workflowSelection :
    ∀ reason ∈ workflowSelection platform input, reason.kind = .workflow := by
  refine kind_mergePlannedSelections ?_
  intro reason hreason
  obtain ⟨manifest, _, hmatch⟩ := List.mem_filterMap.mp hreason
  obtain ⟨found, _, rfl⟩ := Option.map_eq_some_iff.mp hmatch
  rfl

/-- The source reasons of a context are those of the candidates whose path is loaded. -/
theorem sourceReasons_eq :
    sourceReasons (buildRuntimeContext platform readTextFile input) =
      ((candidateFiles platform input).filterMap
        (collectAll (offered platform input)).reasons.get).filter fun reason =>
          (loadedPaths readTextFile (maxSourceFiles input)
            (candidateFiles platform input)).contains reason.target := by
  have hmodules : (moduleSelection platform input).filter
      (fun reason => reason.kind = .source) = [] := by
    rw [List.filter_eq_nil_iff]
    intro reason hreason
    rw [kind_moduleSelection platform input reason hreason]
    decide
  have hworkflows : (workflowSelection platform input).filter
      (fun reason => reason.kind = .source) = [] := by
    rw [List.filter_eq_nil_iff]
    intro reason hreason
    rw [kind_workflowSelection platform input reason hreason]
    decide
  have hpaths := paths_buildRuntimeContext platform readTextFile input
  rw [sourceReasons]
  unfold buildRuntimeContext at hpaths ⊢
  dsimp only at hpaths ⊢
  rw [List.filter_append, List.filter_append, hmodules, hworkflows, List.nil_append,
    List.nil_append, hpaths]
  refine List.filter_eq_self.mpr ?_
  intro reason hreason
  obtain ⟨path, _, hget⟩ := List.mem_filterMap.mp (List.mem_filter.mp hreason).1
  exact decide_eq_true ((collectedFrom_collectAll _).target path reason hget).2

/-- A path is loaded: it can be read, and fewer candidates before it than the budget allows can. -/
def IsLoaded (path : String) : Prop :=
  (readTextFile path).isSome = true ∧ ∃ before after,
    candidateFiles platform input = before ++ path :: after ∧
      (before.filter fun candidate => (readTextFile candidate).isSome).length <
        maxSourceFiles input

/-- What a context owes to the budgets of the plan and to its reader. -/
structure ExplainsItself (bundle : RuntimeContextBundle) : Prop where
  paths_nodup : (bundle.sourceSnippets.map SourceSnippet.path).Nodup
  count_le : (bundle.sourceSnippets.length : ℚ) ≤
    min (planBudget (input.plan.context.bind ExecutionPlanContext.maxSourceFiles)
      defaultMaxSourceSnippets) 12
  content_le : ∀ snippet ∈ bundle.sourceSnippets, (snippet.content.length : ℚ) ≤
    min (planBudget (input.plan.context.bind ExecutionPlanContext.maxSourceCharacters)
      defaultMaxSnippetChars) 8000
  truncated_iff : ∀ snippet ∈ bundle.sourceSnippets, ∃ file,
    readTextFile snippet.path = some file ∧ (snippet.truncated = true ↔
      min (planBudget (input.plan.context.bind ExecutionPlanContext.maxSourceCharacters)
        defaultMaxSnippetChars) 8000 < ((trimUnits file).length : ℚ))
  one_reason : ∀ snippet ∈ bundle.sourceSnippets,
    ((sourceReasons bundle).filter fun reason => reason.target = snippet.path).length = 1
  no_other_reason : ∀ reason ∈ sourceReasons bundle,
    reason.target ∈ bundle.sourceSnippets.map SourceSnippet.path

/-- The parts that hold for every input. -/
theorem snippets_within_budgets :
    ∀ snippet ∈ (buildRuntimeContext platform readTextFile input).sourceSnippets, ∃ file,
      readTextFile snippet.path = some file ∧
        snippet = snippetOf (maxSourceCharacters input) snippet.path file := by
  intro snippet hsnippet
  have hload : (buildRuntimeContext platform readTextFile input).sourceSnippets =
      (loadedPaths readTextFile (maxSourceFiles input) (candidateFiles platform input)).map
        fun path => snippetOf (maxSourceCharacters input) path ((readTextFile path).getD []) :=
    loadSourceSnippets_eq readTextFile _ _ _
  rw [hload] at hsnippet
  obtain ⟨path, hpath, rfl⟩ := List.mem_map.mp hsnippet
  obtain ⟨file, hfile⟩ := Option.isSome_iff_exists.mp
    ((mem_loadedPaths_iff readTextFile).mp hpath).1
  refine ⟨file, hfile, ?_⟩
  rw [hfile, Option.getD_some]
  rfl

/-- Every loaded path has one reason if and only if no other spelling of it was offered. -/
theorem one_reason_iff {path : String}
    (hpath : path ∈ loadedPaths readTextFile (maxSourceFiles input)
      (candidateFiles platform input)) :
    ((sourceReasons (buildRuntimeContext platform readTextFile input)).filter
        fun reason => reason.target = path).length = 1 ↔
      ∀ spelling ∈ (offered platform input).map Offer.path,
        normalizeRepoPath spelling = path → spelling = path := by
  have hcollected := collectedFrom_collectAll (offered platform input)
  have hcandidate : path ∈ candidateFiles platform input := by
    unfold loadedPaths at hpath
    exact (List.mem_filter.mp (List.mem_of_mem_take hpath)).1
  obtain ⟨hspelled, hreadable⟩ := List.mem_filter.mp hcandidate
  obtain ⟨spelled, hspelling, hnormalizes⟩ := List.mem_map.mp hspelled
  have hnormal : normalizeRepoPath path = path := by
    refine normalizeRepoPath_eq_self ?_
    rw [← hnormalizes]
    exact backslash_notMem_normalizeRepoPath spelled
  rw [sourceReasons_eq, List.filter_filter]
  have hfilter : ((candidateFiles platform input).filterMap
      (collectAll (offered platform input)).reasons.get).filter (fun reason =>
        decide (reason.target = path) && (loadedPaths readTextFile (maxSourceFiles input)
          (candidateFiles platform input)).contains reason.target) =
      ((candidateFiles platform input).filterMap
        (collectAll (offered platform input)).reasons.get).filter
          fun reason => reason.target = path := by
    refine List.filter_congr ?_
    intro reason _
    by_cases htarget : reason.target = path
    · simp [htarget, hpath]
    · simp [htarget]
  rw [hfilter, length_reasons fun other reason h => (hcollected.target other reason h).1]
  by_cases hoffered : path ∈ (offered platform input).map Offer.path
  · rw [if_pos ((hcollected.reason_isSome path).mpr hoffered), candidateFiles,
      count_candidates_eq_one_iff hcollected.nodup hreadable ((hcollected.mem_iff path).mpr hoffered)
        hnormal]
    simp only [hcollected.mem_iff]
  · rw [if_neg fun h => hoffered ((hcollected.reason_isSome path).mp h)]
    constructor
    · exact fun h => absurd h (by decide)
    · intro hall
      have hmem := (hcollected.mem_iff spelled).mp hspelling
      exact absurd (hall spelled hmem hnormalizes ▸ hmem) hoffered

/-- Loaded paths that were offered in their normal form alone are different. -/
theorem loadedPaths_nodup
    (h : ∀ path ∈ loadedPaths readTextFile (maxSourceFiles input) (candidateFiles platform input),
      ∀ spelling ∈ (offered platform input).map Offer.path,
        normalizeRepoPath spelling = path → spelling = path) :
    (loadedPaths readTextFile (maxSourceFiles input) (candidateFiles platform input)).Nodup := by
  have hcollected := collectedFrom_collectAll (offered platform input)
  have hsublist : (loadedPaths readTextFile (maxSourceFiles input)
      (candidateFiles platform input)).Sublist (candidateFiles platform input) :=
    (List.take_sublist _ _).trans List.filter_sublist
  rw [List.nodup_iff_count_le_one]
  intro path
  by_cases hpath : path ∈ loadedPaths readTextFile (maxSourceFiles input)
      (candidateFiles platform input)
  · obtain ⟨hspelled, hreadable⟩ := List.mem_filter.mp (hsublist.subset hpath)
    obtain ⟨spelled, hspelling, hnormalizes⟩ := List.mem_map.mp hspelled
    have hsame := h path hpath spelled ((hcollected.mem_iff spelled).mp hspelling) hnormalizes
    have hone := (count_candidates_eq_one_iff hcollected.nodup hreadable (hsame ▸ hspelling)
      (hsame ▸ hnormalizes)).mpr fun spelling hmem =>
        h path hpath spelling ((hcollected.mem_iff spelling).mp hmem)
    exact (hsublist.count_le path).trans (le_of_eq hone)
  · rw [List.count_eq_zero_of_not_mem hpath]
    exact Nat.zero_le 1

/-- The context of every input keeps the budgets; its paths are different and have one reason
each if and only if no path with a backslash was offered whose normal form is loaded. -/
theorem context_explains_itself_iff :
    ExplainsItself readTextFile input (buildRuntimeContext platform readTextFile input) ↔
      ∀ spelling ∈ (offered platform input).map Offer.path, '\\' ∈ spelling.toList →
        ¬IsLoaded platform readTextFile input (normalizeRepoPath spelling) := by
  have hpaths := paths_buildRuntimeContext platform readTextFile input
  have hloaded : ∀ path, IsLoaded platform readTextFile input path ↔
      path ∈ loadedPaths readTextFile (maxSourceFiles input) (candidateFiles platform input) :=
    fun path => (mem_loadedPaths_iff readTextFile).symm
  have hspellings : (∀ spelling ∈ (offered platform input).map Offer.path,
        '\\' ∈ spelling.toList →
        ¬IsLoaded platform readTextFile input (normalizeRepoPath spelling)) ↔
      ∀ path ∈ loadedPaths readTextFile (maxSourceFiles input) (candidateFiles platform input),
        ∀ spelling ∈ (offered platform input).map Offer.path,
          normalizeRepoPath spelling = path → spelling = path := by
    constructor
    · rintro h path hpath spelling hspelling rfl
      by_cases hbackslash : '\\' ∈ spelling.toList
      · exact absurd ((hloaded _).mpr hpath) (h spelling hspelling hbackslash)
      · exact (normalizeRepoPath_eq_self hbackslash).symm
    · intro h spelling hspelling hbackslash hload
      have hsame := h _ ((hloaded _).mp hload) spelling hspelling rfl
      rw [hsame] at hbackslash
      exact backslash_notMem_normalizeRepoPath spelling hbackslash
  rw [hspellings]
  constructor
  · intro h path hpath
    rw [← hpaths] at hpath
    obtain ⟨snippet, hsnippet, rfl⟩ := List.mem_map.mp hpath
    rw [hpaths] at hpath
    exact (one_reason_iff platform readTextFile input hpath).mp (h.one_reason snippet hsnippet)
  · intro h
    have hwithin := snippets_within_budgets platform readTextFile input
    refine ⟨?_, ?_, ?_, ?_, ?_, ?_⟩
    · rw [hpaths]
      exact loadedPaths_nodup platform readTextFile input h
    · have hlength := congrArg List.length hpaths
      rw [List.length_map] at hlength
      rw [hlength]
      refine (le_boundedBudget_iff (by decide)).mp ?_
      exact List.length_take_le _ _
    · intro snippet hsnippet
      obtain ⟨file, _, hsnippetOf⟩ := hwithin snippet hsnippet
      rw [hsnippetOf]
      exact (le_boundedBudget_iff (by decide)).mp (trimTo_length_le file _)
    · intro snippet hsnippet
      obtain ⟨file, hfile, hsnippetOf⟩ := hwithin snippet hsnippet
      refine ⟨file, hfile, ?_⟩
      rw [hsnippetOf, ← not_le]
      refine Iff.trans ?_ (not_congr (le_boundedBudget_iff (by decide)))
      exact decide_eq_true_iff.trans not_le.symm
    · intro snippet hsnippet
      have hpath : snippet.path ∈ loadedPaths readTextFile (maxSourceFiles input)
          (candidateFiles platform input) := by
        rw [← hpaths]
        exact List.mem_map_of_mem hsnippet
      exact (one_reason_iff platform readTextFile input hpath).mpr (h _ hpath)
    · intro reason hreason
      rw [sourceReasons_eq] at hreason
      rw [hpaths]
      exact List.contains_iff_mem.mp (List.mem_filter.mp hreason).2

/-! ## A path with a backslash -/

/-- A path below a root, relative to it. -/
def belowRoot (root path : String) : String :=
  if startsWith path (root ++ "/") then String.ofList (path.toList.drop (root.length + 1)) else path

/-- ASCII texts, with the common Han characters. -/
def samplePlatform : Platform where
  toLowerCase := fun text => String.ofList (text.toList.map Char.toLower)
  isHan := fun c => decide (0x4E00 ≤ c.toNat ∧ c.toNat ≤ 0x9FFF)
  isLetter := fun c => c.isAlpha || decide (0x4E00 ≤ c.toNat ∧ c.toNat ≤ 0x9FFF)
  isNumber := Char.isDigit
  relative := belowRoot

/-- A module that declares one file, for a task that names the module. -/
def sampleInput (apiPath : String) : ContextInput where
  task := "Fix the billing rounding"
  repo :=
    { root := "/repo", packageManager := some .pnpm, scripts := InsertionMap.empty
      trackedFiles := [], sourceDirectories := ["src"], moduleManifestPaths := []
      workflowManifestPaths := [], verificationCommands := none }
  modules := [{ path := "/repo/src/modules/billing/module.yaml", name := "billing"
                description := none, publicApi := [apiPath], dependsOn := [], usedBy := []
                rules := [] }]
  workflows := []
  plan := { context := none, verificationCommands := some ["pnpm test"], testCommands := none }

/-- A repository with one file. -/
def sampleFile (path : String) : Option (List Nat) :=
  if path = "src/modules/billing/rounding.ts" then some (codeUnits "export const digits = 2;\n")
  else none

/-- The file that is declared with backslashes is loaded and has no reason. -/
theorem backslash_path_unexplained :
    ¬∀ (platform : Platform) (readTextFile : String → Option (List Nat)) (input : ContextInput),
      ExplainsItself readTextFile input (buildRuntimeContext platform readTextFile input) := by
  intro hall
  have hexplains := hall samplePlatform sampleFile
    (sampleInput "src\\modules\\billing\\rounding.ts")
  have hrun : (buildRuntimeContext samplePlatform sampleFile
        (sampleInput "src\\modules\\billing\\rounding.ts")).sourceSnippets.map SourceSnippet.path =
        ["src/modules/billing/rounding.ts"] ∧
      sourceReasons (buildRuntimeContext samplePlatform sampleFile
        (sampleInput "src\\modules\\billing\\rounding.ts")) = [] := by
    decide +kernel
  have hmem : "src/modules/billing/rounding.ts" ∈ (buildRuntimeContext samplePlatform sampleFile
      (sampleInput "src\\modules\\billing\\rounding.ts")).sourceSnippets.map SourceSnippet.path := by
    rw [hrun.1]
    exact List.mem_singleton_self _
  obtain ⟨snippet, hsnippet, _⟩ := List.mem_map.mp hmem
  have hone := hexplains.one_reason snippet hsnippet
  rw [hrun.2] at hone
  cases hone

end Context
end TokenStreaming
