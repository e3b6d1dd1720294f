import TokenStreaming.AiManifest.Generator

/-!
# AiManifest - Loading a manifest that was written

{lit}`loadRepoManifest` reads the official manifest where one of its files
exists, else the generated one.  What the generator wrote comes back unless the
names of scripts or the verification commands break the YAML subset.

The playbooks, modules and workflows of a manifest are left out.

Main results:

- Theorem {lit}`groups_roundTrip_iff`: the inferred command groups come back if
  and only if the names of the scripts are plain keys.
- Theorem {lit}`scaffoldCommands_roundTrip`: the scaffolded commands always come back.
- Theorem {lit}`load_of_generated`, {lit}`load_of_scaffolded`: what is loaded is
  what the reader makes of the files.
- Theorem {lit}`manifest_loads_back_iff`: both manifests, for every repository.
-/

namespace TokenStreaming
namespace AiManifest

open Core Domain

variable (platform : Platform) (summary : RepoSummary)

/-! ## The loader -/

structure RepoManifest where
  project : Option String
  architecture : Option String
  conventions : Option String
  glossary : Option String
  commands : Option (InsertionMap String YamlEntry)
  tests : Option (InsertionMap String YamlEntry)
  safety : Option (InsertionMap String YamlEntry)
  models : Option (InsertionMap String YamlEntry)
  ownership : Option (InsertionMap String YamlEntry)
  generated : Bool

def rootTextFiles : List String :=
  ["project.md", "architecture.md", "conventions.md", "glossary.md"]

def officialFiles : List String :=
  rootTextFiles ++ ["commands.yaml", "tests.yaml", "models.yaml", "ownership.yaml", "safety.yaml"]

def hasOfficialRootManifest (files : Files) : Bool :=
  officialFiles.any fun name => (files (aiRoot ++ [name])).isSome

def readYamlIfExists (files : Files) (path : RepoPath) :
    Option (InsertionMap String YamlEntry) :=
  (files path).map parseSimpleYaml

def loadRepoManifest (files : Files) : RepoManifest :=
  let hasRootManifest := hasOfficialRootManifest files
  let fallbackRoot := if hasRootManifest then aiRoot else generatedRoot
  let yaml (name : String) := readYamlIfExists files (fallbackRoot ++ [name])
  let text (name : String) := files (fallbackRoot ++ [name])
  { project := text "project.md"
    architecture := text "architecture.md"
    conventions := text "conventions.md"
    glossary := text "glossary.md"
    commands := yaml "commands.yaml"
    tests := yaml "tests.yaml"
    safety := yaml "safety.yaml"
    models := yaml "models.yaml"
    ownership := yaml "ownership.yaml"
    generated := !hasRootManifest }

/-! ## Members of the inferred records -/

section Members

variable {α ν : Type}

/-- The members of a record to which others are added, where no two of these share a key. -/
theorem mem_foldl_set {members : List (String × ν)} (hnodup : (members.map Prod.fst).Nodup)
    {record : InsertionMap String ν} {e : String × ν} :
    e ∈ (members.foldl (fun groups e => groups.set e.1 e.2) record).entries ↔
      e ∈ members ∨ (e ∈ record.entries ∧ e.1 ∉ members.map Prod.fst) := by
  induction members generalizing record with
  | nil => simp
  | cons first members ih =>
      rw [List.map_cons, List.nodup_cons] at hnodup
      rw [List.foldl_cons, ih hnodup.2, InsertionMap.mem_entries_set, List.mem_cons, List.map_cons,
        List.mem_cons, not_or]
      constructor
      · rintro (hmem | ⟨rfl | ⟨hold, hne⟩, hnew⟩)
        · exact Or.inl (Or.inr hmem)
        · exact Or.inl (Or.inl rfl)
        · exact Or.inr ⟨hold, hne, hnew⟩
      · rintro ((rfl | hmem) | ⟨hold, hne, hnew⟩)
        · exact Or.inr ⟨Or.inl rfl, hnodup.1⟩
        · exact Or.inl hmem
        · exact Or.inr ⟨Or.inr ⟨hold, hne⟩, hnew⟩

end Members

theorem mem_recordOf {members : List (String × List String)}
    (hnodup : (members.map Prod.fst).Nodup) {e : String × List String} :
    e ∈ (recordOf members).entries ↔ e ∈ members := by
  rw [recordOf, mem_foldl_set hnodup]
  simp [InsertionMap.empty]

theorem mem_spread {target source : InsertionMap String (List String)} {e : String × List String} :
    e ∈ (spread target source).entries ↔
      e ∈ source.entries ∨ (e ∈ target.entries ∧ e.1 ∉ source.entries.map Prod.fst) := by
  have hperm := objectEntries_perm source
  rw [spread, mem_foldl_set ((hperm.map Prod.fst).nodup_iff.mpr source.nodup_keys),
    hperm.mem_iff, (hperm.map Prod.fst).mem_iff]

/-- The names of the scripts, each once. -/
theorem mem_scriptNames {name : String} :
    name ∈ scriptNames summary ↔ name ∈ summary.scripts.entries.map Prod.fst :=
  ((objectEntries_perm summary.scripts).map Prod.fst).mem_iff

theorem scriptNames_nodup : (scriptNames summary).Nodup :=
  ((objectEntries_perm summary.scripts).map Prod.fst).nodup_iff.mpr summary.scripts.nodup_keys

/-- There is one group for each script. -/
theorem mem_scriptGroups {e : String × List String} :
    e ∈ (scriptGroups summary).entries ↔
      e.1 ∈ scriptNames summary ∧ e.2 = [runCommand summary e.1] := by
  let sorted := (scriptNames summary).mergeSort fun left right => !textGreater left right
  have hperm : sorted.Perm (scriptNames summary) := List.mergeSort_perm _ _
  have hfold : scriptGroups summary =
      (sorted.map fun name => (name, [runCommand summary name])).foldl
        (fun groups e => groups.set e.1 e.2) InsertionMap.empty := by
    rw [scriptGroups, List.foldl_map]
  have hkeys : (sorted.map fun name => (name, [runCommand summary name])).map Prod.fst = sorted := by
    rw [List.map_map]
    exact List.map_id _
  rw [hfold, mem_foldl_set]
  · simp only [InsertionMap.entries_empty, List.not_mem_nil, false_and, or_false, List.mem_map]
    constructor
    · rintro ⟨name, hname, rfl⟩
      exact ⟨hperm.mem_iff.mp hname, rfl⟩
    · rintro ⟨hname, hcommands⟩
      exact ⟨e.1, hperm.mem_iff.mpr hname, by rw [← hcommands]⟩
  · rw [hkeys]
    exact hperm.nodup_iff.mpr (scriptNames_nodup summary)

/-- The members that do not come from scripts. -/
def FixedMember (e : String × List String) : Prop :=
  IsPlainKey e.1 ∧ ∀ item ∈ e.2, Survives item

/-- The keys that the generator writes itself. -/
theorem isPlainKey_fixed : ∀ key ∈ ["install", "build", "test", "lint", "typecheck", "default",
    "smoke"], IsPlainKey key := by
  decide +kernel

theorem inferInstallCommands_survive : ∀ item ∈ inferInstallCommands platform summary,
    Survives item := by
  have hmanager : ∀ manager : PackageManager, Survives (manager.text ++ " install") := by
    intro manager
    cases manager <;> decide +kernel
  unfold inferInstallCommands
  cases summary.packageManager with
  | some manager => simpa using hmanager manager
  | none =>
      have hcommands : ∀ item ∈ ["uv sync", "poetry install",
          "python -m pip install -r requirements.txt", "python -m pip install -e ."],
          Survives item := by
        decide +kernel
      intro item hitem
      refine hcommands item ?_
      dsimp only at hitem
      split_ifs at hitem
      · simp_all
      · simp_all
      · simp_all
      · simp_all
      · cases hitem

/-- Setting a member that is fixed keeps the members fixed. -/
theorem fixedMember_set {record : InsertionMap String (List String)}
    (h : ∀ e ∈ record.entries, FixedMember e) {key : String} {items : List String}
    (hnew : FixedMember (key, items)) : ∀ e ∈ (record.set key items).entries, FixedMember e := by
  intro e he
  rcases InsertionMap.mem_entries_set.mp he with rfl | ⟨hold, _⟩
  · exact hnew
  · exact h e hold

theorem fixedMember_python : ∀ e ∈ (inferPythonCommandGroups platform summary).entries,
    FixedMember e := by
  have htest : FixedMember ("test", ["python -m pytest"]) :=
    ⟨by decide +kernel, by decide +kernel⟩
  have hlint : FixedMember ("lint", ["python -m ruff check ."]) :=
    ⟨by decide +kernel, by decide +kernel⟩
  have htypecheck : FixedMember ("typecheck", ["python -m mypy ."]) :=
    ⟨by decide +kernel, by decide +kernel⟩
  have hempty : ∀ e ∈ (InsertionMap.empty (κ := String) (ν := List String)).entries,
      FixedMember e := fun e he => absurd he List.not_mem_nil
  have hstep : ∀ {c : Prop} [Decidable c] {record : InsertionMap String (List String)}
      {key : String} {items : List String}, (∀ e ∈ record.entries, FixedMember e) →
      FixedMember (key, items) →
      ∀ e ∈ (if c then record.set key items else record).entries, FixedMember e := by
    intro c _ record key items hrecord hnew
    split
    · exact fixedMember_set hrecord hnew
    · exact hrecord
  unfold inferPythonCommandGroups
  dsimp only
  split
  · exact hempty
  · exact hstep (hstep (hstep hempty htest) hlint) htypecheck

/-- A command that runs a script with a plain name survives. -/
theorem runCommand_survives {name : String} (h : IsPlainKey name) :
    Survives (runCommand summary name) := by
  obtain ⟨hne, hchars, _⟩ := h
  obtain ⟨front, last, hlast⟩ : ∃ front last, name.toList = front ++ [last] := by
    rcases List.eq_nil_or_concat name.toList with hnil | ⟨front, last, hconcat⟩
    · exact absurd (String.toList_injective hnil) hne
    · exact ⟨front, last, hconcat.trans List.concat_eq_append⟩
  have hstart : ∃ first middle, ((summary.packageManager.map PackageManager.text).getD "pnpm" ++
      " run ").toList = first :: middle ∧ isTrimmable first = false ∧ first ≠ '"' ∧ first ≠ '\'' ∧
      ∀ c ∈ first :: middle, isLineTerminator c = false := by
    have hmanager : ∀ manager ∈ ["pnpm", "npm", "yarn", "bun"],
        (manager ++ " run ").toList.head?.any (fun c =>
          !isTrimmable c && c != '"' && c != '\'') = true ∧
        ∀ c ∈ (manager ++ " run ").toList, isLineTerminator c = false := by
      decide +kernel
    have hmem : (summary.packageManager.map PackageManager.text).getD "pnpm" ∈
        ["pnpm", "npm", "yarn", "bun"] := by
      cases summary.packageManager with
      | none => exact List.mem_cons_self
      | some manager => cases manager <;> decide +kernel
    obtain ⟨hhead, hone⟩ := hmanager _ hmem
    cases hlist : ((summary.packageManager.map PackageManager.text).getD "pnpm" ++
        " run ").toList with
    | nil =>
        rw [hlist] at hhead
        cases hhead
    | cons first middle =>
        rw [hlist] at hhead hone
        simp only [List.head?_cons, Option.any_some, Bool.and_eq_true, Bool.not_eq_true',
          bne_iff_ne, ne_eq] at hhead
        exact ⟨first, middle, rfl, hhead.1.1, hhead.1.2, hhead.2, hone⟩
  obtain ⟨first, middle, hfirst, hblank, hdouble, hsingle, hone⟩ := hstart
  have htext : (runCommand summary name).toList = first :: (middle ++ (front ++ [last])) := by
    rw [runCommand, String.toList_append, hfirst, hlast, List.cons_append]
  have hlastkey : isKeyCharacter last = true :=
    hchars last (hlast ▸ List.mem_append_right _ List.mem_cons_self)
  refine ⟨?_, ?_, ?_, ?_, ?_⟩
  · intro c hc
    rw [htext, ← List.cons_append, List.mem_append, ← hlast] at hc
    rcases hc with hc | hc
    · exact hone c hc
    · have hbounds := isKeyCharacter_bounds (hchars c hc)
      rw [isLineTerminator, ← Bool.not_eq_true]
      intro hend
      simp only [Bool.or_eq_true, beq_iff_eq] at hend
      rcases hend with ((rfl | rfl) | rfl) | rfl
      · exact absurd hbounds (by decide)
      · exact absurd hbounds (by decide)
      · exact absurd hbounds (by decide)
      · exact absurd hbounds (by decide)
  · intro hempty
    rw [hempty] at htext
    cases htext
  · have hend : first :: (middle ++ (front ++ [last])) = (first :: (middle ++ front)) ++ [last] := by
      simp
    have htrimStart : trimStart (first :: (middle ++ (front ++ [last]))) =
        first :: (middle ++ (front ++ [last])) := by
      rw [trimStart, List.dropWhile_cons, hblank]
      rfl
    rw [htext, trimBoth, htrimStart, hend,
      trimEnd_concat (not_isTrimmable_of_isKeyCharacter hlastkey)]
  · rw [htext]
    simp [isEnclosed, hdouble]
  · rw [htext]
    simp [isEnclosed, hsingle]

/-! ## Commands -/

/-- The groups are those of the scripts, and fixed ones. -/
theorem mem_inferCommandGroups {e : String × List String}
    (he : e ∈ (inferCommandGroups platform summary).entries) :
    (e.1 ∈ scriptNames summary ∧ e.2 = [runCommand summary e.1]) ∨ FixedMember e := by
  rw [inferCommandGroups, mem_spread, mem_spread] at he
  rcases he with hscript | ⟨hpython | ⟨hbase, _⟩, _⟩
  · exact Or.inl ((mem_scriptGroups summary).mp hscript)
  · exact Or.inr (fixedMember_python platform summary e hpython)
  · split at hbase
    · cases hbase
    · rcases InsertionMap.mem_entries_set.mp hbase with rfl | ⟨hold, _⟩
      · exact Or.inr ⟨isPlainKey_fixed "install" (by simp),
          inferInstallCommands_survive platform summary⟩
      · cases hold

/-- The group of a script is among the groups. -/
theorem scriptGroup_mem {name : String} (h : name ∈ scriptNames summary) :
    (name, [runCommand summary name]) ∈ (inferCommandGroups platform summary).entries :=
  mem_spread.mpr (Or.inl ((mem_scriptGroups summary).mpr ⟨h, rfl⟩))

/-- The inferred command groups come back if and only if the names of the scripts are plain. -/
theorem groups_roundTrip_iff :
    RoundTrips (inferCommandGroups platform summary) ↔
      ∀ name ∈ scriptNames summary, IsPlainKey name := by
  rw [yaml_roundTrip_iff]
  constructor
  · intro h name hname
    exact (h _ (scriptGroup_mem platform summary hname)).1
  · intro h e he
    rcases mem_inferCommandGroups platform summary he with ⟨hname, hcommands⟩ | hfixed
    · refine ⟨h e.1 hname, ?_⟩
      rw [hcommands]
      intro item hitem
      rw [List.mem_singleton.mp hitem]
      exact runCommand_survives summary (h e.1 hname)
    · exact hfixed

/-- A group that is looked up holds commands that survive, where its key is a plain one. -/
theorem group_survives {key : String} (hkey : IsPlainKey key) :
    ∀ item ∈ ((inferCommandGroups platform summary).get key).getD [], Survives item := by
  cases hget : (inferCommandGroups platform summary).get key with
  | none => exact fun item hitem => absurd hitem List.not_mem_nil
  | some items =>
      rcases mem_inferCommandGroups platform summary (InsertionMap.get_eq_some_iff.mp hget) with
        ⟨_, hcommands⟩ | hfixed
      · intro item hitem
        have hrun : items = [runCommand summary key] := hcommands
        rw [Option.getD_some, hrun, List.mem_singleton] at hitem
        rw [hitem]
        exact runCommand_survives summary hkey
      · exact hfixed.2

/-- A record of a few members comes back if and only if each of them does. -/
theorem recordOf_roundTrip_iff {members : List (String × List String)}
    (hnodup : (members.map Prod.fst).Nodup) :
    RoundTrips (recordOf members) ↔ ∀ e ∈ members, FixedMember e := by
  rw [yaml_roundTrip_iff]
  constructor
  · exact fun h e he => h e ((mem_recordOf hnodup).mpr he)
  · exact fun h e he => h e ((mem_recordOf hnodup).mp he)

/-- The scaffolded commands always come back. -/
theorem scaffoldCommands_roundTrip : RoundTrips (scaffoldCommands platform summary) := by
  have hkeys : ["install", "build", "test", "lint", "typecheck"].Nodup := by decide +kernel
  have hgroup : ∀ key ∈ ["build", "test", "lint", "typecheck"],
      FixedMember (key, ((inferCommandGroups platform summary).get key).getD []) := by
    intro key hkey
    have hplain : IsPlainKey key := by
      refine isPlainKey_fixed key ?_
      simp only [List.mem_cons, List.not_mem_nil, or_false] at hkey ⊢
      rcases hkey with rfl | rfl | rfl | rfl
      · simp
      · simp
      · simp
      · simp
    exact ⟨hplain, group_survives platform summary hplain⟩
  refine (recordOf_roundTrip_iff ?_).mpr ?_
  · exact hkeys
  simp only [List.forall_mem_cons]
  refine ⟨⟨isPlainKey_fixed "install" (by simp), inferInstallCommands_survive platform summary⟩,
    hgroup _ (by simp), hgroup _ (by simp), hgroup _ (by simp), hgroup _ (by simp), ?_⟩
  exact fun e he => absurd he List.not_mem_nil

/-! ## Tests -/

/-- With plain names, the test commands survive if and only if the verification commands do. -/
theorem testCommands_survive_iff (hnames : ∀ name ∈ scriptNames summary, IsPlainKey name) :
    (∀ item ∈ inferTestCommands platform summary, Survives item) ↔
      ∀ command ∈ summary.verificationCommands.getD [], Survives command := by
  have hpython : ∀ key, ∀ item ∈ ((inferPythonCommandGroups platform summary).get key).getD [],
      Survives item := by
    intro key
    cases hget : (inferPythonCommandGroups platform summary).get key with
    | none => exact fun item hitem => absurd hitem List.not_mem_nil
    | some items =>
        exact (fixedMember_python platform summary _ (InsertionMap.get_eq_some_iff.mp hget)).2
  unfold inferTestCommands
  simp only [List.mem_eraseDups, List.mem_append]
  constructor
  · intro h command hcommand
    exact h command (Or.inl (Or.inl (Or.inl (Or.inr hcommand))))
  · intro h item hitem
    rcases hitem with (((hscript | hcommand) | htest) | hlint) | htypecheck
    · obtain ⟨name, hname, rfl⟩ := List.mem_map.mp hscript
      exact runCommand_survives summary (hnames name (List.mem_filter.mp hname).1)
    · exact h item hcommand
    · exact hpython _ item htest
    · exact hpython _ item hlint
    · exact hpython _ item htypecheck

theorem generatedTests_roundTrip_iff (hnames : ∀ name ∈ scriptNames summary, IsPlainKey name) :
    RoundTrips (generatedTests platform summary) ↔
      ∀ command ∈ summary.verificationCommands.getD [], Survives command := by
  have hkey : IsPlainKey "default" := isPlainKey_fixed "default" (by simp)
  have hkeys : ["default"].Nodup := List.nodup_singleton _
  rw [← testCommands_survive_iff platform summary hnames]
  refine (recordOf_roundTrip_iff ?_).trans ?_
  · exact hkeys
  · simp [FixedMember, hkey]

theorem scriptCommand_survives {script : String} (h : IsPlainKey script) :
    ∀ item ∈ scriptCommand platform summary script, Survives item := by
  unfold scriptCommand
  split
  · exact fun item hitem => absurd hitem List.not_mem_nil
  · split
    · exact fun item hitem => absurd hitem List.not_mem_nil
    · intro item hitem
      rw [List.mem_singleton.mp hitem]
      exact runCommand_survives summary h

theorem scaffoldTests_roundTrip (hnames : ∀ name ∈ scriptNames summary, IsPlainKey name)
    (hcommands : ∀ command ∈ summary.verificationCommands.getD [], Survives command) :
    RoundTrips (scaffoldTests platform summary) := by
  have hkeys : ["default", "smoke"].Nodup := by decide +kernel
  refine (recordOf_roundTrip_iff ?_).mpr ?_
  · exact hkeys
  simp only [List.forall_mem_cons]
  refine ⟨⟨isPlainKey_fixed "default" (by simp), ?_⟩, ⟨isPlainKey_fixed "smoke" (by simp), ?_⟩, ?_⟩
  · dsimp only
    split
    · exact scriptCommand_survives platform summary (by decide +kernel)
    · exact (testCommands_survive_iff platform summary hnames).mpr hcommands
  · exact fun item hitem => absurd hitem List.not_mem_nil
  · exact fun e he => absurd he List.not_mem_nil

/-! ## Files that were written -/

/-- A file whose name is not among the written ones is left as it is. -/
theorem writeFiles_other {overwrite : Bool} {root path : RepoPath} {contents : List (String × String)}
    (h : ∀ file ∈ contents, path ≠ root ++ [file.1]) (state : WriteState) :
    (contents.foldl (writeManifestFile overwrite root) state).files path = state.files path := by
  induction contents generalizing state with
  | nil => rfl
  | cons file contents ih =>
      rw [List.foldl_cons, ih fun other hother => h other (List.mem_cons_of_mem _ hother)]
      unfold writeManifestFile
      dsimp only
      split
      · rfl
      · exact if_neg (h file List.mem_cons_self)

/-- A file that may be written has its content afterwards. -/
theorem writeFiles_mem {overwrite : Bool} {root : RepoPath} {contents : List (String × String)}
    (hnodup : (contents.map Prod.fst).Nodup) {file : String × String} (hfile : file ∈ contents)
    (state : WriteState) (hfree : overwrite = true ∨ state.files (root ++ [file.1]) = none) :
    (contents.foldl (writeManifestFile overwrite root) state).files (root ++ [file.1]) =
      some (fileContent file.2) := by
  induction contents generalizing state with
  | nil => cases hfile
  | cons first contents ih =>
      rw [List.map_cons, List.nodup_cons] at hnodup
      have hpath : ∀ {name name' : String}, root ++ [name] = root ++ [name'] → name = name' := by
        intro name name' h
        exact List.singleton_inj.mp (List.append_cancel_left h)
      rw [List.foldl_cons]
      rcases List.mem_cons.mp hfile with rfl | hmem
      · rw [writeFiles_other]
        · unfold writeManifestFile
          dsimp only
          rw [if_neg]
          · exact if_pos rfl
          · rcases hfree with rfl | hnone
            · simp
            · simp [hnone]
        · intro other hother heq
          exact hnodup.1 (List.mem_map.mpr ⟨other, hother, (hpath heq).symm⟩)
      · refine ih hnodup.2 hmem _ ?_
        rcases hfree with hover | hnone
        · exact Or.inl hover
        · refine Or.inr ?_
          have hne : root ++ [file.1] ≠ root ++ [first.1] := by
            intro heq
            exact hnodup.1 (List.mem_map.mpr ⟨file, hmem, hpath heq⟩)
          unfold writeManifestFile
          dsimp only
          split
          · exact hnone
          · exact (if_neg hne).trans hnone

/-- The file of a record is read to a record with the same members. -/
def ReadsAs (loaded : Option (InsertionMap String YamlEntry))
    (groups : InsertionMap String (List String)) : Prop :=
  ∃ record, loaded = some record ∧ ∀ key, record.get key = (groups.get key).map .list

theorem readsAs_iff {loaded : Option (InsertionMap String YamlEntry)}
    {groups : InsertionMap String (List String)}
    (h : loaded = some (parseSimpleYaml (fileContent (stringifySimpleYaml (listRecord groups))))) :
    ReadsAs loaded groups ↔ RoundTrips groups := by
  rw [h]
  constructor
  · rintro ⟨record, hrecord, hget⟩
    rw [← Option.some.inj hrecord] at hget
    exact hget
  · exact fun hget => ⟨_, rfl, hget⟩

/-- After the generator wrote its files, the loader reads them. -/
theorem load_of_generated (overwrite : Bool) (files : Files)
    (hnone : hasOfficialRootManifest files = false)
    (hfree : overwrite = true ∨ ∀ name ∈ ["commands.yaml", "tests.yaml"],
      files (generatedRoot ++ [name]) = none) :
    let loaded := loadRepoManifest (generateFallbackManifest platform summary overwrite files).files
    (ReadsAs loaded.commands (inferCommandGroups platform summary) ↔
        RoundTrips (inferCommandGroups platform summary)) ∧
      (ReadsAs loaded.tests (generatedTests platform summary) ↔
        RoundTrips (generatedTests platform summary)) := by
  intro loaded
  have hnodup : ((generatedContents platform summary).map Prod.fst).Nodup := by
    have hnames : (generatedContents platform summary).map Prod.fst =
        ["project.md", "architecture.md", "commands.yaml", "tests.yaml", "repo-map.json"] := rfl
    rw [hnames]
    decide +kernel
  have hofficial : hasOfficialRootManifest
      (generateFallbackManifest platform summary overwrite files).files = false := by
    rw [← hnone, hasOfficialRootManifest, hasOfficialRootManifest]
    refine congrArg (officialFiles.any ·) (funext fun name => ?_)
    rw [generateFallbackManifest, writeFiles, writeFiles_other]
    intro file _ heq
    have hlength := congrArg List.length heq
    simp [aiRoot, generatedRoot] at hlength
  have hread : ∀ name content, (name, content) ∈ generatedContents platform summary →
      name ∈ ["commands.yaml", "tests.yaml"] →
      readYamlIfExists (generateFallbackManifest platform summary overwrite files).files
        (generatedRoot ++ [name]) = some (parseSimpleYaml (fileContent content)) := by
    intro name content hmem hname
    rw [readYamlIfExists, generateFallbackManifest, writeFiles,
      writeFiles_mem hnodup hmem _ (hfree.imp id fun h => h name hname), Option.map_some]
  have hload : loaded.commands = readYamlIfExists
        (generateFallbackManifest platform summary overwrite files).files
        (generatedRoot ++ ["commands.yaml"]) ∧
      loaded.tests = readYamlIfExists
        (generateFallbackManifest platform summary overwrite files).files
        (generatedRoot ++ ["tests.yaml"]) := by
    simp only [loaded, loadRepoManifest, hofficial]
    exact ⟨rfl, rfl⟩
  refine ⟨readsAs_iff ?_, readsAs_iff ?_⟩
  · rw [hload.1]
    exact hread _ _ (by simp [generatedContents]) (by simp)
  · rw [hload.2]
    exact hread _ _ (by simp [generatedContents]) (by simp)

/-- After the scaffold wrote its files, the loader reads them. -/
theorem load_of_scaffolded (overwrite : Bool) {files : Files}
    (hnone : hasOfficialRootManifest files = false) :
    let loaded := loadRepoManifest (scaffoldOfficialManifest platform summary overwrite files).files
    (ReadsAs loaded.commands (scaffoldCommands platform summary) ↔
        RoundTrips (scaffoldCommands platform summary)) ∧
      (ReadsAs loaded.tests (scaffoldTests platform summary) ↔
        RoundTrips (scaffoldTests platform summary)) := by
  intro loaded
  have hnodup : ((officialContents platform summary).map Prod.fst).Nodup := by
    have hnames : (officialContents platform summary).map Prod.fst =
        ["project.md", "architecture.md", "conventions.md", "commands.yaml", "tests.yaml",
          "models.yaml", "ownership.yaml", "safety.yaml", "glossary.md"] := rfl
    rw [hnames]
    decide +kernel
  have hfree : ∀ name ∈ officialFiles, files (aiRoot ++ [name]) = none := by
    intro name hname
    rw [hasOfficialRootManifest, List.any_eq_false] at hnone
    simpa using hnone name hname
  have hwritten : ∀ name content, (name, content) ∈ officialContents platform summary →
      name ∈ officialFiles →
      (scaffoldOfficialManifest platform summary overwrite files).files (aiRoot ++ [name]) =
        some (fileContent content) := by
    intro name content hmem hname
    rw [scaffoldOfficialManifest, writeFiles,
      writeFiles_mem hnodup hmem _ (Or.inr (hfree name hname))]
  have hcommands := hwritten "commands.yaml"
    (stringifySimpleYaml (listRecord (scaffoldCommands platform summary)))
    (by simp [officialContents]) (by simp [officialFiles, rootTextFiles])
  have htests := hwritten "tests.yaml"
    (stringifySimpleYaml (listRecord (scaffoldTests platform summary)))
    (by simp [officialContents]) (by simp [officialFiles, rootTextFiles])
  have hofficial : hasOfficialRootManifest
      (scaffoldOfficialManifest platform summary overwrite files).files = true := by
    rw [hasOfficialRootManifest, List.any_eq_true]
    exact ⟨"commands.yaml", by simp [officialFiles, rootTextFiles], by rw [hcommands]; rfl⟩
  have hload : loaded.commands = readYamlIfExists
        (scaffoldOfficialManifest platform summary overwrite files).files
        (aiRoot ++ ["commands.yaml"]) ∧
      loaded.tests = readYamlIfExists
        (scaffoldOfficialManifest platform summary overwrite files).files
        (aiRoot ++ ["tests.yaml"]) := by
    simp only [loaded, loadRepoManifest, hofficial]
    exact ⟨rfl, rfl⟩
  refine ⟨readsAs_iff ?_, readsAs_iff ?_⟩
  · rw [hload.1, readYamlIfExists, hcommands, Option.map_some]
  · rw [hload.2, readYamlIfExists, htests, Option.map_some]

/-! ## Both manifests -/

/-- What is loaded after each of the two manifests was written. -/
structure LoadsBack (overwrite : Bool) (files : Files) : Prop where
  commands : ReadsAs
    (loadRepoManifest (generateFallbackManifest platform summary overwrite files).files).commands
    (inferCommandGroups platform summary)
  tests : ReadsAs
    (loadRepoManifest (generateFallbackManifest platform summary overwrite files).files).tests
    (generatedTests platform summary)
  scaffoldCommands : ReadsAs
    (loadRepoManifest (scaffoldOfficialManifest platform summary overwrite files).files).commands
    (AiManifest.scaffoldCommands platform summary)
  scaffoldTests : ReadsAs
    (loadRepoManifest (scaffoldOfficialManifest platform summary overwrite files).files).tests
    (AiManifest.scaffoldTests platform summary)

/-! ## Sample repositories -/

/-- A repository with the script {lit}`test` and a second one, and no files. -/
def sampleSummary (script : String) : RepoSummary where
  root := "/repo"
  packageManager := some .pnpm
  scripts := (InsertionMap.empty.set "test" "node --test").set script "node --test test/unit"
  trackedFiles := []
  sourceDirectories := []
  moduleManifestPaths := []
  workflowManifestPaths := []
  verificationCommands := none

/-- ASCII texts, and the map of a repository without files. -/
def samplePlatform : Platform where
  toLowerCase := lowerAscii
  repoMap := fun _ => joined
    ["\x7b", "  \"trackedFiles\": [],", "  \"sourceDirectories\": [],",
      "  \"moduleManifestPaths\": [],", "  \"workflowManifestPaths\": [],",
      "  \"verificationCommands\": [],", "  \"inferredModules\": [],",
      "  \"inferredWorkflows\": [],", "  \"testMappings\": [],", "  \"notes\": [",
      "    \"Generated candidates are heuristic mappings for inherited repositories.\",",
      "    \"Promote accurate candidates into module.yaml or flow.yaml before treating them as " ++
        "authoritative.\"", "  ]", "\x7d"]

/-! ## The round trip -/

/-- In a repository without an official manifest, what was inferred is loaded back if and only
if the names of the scripts are plain keys and the verification commands survive. -/
theorem manifest_loads_back_iff {overwrite : Bool} {files : Files}
    (hnone : hasOfficialRootManifest files = false)
    (hfree : overwrite = true ∨ ∀ name ∈ ["commands.yaml", "tests.yaml"],
      files (generatedRoot ++ [name]) = none) :
    LoadsBack platform summary overwrite files ↔
      (∀ name ∈ scriptNames summary, IsPlainKey name) ∧
        ∀ command ∈ summary.verificationCommands.getD [], Survives command := by
  obtain ⟨hcommands, htests⟩ := load_of_generated platform summary overwrite files hnone hfree
  obtain ⟨hscaffold, hscaffoldTests⟩ :=
    load_of_scaffolded platform summary overwrite hnone
  constructor
  · intro h
    have hnames := (groups_roundTrip_iff platform summary).mp (hcommands.mp h.commands)
    exact ⟨hnames, (generatedTests_roundTrip_iff platform summary hnames).mp (htests.mp h.tests)⟩
  · rintro ⟨hnames, hverification⟩
    exact
      { commands := hcommands.mpr ((groups_roundTrip_iff platform summary).mpr hnames)
        tests := htests.mpr ((generatedTests_roundTrip_iff platform summary hnames).mpr hverification)
        scaffoldCommands := hscaffold.mpr (scaffoldCommands_roundTrip platform summary)
        scaffoldTests := hscaffoldTests.mpr
          (scaffoldTests_roundTrip platform summary hnames hverification) }

theorem manifest_loads_back_iff_sample :
    LoadsBack samplePlatform (sampleSummary "test-unit") false (fun _ => none) := by
  have hnames : ∀ name ∈ (sampleSummary "test-unit").scripts.entries.map Prod.fst,
      IsPlainKey name := by
    decide +kernel
  refine (manifest_loads_back_iff samplePlatform (sampleSummary "test-unit") (by decide)
    (Or.inr fun _ _ => rfl)).mpr ⟨?_, fun command hcommand => absurd hcommand List.not_mem_nil⟩
  exact fun name hname => hnames name ((mem_scriptNames _).mp hname)

/-- The commands of the script {lit}`test:unit` replace those of {lit}`test`. -/
theorem colon_script_not_loaded_back :
    ¬∀ (platform : Platform) (summary : RepoSummary) (overwrite : Bool) (files : Files),
      hasOfficialRootManifest files = false →
      (overwrite = true ∨ ∀ name ∈ ["commands.yaml", "tests.yaml"],
        files (generatedRoot ++ [name]) = none) →
      LoadsBack platform summary overwrite files := by
  intro hall
  have hfree : false = true ∨ ∀ name ∈ ["commands.yaml", "tests.yaml"],
      (fun _ => none : Files) (generatedRoot ++ [name]) = none := Or.inr fun _ _ => rfl
  have hload := hall samplePlatform (sampleSummary "test:unit") false (fun _ => none) (by decide)
    hfree
  have hgenerated := load_of_generated samplePlatform (sampleSummary "test:unit") false
    (fun _ => none) (by decide) hfree
  have hnames := (groups_roundTrip_iff samplePlatform (sampleSummary "test:unit")).mp
    (hgenerated.1.mp hload.commands)
  have hscripts : "test:unit" ∈ (sampleSummary "test:unit").scripts.entries.map Prod.fst := by
    decide +kernel
  exact absurd (hnames "test:unit" ((mem_scriptNames _).mpr hscripts)) (by decide +kernel)

end AiManifest
end TokenStreaming
