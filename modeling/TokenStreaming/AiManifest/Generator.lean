import TokenStreaming.AiManifest.SimpleYaml
import TokenStreaming.Core.Repository

/-!
# AiManifest - Generated and scaffolded manifests

{lit}`generateFallbackManifest` infers commands and tests from the summary of a
repository and writes them below {lit}`.ai/generated`;
{lit}`scaffoldOfficialManifest` writes the files of an official manifest.

Paths are lists of segments below the root of the repository.  The playbook that
the scaffold also writes, and the contents of {lit}`repo-map.json`, are not read
by what is modelled here; the latter is left to a parameter.
-/

namespace TokenStreaming
namespace AiManifest

open Core Domain

/-! ## What is left to the platform -/

/-- What the language's library does with texts, and the text of the map of the repository. -/
structure Platform where
  toLowerCase : String → String
  repoMap : RepoSummary → String

variable (platform : Platform) (summary : RepoSummary)

/-! ## Files of a Python repository -/

def normalizeRepoPath (file : String) : String :=
  String.ofList (file.toList.map fun c => if c = '\\' then '/' else c)

/-- The text as a pattern with the flag {lit}`i` and ASCII letters sees it. -/
def lowerAscii (file : String) : String :=
  String.ofList (file.toList.map Char.toLower)

def segments (file : String) : List String :=
  (file.toList.splitOn '/').map String.ofList

/-- {lit}`/(^|\/)(name|...)$/`. -/
def isNamed (names : List String) (file : String) : Bool :=
  match (segments file).getLast? with
  | some name => names.contains name
  | none => false

def scriptExtensions : List String :=
  ["ts", "tsx", "js", "jsx", "mjs", "cjs"]

def testExtensions : List String :=
  ["test", "spec"].flatMap fun kind => scriptExtensions.map fun ext => "." ++ kind ++ "." ++ ext

def isTestFile (path : String) : Bool :=
  let file := lowerAscii path
  let name := (segments file).getLast?.getD ""
  (segments file).any (["__tests__", "test", "tests", "spec", "specs"].contains ·)
    || testExtensions.any (endsWith file ·)
    || startsWith name "test_" && endsWith name ".py" && decide (9 ≤ name.length)
    || endsWith name "_test.py" && decide (9 ≤ name.length)

def isPythonRepository : Bool :=
  summary.trackedFiles.any fun file =>
    endsWith (lowerAscii file) ".py"
      || isNamed ["pyproject.toml", "requirements.txt", "setup.py"]
        (lowerAscii (normalizeRepoPath file))

/-- {lit}`summary.trackedFiles.map((file) => normalizeRepoPath(file).toLowerCase())`. -/
def lowerFiles : List String :=
  summary.trackedFiles.map fun file => platform.toLowerCase (normalizeRepoPath file)

/-! ## Inferred commands -/

/-- {lit}`${summary.packageManager ?? "pnpm"} run ${name}`. -/
def runCommand (name : String) : String :=
  ((summary.packageManager.map PackageManager.text).getD "pnpm") ++ " run " ++ name

/-- {lit}`text.replace(/\s+/g, " ")`; the flag tells that a blank has just been replaced. -/
def collapseBlanks (inBlank : Bool) : List Char → List Char
  | [] => []
  | c :: cs =>
      if isTrimmable c then
        if inBlank then collapseBlanks true cs else ' ' :: collapseBlanks true cs
      else c :: collapseBlanks false cs

def isPlaceholderTestScript (command : String) : Bool :=
  let normalized :=
    String.ofList (collapseBlanks false (platform.toLowerCase command).toList)
  includes normalized "no test specified" || includes normalized "no tests specified"
    || includes normalized "no test configured"

/-- {lit}`Object.keys(summary.scripts)`. -/
def scriptNames : List String :=
  (objectEntries summary.scripts).map Prod.fst

def inferTestScriptNames : List String :=
  (scriptNames summary).filter fun name =>
    ["test", "check", "lint", "type"].any (includes (lowerAscii name) ·)
      && !isPlaceholderTestScript platform ((summary.scripts.get name).getD "")

def inferPythonCommandGroups : InsertionMap String (List String) :=
  if !isPythonRepository summary then InsertionMap.empty
  else
    let files := lowerFiles platform summary
    let noGroups := InsertionMap.empty
    let withTest :=
      if files.any isTestFile || files.any (isNamed ["pytest.ini", "conftest.py"]) then
        noGroups.set "test" ["python -m pytest"]
      else noGroups
    let withLint :=
      if files.any (isNamed ["ruff.toml", ".ruff.toml"]) then
        withTest.set "lint" ["python -m ruff check ."]
      else withTest
    if files.any (isNamed ["mypy.ini", ".mypy.ini"]) then
      withLint.set "typecheck" ["python -m mypy ."]
    else withLint

def inferInstallCommands : List String :=
  match summary.packageManager with
  | some manager => [manager.text ++ " install"]
  | none =>
      let files := lowerFiles platform summary
      if files.contains "uv.lock" then ["uv sync"]
      else if files.contains "poetry.lock" then ["poetry install"]
      else if files.contains "requirements.txt" then ["python -m pip install -r requirements.txt"]
      else if files.contains "pyproject.toml" || files.contains "setup.py" then
        ["python -m pip install -e ."]
      else []

def inferTestCommands : List String :=
  let scriptCommands := (inferTestScriptNames platform summary).map (runCommand summary)
  let pythonCommands := inferPythonCommandGroups platform summary
  (scriptCommands ++ summary.verificationCommands.getD []
    ++ (pythonCommands.get "test").getD [] ++ (pythonCommands.get "lint").getD []
    ++ (pythonCommands.get "typecheck").getD []).eraseDups

/-- {lit}`{ ...target, ...source }`. -/
def spread (target source : InsertionMap String (List String)) :
    InsertionMap String (List String) :=
  (objectEntries source).foldl (fun groups e => groups.set e.1 e.2) target

/-- {lit}`Object.fromEntries` of the sorted names with their commands. -/
def scriptGroups : InsertionMap String (List String) :=
  ((scriptNames summary).mergeSort fun left right => !textGreater left right).foldl
    (fun groups name => groups.set name [runCommand summary name]) InsertionMap.empty

def inferCommandGroups : InsertionMap String (List String) :=
  let install := inferInstallCommands platform summary
  let base :=
    if install.isEmpty then InsertionMap.empty else InsertionMap.empty.set "install" install
  spread (spread base (inferPythonCommandGroups platform summary)) (scriptGroups summary)

def scriptCommand (script : String) : List String :=
  match summary.scripts.get script with
  | none => []
  | some command =>
      if command = "" || (script = "test" && isPlaceholderTestScript platform command) then []
      else [runCommand summary script]

/-! ## Records that are written -/

/-- A record with the members of a list, which have different keys. -/
def recordOf (members : List (String × List String)) : InsertionMap String (List String) :=
  members.foldl (fun groups e => groups.set e.1 e.2) InsertionMap.empty

def generatedTests : InsertionMap String (List String) :=
  recordOf [("default", inferTestCommands platform summary)]

def scaffoldCommands : InsertionMap String (List String) :=
  let commandGroups := inferCommandGroups platform summary
  recordOf [("install", inferInstallCommands platform summary),
    ("build", (commandGroups.get "build").getD []),
    ("test", (commandGroups.get "test").getD []),
    ("lint", (commandGroups.get "lint").getD []),
    ("typecheck", (commandGroups.get "typecheck").getD [])]

def scaffoldTests : InsertionMap String (List String) :=
  let testCommands := inferTestCommands platform summary
  recordOf [("default",
      if testCommands.isEmpty then scriptCommand platform summary "test" else testCommands),
    ("smoke", [])]

/-! ## Writing -/

/-- The path of a file below the root of the repository. -/
abbrev RepoPath := List String

/-- The files of the repository. -/
abbrev Files := RepoPath → Option String

def Files.write (files : Files) (path : RepoPath) (content : String) : Files :=
  fun other => if other = path then some content else files other

structure WriteState where
  files : Files
  created : List RepoPath
  skipped : List RepoPath

/-- {lit}`writeGeneratedFile` and {lit}`writeOfficialFile`: a file that exists is left as it is
unless it may be overwritten. -/
def writeManifestFile (overwrite : Bool) (root : RepoPath) (state : WriteState)
    (file : String × String) : WriteState :=
  let path := root ++ [file.1]
  if !overwrite && (state.files path).isSome then
    { state with skipped := state.skipped ++ [path] }
  else
    { state with
      files := state.files.write path (fileContent file.2)
      created := state.created ++ [path] }

def writeFiles (overwrite : Bool) (root : RepoPath) (contents : List (String × String))
    (files : Files) : WriteState :=
  contents.foldl (writeManifestFile overwrite root) ⟨files, [], []⟩

def aiRoot : RepoPath :=
  [".ai"]

def generatedRoot : RepoPath :=
  [".ai", "generated"]

def joined (lines : List String) : String :=
  "\n".intercalate lines

def emptyAwareList (values : List String) : List String :=
  if values.isEmpty then ["- none detected"] else values.map ("- " ++ ·)

def generatedContents : List (String × String) :=
  [("project.md", joined
      ["# Generated Project Summary", "",
        "This file was generated by Token Streaming because no root \x60.ai/\x60 manifest was found.",
        "", "Repository root: " ++ summary.root,
        "Package manager: " ++ ((summary.packageManager.map PackageManager.text).getD "unknown"),
        "", "Review and promote this content into \x60.ai/project.md\x60 when it is accurate."]),
    ("architecture.md", joined
      (["# Generated Architecture Notes", "", "Detected source directories:"]
        ++ summary.sourceDirectories.map ("- " ++ ·)
        ++ ["", "Detected module manifests:"] ++ emptyAwareList summary.moduleManifestPaths
        ++ ["", "Detected workflow manifests:"] ++ emptyAwareList summary.workflowManifestPaths)),
    ("commands.yaml",
      stringifySimpleYaml (listRecord (inferCommandGroups platform summary))),
    ("tests.yaml", stringifySimpleYaml (listRecord (generatedTests platform summary))),
    ("repo-map.json", platform.repoMap summary)]

def generateFallbackManifest (overwrite : Bool) (files : Files) : WriteState :=
  writeFiles overwrite generatedRoot (generatedContents platform summary) files

/-- The members of the scaffolded models. -/
def scaffoldModels : InsertionMap String YamlEntry :=
  ((((InsertionMap.empty.set "default_provider" (.text "codex")).set "economy_model"
    (.text "gpt-5.5-mini")).set "auto_model" (.text "gpt-5.5")).set "max_model"
      (.text "gpt-5.5")).set "model_candidates" (.list
    ["gpt-5.5-mini;provider=openai;quality=0.72;cost=0.25;latency=0.25;tags=economy,fast",
      "gpt-5.5;provider=openai;quality=0.94;cost=0.75;latency=0.55;tags=balanced,max"])

def scaffoldOwnership : InsertionMap String YamlEntry :=
  ((InsertionMap.empty.set "default_owner" (.text "project-maintainers")).set "owned_paths"
    (.list ["src/**: engineering", ".ai/**: agent-platform"])).set "review_required"
      (.list ["security-sensitive", "public-api", "data-migration"])

def scaffoldSafety : InsertionMap String (List String) :=
  recordOf [("sensitive_paths", [".env", ".env.*", "secrets/*"]),
    ("protected_patterns", ["BEGIN (RSA |OPENSSH |EC )?PRIVATE KEY", "OPENAI_API_KEY\\s*=",
      "ANTHROPIC_API_KEY\\s*=", "GEMINI_API_KEY\\s*="]),
    ("approval_required_commands", ["npm publish", "pnpm publish", "netlify deploy --prod"]),
    ("forbidden_commands", ["git reset --hard", "git checkout --"])]

def officialContents : List (String × String) :=
  [("project.md", joined
      ["# Project", "",
        "Describe the product purpose, target users, and the business context an agent needs " ++
          "before editing code.", "",
        "Repository root: " ++ summary.root,
        "Package manager: " ++ ((summary.packageManager.map PackageManager.text).getD
          (if isPythonRepository summary then "Python" else "unknown"))]),
    ("architecture.md", joined
      (["# Architecture", "",
        "Describe the system boundaries, major modules, data flow, and architectural constraints.",
        "", "Detected source directories:"] ++ emptyAwareList summary.sourceDirectories
        ++ ["", "Detected module manifests:"] ++ emptyAwareList summary.moduleManifestPaths
        ++ ["", "Detected workflow manifests:"] ++ emptyAwareList summary.workflowManifestPaths)),
    ("conventions.md", joined
      ["# Conventions", "",
        "Document naming rules, code style, review expectations, and project-specific " ++
          "implementation patterns.", "",
        "- Prefer explicit module boundaries.",
        "- Keep tests close to the source or document the mapping.",
        "- Update manifests when module responsibilities change.", "",
        "## Module manifests", "",
        "Place module manifests at \x60src/modules/<name>/module.yaml\x60, " ++
          "\x60packages/<name>/module.yaml\x60, or \x60apps/<name>/module.yaml\x60.",
        "Use these exact field names:", "", "\x60\x60\x60yaml", "name: example",
        "description: Clear module responsibility.", "owners:", "  - owning-team", "public_api:",
        "  - src/modules/example/api.js", "depends_on: []", "used_by: []", "test_commands:",
        "  - npm run test", "rules:", "  - Keep domain rules explicit.", "\x60\x60\x60"]),
    ("commands.yaml", stringifySimpleYaml (listRecord (scaffoldCommands platform summary))),
    ("tests.yaml", stringifySimpleYaml (listRecord (scaffoldTests platform summary))),
    ("models.yaml", stringifySimpleYaml scaffoldModels),
    ("ownership.yaml", stringifySimpleYaml scaffoldOwnership),
    ("safety.yaml", stringifySimpleYaml (listRecord scaffoldSafety)),
    ("glossary.md", joined
      ["# Glossary", "", "Define domain terms, acronyms, and names that agents should treat as " ++
        "stable search anchors."])]

def scaffoldOfficialManifest (overwrite : Bool) (files : Files) : WriteState :=
  writeFiles overwrite aiRoot (officialContents platform summary) files

end AiManifest
end TokenStreaming
