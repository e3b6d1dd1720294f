import TokenStreaming.Core.Names
import TokenStreaming.Domain.Validation

/-!
# Cli - Arguments

{lit}`parseArgs` drops every {lit}`--`, looks for a subcommand at each position that is not the
value of an option, and then reads options and the words of a task.

The number that a text is read as by {lit}`Number` is left to the platform.
-/

namespace TokenStreaming
namespace Cli

open Core Domain

/-! ## Parsed arguments -/

inductive Command where
  | run
  | manifestInit
  | manifestValidate
  | manifestGenerate
  | manifestInspect
  | sessionsList
  | sessionsShow
  | sessionsStream
  | historySummary
  | historyPrune
  | reportsList
  | reportsShow
  | commandsList
  | configInspect
  | toolsList
  | toolsRun
  | playbooksList
  | playbooksShow
  | workflowsList
  | workflowsShow
  | strategiesList
  | checkpointsList
  | checkpointsShow
  | rollback
  | diff
  | search
  | verify
  | plan
  | contextInspect
  | modelsSelect
  | statsModels
  | doctorRepo
  | doctorModels
deriving DecidableEq

inductive ApprovalMode where
  | deny
  | allow
  | prompt
deriving DecidableEq

inductive OpenAIApiProtocol where
  | responses
  | chatCompletions
deriving DecidableEq

structure ParsedArgs where
  command : Command := .run
  task : String := "summarize this repository"
  cwd : String
  mode : ProductMode := .auto
  strategy : String := "default"
  provider : ProviderName := .codex
  apiProtocol : Option OpenAIApiProtocol := none
  model : Option String := none
  dryRun : Bool := false
  apply : Bool := false
  repair : Bool := false
  parallelAgents : Bool := false
  allowSensitive : Bool := false
  approval : ApprovalMode := .deny
  force : Bool := false
  probe : Bool := false
  json : Bool := false
  jsonl : Bool := false
  record : Bool := false
  keep : Nat := 20
  patchFile : Option String := none
  toolInputFile : Option String := none
  sessionId : Option String := none
  checkpointId : Option String := none
  playbookName : Option String := none
  workflowName : Option String := none
  toolName : Option String := none
deriving DecidableEq

/-- How {lit}`parseArgs` ends. -/
inductive Outcome where
  | parsed (args : ParsedArgs)
  /-- The help is printed and the process exits. -/
  | help
  | thrown (message : String)
deriving DecidableEq

abbrev Setting := ParsedArgs → ParsedArgs

/-! ## Values of options -/

def parseMode (value : String) : Except String ProductMode :=
  if value = "economy" then .ok .economy
  else if value = "max" then .ok .max
  else if value = "auto" then .ok .auto
  else .error ("Invalid mode \"" ++ value ++ "\". Use economy, max, or auto.")

def parseStrategy (value : String) : Except String String :=
  if isBlank value then .error "Strategy id must be non-empty." else .ok value

def parseProvider (value : String) : Except String ProviderName :=
  if value = "stub" then .ok .stub
  else if value = "openai" then .ok .openai
  else if value = "anthropic" then .ok .anthropic
  else if value = "gemini" then .ok .gemini
  else if value = "codex" then .ok .codex
  else if value = "auto" then .ok .auto
  else .error ("Invalid provider \"" ++ value ++
    "\". Use auto, openai, anthropic, gemini, codex, or stub.")

def parseApiProtocol (value : String) : Except String OpenAIApiProtocol :=
  if value = "responses" then .ok .responses
  else if value = "chat-completions" then .ok .chatCompletions
  else .error ("Invalid API protocol \"" ++ value ++ "\". Use responses or chat-completions.")

def parseApprovalMode (value : String) : Except String ApprovalMode :=
  if value = "deny" then .ok .deny
  else if value = "allow" then .ok .allow
  else if value = "prompt" then .ok .prompt
  else .error ("Invalid approval mode \"" ++ value ++ "\". Use deny, allow, or prompt.")

/-- The process that the arguments are parsed in. -/
structure Platform where
  cwd : String
  /-- The integer from zero on that {lit}`Number` reads in a text, if it reads one. -/
  count : String → Option Nat

def parseKeepCount (platform : Platform) (value : String) : Except String Nat :=
  match platform.count value with
  | some n => .ok n
  | none => .error ("Invalid keep count \"" ++ value ++ "\". Use a non-negative integer.")

/-! ## Options -/

/-- The options without a value. -/
def FLAGS : List (String × Setting) :=
  [("--dry-run", fun p => { p with dryRun := true }),
    ("--apply", fun p => { p with apply := true }),
    ("--repair", fun p => { p with repair := true }),
    ("--parallel-agents", fun p => { p with parallelAgents := true }),
    ("--allow-sensitive", fun p => { p with allowSensitive := true, approval := .allow }),
    ("--force", fun p => { p with force := true }),
    ("--probe", fun p => { p with probe := true }),
    ("--json", fun p => { p with json := true }),
    ("--jsonl", fun p => { p with jsonl := true }),
    ("--record", fun p => { p with record := true })]

def readFlag (arg : String) : Option Setting :=
  FLAGS.lookup arg

/-- The options with a value. -/
def OPTIONS (platform : Platform) : List (String × (String → Except String Setting)) :=
  [("--keep", fun value =>
      (parseKeepCount platform value).map fun keep => fun p => { p with keep }),
    ("--approval", fun value =>
      (parseApprovalMode value).map fun approval => fun p => { p with approval }),
    ("-C", fun value => .ok fun p => { p with cwd := value }),
    ("--cwd", fun value => .ok fun p => { p with cwd := value }),
    ("--mode", fun value => (parseMode value).map fun mode => fun p => { p with mode }),
    ("--strategy", fun value =>
      (parseStrategy value).map fun strategy => fun p => { p with strategy }),
    ("--provider", fun value =>
      (parseProvider value).map fun provider => fun p => { p with provider }),
    ("--api-protocol", fun value =>
      (parseApiProtocol value).map fun apiProtocol => fun p =>
        { p with apiProtocol := some apiProtocol }),
    ("--model", fun value => .ok fun p => { p with model := some value }),
    ("--patch-file", fun value => .ok fun p => { p with patchFile := some value }),
    ("--input-file", fun value => .ok fun p => { p with toolInputFile := some value })]

/-- What an option with a value does with it. -/
def readOption (platform : Platform) (arg value : String) : Except String Setting :=
  match (OPTIONS platform).lookup arg with
  | some read => read value
  | none => .ok id

def takesValue (arg : String) : Bool :=
  arg ∈ ["--approval", "-C", "--cwd", "--mode", "--strategy", "--provider", "--api-protocol",
    "--model", "--patch-file", "--input-file", "--keep"]

def isHelp (arg : String) : Bool :=
  arg = "--help" || arg = "-h"

/-! ## Subcommands -/

/-- The field that takes the word behind a subcommand. -/
inductive Operand where
  | sessionId
  | toolName
  | playbookName
  | workflowName
  | checkpointId
deriving DecidableEq

def Operand.set (operand : Operand) (value : Option String) (p : ParsedArgs) : ParsedArgs :=
  match operand with
  | .sessionId => { p with sessionId := value }
  | .toolName => { p with toolName := value }
  | .playbookName => { p with playbookName := value }
  | .workflowName => { p with workflowName := value }
  | .checkpointId => { p with checkpointId := value }

/-- One branch of {lit}`claimCommand`. -/
structure Subcommand where
  words : List String
  command : Command
  operand : Option Operand := none
  /-- The task of a subcommand about the manifest. -/
  task : Option String := none
deriving DecidableEq

/-- The branches in their order. -/
def SUBCOMMANDS : List Subcommand :=
  [{ words := ["manifest", "init"], command := .manifestInit
     task := some "initialize generated AI manifest for this repository" },
    { words := ["manifest", "validate"], command := .manifestValidate
      task := some "validate AI manifest for this repository" },
    { words := ["manifest", "generate"], command := .manifestGenerate
      task := some "generate fallback AI manifest mapping for this repository" },
    { words := ["manifest", "inspect"], command := .manifestInspect
      task := some "inspect AI manifest coverage for this repository" },
    { words := ["sessions", "list"], command := .sessionsList },
    { words := ["sessions", "show"], command := .sessionsShow, operand := some .sessionId },
    { words := ["sessions", "stream"], command := .sessionsStream, operand := some .sessionId },
    { words := ["history", "summary"], command := .historySummary },
    { words := ["history", "prune"], command := .historyPrune },
    { words := ["reports", "list"], command := .reportsList },
    { words := ["reports", "show"], command := .reportsShow, operand := some .sessionId },
    { words := ["commands", "list"], command := .commandsList },
    { words := ["config", "inspect"], command := .configInspect },
    { words := ["tools", "list"], command := .toolsList },
    { words := ["tools", "run"], command := .toolsRun, operand := some .toolName },
    { words := ["playbooks", "list"], command := .playbooksList },
    { words := ["playbooks", "show"], command := .playbooksShow, operand := some .playbookName },
    { words := ["workflows", "list"], command := .workflowsList },
    { words := ["workflows", "show"], command := .workflowsShow, operand := some .workflowName },
    { words := ["strategies", "list"], command := .strategiesList },
    { words := ["checkpoints", "list"], command := .checkpointsList },
    { words := ["checkpoints", "show"], command := .checkpointsShow
      operand := some .checkpointId },
    { words := ["rollback"], command := .rollback, operand := some .checkpointId },
    { words := ["diff"], command := .diff },
    { words := ["verify"], command := .verify },
    { words := ["plan"], command := .plan },
    { words := ["context", "inspect"], command := .contextInspect },
    { words := ["stats", "models"], command := .statsModels },
    { words := ["models", "select"], command := .modelsSelect },
    { words := ["doctor", "models"], command := .doctorModels },
    { words := ["doctor", "repo"], command := .doctorRepo },
    { words := ["search"], command := .search }]

/-- How many arguments are removed. -/
def Subcommand.removed (subcommand : Subcommand) : Nat :=
  subcommand.words.length + subcommand.operand.toList.length

/-- What is set by a subcommand that the arguments begin with. -/
def Subcommand.set (subcommand : Subcommand) (args : List String) (p : ParsedArgs) : ParsedArgs :=
  let p := match subcommand.operand with
    | none => p
    | some operand => operand.set args[subcommand.words.length]? p
  match subcommand.task with
  | none => { p with command := subcommand.command }
  | some task => { p with command := subcommand.command, task, mode := .economy, dryRun := true }

/-- The subcommand that the arguments begin with. -/
def subcommandAt (args : List String) : Option Subcommand :=
  SUBCOMMANDS.find? fun subcommand => subcommand.words.isPrefixOf args

/-- {lit}`claimCommand`: the arguments that are left, and the parsed ones. -/
def claimCommand : List String → ParsedArgs → List String × ParsedArgs
  | [], parsed => ([], parsed)
  | [arg], parsed =>
      if takesValue arg then ([arg], parsed)
      else
        match subcommandAt [arg] with
        | some claim => ([arg].drop claim.removed, claim.set [arg] parsed)
        | none => ([arg], parsed)
  | arg :: value :: rest, parsed =>
      if takesValue arg then
        let (left, parsed) := claimCommand rest parsed
        (arg :: value :: left, parsed)
      else
        match subcommandAt (arg :: value :: rest) with
        | some claim =>
            ((arg :: value :: rest).drop claim.removed, claim.set (arg :: value :: rest) parsed)
        | none =>
            let (left, parsed) := claimCommand (value :: rest) parsed
            (arg :: left, parsed)

/-! ## Parsing -/

/-- What is parsed when the arguments are read. -/
def finish (parsed : ParsedArgs) (taskParts : List String) : ParsedArgs :=
  if taskParts = [] then parsed else { parsed with task := " ".intercalate taskParts }

/-- An argument that is no option. -/
def pushPart (taskParts : List String) (arg : String) : List String :=
  if arg = "" then taskParts else taskParts ++ [arg]

/-- How the loop of {lit}`parseArgs` takes an argument, beside the one that follows. -/
inductive Kind where
  | flag
  /-- An option and its value. -/
  | option
  | help
  | part
deriving DecidableEq

def kindOf (arg : String) (next : Option String) : Kind :=
  if (readFlag arg).isSome then .flag
  else if takesValue arg && next.any (· ≠ "") then .option
  else if isHelp arg then .help
  else .part

/-- The loop of {lit}`parseArgs`. -/
def readArgs (platform : Platform) : List String → ParsedArgs → List String → Outcome
  | [], parsed, taskParts => .parsed (finish parsed taskParts)
  | [arg], parsed, taskParts =>
      match kindOf arg none with
      | .flag => .parsed (finish (((readFlag arg).getD id) parsed) taskParts)
      | .help => .help
      | _ => .parsed (finish parsed (pushPart taskParts arg))
  | arg :: value :: rest, parsed, taskParts =>
      match kindOf arg (some value) with
      | .flag => readArgs platform (value :: rest) (((readFlag arg).getD id) parsed) taskParts
      | .option =>
          match readOption platform arg value with
          | .error message => .thrown message
          | .ok set => readArgs platform rest (set parsed) taskParts
      | .help => .help
      | .part => readArgs platform (value :: rest) parsed (pushPart taskParts arg)

def parseArgs (platform : Platform) (argv : List String) : Outcome :=
  let (args, parsed) := claimCommand (argv.filter (· ≠ "--")) { cwd := platform.cwd }
  readArgs platform args parsed []

end Cli
end TokenStreaming
