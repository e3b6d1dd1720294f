import TokenStreaming.Core.Repository
import TokenStreaming.Core.Texts

/-!
# Context - Search terms and manifests that match a task

A task matches a module or a workflow by its name, or by the search terms of one
of its descriptions.  Terms are compared by their code units.

Unicode classes and the lower case of a text are left to the platform.

Main results: none; the module defines {lit}`taskTextIncludesSearchTerms`,
{lit}`matchModuleToTask` and {lit}`matchWorkflowToTask`.
-/

namespace TokenStreaming
namespace Context

open Core

/-- What the language's library knows of texts and paths. -/
structure Platform where
  toLowerCase : String → String
  isHan : Char → Bool
  isLetter : Char → Bool
  isNumber : Char → Bool
  /-- {lit}`path.relative(from, to)`. -/
  relative : String → String → String

variable (platform : Platform)

/-! ## Terms -/

def genericSearchTerms : List String :=
  ["apps", "changes", "code", "files", "index", "logic", "module", "modules", "must", "packages",
    "readme", "related", "should", "src", "test", "tests", "yaml", "yml", "代码", "修改", "变更",
    "所有", "文件", "相关", "必须", "应该", "提供", "逻辑", "需要"]

/-- {lit}`/^\p\x7bScript=Han\x7d+$/u`. -/
def isHanText (text : String) : Bool :=
  !text.isEmpty && text.toList.all platform.isHan

def genericHanTerms : List String :=
  (genericSearchTerms.filter (isHanText platform)).mergeSort fun left right =>
    decide ((codeUnits right).length ≤ (codeUnits left).length)

/-- {lit}`[\p\x7bL\x7d\p\x7bN\x7d_-]`. -/
def isChunkCharacter (c : Char) : Bool :=
  platform.isLetter c || platform.isNumber c || c == '_' || c == '-'

inductive ChunkKind where
  | han
  | word
deriving DecidableEq

/-- The alternative that a character belongs to; Han characters are tried first. -/
def chunkKind (c : Char) : Option ChunkKind :=
  if platform.isHan c then some .han
  else if isChunkCharacter platform c then some .word
  else none

/-- The character goes on with a chunk of that kind. -/
def continues (c : Char) : ChunkKind → Bool
  | .han => platform.isHan c
  | .word => isChunkCharacter platform c

/-- The matches of the two alternatives, read from the left; the open chunk is kept reversed. -/
def chunks : Option (ChunkKind × List Char) → List Char → List (List Char)
  | none, [] => []
  | some (_, acc), [] => [acc.reverse]
  | none, c :: cs => chunks ((chunkKind platform c).map fun kind => (kind, [c])) cs
  | some (kind, acc), c :: cs =>
      if continues platform c kind then chunks (some (kind, c :: acc)) cs
      else acc.reverse :: chunks ((chunkKind platform c).map fun kind => (kind, [c])) cs

/-- {lit}`value.split(separator)` on code units; the number counts units of a separator that are
still to be skipped. -/
def splitUnits (separator : List Nat) (skip : Nat) : List Nat → List (List Nat)
  | [] => [[]]
  | unit :: units =>
      if 0 < skip then splitUnits separator (skip - 1) units
      else if separator.isPrefixOf (unit :: units) then
        [] :: splitUnits separator (separator.length - 1) units
      else
        match splitUnits separator 0 units with
        | [] => [[unit]]
        | first :: rest => (unit :: first) :: rest

def splitGenericHanTerms (value : List Nat) : List (List Nat) :=
  ((genericHanTerms platform).foldl
    (fun fragments generic => fragments.flatMap (splitUnits (codeUnits generic) 0))
    [value]).filter fun fragment => !fragment.isEmpty

def englishStemVariants (value : List Nat) : List (List Nat) :=
  (["ations", "ation", "ments", "ment", "ingly", "ing", "edly", "ed"].filter fun suffix =>
      (codeUnits suffix).isSuffixOf value && decide (suffix.length + 4 ≤ value.length)).map
    (fun suffix => value.take (value.length - suffix.length))
  ++ if (codeUnits "e").isSuffixOf value && decide (5 < value.length) then [value.dropLast] else []

def expandSearchChunk (chunk : String) : List (List Nat) :=
  if isHanText platform chunk then
    (splitGenericHanTerms platform (codeUnits chunk)).flatMap fun fragment =>
      if fragment.length ≤ 2 then [fragment]
      else fragment :: (List.range (fragment.length - 1)).map fun i => (fragment.drop i).take 2
  else if (codeUnits chunk).length ≤ 3 then []
  else codeUnits chunk :: englishStemVariants (codeUnits chunk)

def extractSearchTerms (value : String) : List (List Nat) :=
  let found := (chunks platform none (platform.toLowerCase value).toList).map String.ofList
  (((found.filter fun chunk => !genericSearchTerms.contains chunk).flatMap
    (expandSearchChunk platform)).filter fun term =>
      !(genericSearchTerms.map codeUnits).contains term).eraseDups

/-- {lit}`text.includes(part)` on code units. -/
def includesUnits (text part : List Nat) : Bool :=
  text.tails.any part.isPrefixOf

def taskTextIncludesSearchTerms (taskText value : String) : Bool :=
  (extractSearchTerms platform value).any
    (includesUnits (codeUnits (platform.toLowerCase taskText)))

/-! ## Matches -/

structure ManifestTaskMatch where
  field : String
  value : String
deriving DecidableEq

def matchNamedManifest (taskText name : String) (fields : List (String × Option String)) :
    Option ManifestTaskMatch :=
  let normalizedTask := platform.toLowerCase taskText
  if includesUnits (codeUnits normalizedTask) (codeUnits (platform.toLowerCase name)) then
    some ⟨"name", name⟩
  else
    fields.findSome? fun field =>
      field.2.bind fun value =>
        if value ≠ "" ∧ taskTextIncludesSearchTerms platform normalizedTask value then
          some ⟨field.1, value⟩
        else none

/-- The values of a list under one field name. -/
def listField (field : String) (values : List String) : List (String × Option String) :=
  values.map fun value => (field, some value)

def matchModuleToTask (taskText : String) (manifest : ModuleManifest) :
    Option ManifestTaskMatch :=
  matchNamedManifest platform taskText manifest.name
    ([("description", manifest.description)] ++ listField "depends_on" manifest.dependsOn
      ++ listField "used_by" manifest.usedBy ++ listField "rule" manifest.rules)

def matchWorkflowToTask (taskText : String) (manifest : WorkflowManifest) :
    Option ManifestTaskMatch :=
  matchNamedManifest platform taskText manifest.name
    ([("description", manifest.description)] ++ listField "step" manifest.steps
      ++ listField "touch" manifest.touches ++ listField "risk" manifest.risks)

end Context
end TokenStreaming
