import Mathlib.Data.List.DropRight
import TokenStreaming.Server.ArtifactService
import TokenStreaming.Server.AuthorizationIntake

/-!
# Control plane - Intake of artifact tasks

The checks {lit}`createArtifactTask` makes on a request before it reads anything, and the
normalized request they return: the model and the instruction lose the white space
around them, everything else stays as it is.

Main results:

- Theorem {lit}`normalizeArtifactTask_eq_ok`: what an accepted request satisfies, and what
  becomes of it.

The acknowledgement of {lit}`assertSupplierProcessingAcknowledged` is the literal
{lit}`true` and is no member here.
-/

namespace TokenStreaming
namespace Server

open Relational Domain

/-! ## Texts -/

/-- {lit}`value.trim()`. -/
def trimText (value : String) : String :=
  String.ofList ((value.toList.dropWhile isTrimmable).rdropWhile isTrimmable)

/-- {lit}`boundedText` of the artifact service. -/
def boundedText (value label : String) (maximum : Nat) : Request String :=
  let normalized := trimText value
  if utf16Length normalized < 1 ∨ maximum < utf16Length normalized ∨
      normalized.toList.contains '\x00' then
    .error (malformed (label ++ " 长度或内容无效。"))
  else .ok normalized

theorem boundedText_eq_ok {value label normalized : String} {maximum : Nat} :
    boundedText value label maximum = .ok normalized ↔
      (1 ≤ utf16Length normalized ∧ utf16Length normalized ≤ maximum ∧
        '\x00' ∉ normalized.toList) ∧ normalized = trimText value := by
  simp only [boundedText]
  split <;> rename_i h
  · simp only [reduceCtorEq, false_iff]
    rintro ⟨⟨hmin, hmax, hnul⟩, rfl⟩
    rcases h with h | h | h
    · omega
    · omega
    · exact hnul (by simpa using h)
  · simp only [Except.ok.injEq]
    simp only [not_or, Nat.not_lt] at h
    constructor
    · rintro rfl
      exact ⟨⟨h.1, h.2.1, by simpa using h.2.2⟩, rfl⟩
    · rintro ⟨-, rfl⟩
      rfl

/-- {lit}`integer` of the artifact service. -/
def boundedInteger (value : Nat) (label : String) (minimum maximum : Nat) : Request Nat :=
  if value < minimum ∨ maximum < value then
    .error (malformed
      (label ++ " 必须是 " ++ toString minimum ++ " 到 " ++ toString maximum ++ " 的整数。"))
  else .ok value

theorem boundedInteger_eq_ok {value minimum maximum n : Nat} {label : String} :
    boundedInteger value label minimum maximum = .ok n ↔
      (minimum ≤ value ∧ value ≤ maximum) ∧ value = n := by
  unfold boundedInteger
  split <;> rename_i h
  · simp only [reduceCtorEq, false_iff]
    rintro ⟨⟨hmin, hmax⟩, -⟩
    omega
  · simp only [Except.ok.injEq]
    constructor
    · rintro rfl
      exact ⟨⟨by omega, by omega⟩, rfl⟩
    · rintro ⟨-, rfl⟩
      rfl

/-- A text of an identifier's characters with at least {lit}`minimum` of them. -/
def isArtifactIdentifier (minimum : Nat) (value : String) : Bool :=
  match value.toList with
  | [] => false
  | first :: rest =>
      isAsciiAlphanumeric first && minimum ≤ rest.length && rest.length ≤ 255 &&
        rest.all fun c => isAsciiAlphanumeric c || c ∈ ['.', '_', ':', '-']

/-- {lit}`assertIdentifier` of the artifact service. -/
def assertArtifactIdentifier (value label : String) : Request Unit :=
  demand (isArtifactIdentifier 7 value) (malformed (label ++ " 无效。"))

/-- {lit}`assertIdempotencyKey`. -/
def assertIdempotencyKey (value : String) : Request Unit :=
  demand (isArtifactIdentifier 15 value) (malformed "Idempotency-Key 无效。")

/-! ## Requests -/

/-- The normalization of {lit}`createArtifactTask`, after its limit on the number of requests. -/
def normalizeArtifactTask (input : CreateArtifactTaskRequest) : Request CreateArtifactTaskRequest := do
  let model ← boundedText input.model "model" 200
  let instruction ← boundedText input.instruction "instruction" 8000
  demand (input.dataClass == .p0 || input.dataClass == .p1)
    (malformed "dataClass 只能是 P0 或 P1。")
  let maxOutputTokens ← boundedInteger input.maxOutputTokens "maxOutputTokens" 1 32768
  let maxTotalTokens ← boundedInteger input.maxTotalTokens "maxTotalTokens" maxOutputTokens 10000000
  pure { input with model, instruction, maxOutputTokens, maxTotalTokens }

/-- What normalization demands. -/
structure CreateArtifactTaskRequest.Acceptable (input : CreateArtifactTaskRequest) : Prop where
  model : 1 ≤ utf16Length (trimText input.model) ∧ utf16Length (trimText input.model) ≤ 200 ∧
    '\x00' ∉ (trimText input.model).toList
  instruction : 1 ≤ utf16Length (trimText input.instruction) ∧
    utf16Length (trimText input.instruction) ≤ 8000 ∧ '\x00' ∉ (trimText input.instruction).toList
  dataClass : input.dataClass = .p0 ∨ input.dataClass = .p1
  maxOutputTokens : 1 ≤ input.maxOutputTokens ∧ input.maxOutputTokens ≤ 32768
  maxTotalTokens : input.maxOutputTokens ≤ input.maxTotalTokens ∧ input.maxTotalTokens ≤ 10000000

/-- A request without the white space around its texts. -/
def CreateArtifactTaskRequest.trimmed (input : CreateArtifactTaskRequest) :
    CreateArtifactTaskRequest :=
  { input with model := trimText input.model, instruction := trimText input.instruction }

theorem normalizeArtifactTask_eq_ok {input normalized : CreateArtifactTaskRequest} :
    normalizeArtifactTask input = .ok normalized ↔ input.Acceptable ∧ normalized = input.trimmed := by
  simp only [normalizeArtifactTask, Except.bind_eq_ok, demand_eq_ok, exists_unit,
    boundedText_eq_ok, boundedInteger_eq_ok, Except.pure_eq_ok, Bool.or_eq_true, beq_iff_eq]
  constructor
  · rintro ⟨_, ⟨hmodel, rfl⟩, _, ⟨hinstruction, rfl⟩, hclass, _, ⟨houtput, rfl⟩, _, ⟨htotal, rfl⟩,
      rfl⟩
    exact ⟨⟨hmodel, hinstruction, hclass, houtput, htotal⟩, rfl⟩
  · rintro ⟨h, rfl⟩
    exact ⟨_, ⟨h.model, rfl⟩, _, ⟨h.instruction, rfl⟩, h.dataClass, _, ⟨h.maxOutputTokens, rfl⟩, _,
      ⟨h.maxTotalTokens, rfl⟩, rfl⟩

end Server
end TokenStreaming
