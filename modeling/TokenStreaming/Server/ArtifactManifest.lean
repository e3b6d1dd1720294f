import TokenStreaming.Foundation.JoinedFields
import TokenStreaming.Server.ArtifactIntake
import TokenStreaming.SupplierNode.ReplayJournal

/-!
# Control plane - Manifests of artifacts

A completed upload is committed to by the digest of its manifest: the name, the media type, the
size and one line for each chunk.  This module holds the checks of
{lit}`createArtifactUpload` and {lit}`completeArtifactUpload` on these fields, and
{lit}`createArtifactManifestPayload`.

Main results:

- Theorem {lit}`manifestPayload_inj`: accepted manifests with one payload are the same.
-/

namespace TokenStreaming
namespace Server

open Domain JoinedFields
open SupplierNode (isHexDigest)

/-! ## Texts on one line -/

/-- A text of characters that pass a test holds none that fails it. -/
theorem notMem_of_all {p : Char → Bool} {c : Char} {cs : List Char} (h : cs.all p = true)
    (hc : p c = false) : c ∉ cs := by
  intro hmem
  have hpass := List.all_eq_true.mp h c hmem
  rw [hc] at hpass
  cases hpass

theorem notMem_hexDigest {text : String} {c : Char} (h : isHexDigest text = true)
    (hc : (('a' ≤ c && c ≤ 'f') || ('0' ≤ c && c ≤ '9')) = false) : c ∉ text.toList := by
  unfold isHexDigest at h
  rw [Bool.and_eq_true] at h
  exact notMem_of_all (p := fun c => ('a' ≤ c && c ≤ 'f') || ('0' ≤ c && c ≤ '9')) h.2 hc

theorem notMem_toString {n : Nat} {c : Char} (hc : c.isDigit = false) :
    c ∉ (toString n).toList := by
  intro hmem
  have hdigits : c ∈ Nat.toDigits 10 n := by
    have hrepr : (toString n).toList = Nat.toDigits 10 n := by
      change (Nat.repr n).toList = _
      rw [Nat.repr, String.toList_ofList]
    rw [hrepr] at hmem
    exact hmem
  have hdigit := Nat.isDigit_of_mem_toDigits (by omega) (by omega) hdigits
  rw [hc] at hdigit
  cases hdigit

/-- The characters of an identifier. -/
theorem notMem_identifierChars {first c : Char} {rest : List Char}
    (hfirst : isAsciiAlphanumeric first = true)
    (hrest : (rest.all fun c => isAsciiAlphanumeric c || c ∈ ['.', '_', ':', '-']) = true)
    (hc : (isAsciiAlphanumeric c || c ∈ ['.', '_', ':', '-']) = false) : c ∉ first :: rest := by
  intro hmem
  rcases List.mem_cons.mp hmem with hsame | htail
  · rw [hsame, hfirst] at hc
    cases hc
  · exact notMem_of_all hrest hc htail

/-- An identifier of the artifact service holds no character outside its alphabet. -/
theorem notMem_artifactIdentifier {minimum : Nat} {text : String} {c : Char}
    (h : isArtifactIdentifier minimum text = true)
    (hc : (isAsciiAlphanumeric c || c ∈ ['.', '_', ':', '-']) = false) : c ∉ text.toList := by
  unfold isArtifactIdentifier at h
  cases hchars : text.toList with
  | nil => exact List.not_mem_nil
  | cons first rest =>
      rw [hchars] at h
      simp only [Bool.and_eq_true] at h
      exact notMem_identifierChars h.1.1.1 h.2 hc

/-- Nor does an identifier of the domain. -/
theorem notMem_identifier {text : String} {c : Char} (h : matchesIdentifierPattern text = true)
    (hc : (isAsciiAlphanumeric c || c ∈ ['.', '_', ':', '-']) = false) : c ∉ text.toList := by
  unfold matchesIdentifierPattern at h
  cases hchars : text.toList with
  | nil => exact List.not_mem_nil
  | cons first rest =>
      rw [hchars] at h
      simp only [Bool.and_eq_true] at h
      exact notMem_identifierChars h.1.1.1 h.2 hc

/-! ## Checks -/

/-- {lit}`ArtifactChunkDescriptor`. -/
structure ArtifactChunkDescriptor where
  partNumber : Nat
  sizeBytes : Nat
  sha256 : String
deriving DecidableEq

/-- The characters a file name must not hold. -/
def isForbiddenInFileName (c : Char) : Bool :=
  c == '\\' || c == '/' || c.toNat ≤ 0x1f || c.toNat == 0x7f

/-- The name is normalized by the platform before it is checked. -/
def validateFileName (normalize : String → String) (value : String) : Request String := do
  let bounded ← boundedText value "fileName" 180
  let name := normalize bounded
  demand (!(name == "." || name == ".." || name.toList.any isForbiddenInFileName))
    (malformed "文件名包含不允许的字符。")
  pure name

def validateMediaType (value : String) : Request String := do
  demand ((artifactExtensions.map Prod.fst).contains value)
    { code := "ARTIFACT_TYPE_UNSUPPORTED"
      message := "当前仅支持纯文本、Markdown、CSV、JSON、NDJSON 和 XML 文件。"
      status := 415 }
  pure value

def expectedPartSize (artifact : ArtifactRow) (partNumber : Nat) : Nat :=
  if partNumber < artifact.chunkCount then artifact.chunkSizeBytes
  else artifact.sizeBytes - artifact.chunkSizeBytes * (artifact.chunkCount - 1)

/-- One entry of the list, with the part numbers before it. -/
def checkPart (artifact : ArtifactRow) (seen : List Nat) (entry : ArtifactChunkDescriptor) :
    Request Unit := do
  let partNumber ← boundedInteger entry.partNumber "partNumber" 1 artifact.chunkCount
  demand (!seen.contains partNumber) (malformed "文件分块清单包含重复编号。")
  let sizeBytes ← boundedInteger entry.sizeBytes "sizeBytes" 1 artifactChunkSizeBytes
  demand (sizeBytes == expectedPartSize artifact partNumber)
    (malformed "文件分块清单大小不正确。")
  demand (isHexDigest entry.sha256) (malformed "sha256 必须是小写 SHA-256。")

def checkParts (artifact : ArtifactRow) :
    List Nat → List ArtifactChunkDescriptor → Request Unit
  | _, [] => .ok ()
  | seen, entry :: entries => do
      checkPart artifact seen entry
      checkParts artifact (entry.partNumber :: seen) entries

def validatePartManifest (value : List ArtifactChunkDescriptor) (artifact : ArtifactRow) :
    Request (List ArtifactChunkDescriptor) := do
  demand (value.length == artifact.chunkCount) (malformed "文件分块清单数量不正确。")
  checkParts artifact [] value
  pure (value.mergeSort fun left right => left.partNumber ≤ right.partNumber)

/-! ## Manifests -/

/-- The input of {lit}`createArtifactManifestPayload`. -/
structure ArtifactManifest where
  artifactId : String
  fileName : String
  mediaType : String
  sizeBytes : Nat
  chunks : List ArtifactChunkDescriptor
deriving DecidableEq

def ARTIFACT_PROTOCOL_VERSION : String :=
  "gongsuanyun.artifact.v1"

/-- The line of one chunk. -/
def ArtifactChunkDescriptor.line (part : ArtifactChunkDescriptor) : String :=
  String.intercalate ":" [toString part.partNumber, toString part.sizeBytes, part.sha256]

def createArtifactManifestPayload (input : ArtifactManifest) : String :=
  String.intercalate "\n"
    ([ARTIFACT_PROTOCOL_VERSION, input.artifactId, input.fileName, input.mediaType,
      toString input.sizeBytes] ++ input.chunks.map ArtifactChunkDescriptor.line)

/-- A manifest whose fields passed the checks of the upload and of its completion. -/
structure AcceptedManifest (normalize : String → String) (input : ArtifactManifest) : Prop where
  artifactId : assertArtifactIdentifier input.artifactId "artifactId" = .ok ()
  fileName : (∃ value, validateFileName normalize value = .ok input.fileName) ∨
    input.fileName = privateArtifactFileName input.mediaType
  mediaType : validateMediaType input.mediaType = .ok input.mediaType
  chunks : ∃ value artifact, validatePartManifest value artifact = .ok input.chunks

theorem newline_notMem_mediaType {mediaType : String}
    (h : validateMediaType mediaType = .ok mediaType) :
    '\n' ∉ mediaType.toList ∧ '\n' ∉ (privateArtifactFileName mediaType).toList := by
  simp only [validateMediaType, Except.bind_eq_ok, exists_unit, demand_eq_ok] at h
  have hmem := List.contains_iff_mem.mp h.1
  have hall : ∀ supported ∈ artifactExtensions.map Prod.fst,
      '\n' ∉ supported.toList ∧ '\n' ∉ (privateArtifactFileName supported).toList := by
    decide +kernel
  exact hall mediaType hmem

theorem newline_notMem_fileName {normalize : String → String} {value name : String}
    (h : validateFileName normalize value = .ok name) : '\n' ∉ name.toList := by
  simp only [validateFileName, Except.bind_eq_ok, exists_unit, demand_eq_ok, Except.pure_eq_ok] at h
  rcases h with ⟨bounded, -, hplain, rfl⟩
  intro hmem
  have hforbidden : (normalize bounded).toList.any isForbiddenInFileName = true :=
    List.any_eq_true.mpr ⟨'\n', hmem, by decide⟩
  rw [hforbidden, Bool.or_true] at hplain
  cases hplain

theorem checkParts_hexDigest {artifact : ArtifactRow} {entries : List ArtifactChunkDescriptor}
    {seen : List Nat} (h : checkParts artifact seen entries = .ok ()) :
    ∀ part ∈ entries, isHexDigest part.sha256 = true := by
  induction entries generalizing seen with
  | nil =>
      intro part hpart
      cases hpart
  | cons entry entries ih =>
      simp only [checkParts, checkPart, Except.bind_eq_ok, exists_unit, demand_eq_ok] at h
      rcases h with ⟨⟨_, -, -, _, -, -, hdigest⟩, hrest⟩
      intro part hpart
      rcases List.mem_cons.mp hpart with rfl | hmem
      · exact hdigest
      · exact ih hrest part hmem

theorem AcceptedManifest.hexDigest {normalize : String → String} {input : ArtifactManifest}
    (h : AcceptedManifest normalize input) :
    ∀ part ∈ input.chunks, isHexDigest part.sha256 = true := by
  rcases h.chunks with ⟨value, artifact, hparts⟩
  simp only [validatePartManifest, Except.bind_eq_ok, exists_unit, demand_eq_ok,
    Except.pure_eq_ok] at hparts
  rcases hparts with ⟨-, hchecked, hsorted⟩
  intro part hpart
  rw [← hsorted, List.mem_mergeSort] at hpart
  exact checkParts_hexDigest hchecked part hpart

/-! ## Payloads -/

/-- Texts that hold no separator are fixed by their join. -/
theorem texts_inj_of_free {sep : Char} {texts texts' : List String} (hne : texts ≠ [])
    (hne' : texts' ≠ []) (hfree : ∀ text ∈ texts, sep ∉ text.toList)
    (hfree' : ∀ text ∈ texts', sep ∉ text.toList)
    (h : String.intercalate (.singleton sep) texts = String.intercalate (.singleton sep) texts') :
    texts = texts' := by
  have hlists : [sep].intercalate (texts.map String.toList) =
      [sep].intercalate (texts'.map String.toList) := by
    have hchars := congrArg String.toList h
    rw [String.toList_intercalate, String.toList_intercalate, String.toList_singleton] at hchars
    exact hchars
  have hsame : texts.map String.toList = texts'.map String.toList := by
    refine intercalate_inj_of_free ?_ ?_ ?_ ?_ hlists
    · exact mt List.map_eq_nil_iff.mp hne
    · exact mt List.map_eq_nil_iff.mp hne'
    · intro field hfield
      rcases List.mem_map.mp hfield with ⟨text, htext, rfl⟩
      exact hfree text htext
    · intro field hfield
      rcases List.mem_map.mp hfield with ⟨text, htext, rfl⟩
      exact hfree' text htext
  exact List.map_injective_iff.mpr (fun _ _ => String.toList_inj.mp) hsame

theorem line_inj {part part' : ArtifactChunkDescriptor} (h : isHexDigest part.sha256 = true)
    (h' : isHexDigest part'.sha256 = true) (hline : part.line = part'.line) : part = part' := by
  have hfree : ∀ p : ArtifactChunkDescriptor, isHexDigest p.sha256 = true →
      ∀ text ∈ [toString p.partNumber, toString p.sizeBytes, p.sha256], ':' ∉ text.toList := by
    intro p hp text htext
    simp only [List.mem_cons, List.not_mem_nil, or_false] at htext
    rcases htext with rfl | rfl | rfl
    · exact notMem_toString (by decide)
    · exact notMem_toString (by decide)
    · exact notMem_hexDigest hp (by decide)
  have htexts := texts_inj_of_free (List.cons_ne_nil _ _) (List.cons_ne_nil _ _) (hfree part h)
    (hfree part' h') hline
  simp only [List.cons.injEq, and_true] at htexts
  rcases htexts with ⟨hnumber, hsize, hdigest⟩
  cases part
  cases part'
  simp only [ArtifactChunkDescriptor.mk.injEq]
  exact ⟨toString_inj hnumber, toString_inj hsize, hdigest⟩

/-- Lists of accepted chunks are fixed by their lines. -/
theorem lines_inj {parts parts' : List ArtifactChunkDescriptor}
    (h : ∀ part ∈ parts, isHexDigest part.sha256 = true)
    (h' : ∀ part ∈ parts', isHexDigest part.sha256 = true)
    (hlines : parts.map ArtifactChunkDescriptor.line = parts'.map ArtifactChunkDescriptor.line) :
    parts = parts' := by
  induction parts generalizing parts' with
  | nil => exact (List.map_eq_nil_iff.mp hlines.symm).symm
  | cons part parts ih =>
      cases parts' with
      | nil => cases hlines
      | cons part' parts' =>
          rw [List.map_cons, List.map_cons] at hlines
          rcases List.cons.inj hlines with ⟨hfirst, hrest⟩
          have hsame := line_inj (h part List.mem_cons_self) (h' part' List.mem_cons_self) hfirst
          rw [hsame, ih (fun p hp => h p (List.mem_cons_of_mem _ hp))
            (fun p hp => h' p (List.mem_cons_of_mem _ hp)) hrest]

/-- No line of an accepted manifest holds a line feed. -/
theorem AcceptedManifest.newline_notMem {normalize : String → String} {input : ArtifactManifest}
    (h : AcceptedManifest normalize input) :
    ∀ text ∈ [ARTIFACT_PROTOCOL_VERSION, input.artifactId, input.fileName, input.mediaType,
      toString input.sizeBytes] ++ input.chunks.map ArtifactChunkDescriptor.line,
      '\n' ∉ text.toList := by
  have hmedia := newline_notMem_mediaType h.mediaType
  intro text htext
  rcases List.mem_append.mp htext with hfixed | hline
  · simp only [List.mem_cons, List.not_mem_nil, or_false] at hfixed
    rcases hfixed with rfl | rfl | rfl | rfl | rfl
    · decide +kernel
    · have hid := h.artifactId
      unfold assertArtifactIdentifier at hid
      rw [demand_eq_ok] at hid
      exact notMem_artifactIdentifier hid (by decide)
    · rcases h.fileName with ⟨value, hvalid⟩ | hprivate
      · exact newline_notMem_fileName hvalid
      · rw [hprivate]
        exact hmedia.2
    · exact hmedia.1
    · exact notMem_toString (by decide)
  · rcases List.mem_map.mp hline with ⟨part, hpart, rfl⟩
    have hdigest := h.hexDigest part hpart
    unfold ArtifactChunkDescriptor.line
    rw [String.toList_intercalate]
    intro hmem
    simp only [List.map_cons, List.map_nil, List.intercalate_cons_cons, List.intercalate_singleton,
      List.mem_append] at hmem
    rcases hmem with (hnumber | hcolon) | (hsize | hcolon) | hsha
    · exact notMem_toString (by decide) hnumber
    · exact absurd hcolon (by decide)
    · exact notMem_toString (by decide) hsize
    · exact absurd hcolon (by decide)
    · exact notMem_hexDigest hdigest (by decide) hsha

/-- Accepted manifests with one payload are the same. -/
theorem manifestPayload_inj {normalize : String → String} {input input' : ArtifactManifest}
    (h : AcceptedManifest normalize input) (h' : AcceptedManifest normalize input')
    (hpayload : createArtifactManifestPayload input = createArtifactManifestPayload input') :
    input = input' := by
  have htexts : [ARTIFACT_PROTOCOL_VERSION, input.artifactId, input.fileName, input.mediaType,
        toString input.sizeBytes] ++ input.chunks.map ArtifactChunkDescriptor.line =
      [ARTIFACT_PROTOCOL_VERSION, input'.artifactId, input'.fileName, input'.mediaType,
        toString input'.sizeBytes] ++ input'.chunks.map ArtifactChunkDescriptor.line :=
    texts_inj_of_free (List.cons_ne_nil _ _) (List.cons_ne_nil _ _) h.newline_notMem
      h'.newline_notMem hpayload
  rcases List.append_inj htexts rfl with ⟨hfixed, hlines⟩
  simp only [List.cons.injEq, true_and, and_true] at hfixed
  rcases hfixed with ⟨hid, hname, hmedia, hsize⟩
  have hchunks := lines_inj h.hexDigest h'.hexDigest hlines
  cases input
  cases input'
  simp only [ArtifactManifest.mk.injEq]
  exact ⟨hid, hname, hmedia, toString_inj hsize, hchunks⟩

end Server
end TokenStreaming
