import TokenStreaming.Foundation.Slices
import TokenStreaming.SupplierNode.ReplayJournal

/-!
# Supplier node - The segments of an artifact

{lit}`byteSegments` of {lit}`artifact-executor.ts`: the chunks of an artifact arrive one by
one, each is compared with the manifest, and the bytes are cut into segments of a fixed
size.  The rest of a chunk waits for the next one.

Main results:

- Theorem {lit}`byteSegments_from`: what the loop yields from the bytes it has read so far.
- Theorem {lit}`segmentation_independent_of_chunking`: the segments are the slices of the
  content, however it is divided.
-/

namespace TokenStreaming
namespace SupplierNode

open Slices

/-! ## Chunks and segments -/

/-- {lit}`SupplierArtifactChunk`. -/
structure SupplierArtifactChunk where
  partNumber : Nat
  bytes : List UInt8

/-- An entry of {lit}`artifact.chunks`. -/
structure ChunkDescriptor where
  partNumber : Nat
  sizeBytes : Nat
  sha256 : String
deriving DecidableEq

/-- The {lit}`artifact` of an assignment. -/
structure AssignedArtifact where
  artifactId : String
  fileName : String
  mediaType : String
  sizeBytes : Nat
  manifestSha256 : String
  chunks : List ChunkDescriptor
deriving DecidableEq

/-- The size of a segment. -/
structure SegmentSize where
  bytes : Nat
  bytes_pos : 0 < bytes

/-- The yields of a generator, the bytes given to {lit}`contentHash`, and its end. -/
@[ext]
structure SegmentRun where
  segments : List (List UInt8)
  contentHash : List UInt8
  outcome : Except SupplierNodeError Unit

def invalidChunks (message : String) : SupplierNodeError :=
  ⟨.INVALID_REQUEST, message, 422, false⟩

/-- The inner loop: the yielded segments and the rest of {lit}`pending`. -/
def drainSegments (size : SegmentSize) (pending : List UInt8) : List (List UInt8) × List UInt8 :=
  if h : size.bytes ≤ pending.length then
    have : pending.length - size.bytes < pending.length := by
      have := size.bytes_pos
      omega
    let rest := drainSegments size (pending.drop size.bytes)
    (pending.take size.bytes :: rest.1, rest.2)
  else ([], pending)
termination_by pending.length
decreasing_by
  rw [List.length_drop]
  omega

/-- The variables of the generator. -/
structure SegmentState where
  expectedIndex : Nat
  pending : List UInt8
  total : Nat

def SegmentState.initial : SegmentState where
  expectedIndex := 0
  pending := []
  total := 0

section Segments

variable (sha256Hex : List UInt8 → String)

/-- The check of an incoming chunk against its descriptor. -/
def checkChunk (descriptor : Option ChunkDescriptor) (incoming : SupplierArtifactChunk) :
    Except SupplierNodeError Unit :=
  match descriptor with
  | none => .error (invalidChunks "文件分块顺序或编号无效。")
  | some descriptor =>
      if incoming.partNumber ≠ descriptor.partNumber then
        .error (invalidChunks "文件分块顺序或编号无效。")
      else if incoming.bytes.length ≠ descriptor.sizeBytes ∨
          sha256Hex incoming.bytes ≠ descriptor.sha256 then
        .error (invalidChunks "文件分块摘要或大小校验失败。")
      else .ok ()

/-- The generator from a state on. -/
def byteSegmentsFrom (artifact : AssignedArtifact) (size : SegmentSize) (s : SegmentState) :
    List SupplierArtifactChunk → SegmentRun
  | [] =>
      if s.expectedIndex ≠ artifact.chunks.length ∨ s.total ≠ artifact.sizeBytes then
        ⟨[], [], .error (invalidChunks "文件分块集合不完整。")⟩
      else ⟨if s.pending.length > 0 then [s.pending] else [], [], .ok ()⟩
  | incoming :: chunks =>
      match checkChunk sha256Hex artifact.chunks[s.expectedIndex]? incoming with
      | .error error => ⟨[], [], .error error⟩
      | .ok () =>
          let drained := drainSegments size (s.pending ++ incoming.bytes)
          let rest := byteSegmentsFrom artifact size
            { expectedIndex := s.expectedIndex + 1
              pending := drained.2
              total := s.total + incoming.bytes.length } chunks
          ⟨drained.1 ++ rest.segments, incoming.bytes ++ rest.contentHash, rest.outcome⟩

def byteSegments (artifact : AssignedArtifact) (size : SegmentSize)
    (chunks : List SupplierArtifactChunk) : SegmentRun :=
  byteSegmentsFrom sha256Hex artifact size .initial chunks

/-- The segments that {lit}`execute` does not skip, with their numbers. -/
def unskippedSegments (completedSegments : Nat) (segments : List (List UInt8)) :
    List (List UInt8 × Nat) :=
  (segments.zipIdx 1).filter fun segment => decide (completedSegments < segment.2)

/-! ## The loops -/

/-- The inner loop yields the full slices and keeps the rest. -/
theorem drainSegments_eq (size : SegmentSize) (pending : List UInt8) :
    drainSegments size pending =
      (fullSlices size.bytes pending, remainder size.bytes pending) := by
  fun_induction drainSegments size pending with
  | case1 pending h _ rest ih =>
      have hrest : rest = (fullSlices size.bytes (pending.drop size.bytes),
          remainder size.bytes (pending.drop size.bytes)) := ih
      rw [hrest, fullSlices_cons size.bytes_pos h, remainder_drop size.bytes_pos h]
  | case2 pending h =>
      have hlt : pending.length < size.bytes := by omega
      rw [fullSlices_of_lt hlt, remainder_of_lt hlt]

/-- The chunk is the one of its descriptor. -/
structure ChunkDescriptor.Describes (descriptor : ChunkDescriptor) (chunk : SupplierArtifactChunk) :
    Prop where
  partNumber : chunk.partNumber = descriptor.partNumber
  size : chunk.bytes.length = descriptor.sizeBytes
  digest : sha256Hex chunk.bytes = descriptor.sha256

/-- The bytes of some chunks. -/
def contentOf (chunks : List SupplierArtifactChunk) : List UInt8 :=
  chunks.flatMap SupplierArtifactChunk.bytes

theorem contentOf_cons (chunk : SupplierArtifactChunk) (chunks : List SupplierArtifactChunk) :
    contentOf (chunk :: chunks) = chunk.bytes ++ contentOf chunks :=
  List.flatMap_cons ..

/-- The state behind some accepted content. -/
def SegmentState.behind (size : SegmentSize) (count : Nat) (content : List UInt8) :
    SegmentState where
  expectedIndex := count
  pending := remainder size.bytes content
  total := content.length

variable {sha256Hex}

theorem checkChunk_eq_ok {descriptor : Option ChunkDescriptor} {incoming : SupplierArtifactChunk} :
    checkChunk sha256Hex descriptor incoming = .ok () ↔
      ∃ d, descriptor = some d ∧ d.Describes sha256Hex incoming := by
  cases descriptor with
  | none => simp [checkChunk]
  | some d =>
      by_cases hpart : incoming.partNumber = d.partNumber
      · by_cases hbad : incoming.bytes.length ≠ d.sizeBytes ∨ sha256Hex incoming.bytes ≠ d.sha256
        · constructor
          · intro h
            simp [checkChunk, hpart, hbad] at h
          · rintro ⟨_, heq, hdescribes⟩
            cases heq
            rcases hbad with hsize | hdigest
            · exact absurd hdescribes.size hsize
            · exact absurd hdescribes.digest hdigest
        · have hgood := not_or.mp hbad
          have hdescribes : d.Describes sha256Hex incoming :=
            ⟨hpart, not_not.mp hgood.1, not_not.mp hgood.2⟩
          constructor
          · exact fun _ => ⟨d, rfl, hdescribes⟩
          · intro _
            simp [checkChunk, hpart, hbad]
      · constructor
        · intro h
          simp [checkChunk, hpart] at h
        · rintro ⟨_, heq, hdescribes⟩
          cases heq
          exact absurd hdescribes.partNumber hpart

/-- A matching chunk goes on behind more content. -/
theorem byteSegmentsFrom_cons {artifact : AssignedArtifact} {size : SegmentSize} {count : Nat}
    {content : List UInt8} {incoming : SupplierArtifactChunk} {chunks : List SupplierArtifactChunk}
    {d : ChunkDescriptor} (hd : artifact.chunks[count]? = some d)
    (hdescribes : d.Describes sha256Hex incoming) :
    byteSegmentsFrom sha256Hex artifact size (.behind size count content) (incoming :: chunks) =
      let rest := byteSegmentsFrom sha256Hex artifact size
        (.behind size (count + 1) (content ++ incoming.bytes)) chunks
      ⟨fullSlices size.bytes (remainder size.bytes content ++ incoming.bytes) ++ rest.segments,
        incoming.bytes ++ rest.contentHash, rest.outcome⟩ := by
  have hcheck : checkChunk sha256Hex artifact.chunks[count]? incoming = .ok () :=
    checkChunk_eq_ok.mpr ⟨d, hd, hdescribes⟩
  have hstate : SegmentState.behind size (count + 1) (content ++ incoming.bytes) =
      { expectedIndex := count + 1
        pending := remainder size.bytes (remainder size.bytes content ++ incoming.bytes)
        total := content.length + incoming.bytes.length } := by
    rw [SegmentState.behind, remainder_append size.bytes_pos, List.length_append]
  rw [hstate]
  conv_lhs => unfold byteSegmentsFrom
  simp only [SegmentState.behind, hcheck, drainSegments_eq]

/-- Matching chunks in front of others: their full slices are yielded. -/
theorem byteSegments_from {artifact : AssignedArtifact} {descriptors : List ChunkDescriptor}
    {chunks : List SupplierArtifactChunk} (size : SegmentSize) (rest : List SupplierArtifactChunk)
    (count : Nat) (content : List UInt8)
    (hchunks : List.Forall₂ (fun d chunk => d.Describes sha256Hex chunk) descriptors chunks)
    (hat : ∀ i, i < descriptors.length → artifact.chunks[count + i]? = descriptors[i]?) :
    (fullSlices size.bytes content ++ (byteSegmentsFrom sha256Hex artifact size
        (.behind size count content) (chunks ++ rest)).segments =
      fullSlices size.bytes (content ++ contentOf chunks) ++
        (byteSegmentsFrom sha256Hex artifact size
          (.behind size (count + chunks.length) (content ++ contentOf chunks)) rest).segments) ∧
    (byteSegmentsFrom sha256Hex artifact size (.behind size count content)
        (chunks ++ rest)).contentHash =
      contentOf chunks ++ (byteSegmentsFrom sha256Hex artifact size
        (.behind size (count + chunks.length) (content ++ contentOf chunks)) rest).contentHash ∧
    (byteSegmentsFrom sha256Hex artifact size (.behind size count content)
        (chunks ++ rest)).outcome =
      (byteSegmentsFrom sha256Hex artifact size
        (.behind size (count + chunks.length) (content ++ contentOf chunks)) rest).outcome := by
  induction hchunks generalizing count content with
  | nil => simp [contentOf]
  | @cons d chunk descriptors chunks hdescribes _ ih =>
      have hd : artifact.chunks[count]? = some d := by
        have hzero := hat 0 (by simp)
        simpa using hzero
      have hrest : ∀ i, i < descriptors.length →
          artifact.chunks[count + 1 + i]? = descriptors[i]? := by
        intro i hi
        have hsucc := hat (i + 1) (by simpa using hi)
        rwa [List.getElem?_cons_succ, ← Nat.add_assoc, Nat.add_right_comm] at hsucc
      obtain ⟨hsegments, hhash, houtcome⟩ := ih (count + 1)
        (content ++ chunk.bytes) hrest
      have hcontent : content ++ contentOf (chunk :: chunks) =
          content ++ chunk.bytes ++ contentOf chunks := by
        rw [contentOf_cons, List.append_assoc]
      have hcount : count + (chunk :: chunks).length = count + 1 + chunks.length := by
        rw [List.length_cons]
        omega
      rw [List.cons_append, byteSegmentsFrom_cons hd hdescribes, hcontent, hcount]
      refine ⟨?_, ?_, houtcome⟩
      · rw [← hsegments, fullSlices_append size.bytes_pos content chunk.bytes, List.append_assoc]
      · show chunk.bytes ++ _ = _
        rw [hhash, contentOf_cons, ← List.append_assoc]

/-! ## The segmentation -/

/-- The chunks are a division of a content that the manifest describes. -/
structure AssignedArtifact.Describes (artifact : AssignedArtifact)
    (sha256Hex : List UInt8 → String) (chunks : List SupplierArtifactChunk) : Prop where
  each : List.Forall₂ (fun d chunk => d.Describes sha256Hex chunk) artifact.chunks chunks
  size : (contentOf chunks).length = artifact.sizeBytes

theorem behind_nil (size : SegmentSize) : SegmentState.behind size 0 [] = .initial := by
  simp [SegmentState.behind, SegmentState.initial]

/-- What is yielded of chunks that match the manifest. -/
theorem byteSegments_of_describes {artifact : AssignedArtifact} {size : SegmentSize}
    {chunks : List SupplierArtifactChunk} (h : artifact.Describes sha256Hex chunks) :
    byteSegments sha256Hex artifact size chunks =
      ⟨slices size.bytes (contentOf chunks), contentOf chunks, .ok ()⟩ := by
  have hall := byteSegments_from size [] 0 [] h.each fun i _ => by rw [Nat.zero_add]
  have hlength : chunks.length = artifact.chunks.length := h.each.length_eq.symm
  have hend : byteSegmentsFrom sha256Hex artifact size
      (.behind size (0 + chunks.length) ([] ++ contentOf chunks)) [] =
      ⟨if (remainder size.bytes (contentOf chunks)).length > 0 then
          [remainder size.bytes (contentOf chunks)] else [], [], .ok ()⟩ := by
    simp [byteSegmentsFrom, SegmentState.behind, hlength, h.size]
  rw [hend, behind_nil, List.append_nil, fullSlices_nil, List.nil_append, List.nil_append] at hall
  obtain ⟨hsegments, hhash, houtcome⟩ := hall
  have hslices : slices size.bytes (contentOf chunks) =
      fullSlices size.bytes (contentOf chunks) ++
        if (remainder size.bytes (contentOf chunks)).length > 0 then
          [remainder size.bytes (contentOf chunks)] else [] := by
    rw [slices_eq size.bytes_pos]
    by_cases hnil : remainder size.bytes (contentOf chunks) = []
    · simp [hnil]
    · rw [if_neg hnil, if_pos (List.length_pos_iff.mpr hnil)]
  rw [List.append_nil] at hhash
  ext : 1
  · rw [hslices]
    exact hsegments
  · exact hhash
  · exact houtcome

/-- A chunk that the manifest does not describe ends the generator behind the segments of the
chunks before it. -/
theorem byteSegments_of_mismatch {artifact : AssignedArtifact} {size : SegmentSize}
    {before rest : List SupplierArtifactChunk} {incoming : SupplierArtifactChunk}
    {descriptors : List ChunkDescriptor}
    (hbefore : List.Forall₂ (fun d chunk => d.Describes sha256Hex chunk) descriptors before)
    (hinitial : descriptors <+: artifact.chunks)
    (hbad : ∀ d, artifact.chunks[before.length]? = some d → ¬ d.Describes sha256Hex incoming) :
    ∃ error, (byteSegments sha256Hex artifact size (before ++ incoming :: rest)).outcome =
        .error error ∧
      (byteSegments sha256Hex artifact size (before ++ incoming :: rest)).segments =
        fullSlices size.bytes (contentOf before) := by
  have hat : ∀ i, i < descriptors.length → artifact.chunks[0 + i]? = descriptors[i]? := by
    intro i hi
    rcases hinitial with ⟨more, hmore⟩
    rw [Nat.zero_add, ← hmore, List.getElem?_append_left hi]
  have hall := byteSegments_from size (incoming :: rest) 0 [] hbefore hat
  rw [behind_nil, fullSlices_nil, List.nil_append, List.nil_append, Nat.zero_add] at hall
  obtain ⟨hsegments, -, houtcome⟩ := hall
  cases hcheck : checkChunk sha256Hex artifact.chunks[before.length]? incoming with
  | ok _ =>
      rcases checkChunk_eq_ok.mp hcheck with ⟨d, hd, hdescribes⟩
      exact absurd hdescribes (hbad d hd)
  | error error =>
      have hend : byteSegmentsFrom sha256Hex artifact size
          (.behind size before.length (contentOf before)) (incoming :: rest) =
          ⟨[], [], .error error⟩ := by
        unfold byteSegmentsFrom
        simp only [SegmentState.behind, hcheck]
      rw [hend] at hsegments houtcome
      rw [List.append_nil] at hsegments
      exact ⟨error, houtcome, hsegments⟩

/-- Skipping leaves the segments behind the first ones. -/
theorem unskippedSegments_eq (completedSegments : Nat) (segments : List (List UInt8)) :
    unskippedSegments completedSegments segments =
      (segments.drop completedSegments).zipIdx (completedSegments + 1) := by
  have hgeneral : ∀ (start : Nat) (segments : List (List UInt8)), start ≤ completedSegments + 1 →
      (segments.zipIdx start).filter (fun segment => decide (completedSegments < segment.2)) =
        (segments.drop (completedSegments + 1 - start)).zipIdx (completedSegments + 1) := by
    intro start segments
    induction segments generalizing start with
    | nil => simp
    | cons segment segments ih =>
        intro hstart
        rw [List.zipIdx_cons]
        by_cases hlast : start = completedSegments + 1
        · subst hlast
          have hkept : ∀ s ∈ segments.zipIdx (completedSegments + 1 + 1),
              decide (completedSegments < s.2) = true := by
            intro s hs
            have hle := (List.mem_zipIdx hs).1
            exact decide_eq_true (by omega)
          rw [List.filter_cons_of_pos (by simp), List.filter_eq_self.mpr hkept, Nat.sub_self,
            List.drop_zero, List.zipIdx_cons]
        · have hskip : completedSegments + 1 - start = (completedSegments - start) + 1 := by omega
          have hrest := ih (start + 1) (by omega)
          have hsame : completedSegments + 1 - (start + 1) = completedSegments - start := by omega
          rw [List.filter_cons_of_neg (by simpa using (by omega : start ≤ completedSegments)),
            hrest, hskip, List.drop_succ_cons, hsame]
  have hall := hgeneral 1 segments (by omega)
  rwa [Nat.add_sub_cancel] at hall

/--
However a content is divided into chunks that the manifest describes, its segments are the
consecutive slices of the segment size: as many as size and segment size give, none empty, all
but the last of full size, and together the content; a resumed task maps exactly the later
ones.  A chunk that differs from the manifest in size, digest or number fails behind the full
slices of the chunks before it.
-/
theorem segmentation_independent_of_chunking (sha256Hex : List UInt8 → String)
    (artifact : AssignedArtifact) (size : SegmentSize) :
    (∀ chunks, artifact.Describes sha256Hex chunks →
      byteSegments sha256Hex artifact size chunks =
          ⟨slices size.bytes (contentOf chunks), contentOf chunks, .ok ()⟩ ∧
        (slices size.bytes (contentOf chunks)).length =
          (artifact.sizeBytes + size.bytes - 1) / size.bytes ∧
        (slices size.bytes (contentOf chunks)).flatten = contentOf chunks ∧
        (∀ segment ∈ slices size.bytes (contentOf chunks), segment ≠ []) ∧
        (∀ i segment, (slices size.bytes (contentOf chunks))[i]? = some segment →
          segment = ((contentOf chunks).drop (i * size.bytes)).take size.bytes ∧
          (i + 1 < (slices size.bytes (contentOf chunks)).length →
            segment.length = size.bytes)) ∧
        ∀ completedSegments,
          unskippedSegments completedSegments (slices size.bytes (contentOf chunks)) =
            ((slices size.bytes (contentOf chunks)).drop completedSegments).zipIdx
              (completedSegments + 1)) ∧
    ∀ before incoming rest descriptors,
      List.Forall₂ (fun d chunk => d.Describes sha256Hex chunk) descriptors before →
      descriptors <+: artifact.chunks →
      (∀ d, artifact.chunks[before.length]? = some d → ¬ d.Describes sha256Hex incoming) →
      ∃ error, (byteSegments sha256Hex artifact size (before ++ incoming :: rest)).outcome =
          .error error ∧
        (byteSegments sha256Hex artifact size (before ++ incoming :: rest)).segments =
          fullSlices size.bytes (contentOf before) := by
  refine ⟨fun chunks h => ⟨byteSegments_of_describes h, ?_, slices_flatten size.bytes_pos _,
    fun segment hsegment => slices_ne_nil size.bytes_pos hsegment, fun i segment hat => ?_,
    fun completedSegments => unskippedSegments_eq completedSegments _⟩, ?_⟩
  · rw [slices_length, h.size]
    rfl
  · obtain ⟨hlength, hget⟩ := List.getElem?_eq_some_iff.mp hat
    have hslice : segment = slice size.bytes (contentOf chunks) i := by
      rw [← hget]
      simp [slices]
    refine ⟨hslice, fun hinner => ?_⟩
    rw [hslice]
    refine slice_length ?_
    -- an inner slice ends before the content does
    rw [slices_length, sliceCount_eq size.bytes_pos] at hinner
    have hdiv : i + 1 ≤ (contentOf chunks).length / size.bytes := by
      split at hinner <;> omega
    have hle : (i + 1) * size.bytes ≤ (contentOf chunks).length / size.bytes * size.bytes :=
      Nat.mul_le_mul_right _ hdiv
    have hmul := Nat.div_mul_le_self (contentOf chunks).length size.bytes
    rw [Nat.add_mul] at hle
    omega
  · intro before incoming rest descriptors hbefore hinitial hbad
    exact byteSegments_of_mismatch hbefore hinitial hbad

end Segments

/-- An artifact of five bytes in two chunks, with the number of bytes as a digest. -/
def sampleAssignedArtifact : AssignedArtifact where
  artifactId := "artifact-1"
  fileName := "notes.txt"
  mediaType := "text/plain"
  sizeBytes := 5
  manifestSha256 := "m"
  chunks := [⟨1, 2, "2"⟩, ⟨2, 3, "3"⟩]

def sampleDigest (bytes : List UInt8) : String :=
  if bytes.length = 2 then "2" else "3"

def sampleArtifactChunks : List SupplierArtifactChunk :=
  [⟨1, [104, 101]⟩, ⟨2, [108, 108, 111]⟩]

/-- A segment that takes the first chunk and a part of the second, and what is left. -/
theorem segmentation_independent_of_chunking_sample :
    byteSegments sampleDigest sampleAssignedArtifact ⟨4, by decide⟩ sampleArtifactChunks =
      ⟨[[104, 101, 108, 108], [111]], [104, 101, 108, 108, 111], .ok ()⟩ := by
  have hdescribes : sampleAssignedArtifact.Describes sampleDigest sampleArtifactChunks := by
    constructor
    · exact .cons ⟨rfl, rfl, rfl⟩ (.cons ⟨rfl, rfl, rfl⟩ .nil)
    · rfl
  exact ((segmentation_independent_of_chunking sampleDigest sampleAssignedArtifact
    ⟨4, by decide⟩).1 sampleArtifactChunks hdescribes).1

end SupplierNode
end TokenStreaming
