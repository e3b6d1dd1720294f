import Mathlib.Data.List.DropRight
import Mathlib.Data.Option.Basic
import TokenStreaming.Domain.Validation
import TokenStreaming.Foundation.JsonScan

/-!
# Tools - Patch proposals

{lit}`parsePatchProposal` cuts the JSON text of a proposal out of a model's answer: the first
fenced block of two kinds, up to the next three backticks, or the whole answer when it looks
like an object.

Main results:

- Theorem {lit}`jsonTextOf_stringify`: the printed proposal is a JSON text of it.
- Theorem {lit}`fenced_proposal_survives_iff`: a fenced text is read iff no fence stands in it.
- Theorem {lit}`bare_proposal_survives_iff`: a bare text is read iff no block stands in it.
-/

namespace TokenStreaming
namespace Tools

open Domain Json

/-! ## Proposals -/

structure ProposedFilePatch where
  path : String
  content : String
deriving DecidableEq

structure PatchProposal where
  summary : String
  files : List ProposedFilePatch
deriving DecidableEq

/-- What {lit}`parsePatchProposal` throws. -/
inductive ProposalError where
  /-- The error of {lit}`JSON.parse`. -/
  | syntaxError
  | message (text : String)
deriving DecidableEq

abbrev Parsed (α : Type) := Except ProposalError α

def normalizeFilePatch : JsonValue → Parsed ProposedFilePatch
  | .object members =>
      match members.lookup "path" with
      | some (.string path) =>
          if isBlank path then .error (.message "Patch file entry must include a non-empty path.")
          else
            match members.lookup "content" with
            | some (.string content) => .ok { path, content }
            | _ => .error (.message
                ("Patch file entry for " ++ path ++ " must include string content."))
      | _ => .error (.message "Patch file entry must include a non-empty path.")
  | .array _ => .error (.message "Patch file entry must include a non-empty path.")
  | _ => .error (.message "Patch file entry must be an object.")

/-- The summary of a record, or the text that stands for it. -/
def summaryOf (members : List (String × JsonValue)) : String :=
  match members.lookup "summary" with
  | some (.string text) => text
  | _ => "No summary provided."

def normalizePatchProposal : JsonValue → Parsed PatchProposal
  | .object members =>
      match members.lookup "files" with
      | some (.array items) => do
          let files ← items.mapM normalizeFilePatch
          return { summary := summaryOf members, files }
      | _ => .error (.message "Patch proposal must include a files array.")
  | .array _ => .error (.message "Patch proposal must include a files array.")
  | _ => .error (.message "Patch proposal must be an object.")

/-! ## The payload of an answer -/

/-- {lit}`text.trim()`. -/
def trimChars (cs : List Char) : List Char :=
  (cs.dropWhile isTrimmable).rdropWhile isTrimmable

def fence : List Char :=
  ['\x60', '\x60', '\x60']

def jsonTag : List Char :=
  ['j', 's', 'o', 'n']

def patchTag : List Char :=
  "token-streaming-patch".toList

/-- The text after a tag, in any case of its letters. -/
def dropTag (tag cs : List Char) : Option (List Char) :=
  if (cs.take tag.length).map Char.toLower = tag then some (cs.drop tag.length) else none

/-- {lit}`json|token-streaming-patch`. -/
def afterTag (cs : List Char) : Option (List Char) :=
  dropTag jsonTag cs <|> dropTag patchTag cs

/-- The text in front of the first fence. -/
def untilFence : List Char → Option (List Char)
  | [] => none
  | c :: cs =>
      if fence.isPrefixOf (c :: cs) then some [] else (untilFence cs).map fun text => c :: text

/-- The group of the pattern where it begins with the text. -/
def fencedAt (cs : List Char) : Option (List Char) :=
  if fence.isPrefixOf cs then
    (afterTag (cs.drop fence.length)).bind fun rest => untilFence (rest.dropWhile isTrimmable)
  else none

/-- The group of the first match of the pattern. -/
def fencedBlock : List Char → Option (List Char)
  | [] => none
  | c :: cs => fencedAt (c :: cs) <|> fencedBlock cs

def extractJsonPayload (text : List Char) : Option (List Char) :=
  let group := (fencedBlock text).getD []
  if group ≠ [] then some (trimChars group)
  else
    let trimmed := trimChars text
    if trimmed.head? = some '\x7b' ∧ trimmed.getLast? = some '\x7d' then some trimmed else none

def parsePatchProposal (text : List Char) : Parsed (Option PatchProposal) :=
  match extractJsonPayload text with
  | none => .ok none
  | some rawJson =>
      match parse rawJson with
      | none => .error .syntaxError
      | some parsed => (normalizePatchProposal parsed).map some

/-! ## The text of a proposal -/

/-- A JSON text of a proposal, without white space around it. -/
structure JsonTextOf (proposal : PatchProposal) (text : List Char) : Prop where
  value : ∃ v, parse text = some v ∧ normalizePatchProposal v = .ok proposal
  opening : text.head? = some '\x7b'
  closing : text.getLast? = some '\x7d'

def ProposedFilePatch.toJson (file : ProposedFilePatch) : JsonValue :=
  .object [("path", .string file.path), ("content", .string file.content)]

def PatchProposal.toJson (proposal : PatchProposal) : JsonValue :=
  .object
    [("summary", .string proposal.summary),
      ("files", .array (proposal.files.map ProposedFilePatch.toJson))]

theorem normalizeFilePatch_toJson {file : ProposedFilePatch} (h : isBlank file.path = false) :
    normalizeFilePatch file.toJson = .ok file := by
  unfold ProposedFilePatch.toJson normalizeFilePatch
  simp [List.lookup_cons, h]

theorem normalizePatchProposal_toJson {proposal : PatchProposal}
    (h : ∀ file ∈ proposal.files, isBlank file.path = false) :
    normalizePatchProposal proposal.toJson = .ok proposal := by
  rcases proposal with ⟨summary, files⟩
  have hfiles : (files.map ProposedFilePatch.toJson).mapM normalizeFilePatch = .ok files := by
    induction files with
    | nil => rfl
    | cons file files ih =>
        rw [List.map_cons, List.mapM_cons, normalizeFilePatch_toJson (h file List.mem_cons_self),
          ih fun other hother => h other (List.mem_cons_of_mem file hother)]
        rfl
  unfold PatchProposal.toJson normalizePatchProposal
  simp only [List.lookup_cons, summaryOf, String.reduceBEq, hfiles]
  rfl

theorem printable_toJson (proposal : PatchProposal) : Printable proposal.toJson := by
  have hitems : ∀ files : List ProposedFilePatch,
      PrintableItems (files.map ProposedFilePatch.toJson) := by
    intro files
    induction files with
    | nil => trivial
    | cons file files ih => exact ⟨⟨by simp, trivial, trivial, trivial⟩, ih⟩
  exact ⟨by simp, trivial, hitems proposal.files, trivial⟩

theorem getLast?_renderMembers (members : List (String × JsonValue)) :
    (renderMembers members).getLast? = some '\x7d' := by
  induction members with
  | nil => rfl
  | cons m members ih =>
      rcases m with ⟨key, v⟩
      cases members with
      | nil => simp [renderMembers, List.getLast?_append, List.getLast?_cons]
      | cons m' members =>
          simp [renderMembers, List.getLast?_append, List.getLast?_cons, ih]

/-- The text that {lit}`JSON.stringify` prints for a proposal is a JSON text of it. -/
theorem jsonTextOf_stringify {proposal : PatchProposal}
    (h : ∀ file ∈ proposal.files, isBlank file.path = false) :
    JsonTextOf proposal (render proposal.toJson) where
  value := ⟨_, parse_render _ (printable_toJson proposal), normalizePatchProposal_toJson h⟩
  opening := by
    unfold PatchProposal.toJson
    rw [render]
    rfl
  closing := by
    unfold PatchProposal.toJson
    rw [render, List.getLast?_cons, getLast?_renderMembers]
    rfl

/-! ## Fences -/

theorem isPrefixOf_fence_iff {cs : List Char} :
    fence.isPrefixOf cs = true ↔ ∃ rest, cs = fence ++ rest := by
  rw [List.isPrefixOf_iff_prefix]
  constructor
  · rintro ⟨rest, hrest⟩
    exact ⟨rest, hrest.symm⟩
  · rintro ⟨rest, hrest⟩
    exact ⟨rest, hrest.symm⟩

/-- No fence begins with the end of a text that has none and does not end with a backtick. -/
theorem untilFence_append {cs : List Char} (h : ¬ fence <:+: cs)
    (hlast : cs.getLast? ≠ some '\x60') (rest : List Char) :
    untilFence (cs ++ fence ++ rest) = some cs := by
  induction cs with
  | nil => rfl
  | cons c cs ih =>
      have htail : ¬ fence <:+: cs := fun hinside => h (hinside.trans (List.suffix_cons c cs).isInfix)
      have hlasttail : cs.getLast? ≠ some '\x60' := by
        intro hcs
        rw [List.getLast?_cons, hcs] at hlast
        exact hlast rfl
      have hnotprefix : fence.isPrefixOf (c :: (cs ++ fence ++ rest)) = false := by
        rw [← Bool.not_eq_true, isPrefixOf_fence_iff]
        rintro ⟨tail, heq⟩
        rcases cs with _ | ⟨d, _ | ⟨e, cs⟩⟩
        · injection heq with hc _
          exact hlast (by rw [hc]; rfl)
        · injection heq with _ heq
          injection heq with hd _
          exact hlast (by rw [hd]; rfl)
        · injection heq with hc heq
          injection heq with hd heq
          injection heq with he _
          subst hc hd he
          exact h ⟨[], cs, rfl⟩
      rw [List.cons_append, List.cons_append, untilFence, hnotprefix, ih htail hlasttail]
      rfl

/-- The first fence of a text that has one. -/
theorem untilFence_of_infix {cs : List Char} (h : fence <:+: cs) :
    ∃ body rest, cs = body ++ fence ++ rest ∧
      ∀ more, untilFence (cs ++ more) = some body := by
  induction cs with
  | nil =>
      rcases h with ⟨a, b, hab⟩
      simp [fence] at hab
  | cons c cs ih =>
      by_cases hprefix : fence.isPrefixOf (c :: cs) = true
      · rcases isPrefixOf_fence_iff.mp hprefix with ⟨rest, hrest⟩
        refine ⟨[], rest, hrest, ?_⟩
        intro more
        rw [hrest]
        rfl
      · have htail : fence <:+: cs := by
          rcases List.infix_cons_iff.mp h with hinside | hinside
          · exact absurd (List.isPrefixOf_iff_prefix.mpr hinside) hprefix
          · exact hinside
        rcases ih htail with ⟨body, rest, rfl, hbody⟩
        refine ⟨c :: body, rest, rfl, ?_⟩
        intro more
        have hnotprefix : ¬ fence.isPrefixOf (c :: (body ++ fence ++ rest ++ more)) = true := by
          intro hlong
          refine hprefix ?_
          rw [List.isPrefixOf_iff_prefix] at hlong ⊢
          refine List.prefix_of_prefix_length_le hlong ?_ ?_
          · rw [← List.cons_append]
            exact List.prefix_append _ _
          · simp only [fence, List.length_cons, List.length_append, List.length_nil]
            omega
        rw [List.cons_append, untilFence, if_neg hnotprefix, hbody more]
        rfl

theorem untilFence_eq_some {cs body : List Char} (h : untilFence cs = some body) :
    ∃ rest, cs = body ++ fence ++ rest := by
  induction cs generalizing body with
  | nil => cases h
  | cons c cs ih =>
      rw [untilFence] at h
      split at h
      · rename_i hprefix
        rcases isPrefixOf_fence_iff.mp hprefix with ⟨rest, hrest⟩
        cases h
        exact ⟨rest, hrest⟩
      · rcases Option.map_eq_some_iff.mp h with ⟨tail, htail, rfl⟩
        rcases ih htail with ⟨rest, rfl⟩
        exact ⟨rest, rfl⟩

/-- One of the two tags, in any case of its letters. -/
def IsTag (tag : List Char) : Prop :=
  tag.map Char.toLower = jsonTag ∨ tag.map Char.toLower = patchTag

theorem dropTag_append {tag written : List Char} (h : written.map Char.toLower = tag)
    (rest : List Char) : dropTag tag (written ++ rest) = some rest := by
  have hlength : tag.length = written.length := by
    rw [← h, List.length_map]
  unfold dropTag
  rw [hlength, List.take_left, List.drop_left, if_pos h]

theorem dropTag_eq_some {tag cs rest : List Char} (h : dropTag tag cs = some rest) :
    ∃ written, cs = written ++ rest ∧ written.map Char.toLower = tag := by
  unfold dropTag at h
  split at h
  · rename_i htag
    cases h
    exact ⟨_, (List.take_append_drop ..).symm, htag⟩
  · cases h

theorem afterTag_append {tag : List Char} (h : IsTag tag) (rest : List Char) :
    afterTag (tag ++ rest) = some rest := by
  unfold afterTag
  rcases h with h | h
  · rw [dropTag_append h]
    rfl
  · have hnone : dropTag jsonTag (tag ++ rest) = none := by
      unfold dropTag
      rw [if_neg]
      intro htake
      have hhead := congrArg List.head? h
      rw [List.head?_map] at hhead
      rcases tag with _ | ⟨c, tag⟩
      · cases hhead
      · injection hhead with hc
        injection htake with hj _
        rw [hj] at hc
        exact absurd hc (by decide)
    rw [hnone, dropTag_append h]
    rfl

theorem afterTag_eq_some {cs rest : List Char} (h : afterTag cs = some rest) :
    ∃ tag, cs = tag ++ rest ∧ IsTag tag := by
  unfold afterTag at h
  rcases (Option.orElse_eq_some _ _ _).mp h with h | ⟨-, h⟩
  · rcases dropTag_eq_some h with ⟨tag, hcs, htag⟩
    exact ⟨tag, hcs, .inl htag⟩
  · rcases dropTag_eq_some h with ⟨tag, hcs, htag⟩
    exact ⟨tag, hcs, .inr htag⟩

theorem afterTag_backtick (cs : List Char) : afterTag ('\x60' :: cs) = none := by
  cases h : afterTag ('\x60' :: cs) with
  | none => rfl
  | some rest =>
      rcases afterTag_eq_some h with ⟨tag, hcs, htag⟩
      rcases tag with _ | ⟨c, tag⟩
      · rcases htag with htag | htag
        · cases htag
        · exact absurd htag (by decide)
      · injection hcs with hc _
        subst hc
        rcases htag with htag | htag
        · injection htag with hj _
          exact absurd hj (by decide)
        · have hhead := congrArg List.head? htag
          injection hhead with hj
          exact absurd hj (by decide)

/-- The group where a fence is opened. -/
theorem fencedAt_append {tag : List Char} (h : IsTag tag) (rest : List Char) :
    fencedAt (fence ++ tag ++ rest) = untilFence (rest.dropWhile isTrimmable) := by
  have hprefix : fence.isPrefixOf (fence ++ tag ++ rest) = true :=
    isPrefixOf_fence_iff.mpr ⟨tag ++ rest, List.append_assoc ..⟩
  unfold fencedAt
  rw [if_pos hprefix, List.append_assoc, List.drop_left, afterTag_append h]
  rfl

/-- Prose without a fence is passed over. -/
theorem fencedBlock_append {before tag : List Char} (hbefore : ¬ fence <:+: before)
    (htag : IsTag tag) {rest body : List Char}
    (hbody : untilFence (rest.dropWhile isTrimmable) = some body) :
    fencedBlock (before ++ (fence ++ tag ++ rest)) = some body := by
  induction before with
  | nil =>
      rw [List.nil_append, show fence ++ tag ++ rest = '\x60' :: ('\x60' :: '\x60' :: tag ++ rest)
        from rfl, fencedBlock, show '\x60' :: ('\x60' :: '\x60' :: tag ++ rest) =
        fence ++ tag ++ rest from rfl, fencedAt_append htag, hbody]
      rfl
  | cons c before ih =>
      have htail : ¬ fence <:+: before :=
        fun hinside => hbefore (hinside.trans (List.suffix_cons c before).isInfix)
      have hnone : fencedAt (c :: (before ++ (fence ++ tag ++ rest))) = none := by
        unfold fencedAt
        split
        · rename_i hprefix
          rcases isPrefixOf_fence_iff.mp hprefix with ⟨tail, heq⟩
          rcases before with _ | ⟨d, _ | ⟨e, before⟩⟩
          · exact congrArg (fun text => Option.bind text _) (afterTag_backtick _)
          · exact congrArg (fun text => Option.bind text _) (afterTag_backtick _)
          · injection heq with hc heq
            injection heq with hd heq
            injection heq with he _
            subst hc hd he
            exact absurd ⟨[], before, rfl⟩ hbefore
        · rfl
      rw [List.cons_append, fencedBlock, hnone, ih htail]
      rfl

theorem fencedBlock_eq_some {cs body : List Char} (h : fencedBlock cs = some body) :
    ∃ before tag space rest, cs = before ++ (fence ++ tag ++ (space ++ (body ++ fence ++ rest))) ∧
      IsTag tag ∧ ∀ c ∈ space, isTrimmable c = true := by
  induction cs with
  | nil => cases h
  | cons c cs ih =>
      rw [fencedBlock] at h
      rcases (Option.orElse_eq_some _ _ _).mp h with h | ⟨-, h⟩
      · unfold fencedAt at h
        split at h
        · rename_i hprefix
          rcases isPrefixOf_fence_iff.mp hprefix with ⟨opened, hopened⟩
          rw [hopened, List.drop_left] at h
          rcases Option.bind_eq_some_iff.mp h with ⟨after, hafter, hbody⟩
          rcases afterTag_eq_some hafter with ⟨tag, rfl, htag⟩
          rcases untilFence_eq_some hbody with ⟨rest, hrest⟩
          refine ⟨[], tag, after.takeWhile isTrimmable, rest, ?_, htag, ?_⟩
          · rw [hopened, List.nil_append, ← hrest, List.takeWhile_append_dropWhile,
              List.append_assoc]
          · exact fun c hc => List.mem_takeWhile_imp hc
        · cases h
      · rcases ih h with ⟨before, tag, space, rest, rfl, htag, hspace⟩
        exact ⟨c :: before, tag, space, rest, rfl, htag, hspace⟩

/-! ## Trimming -/

theorem not_isTrimmable_brace {c : Char} (h : c = '\x7b' ∨ c = '\x7d') : isTrimmable c = false := by
  rcases h with rfl | rfl <;> decide

theorem dropWhile_append_of_all {space rest : List Char} (h : ∀ c ∈ space, isTrimmable c = true) :
    (space ++ rest).dropWhile isTrimmable = rest.dropWhile isTrimmable :=
  List.dropWhile_append_of_pos h

theorem rdropWhile_append_of_all {text space : List Char}
    (h : ∀ c ∈ space, isTrimmable c = true) (hlast : text.getLast? = some '\x7d') :
    (text ++ space).rdropWhile isTrimmable = text := by
  unfold List.rdropWhile
  rw [List.reverse_append,
    List.dropWhile_append_of_pos fun c hc => h c (List.mem_reverse.mp hc)]
  rw [List.getLast?_eq_head?_reverse] at hlast
  rcases hreverse : text.reverse with _ | ⟨c, rest⟩
  · rw [hreverse] at hlast
    cases hlast
  · rw [hreverse, List.head?_cons, Option.some.injEq] at hlast
    rw [List.dropWhile_cons, if_neg (by rw [not_isTrimmable_brace (.inr hlast)]; decide),
      ← hreverse, List.reverse_reverse]

theorem dropWhile_of_opening {text rest : List Char} (h : text.head? = some '\x7b') :
    (text ++ rest).dropWhile isTrimmable = text ++ rest := by
  rcases text with _ | ⟨c, text⟩
  · cases h
  · rw [List.head?_cons, Option.some.injEq] at h
    rw [List.cons_append, List.dropWhile_cons,
      if_neg (by rw [not_isTrimmable_brace (.inl h)]; decide)]

/-- A text between two braces is what is left of it and the white space around it. -/
theorem trimChars_of_braces {before text after : List Char}
    (hbefore : ∀ c ∈ before, isTrimmable c = true) (hafter : ∀ c ∈ after, isTrimmable c = true)
    (hopening : text.head? = some '\x7b') (hclosing : text.getLast? = some '\x7d') :
    trimChars (before ++ (text ++ after)) = text := by
  unfold trimChars
  rw [dropWhile_append_of_all hbefore, dropWhile_of_opening hopening,
    rdropWhile_append_of_all hafter hclosing]

/-- What is trimmed, with the white space around it. -/
theorem trimChars_split (cs : List Char) : ∃ before after,
    cs = before ++ (trimChars cs ++ after) ∧ (∀ c ∈ before, isTrimmable c = true) ∧
      ∀ c ∈ after, isTrimmable c = true := by
  refine ⟨cs.takeWhile isTrimmable, (cs.dropWhile isTrimmable).rtakeWhile isTrimmable, ?_, ?_, ?_⟩
  · unfold trimChars
    rw [List.rdropWhile_append_rtakeWhile, List.takeWhile_append_dropWhile]
  · exact fun c hc => List.mem_takeWhile_imp hc
  · exact fun c hc => List.mem_rtakeWhile_imp hc

/-! ## Scanning an answer -/

theorem scan_outside_trimmable {space : List Char} {place : Place}
    (h : ∀ c ∈ space, isTrimmable c = true) (hscan : scan .outside space = some place) :
    place = .outside := by
  induction space with
  | nil => exact (Option.some.inj hscan).symm
  | cons c space ih =>
      have hquote : c ≠ '"' := by
        rintro rfl
        exact absurd (h '"' List.mem_cons_self) (by decide)
      rw [scan] at hscan
      rcases Option.bind_eq_some_iff.mp hscan with ⟨next, hone, hrest⟩
      have hnext : next = .outside := by
        simp only [scanChar, if_neg hquote] at hone
        split at hone
        · exact (Option.some.inj hone).symm
        · cases hone
      subst hnext
      exact ih (fun d hd => h d (List.mem_cons_of_mem c hd)) hrest

/-- Characters that are neither quotes nor backslashes stay inside a string. -/
theorem scan_inside_plain {cs : List Char} (h : ∀ c ∈ cs, c ≠ '"' ∧ c ≠ '\\') :
    scan .inside cs = some .inside := by
  induction cs with
  | nil => rfl
  | cons c cs ih =>
      rcases h c List.mem_cons_self with ⟨hquote, hslash⟩
      rw [scan, scanChar_inside hquote hslash, Option.bind_some]
      exact ih fun d hd => h d (List.mem_cons_of_mem c hd)

/-- A fence in a JSON text stands inside a string. -/
theorem scan_before_fence {before after : List Char}
    (h : scan .outside (before ++ fence ++ after) ≠ none) :
    scan .outside before = some .inside := by
  rw [List.append_assoc, scan_append] at h
  cases hbefore : scan .outside before with
  | none =>
      rw [hbefore] at h
      exact absurd rfl h
  | some place =>
      rw [hbefore, Option.bind_some] at h
      cases place with
      | outside => exact absurd rfl h
      | inside => rfl
      | escaped => exact absurd rfl h

theorem plain_of_isTag {tag : List Char} (h : IsTag tag) : ∀ c ∈ tag, c ≠ '"' ∧ c ≠ '\\' := by
  intro c hc
  have hmem : c.toLower ∈ jsonTag ∨ c.toLower ∈ patchTag := by
    rcases h with h | h
    · exact .inl (h ▸ List.mem_map_of_mem hc)
    · exact .inr (h ▸ List.mem_map_of_mem hc)
  constructor
  · rintro rfl
    exact absurd hmem (by decide)
  · rintro rfl
    exact absurd hmem (by decide)

theorem plain_of_isTrimmable {space : List Char} (h : ∀ c ∈ space, isTrimmable c = true) :
    ∀ c ∈ space, c ≠ '"' ∧ c ≠ '\\' := by
  intro c hc
  constructor
  · rintro rfl
    exact absurd (h '"' hc) (by decide)
  · rintro rfl
    exact absurd (h '\\' hc) (by decide)

/-- A payload that was cut inside a string is not JSON. -/
theorem parse_cut {body : List Char} (h : scan .outside body = some .inside) :
    parse (trimChars body) = none := by
  cases hparse : parse (trimChars body) with
  | none => rfl
  | some v =>
      rcases trimChars_split body with ⟨before, after, hbody, hbefore, hafter⟩
      rw [hbody, scan_append] at h
      rcases Option.bind_eq_some_iff.mp h with ⟨place, hplace, hrest⟩
      rw [scan_outside_trimmable hbefore hplace, scan_append, parse_scan hparse,
        Option.bind_some] at hrest
      cases scan_outside_trimmable hafter hrest

/-- A payload that begins inside a string is no proposal. -/
theorem normalize_of_inside {body : List Char} {v : JsonValue} {proposal : PatchProposal}
    (hscan : scan .inside body ≠ none) (hparse : parse (trimChars body) = some v) :
    normalizePatchProposal v ≠ .ok proposal := by
  intro hvalid
  have hpayload : scan .inside (trimChars body) ≠ none := by
    rcases trimChars_split body with ⟨before, after, hbody, hbefore, -⟩
    intro hnone
    rw [hbody, scan_append, scan_inside_plain (plain_of_isTrimmable hbefore), Option.bind_some,
      scan_append, hnone] at hscan
    exact hscan rfl
  have hchars := structural_of_scan (.inl ⟨rfl, rfl⟩) (by rw [parse_scan hparse]; simp) hpayload
  have hslash : '\\' ∉ trimChars body := by
    intro hmem
    rcases hchars _ hmem with h | h
    · exact absurd h (by decide)
    · exact absurd h (by decide)
  have hletter : 'i' ∉ trimChars body := by
    intro hmem
    rcases hchars _ hmem with h | h
    · exact absurd h (by decide)
    · exact absurd h (by decide)
  cases v with
  | object members =>
      have hkeys := parse_keys hparse hslash
      cases hfiles : members.lookup "files" with
      | none => simp [normalizePatchProposal, hfiles] at hvalid
      | some files =>
          rcases List.lookup_eq_some_iff.mp hfiles with ⟨front, back, rfl, -⟩
          have hmem : ("files", files) ∈ front ++ ("files", files) :: back :=
            List.mem_append_right front List.mem_cons_self
          exact hletter (hkeys _ hmem (by decide : 'i' ∈ "files".toList))
  | array items => cases hvalid
  | null => cases hvalid
  | bool b => cases hvalid
  | number n => cases hvalid
  | decimal text => cases hvalid
  | string text => cases hvalid

/-! ## Answers -/

theorem parsePatchProposal_of_payload {text rawJson : List Char}
    (h : extractJsonPayload text = some rawJson) {v : JsonValue} (hparse : parse rawJson = some v) :
    parsePatchProposal text = (normalizePatchProposal v).map some := by
  unfold parsePatchProposal
  rw [h]
  dsimp only
  rw [hparse]

/-- The text of a proposal is read to the proposal wherever it is cut out. -/
theorem JsonTextOf.read {proposal : PatchProposal} {text answer : List Char}
    (h : JsonTextOf proposal text) (hpayload : extractJsonPayload answer = some text) :
    parsePatchProposal answer = .ok (some proposal) := by
  rcases h.value with ⟨v, hparse, hvalid⟩
  rw [parsePatchProposal_of_payload hpayload hparse, hvalid]
  rfl

theorem extractJsonPayload_of_block {text group : List Char} (h : fencedBlock text = some group)
    (hgroup : group ≠ []) : extractJsonPayload text = some (trimChars group) := by
  unfold extractJsonPayload
  rw [h, Option.getD_some]
  exact if_pos hgroup

theorem backtick_notMem_of_isTrimmable {space : List Char}
    (h : ∀ c ∈ space, isTrimmable c = true) : '\x60' ∉ space := by
  intro hmem
  exact absurd (h _ hmem) (by decide)

theorem backtick_mem_of_fence_infix {cs : List Char} (h : fence <:+: cs) : '\x60' ∈ cs :=
  h.subset List.mem_cons_self

/-- A fence does not begin in front of a text in white space. -/
theorem split_before_fence {space text before rest : List Char} (h : '\x60' ∉ space)
    (hsplit : space ++ text = before ++ (fence ++ rest)) :
    ∃ before', text = before' ++ (fence ++ rest) := by
  rcases List.append_eq_append_iff.mp hsplit with ⟨middle, -, htext⟩ | ⟨middle, rfl, hfence⟩
  · exact ⟨middle, htext⟩
  · rcases middle with _ | ⟨c, middle⟩
    · exact ⟨[], hfence.symm⟩
    · injection hfence with hc _
      subst hc
      exact absurd (List.mem_append_right before List.mem_cons_self) h

/-- A fence does not end behind a text in white space. -/
theorem split_after_fence {text space before rest : List Char} (h : '\x60' ∉ space)
    (hsplit : text ++ space = before ++ (fence ++ rest)) :
    ∃ rest', text = before ++ (fence ++ rest') := by
  rcases List.append_eq_append_iff.mp hsplit with ⟨middle, -, hspace⟩ | ⟨middle, htext, hfence⟩
  · subst hspace
    exact absurd (List.mem_append_right middle List.mem_cons_self) h
  · rcases middle with _ | ⟨c, _ | ⟨d, _ | ⟨e, middle⟩⟩⟩
    · rw [List.nil_append] at hfence
      rw [← hfence] at h
      exact absurd List.mem_cons_self h
    · injection hfence with _ hspace
      change '\x60' :: '\x60' :: rest = space at hspace
      rw [← hspace] at h
      exact absurd List.mem_cons_self h
    · injection hfence with _ hfence
      injection hfence with _ hspace
      change '\x60' :: rest = space at hspace
      rw [← hspace] at h
      exact absurd List.mem_cons_self h
    · injection hfence with hc hfence
      injection hfence with hd hfence
      injection hfence with he _
      subst hc hd he
      exact ⟨middle, htext⟩

/-- A fence in a text with white space behind it stands in the text. -/
theorem fence_infix_append {text space : List Char} (h : ∀ c ∈ space, isTrimmable c = true)
    (hinside : fence <:+: text ++ space) : fence <:+: text := by
  rcases hinside with ⟨before, rest, hsplit⟩
  rw [List.append_assoc] at hsplit
  rcases split_after_fence (backtick_notMem_of_isTrimmable h) hsplit.symm with ⟨rest', htext⟩
  rw [htext, ← List.append_assoc]
  exact ⟨before, rest', rfl⟩

/-- A text in a fenced block is read exactly when no fence stands in it. -/
theorem fenced_proposal_survives_iff {proposal : PatchProposal} {text : List Char}
    (h : JsonTextOf proposal text) {before tag space space' after : List Char}
    (hbefore : ¬ fence <:+: before) (htag : IsTag tag)
    (hspace : ∀ c ∈ space, isTrimmable c = true) (hspace' : ∀ c ∈ space', isTrimmable c = true) :
    parsePatchProposal (before ++ (fence ++ tag ++ (space ++ (text ++ space' ++ fence ++ after)))) =
        .ok (some proposal) ↔ ¬ fence <:+: text := by
  have hskip : (space ++ (text ++ space' ++ fence ++ after)).dropWhile isTrimmable =
      text ++ space' ++ fence ++ after := by
    rw [dropWhile_append_of_all hspace, List.append_assoc, List.append_assoc,
      dropWhile_of_opening h.opening]
  constructor
  · intro hread hinside
    rcases untilFence_of_infix hinside with ⟨body, rest, htext, hbody⟩
    have hgroup : untilFence ((space ++ (text ++ space' ++ fence ++ after)).dropWhile
        isTrimmable) = some body := by
      rw [hskip, List.append_assoc, List.append_assoc]
      exact hbody _
    have hnonempty : body ≠ [] := by
      rintro rfl
      have hopening := h.opening
      rw [htext] at hopening
      injection hopening with hc
      exact absurd hc (by decide)
    have hpayload := extractJsonPayload_of_block (fencedBlock_append hbefore htag hgroup) hnonempty
    rcases h.value with ⟨v, hparse, -⟩
    have hinside : scan .outside body = some .inside := by
      have hscan := parse_scan hparse
      rw [htext] at hscan
      exact scan_before_fence (by rw [hscan]; simp)
    unfold parsePatchProposal at hread
    rw [hpayload] at hread
    dsimp only at hread
    rw [parse_cut hinside] at hread
    cases hread
  · intro hnone
    have hgroup : untilFence ((space ++ (text ++ space' ++ fence ++ after)).dropWhile
        isTrimmable) = some (text ++ space') := by
      rw [hskip]
      refine untilFence_append (fun hinside => hnone (fence_infix_append hspace' hinside)) ?_ after
      intro hlast
      rcases List.eq_nil_or_concat' space' with rfl | ⟨front, c, rfl⟩
      · rw [List.append_nil, h.closing] at hlast
        exact absurd hlast (by decide)
      · rw [← List.append_assoc, List.getLast?_concat, Option.some.injEq] at hlast
        subst hlast
        exact backtick_notMem_of_isTrimmable hspace' (List.mem_append_right front (by simp))
    have hnonempty : text ++ space' ≠ [] := by
      intro hnil
      have hopening := h.opening
      rw [(List.append_eq_nil_iff.mp hnil).1] at hopening
      cases hopening
    refine h.read ?_
    rw [extractJsonPayload_of_block (fencedBlock_append hbefore htag hgroup) hnonempty]
    exact congrArg some (@trimChars_of_braces [] text space' (by simp) hspace' h.opening h.closing)

/-- A fenced block of a text between white space stands in the text. -/
theorem block_in_text {space text space' : List Char} (hspace : ∀ c ∈ space, isTrimmable c = true)
    (hspace' : ∀ c ∈ space', isTrimmable c = true) {before tag gap body rest : List Char}
    (h : space ++ (text ++ space') =
      before ++ (fence ++ tag ++ (gap ++ (body ++ fence ++ rest)))) :
    ∃ before' rest', text = before' ++ fence ++ (tag ++ (gap ++ (body ++ (fence ++ rest')))) := by
  have hopened : space ++ (text ++ space') =
      before ++ (fence ++ (tag ++ (gap ++ (body ++ (fence ++ rest))))) := by
    rw [h, List.append_assoc, List.append_assoc]
  rcases split_before_fence (backtick_notMem_of_isTrimmable hspace) hopened with ⟨before', hmiddle⟩
  have hclosed : text ++ space' =
      (before' ++ fence ++ tag ++ gap ++ body) ++ (fence ++ rest) := by
    simpa only [List.append_assoc] using hmiddle
  rcases split_after_fence (backtick_notMem_of_isTrimmable hspace') hclosed with ⟨rest', htext⟩
  refine ⟨before', rest', ?_⟩
  simpa only [List.append_assoc] using htext

/-- An answer that is only the text, with white space around it, is read exactly when it has no
block, or the first one is empty. -/
theorem bare_proposal_survives_iff {proposal : PatchProposal} {text : List Char}
    (h : JsonTextOf proposal text) {space space' : List Char}
    (hspace : ∀ c ∈ space, isTrimmable c = true) (hspace' : ∀ c ∈ space', isTrimmable c = true) :
    parsePatchProposal (space ++ (text ++ space')) = .ok (some proposal) ↔
      (fencedBlock (space ++ (text ++ space'))).getD [] = [] := by
  constructor
  · intro hread
    cases hblock : fencedBlock (space ++ (text ++ space')) with
    | none => rfl
    | some body =>
        by_contra hnonempty
        have hpayload := extractJsonPayload_of_block hblock hnonempty
        rcases fencedBlock_eq_some hblock with ⟨before, tag, gap, rest, hsplit, htag, hgap⟩
        rcases block_in_text hspace hspace' hsplit with ⟨before', rest', htext⟩
        rcases h.value with ⟨v, hparse, -⟩
        have hscan : scan .outside text ≠ none := by
          rw [parse_scan hparse]
          simp
        have hinside := hscan
        rw [htext] at hinside
        have hplace := scan_before_fence hinside
        rw [htext, List.append_assoc, scan_append, hplace, Option.bind_some, scan_append,
          scan_inside_plain (by decide), Option.bind_some, scan_append,
          scan_inside_plain (plain_of_isTag htag), Option.bind_some, scan_append,
          scan_inside_plain (plain_of_isTrimmable hgap), Option.bind_some, scan_append] at hscan
        have hbody : scan .inside body ≠ none := by
          intro hnone
          rw [hnone] at hscan
          exact hscan rfl
        cases hraw : parse (trimChars body) with
        | none =>
            unfold parsePatchProposal at hread
            rw [hpayload] at hread
            dsimp only at hread
            rw [hraw] at hread
            cases hread
        | some w =>
            rw [parsePatchProposal_of_payload hpayload hraw] at hread
            cases hvalid : normalizePatchProposal w with
            | error e =>
                rw [hvalid] at hread
                cases hread
            | ok read => exact normalize_of_inside hbody hraw hvalid
  · intro hnone
    refine h.read ?_
    have htrim : trimChars (space ++ (text ++ space')) = text :=
      trimChars_of_braces hspace hspace' h.opening h.closing
    unfold extractJsonPayload
    rw [hnone, htrim]
    dsimp only
    rw [if_neg (fun hne => hne rfl), if_pos ⟨h.opening, h.closing⟩]

/-- Every text of every proposal is read where no fence (in a block) or no block (without one)
stands in it, and nowhere else. -/
theorem proposal_survives_iff {proposal : PatchProposal} {text : List Char}
    (h : JsonTextOf proposal text) :
    (∀ before tag space space' after, ¬ fence <:+: before → IsTag tag →
      (∀ c ∈ space, isTrimmable c = true) → (∀ c ∈ space', isTrimmable c = true) →
        (parsePatchProposal
            (before ++ (fence ++ tag ++ (space ++ (text ++ space' ++ fence ++ after)))) =
          .ok (some proposal) ↔ ¬ fence <:+: text)) ∧
    (∀ space space', (∀ c ∈ space, isTrimmable c = true) → (∀ c ∈ space', isTrimmable c = true) →
      (parsePatchProposal (space ++ (text ++ space')) = .ok (some proposal) ↔
        (fencedBlock (space ++ (text ++ space'))).getD [] = [])) := by
  constructor
  · intro before tag space space' after hbefore htag hspace hspace'
    exact fenced_proposal_survives_iff h hbefore htag hspace hspace'
  · intro space space' hspace hspace'
    exact bare_proposal_survives_iff h hspace hspace'

/-- A proposal without fences. -/
def plainProposal : PatchProposal where
  summary := "Fix the sum."
  files := [{ path := "src/sum.ts", content := "export const sum = 1;\n" }]

theorem proposal_survives_iff_sample :
    JsonTextOf plainProposal (render plainProposal.toJson) ∧
      (fencedBlock ([] ++ (render plainProposal.toJson ++ []))).getD [] = [] ∧
      parsePatchProposal ([] ++ (render plainProposal.toJson ++ [])) =
        .ok (some plainProposal) := by
  have htext : JsonTextOf plainProposal (render plainProposal.toJson) :=
    jsonTextOf_stringify (by decide +kernel)
  have hnone : (fencedBlock ([] ++ (render plainProposal.toJson ++ []))).getD [] = [] := by
    decide +kernel
  exact ⟨htext, hnone, ((proposal_survives_iff htext).2 [] [] (by simp) (by simp)).mpr hnone⟩

/-- A proposal whose file is Markdown. -/
def markdownProposal : PatchProposal where
  summary := "Add a guide."
  files := [{ path := "README.md", content := "\x60\x60\x60\nnpm test\n\x60\x60\x60\n" }]

/-- The answer in which the proposal stands as the prompt demands. -/
def markdownAnswer : List Char :=
  fence ++ jsonTag ++ (['\n'] ++ (render markdownProposal.toJson ++ ['\n'] ++ fence ++ []))

/-- A file with a code block in it ends the block that it stands in. -/
theorem markdown_file_cuts_proposal :
    ¬ ∀ (proposal : PatchProposal) (text : List Char), JsonTextOf proposal text →
      ∀ before tag space space' after, ¬ fence <:+: before → IsTag tag →
        (∀ c ∈ space, isTrimmable c = true) → (∀ c ∈ space', isTrimmable c = true) →
          parsePatchProposal
              (before ++ (fence ++ tag ++ (space ++ (text ++ space' ++ fence ++ after)))) =
            .ok (some proposal) := by
  intro hread
  have htext : JsonTextOf markdownProposal (render markdownProposal.toJson) :=
    jsonTextOf_stringify (by decide +kernel)
  have hanswer := hread markdownProposal _ htext [] jsonTag ['\n'] ['\n'] [] (by decide)
    (.inl (by decide)) (by decide) (by decide)
  have hthrown : parsePatchProposal markdownAnswer = .error .syntaxError := by
    decide +kernel
  change parsePatchProposal markdownAnswer = _ at hanswer
  rw [hthrown] at hanswer
  cases hanswer

end Tools
end TokenStreaming
