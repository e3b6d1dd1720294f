import Mathlib.Data.List.Perm.Subperm
import TokenStreaming.Server.Keyring

/-!
# Server - Resolved keyrings are well formed

The sources are merged one key after another; what a source gave stays the stored key of its
id, and the ids of the encoded keys and of the metadata stay the same.  The decoded keys have
one owner for each content.  The canonical text of a manifest is a function of its map.

Main results:

- Theorem {lit}`canonical_eq_iff`: the canonical text determines the manifest.
- Theorem {lit}`mergeSources_merged`: what the merge of all sources keeps.
- Theorem {lit}`addDecoded_distinct`: different ids have different keys.
- Theorem {lit}`resolved_keyring_wellFormed`: the keyring and the canonical texts.
-/

namespace TokenStreaming
namespace Server
namespace Keyring

open Domain Json

/-! ## Checks -/

theorem require_eq_ok {condition : Bool} {message : String} {u : Unit} :
    require condition message = .ok u ↔ condition = true := by
  unfold require invalid
  cases condition <;> simp

theorem validateKeyId_eq_ok {value : String} {u : Unit} :
    validateKeyId value = .ok u ↔ isKeyId value = true :=
  require_eq_ok

/-- What holds at the start of a loop that may throw, and is kept by each of its steps. -/
theorem foldlM_invariant {α β ε : Type} {f : β → α → Except ε β} {I : List α → β → Prop}
    {l : List α} {b b' : β} (h0 : I [] b)
    (hstep : ∀ done a rest acc acc', l = done ++ a :: rest → I done acc → f acc a = .ok acc' →
      I (done ++ [a]) acc')
    (hrun : l.foldlM f b = .ok b') : I l b' := by
  suffices ∀ done rest acc, l = done ++ rest → I done acc → rest.foldlM f acc = .ok b' →
      I l b' from this [] l b rfl h0 hrun
  intro done rest
  induction rest generalizing done with
  | nil =>
      intro acc hl hacc hrest
      obtain rfl := Except.ok.inj hrest
      rw [hl, List.append_nil]
      exact hacc
  | cons a rest ih =>
      intro acc hl hacc hrest
      rw [List.foldlM_cons, Except.bind_eq_ok] at hrest
      rcases hrest with ⟨acc', hone, hrest⟩
      refine ih (done ++ [a]) acc' ?_ (hstep done a rest acc acc' hl hacc hone) hrest
      rw [hl, List.append_assoc, List.singleton_append]

/-! ## The canonical text of a manifest -/

theorem objectOrder_perm {α : Type} (members : List (String × α)) :
    (objectOrder members).Perm members := by
  unfold objectOrder
  have hsorted := List.perm_insertionSort
    (fun a b : String × α => Nat.ofDigitChars 10 a.1.toList 0 ≤ Nat.ofDigitChars 10 b.1.toList 0)
    (members.filter fun m => isArrayIndex m.1)
  exact (hsorted.append_right _).trans (List.filter_append_perm (fun m => isArrayIndex m.1) members)

variable {platform : Platform}

theorem canonicalOrder_perm (keys : InsertionMap String SlotEntry) :
    (canonicalOrder platform keys).Perm keys.entries :=
  (objectOrder_perm _).trans (List.perm_insertionSort _ _)

theorem entries_perm_iff {κ ν : Type} [DecidableEq κ] {m m' : InsertionMap κ ν} :
    m.entries.Perm m'.entries ↔ ∀ key, m.get key = m'.get key := by
  constructor
  · intro hperm key
    ext value
    rw [InsertionMap.get_eq_some_iff, InsertionMap.get_eq_some_iff]
    exact hperm.mem_iff
  · intro hget
    have hnodup := List.Nodup.of_map _ m.nodup_keys
    have hnodup' := List.Nodup.of_map _ m'.nodup_keys
    refine (List.perm_ext_iff_of_nodup hnodup hnodup').mpr fun e => ?_
    rw [← Prod.mk.eta (p := e), ← InsertionMap.get_eq_some_iff, ← InsertionMap.get_eq_some_iff, hget]

/-- The collation leaves one order for the entries of a map of key ids. -/
theorem canonicalOrder_eq_iff {keys keys' : InsertionMap String SlotEntry}
    (hids : ∀ e ∈ keys.entries, isKeyId e.1 = true) :
    canonicalOrder platform keys = canonicalOrder platform keys' ↔
      ∀ keyId, keys.get keyId = keys'.get keyId := by
  rw [← entries_perm_iff]
  constructor
  · intro heq
    have hperm := @canonicalOrder_perm platform keys
    rw [heq] at hperm
    exact hperm.symm.trans (canonicalOrder_perm keys')
  · intro hperm
    unfold canonicalOrder
    congr 1
    have htotal : Std.Total fun a b : String × SlotEntry => platform.localeLe a.1 b.1 = true :=
      ⟨fun a b => platform.total a.1 b.1⟩
    have htrans : IsTrans (String × SlotEntry) fun a b => platform.localeLe a.1 b.1 = true :=
      ⟨fun a b c => platform.trans a.1 b.1 c.1⟩
    refine List.Perm.eq_of_pairwise ?_ (List.pairwise_insertionSort _ _)
      (List.pairwise_insertionSort _ _) ?_
    · intro a b ha hb hab hba
      have hmem := (List.mem_insertionSort _).mp ha
      have hmem' := hperm.mem_iff.mpr ((List.mem_insertionSort _).mp hb)
      have hkey := platform.antisymm a.1 b.1 (hids a hmem) (hids b hmem') hab hba
      have hget := InsertionMap.get_eq_some_iff.mpr hmem
      have hget' := InsertionMap.get_eq_some_iff.mpr hmem'
      rw [hkey, hget'] at hget
      exact Prod.ext hkey (Option.some.inj hget).symm
    · exact ((List.perm_insertionSort _ _).trans hperm).trans (List.perm_insertionSort _ _).symm

theorem VersionedKeyState.text_injective {state state' : VersionedKeyState}
    (h : state.text = state'.text) : state = state' := by
  cases state with
  | staged =>
      cases state' with
      | staged => rfl
      | readable => exact absurd h (by decide)
  | readable =>
      cases state' with
      | staged => exact absurd h (by decide)
      | readable => rfl

theorem toJson_injective {entry entry' : SlotEntry} (h : entry.toJson = entry'.toJson) :
    entry = entry' := by
  rcases entry with ⟨slot, state, verifier⟩
  rcases entry' with ⟨slot', state', verifier'⟩
  simp only [SlotEntry.toJson, JsonValue.object.injEq, List.cons.injEq, Prod.mk.injEq,
    JsonValue.string.injEq, true_and, and_true] at h
  rcases h with ⟨rfl, hstate, rfl⟩
  rw [VersionedKeyState.text_injective hstate]

theorem canonicalJson_printable (generation : Nat) (active : String) (sources : KeySources)
    (keys : InsertionMap String SlotEntry) :
    Printable (canonicalJson platform generation active sources keys) := by
  have hmembers : ∀ entries : List (String × SlotEntry),
      PrintableMembers (entries.map fun e => (e.1, e.2.toJson)) := by
    intro entries
    induction entries with
    | nil => trivial
    | cons e entries ih => exact ⟨⟨by simp, trivial, trivial, trivial, trivial⟩, ih⟩
  have hnodup : (((canonicalOrder platform keys).map fun e => (e.1, e.2.toJson)).map
      Prod.fst).Nodup := by
    rw [List.map_map]
    exact ((canonicalOrder_perm keys).map Prod.fst).nodup_iff.mpr keys.nodup_keys
  refine ⟨by simp, trivial, trivial, trivial, ?_, ?_, trivial⟩
  · exact ⟨by simp, trivial, trivial, trivial⟩
  · exact ⟨hnodup, hmembers _⟩

/-- The generation, active id, source flags and map of two manifests are the same. -/
def SameManifest (m m' : ParsedSlotManifest) : Prop :=
  m.generation = m'.generation ∧ m.active = m'.active ∧ m.sources = m'.sources ∧
    ∀ keyId, m.keys.get keyId = m'.keys.get keyId

theorem canonicalJson_eq_iff {generation generation' : Nat} {active active' : String}
    {sources sources' : KeySources} {keys keys' : InsertionMap String SlotEntry}
    (hids : ∀ e ∈ keys.entries, isKeyId e.1 = true) :
    canonicalJson platform generation active sources keys =
        canonicalJson platform generation' active' sources' keys' ↔
      generation = generation' ∧ active = active' ∧ sources = sources' ∧
        ∀ keyId, keys.get keyId = keys'.get keyId := by
  rw [← @canonicalOrder_eq_iff platform keys keys' hids]
  constructor
  · intro h
    simp only [canonicalJson, JsonValue.object.injEq, List.cons.injEq, Prod.mk.injEq,
      JsonValue.string.injEq, JsonValue.number.injEq, JsonValue.bool.injEq, true_and,
      and_true] at h
    rcases h with ⟨hgeneration, hactive, ⟨hcomposite, hlegacy⟩, hkeys⟩
    refine ⟨Int.ofNat.inj hgeneration, hactive, ?_, ?_⟩
    · rcases sources with ⟨composite, legacyAlias⟩
      rcases sources' with ⟨composite', legacyAlias'⟩
      exact congrArg₂ KeySources.mk hcomposite hlegacy
    · refine List.map_injective_iff.mpr ?_ hkeys
      intro e e' heq
      rcases Prod.mk.inj heq with ⟨hkey, hvalue⟩
      exact Prod.ext hkey (toJson_injective hvalue)
  · rintro ⟨rfl, rfl, rfl, horder⟩
    unfold canonicalJson
    rw [horder]

/-- An entry that is added to a manifest has a key id. -/
theorem addSlot_ids {slots slots' : SlotKeys} {entry : String × JsonValue}
    (h : addSlot slots entry = .ok slots') (hids : ∀ e ∈ slots.keys.entries, isKeyId e.1 = true) :
    ∀ e ∈ slots'.keys.entries, isKeyId e.1 = true := by
  simp only [addSlot, Except.bind_eq_ok, Except.pure_eq_ok] at h
  rcases h with ⟨_, hid, _, -, _, -, _, -, _, -, _, -, _, -, _, -, _, -, rfl⟩
  intro e he
  rcases InsertionMap.mem_entries_set.mp he with rfl | ⟨hold, -⟩
  · exact validateKeyId_eq_ok.mp hid
  · exact hids e hold

/-- What an accepted manifest says of itself. -/
structure ParsedSlotManifest.Canonical (platform : Platform) (m : ParsedSlotManifest) : Prop where
  active : isKeyId m.active = true
  ids : ∀ e ∈ m.keys.entries, isKeyId e.1 = true
  canonical : m.canonical =
    .ofList (render (canonicalJson platform m.generation m.active m.sources m.keys))

theorem parseSlotManifest_canonical {serialized : String} {m : ParsedSlotManifest}
    (h : parseSlotManifest platform serialized = .ok m) : m.Canonical platform := by
  simp only [parseSlotManifest, Except.bind_eq_ok] at h
  rcases h with ⟨_, -, _, -, _, -, active, -, _, hactive, generation, -, _, -, _, -, _, -, _, -,
    keys, -, h⟩
  split at h
  · cases h
  · simp only [Except.bind_eq_ok, Except.pure_eq_ok] at h
    rcases h with ⟨slots, hslots, rfl⟩
    refine ⟨validateKeyId_eq_ok.mp hactive, ?_, rfl⟩
    refine foldlM_invariant (I := fun (_ : List (String × JsonValue)) (slots : SlotKeys) =>
      ∀ e ∈ slots.keys.entries, isKeyId e.1 = true) ?_ ?_ hslots
    · intro e he
      exact absurd he List.not_mem_nil
    · intro _ _ _ _ _ _ hids hone
      exact addSlot_ids hone hids

/-- The canonical text determines the manifest. -/
theorem canonical_eq_iff {m m' : ParsedSlotManifest} (h : m.Canonical platform)
    (h' : m'.Canonical platform) : m.canonical = m'.canonical ↔ SameManifest m m' := by
  rw [h.canonical, h'.canonical]
  unfold SameManifest
  rw [← @canonicalJson_eq_iff platform _ _ _ _ _ _ _ _ h.ids]
  constructor
  · intro heq
    have hrender := String.ofList_injective heq
    have hparse := parse_render _ (@canonicalJson_printable platform m.generation
      m.active m.sources m.keys)
    rw [hrender, parse_render _ (canonicalJson_printable ..)] at hparse
    exact (Option.some.inj hparse).symm
  · intro heq
    rw [heq]

/-! ## Merged sources -/

theorem isBase64Key_append {value : String} (h : isUnpaddedBase64Key value = true) :
    isBase64Key (value ++ "=") = true := by
  unfold isUnpaddedBase64Key at h
  rw [Bool.and_eq_true, beq_iff_eq] at h
  have hchars : (value ++ "=").toList = value.toList ++ ['='] := by
    rw [String.toList_append]
    rfl
  unfold isBase64Key
  dsimp only
  rw [hchars, ← h.1, List.take_left, List.drop_left, List.length_append, h.1, h.2]
  rfl

theorem normalizeLegacyKey_isEmpty (value : String) :
    (normalizeLegacyKey value).isEmpty = value.isEmpty := by
  unfold normalizeLegacyKey
  split
  · rfl
  · split
    · rename_i hunpadded
      have hlength : value.toList.length = 43 := by
        unfold isUnpaddedBase64Key at hunpadded
        rw [Bool.and_eq_true, beq_iff_eq] at hunpadded
        exact hunpadded.1
      have hvalue : value.isEmpty = false := by
        rw [← Bool.not_eq_true, String.isEmpty_iff]
        rintro rfl
        cases hlength
      have hpadded : (value ++ "=").isEmpty = false := by
        rw [← Bool.not_eq_true, String.isEmpty_iff]
        intro hempty
        have hnil := congrArg (fun text => text.toList.length) hempty
        rw [String.toList_append, List.length_append, hlength] at hnil
        cases hnil
      rw [hvalue, hpadded]
    · rfl

/-- A key in its final form is what it normalizes to. -/
theorem normalizeLegacyKey_of_isBase64Key {value : String} (h : isBase64Key value = true) :
    normalizeLegacyKey value = value := by
  unfold normalizeLegacyKey
  rw [h, Bool.or_true, if_pos rfl]

theorem keys_set {ν : Type} (m : InsertionMap String ν) (key : String) (value : ν) :
    (m.set key value).entries.map Prod.fst =
      if key ∈ m.entries.map Prod.fst then m.entries.map Prod.fst
      else m.entries.map Prod.fst ++ [key] := by
  by_cases h : key ∈ m.entries.map Prod.fst
  · rw [InsertionMap.entries_set_of_mem h, InsertionMap.keys_replaceEntry, if_pos h]
  · rw [InsertionMap.entries_set_of_notMem h, if_neg h, List.map_append, List.map_singleton]

/-- The maps after some keys, with their material, were merged. -/
structure Merged (materials : List (String × String)) (keys : MergedKeys) : Prop where
  same_keys : keys.encoded.entries.map Prod.fst = keys.metadata.entries.map Prod.fst
  named : ∀ e ∈ keys.metadata.entries, e.2.keyId = e.1
  ids : ∀ e ∈ keys.metadata.entries, isKeyId e.1 = true
  /-- Material that is not empty normalizes to that of the stored key. -/
  agree : ∀ e ∈ materials, e.2.isEmpty = false → ∃ stored, keys.encoded.get e.1 = some stored ∧
    normalizeLegacyKey stored = normalizeLegacyKey e.2

theorem mergeEncodedKey_eq_ok {encoded encoded' : InsertionMap String String}
    {keyId material : String} :
    mergeEncodedKey encoded keyId material = .ok encoded' ↔
      isKeyId keyId = true ∧
      (∀ existing, encoded.get keyId = some existing → existing.isEmpty = true ∨
        normalizeLegacyKey existing = normalizeLegacyKey material) ∧
      encoded' = encoded.set keyId material := by
  simp only [mergeEncodedKey, Except.bind_eq_ok, Except.pure_eq_ok, exists_unit, require_eq_ok,
    validateKeyId_eq_ok]
  cases encoded.get keyId with
  | none =>
      constructor
      · rintro ⟨hid, -, rfl⟩
        refine ⟨hid, ?_, rfl⟩
        intro existing h
        cases h
      · rintro ⟨hid, -, rfl⟩
        exact ⟨hid, rfl, rfl⟩
  | some existing =>
      constructor
      · rintro ⟨hid, hagree, rfl⟩
        refine ⟨hid, ?_, rfl⟩
        rintro existing' h
        rw [← Option.some.inj h]
        rw [Option.all_some, Bool.or_eq_true, beq_iff_eq] at hagree
        exact hagree
      · rintro ⟨hid, hagree, rfl⟩
        refine ⟨hid, ?_, rfl⟩
        rw [Option.all_some, Bool.or_eq_true, beq_iff_eq]
        exact hagree existing rfl

/-- Merging one key, with metadata that names it. -/
theorem Merged.merge {materials : List (String × String)} {keys : MergedKeys}
    (h : Merged materials keys) {keyId material : String}
    {encoded : InsertionMap String String}
    (hencoded : mergeEncodedKey keys.encoded keyId material = .ok encoded)
    {metadata : InsertionMap String VersionedKeyMetadata}
    (hkeys : metadata.entries.map Prod.fst = if keyId ∈ keys.metadata.entries.map Prod.fst then
      keys.metadata.entries.map Prod.fst else keys.metadata.entries.map Prod.fst ++ [keyId])
    (hentries : ∀ e ∈ metadata.entries, e ∈ keys.metadata.entries ∨
      (e.1 = keyId ∧ e.2.keyId = keyId)) :
    Merged (materials ++ [(keyId, material)]) ⟨encoded, metadata⟩ := by
  rcases mergeEncodedKey_eq_ok.mp hencoded with ⟨hid, hagree, rfl⟩
  constructor
  · show (keys.encoded.set keyId material).entries.map Prod.fst = _
    rw [keys_set, hkeys, h.same_keys]
  · intro e he
    rcases hentries e he with hold | ⟨hkey, hname⟩
    · exact h.named e hold
    · rw [hkey, hname]
  · intro e he
    rcases hentries e he with hold | ⟨hkey, -⟩
    · exact h.ids e hold
    · rw [hkey]
      exact hid
  · intro e he hnonempty
    show ∃ stored, (keys.encoded.set keyId material).get e.1 = some stored ∧ _
    by_cases hkey : e.1 = keyId
    · rw [hkey]
      refine ⟨material, InsertionMap.get_set_self .., ?_⟩
      rcases List.mem_append.mp he with hold | hnew
      · rcases h.agree e hold hnonempty with ⟨stored, hstored, hsame⟩
        rw [hkey] at hstored
        rcases hagree stored hstored with hempty | hnormal
        · have hfalse := congrArg String.isEmpty hsame
          rw [normalizeLegacyKey_isEmpty, normalizeLegacyKey_isEmpty, hempty, hnonempty] at hfalse
          cases hfalse
        · rw [← hnormal, hsame]
      · rw [List.mem_singleton.mp hnew]
    · rw [InsertionMap.get_set_ne hkey]
      rcases List.mem_append.mp he with hold | hnew
      · exact h.agree e hold hnonempty
      · rw [List.mem_singleton.mp hnew] at hkey
        exact absurd rfl hkey

theorem mergeComposite_merged {materials : List (String × String)} {keys keys' : MergedKeys}
    {entry : String × String} (h : Merged materials keys)
    (hmerge : mergeComposite keys entry = .ok keys') :
    Merged (materials ++ [entry]) keys' := by
  simp only [mergeComposite, Except.bind_eq_ok, Except.pure_eq_ok] at hmerge
  rcases hmerge with ⟨encoded, hencoded, rfl⟩
  refine h.merge hencoded (keys_set ..) ?_
  intro e he
  rcases InsertionMap.mem_entries_set.mp he with rfl | ⟨hold, -⟩
  · exact .inr ⟨rfl, rfl⟩
  · exact .inl hold

theorem mergeLegacy_merged {materials : List (String × String)} {keys keys' : MergedKeys}
    {legacyKeyId material : String} (h : Merged materials keys)
    (hmerge : mergeLegacy legacyKeyId keys material = .ok keys') :
    Merged (materials ++ [(legacyKeyId, material)]) keys' := by
  simp only [mergeLegacy, Except.bind_eq_ok, Except.pure_eq_ok] at hmerge
  rcases hmerge with ⟨encoded, hencoded, rfl⟩
  by_cases hhas : keys.metadata.has legacyKeyId = true
  · rw [if_pos hhas]
    refine h.merge hencoded ?_ fun e he => .inl he
    have hmem : legacyKeyId ∈ keys.metadata.entries.map Prod.fst := by
      by_contra hnot
      rw [InsertionMap.has_eq_false_iff.mpr hnot] at hhas
      cases hhas
    rw [if_pos hmem]
  · rw [if_neg hhas]
    refine h.merge hencoded (keys_set ..) ?_
    intro e he
    rcases InsertionMap.mem_entries_set.mp he with rfl | ⟨hold, -⟩
    · exact .inr ⟨rfl, rfl⟩
    · exact .inl hold

theorem mergeSlot_merged {slotKeys : List (Option String)} {materials : List (String × String)}
    {keys keys' : MergedKeys} {entry : String × SlotEntry} (h : Merged materials keys)
    (hmerge : mergeSlot slotKeys keys entry = .ok keys') :
    Merged (materials ++ ((slotValue slotKeys entry.2.slot).map fun value =>
      (entry.1, value)).toList) keys' := by
  unfold mergeSlot at hmerge
  cases hvalue : slotValue slotKeys entry.2.slot with
  | none =>
      rw [hvalue] at hmerge
      cases hmerge
  | some value =>
      rw [hvalue] at hmerge
      simp only [Except.bind_eq_ok, Except.pure_eq_ok] at hmerge
      rcases hmerge with ⟨encoded, hencoded, rfl⟩
      refine h.merge hencoded (keys_set ..) ?_
      intro e he
      rcases InsertionMap.mem_entries_set.mp he with rfl | ⟨hold, -⟩
      · exact .inr ⟨rfl, rfl⟩
      · exact .inl hold

/-- The ids and material that the enabled sources of an input give. -/
def EnabledSources.materials (sources : EnabledSources) (input : ResolveVersionedKeyringInput) :
    List (String × String) :=
  ((sources.composite.map fun ring => ring.keys.entries).getD []) ++
    sources.legacyKey.toList.map (fun key => (input.legacyKeyId, key)) ++
    ((sources.manifest.map fun m => m.keys.entries).getD []).flatMap fun e =>
      ((slotValue input.slotKeys e.2.slot).map fun value => (e.1, value)).toList

theorem merged_empty : Merged [] .empty where
  same_keys := rfl
  named := by
    intro e he
    cases he
  ids := by
    intro e he
    cases he
  agree := by
    intro e he
    cases he

/-- A loop over the keys of one source. -/
theorem foldlM_merged {α : Type} {step : MergedKeys → α → Resolved MergedKeys}
    {g : α → List (String × String)}
    (hstep : ∀ materials keys keys' a, Merged materials keys → step keys a = .ok keys' →
      Merged (materials ++ g a) keys')
    {materials : List (String × String)} {items : List α} {keys keys' : MergedKeys}
    (h : Merged materials keys) (hrun : items.foldlM step keys = .ok keys') :
    Merged (materials ++ items.flatMap g) keys' := by
  refine foldlM_invariant (I := fun (done : List α) (keys : MergedKeys) =>
    Merged (materials ++ done.flatMap g) keys) ?_ ?_ hrun
  · rw [List.flatMap_nil, List.append_nil]
    exact h
  · intro done a rest acc acc' _ hacc hone
    rw [List.flatMap_append, List.flatMap_singleton, ← List.append_assoc]
    exact hstep _ _ _ a hacc hone

/-- What the merge of all sources keeps. -/
theorem mergeSources_merged {input : ResolveVersionedKeyringInput} {sources : EnabledSources}
    {keys : MergedKeys} (h : mergeSources input sources = .ok keys) :
    Merged (sources.materials input) keys := by
  simp only [mergeSources, Except.bind_eq_ok] at h
  rcases h with ⟨composite, hcomposite, legacy, hlegacy, hslots⟩
  have hfirst := foldlM_merged (g := fun entry => [entry])
    (fun _ _ _ _ => mergeComposite_merged) merged_empty hcomposite
  have hsecond := foldlM_merged (g := fun key => [(input.legacyKeyId, key)])
    (fun _ _ _ _ => mergeLegacy_merged) hfirst hlegacy
  have hthird := foldlM_merged (g := fun e : String × SlotEntry =>
    ((slotValue input.slotKeys e.2.slot).map fun value => (e.1, value)).toList)
    (fun _ _ _ _ => mergeSlot_merged) hsecond hslots
  rw [List.nil_append, List.flatMap_singleton', ← List.map_eq_flatMap] at hthird
  exact hthird

/-! ## Decoded keys -/

theorem hexByte_injective {a b : UInt8} (h : hexByte a = hexByte b) : a = b := by
  have hdigit : ∀ m < 16, ∀ n < 16, Nat.digitChar m = Nat.digitChar n → m = n := by
    intro m hm n hn hsame
    have hvalue := hexValue_hexDigit m hm
    rw [hexDigit, hsame] at hvalue
    exact Option.some.inj (hvalue.symm.trans (hexValue_hexDigit n hn))
  rw [hexByte, hexByte, List.cons.injEq, List.cons.injEq] at h
  have ha := a.toNat_lt
  have hb := b.toNat_lt
  have hhigh := hdigit _ (by omega) _ (by omega) h.1
  have hlow := hdigit _ (by omega) _ (by omega) h.2.1
  apply UInt8.toNat_inj.mp
  omega

theorem bytesToHex_injective {a b : List UInt8} (h : bytesToHex a = bytesToHex b) : a = b := by
  have hchars := String.ofList_injective h
  induction a generalizing b with
  | nil =>
      cases b with
      | nil => rfl
      | cons y b => cases hchars
  | cons x a ih =>
      cases b with
      | nil => cases hchars
      | cons y b =>
          rw [List.flatMap_cons, List.flatMap_cons] at hchars
          rcases List.append_inj hchars rfl with ⟨hbyte, hrest⟩
          rw [hexByte_injective hbyte, ih (congrArg String.ofList hrest) hrest]

/-- The maps after some keys were decoded. -/
structure DecodedWell (done : List (String × String)) (keys : DecodedKeys) : Prop where
  bytes : ∀ e ∈ done, ∃ bytes, decodeKey e.2 = .ok bytes ∧ keys.decoded.get e.1 = some bytes
  /-- The content of every decoded key is owned by its id. -/
  owned : ∀ keyId bytes, keys.decoded.get keyId = some bytes →
    isKeyId keyId = true ∧ keyId ∈ done.map Prod.fst ∧
      keys.materialOwners.get (bytesToHex bytes) = some keyId

theorem isKeyId_not_empty {keyId : String} (h : isKeyId keyId = true) :
    keyId.isEmpty = false := by
  rw [← Bool.not_eq_true, String.isEmpty_iff]
  rintro rfl
  exact absurd h (by decide)

theorem addDecoded_well {done : List (String × String)} {keys keys' : DecodedKeys}
    {entry : String × String} (h : DecodedWell done keys) (hnew : entry.1 ∉ done.map Prod.fst)
    (hadd : addDecoded keys entry = .ok keys') : DecodedWell (done ++ [entry]) keys' := by
  simp only [addDecoded, Except.bind_eq_ok, Except.pure_eq_ok, exists_unit, require_eq_ok,
    validateKeyId_eq_ok] at hadd
  rcases hadd with ⟨hid, bytes, hbytes, howner, rfl⟩
  constructor
  · intro e he
    show ∃ bytes', _ ∧ (keys.decoded.set entry.1 bytes).get e.1 = some bytes'
    rcases List.mem_append.mp he with hold | hlast
    · have hne : e.1 ≠ entry.1 := by
        intro heq
        exact hnew (heq ▸ List.mem_map_of_mem hold)
      rw [InsertionMap.get_set_ne hne]
      exact h.bytes e hold
    · rw [List.mem_singleton.mp hlast]
      exact ⟨bytes, hbytes, InsertionMap.get_set_self ..⟩
  · intro keyId bytes' hget
    show _ ∧ _ ∧ (keys.materialOwners.set (bytesToHex bytes) entry.1).get (bytesToHex bytes') =
      some keyId
    rw [List.map_append, List.mem_append]
    by_cases hkey : keyId = entry.1
    · subst hkey
      have hsame : bytes = bytes' := by
        have hself : (keys.decoded.set entry.1 bytes).get entry.1 = some bytes' := hget
        rw [InsertionMap.get_set_self] at hself
        exact Option.some.inj hself
      rw [← hsame]
      exact ⟨hid, .inr List.mem_cons_self, InsertionMap.get_set_self ..⟩
    · have hold : keys.decoded.get keyId = some bytes' := by
        have hset : (keys.decoded.set entry.1 bytes).get keyId = some bytes' := hget
        rwa [InsertionMap.get_set_ne hkey] at hset
      rcases h.owned keyId bytes' hold with ⟨hvalid, hmem, hown⟩
      refine ⟨hvalid, .inl hmem, ?_⟩
      by_cases hcontent : bytesToHex bytes' = bytesToHex bytes
      · -- the content has an owner already, and it is another id
        rw [hcontent] at hown
        rw [hown, Option.all_some, isKeyId_not_empty hvalid, Bool.false_or, beq_iff_eq] at howner
        exact absurd howner hkey
      · rw [InsertionMap.get_set_ne hcontent]
        exact hown

theorem decodeKey_padded {value : String} {bytes : List UInt8}
    (h : decodeKey value = .ok bytes) : isBase64Key value = true ∧ bytes.length = 32 := by
  simp only [decodeKey, Except.bind_eq_ok, Except.pure_eq_ok, exists_unit, require_eq_ok,
    beq_iff_eq] at h
  rcases h with ⟨hpadded, hlength, rfl⟩
  exact ⟨hpadded, hlength⟩

/-- Different ids have different keys. -/
theorem addDecoded_distinct {done : List (String × String)} {keys : DecodedKeys}
    (h : DecodedWell done keys) {keyId other : String} {bytes : List UInt8}
    (hkey : keys.decoded.get keyId = some bytes) (hother : keys.decoded.get other = some bytes) :
    keyId = other := by
  have hown := (h.owned keyId bytes hkey).2.2
  rw [(h.owned other bytes hother).2.2] at hown
  exact (Option.some.inj hown).symm

/-! ## The keyring -/

/-- What the maps of a keyring and the sources of its keys have to do with each other. -/
structure Resolution (materials : List (String × String)) (keyring : ResolvedVersionedKeyring) :
    Prop where
  named : ∀ e ∈ keyring.metadata.entries, e.2.keyId = e.1
  ids : ∀ e ∈ keyring.metadata.entries, isKeyId e.1 = true
  decoded : ∀ keyId, keyId ∈ keyring.metadata.entries.map Prod.fst ↔
    ∃ bytes, keyring.decoded.get keyId = some bytes
  distinct : ∀ keyId other bytes, keyring.decoded.get keyId = some bytes →
    keyring.decoded.get other = some bytes → keyId = other
  size : ∀ keyId bytes, keyring.decoded.get keyId = some bytes → bytes.length = 32
  agree : ∀ e ∈ materials, e.2.isEmpty = false → ∃ bytes,
    decodeKey (normalizeLegacyKey e.2) = .ok bytes ∧ keyring.decoded.get e.1 = some bytes
  active : ∃ entry, keyring.metadata.get keyring.activeKeyId = some entry ∧
    entry.state = .readable
  keyIds : keyring.keyIds = keyring.activeKeyId ::
    sortIds ((idsInState .readable keyring.metadata).filter fun keyId =>
      keyId ≠ keyring.activeKeyId)
  stagedKeyIds : keyring.stagedKeyIds = sortIds (idsInState .staged keyring.metadata)
  bounded : keyring.metadata.entries.length ≤ MAX_VERSIONED_KEYRING_KEYS

theorem resolveVersionedKeyring_resolution {input : ResolveVersionedKeyringInput}
    {keyring : ResolvedVersionedKeyring}
    (h : resolveVersionedKeyring platform input = .ok keyring) :
    ∃ sources, enabledSources platform input = .ok sources ∧
      Resolution (sources.materials input) keyring := by
  simp only [resolveVersionedKeyring, Except.bind_eq_ok] at h
  rcases h with ⟨sources, hsources, merged, hmerged, _, -, h⟩
  refine ⟨sources, hsources, ?_⟩
  split at h
  · cases h
  · rename_i hbound
    simp only [Except.bind_eq_ok, Except.pure_eq_ok, require_eq_ok, exists_unit,
      Option.any_eq_true, beq_iff_eq] at h
    rcases h with ⟨_, ⟨entry, hentry, hreadable⟩, keys, hkeys, rfl⟩
    have hwell := mergeSources_merged hmerged
    have hdecoded : DecodedWell merged.encoded.entries keys := by
      refine foldlM_invariant (I := DecodedWell) ?_ ?_ hkeys
      · constructor
        · intro e he
          cases he
        · intro keyId bytes hget
          cases hget
      · intro done a rest acc acc' hall hacc hone
        refine addDecoded_well hacc ?_ hone
        have hnodup := merged.encoded.nodup_keys
        rw [hall, List.map_append, List.nodup_append] at hnodup
        intro hmem
        exact hnodup.2.2 a.1 hmem a.1 (by simp) rfl
    constructor
    · exact hwell.named
    · exact hwell.ids
    · intro keyId
      show keyId ∈ merged.metadata.entries.map Prod.fst ↔ _
      rw [← hwell.same_keys]
      constructor
      · intro hmem
        rcases List.mem_map.mp hmem with ⟨e, he, rfl⟩
        rcases hdecoded.bytes e he with ⟨bytes, -, hget⟩
        exact ⟨bytes, hget⟩
      · rintro ⟨bytes, hget⟩
        exact (hdecoded.owned keyId bytes hget).2.1
    · intro keyId other bytes hkey hother
      exact addDecoded_distinct hdecoded hkey hother
    · intro keyId bytes hget
      rcases List.mem_map.mp (hdecoded.owned keyId bytes hget).2.1 with ⟨e, he, rfl⟩
      rcases hdecoded.bytes e he with ⟨bytes', hdecode, hget'⟩
      have hsame : some bytes = some bytes' := hget.symm.trans hget'
      rw [Option.some.inj hsame]
      exact (decodeKey_padded hdecode).2
    · intro e he hnonempty
      rcases hwell.agree e he hnonempty with ⟨stored, hstored, hsame⟩
      rcases hdecoded.bytes _ (InsertionMap.get_eq_some_iff.mp hstored) with
        ⟨bytes, hdecode, hget⟩
      refine ⟨bytes, ?_, hget⟩
      rw [← hsame, normalizeLegacyKey_of_isBase64Key (decodeKey_padded hdecode).1]
      exact hdecode
    · exact ⟨entry, hentry, hreadable⟩
    · rfl
    · rfl
    · have hlength := congrArg List.length hwell.same_keys
      rw [List.length_map, List.length_map] at hlength
      show merged.metadata.entries.length ≤ _
      rw [← hlength]
      exact Nat.not_lt.mp hbound

namespace Resolution

variable {materials : List (String × String)} {keyring : ResolvedVersionedKeyring}

theorem keyMetadata_eq_ok (h : Resolution materials keyring) {keyId : String}
    {entry : VersionedKeyMetadata} :
    keyring.keyMetadata keyId = .ok entry ↔ keyring.metadata.get keyId = some entry := by
  unfold ResolvedVersionedKeyring.keyMetadata
  simp only [Except.bind_eq_ok, exists_unit, validateKeyId_eq_ok]
  cases hget : keyring.metadata.get keyId with
  | none =>
      constructor
      · rintro ⟨-, hinvalid⟩
        cases hinvalid
      · intro hnone
        cases hnone
  | some stored =>
      have hid := h.ids _ (InsertionMap.get_eq_some_iff.mp hget)
      constructor
      · rintro ⟨-, hok⟩
        rw [Except.ok.inj hok]
      · intro hsome
        exact ⟨hid, congrArg Except.ok (Option.some.inj hsome)⟩

theorem mem_idsInState (h : Resolution materials keyring) {state : VersionedKeyState}
    {keyId : String} :
    keyId ∈ idsInState state keyring.metadata ↔
      ∃ entry, keyring.metadata.get keyId = some entry ∧ entry.state = state := by
  unfold idsInState
  constructor
  · intro hmem
    rcases List.mem_map.mp hmem with ⟨entry, hentry, rfl⟩
    rcases List.mem_filter.mp hentry with ⟨hin, hstate⟩
    rcases List.mem_map.mp hin with ⟨e, he, rfl⟩
    refine ⟨e.2, InsertionMap.get_eq_some_iff.mpr ?_, beq_iff_eq.mp hstate⟩
    rw [h.named e he]
    exact he
  · rintro ⟨entry, hget, hstate⟩
    have hmem := InsertionMap.get_eq_some_iff.mp hget
    refine List.mem_map.mpr ⟨entry, List.mem_filter.mpr ⟨?_, beq_iff_eq.mpr hstate⟩, ?_⟩
    · exact List.mem_map_of_mem (f := Prod.snd) hmem
    · exact h.named _ hmem

theorem idsInState_nodup (h : Resolution materials keyring) (state : VersionedKeyState) :
    (idsInState state keyring.metadata).Nodup := by
  have hkeys : (keyring.metadata.entries.map Prod.snd).map VersionedKeyMetadata.keyId =
      keyring.metadata.entries.map Prod.fst := by
    rw [List.map_map]
    exact List.map_congr_left fun e he => h.named e he
  have hnodup := keyring.metadata.nodup_keys
  rw [← hkeys] at hnodup
  exact hnodup.sublist (List.filter_sublist.map _)

theorem mem_keyIds (h : Resolution materials keyring) {keyId : String} :
    keyId ∈ keyring.keyIds ↔
      ∃ entry, keyring.metadata.get keyId = some entry ∧ entry.state = .readable := by
  rw [h.keyIds, List.mem_cons, sortIds, List.mem_insertionSort, List.mem_filter,
    h.mem_idsInState, decide_eq_true_iff]
  constructor
  · rintro (rfl | ⟨hreadable, -⟩)
    · exact h.active
    · exact hreadable
  · intro hreadable
    by_cases hactive : keyId = keyring.activeKeyId
    · exact .inl hactive
    · exact .inr ⟨hreadable, hactive⟩

theorem mem_stagedKeyIds (h : Resolution materials keyring) {keyId : String} :
    keyId ∈ keyring.stagedKeyIds ↔
      ∃ entry, keyring.metadata.get keyId = some entry ∧ entry.state = .staged := by
  rw [h.stagedKeyIds, sortIds, List.mem_insertionSort, h.mem_idsInState]

theorem keyIds_nodup (h : Resolution materials keyring) : keyring.keyIds.Nodup := by
  rw [h.keyIds, List.nodup_cons, sortIds, List.mem_insertionSort, List.mem_filter]
  constructor
  · rintro ⟨-, hne⟩
    exact of_decide_eq_true hne rfl
  · exact (List.perm_insertionSort _ _).nodup_iff.mpr ((h.idsInState_nodup _).filter _)

theorem stagedKeyIds_nodup (h : Resolution materials keyring) :
    keyring.stagedKeyIds.Nodup := by
  rw [h.stagedKeyIds, sortIds]
  exact (List.perm_insertionSort _ _).nodup_iff.mpr (h.idsInState_nodup _)

theorem disjoint (h : Resolution materials keyring) {keyId : String}
    (hreadable : keyId ∈ keyring.keyIds) : keyId ∉ keyring.stagedKeyIds := by
  intro hstaged
  rcases h.mem_keyIds.mp hreadable with ⟨entry, hentry, hstate⟩
  rcases h.mem_stagedKeyIds.mp hstaged with ⟨other, hother, hstate'⟩
  rw [hentry] at hother
  rw [← Option.some.inj hother, hstate] at hstate'
  cases hstate'

theorem mem_allKeyIds (h : Resolution materials keyring) {keyId : String} :
    keyId ∈ keyring.allKeyIds ↔ ∃ entry, keyring.metadata.get keyId = some entry := by
  rw [ResolvedVersionedKeyring.allKeyIds, List.mem_append, h.mem_keyIds, h.mem_stagedKeyIds]
  constructor
  · rintro (⟨entry, hentry, -⟩ | ⟨entry, hentry, -⟩)
    · exact ⟨entry, hentry⟩
    · exact ⟨entry, hentry⟩
  · rintro ⟨entry, hentry⟩
    cases hstate : entry.state with
    | readable => exact .inl ⟨entry, hentry, hstate⟩
    | staged => exact .inr ⟨entry, hentry, hstate⟩

theorem verificationKeyBytes_eq_ok (h : Resolution materials keyring) {keyId : String}
    {bytes : List UInt8} :
    keyring.verificationKeyBytes keyId = .ok bytes ↔
      keyring.decoded.get keyId = some bytes := by
  simp only [ResolvedVersionedKeyring.verificationKeyBytes, Except.bind_eq_ok,
    h.keyMetadata_eq_ok]
  unfold ResolvedVersionedKeyring.requireKeyBytes
  cases hget : keyring.decoded.get keyId with
  | none =>
      constructor
      · rintro ⟨_, -, hinvalid⟩
        cases hinvalid
      · intro hnone
        cases hnone
  | some stored =>
      rcases List.mem_map.mp ((h.decoded keyId).mpr ⟨stored, hget⟩) with ⟨e, he, rfl⟩
      constructor
      · rintro ⟨_, -, hok⟩
        rw [Except.ok.inj hok]
      · intro hsome
        exact ⟨e.2, InsertionMap.get_eq_some_iff.mpr he,
          congrArg Except.ok (Option.some.inj hsome)⟩

theorem exists_bytes (h : Resolution materials keyring) {keyId : String}
    (hmem : keyId ∈ keyring.allKeyIds) :
    ∃ bytes, keyring.decoded.get keyId = some bytes := by
  rcases h.mem_allKeyIds.mp hmem with ⟨entry, hentry⟩
  exact (h.decoded keyId).mp
    (List.mem_map_of_mem (f := Prod.fst) (InsertionMap.get_eq_some_iff.mp hentry))

theorem keyBytes_eq_ok (h : Resolution materials keyring) {keyId : String}
    {bytes : List UInt8} :
    keyring.keyBytes keyId = .ok bytes ↔
      keyId ∈ keyring.keyIds ∧ keyring.decoded.get keyId = some bytes := by
  rw [← h.verificationKeyBytes_eq_ok, h.mem_keyIds]
  simp only [ResolvedVersionedKeyring.keyBytes, ResolvedVersionedKeyring.verificationKeyBytes,
    Except.bind_eq_ok, h.keyMetadata_eq_ok, require_eq_ok, exists_unit, beq_iff_eq]
  constructor
  · rintro ⟨entry, hentry, hstate, hbytes⟩
    exact ⟨⟨entry, hentry, hstate⟩, entry, hentry, hbytes⟩
  · rintro ⟨⟨entry, hentry, hstate⟩, _, -, hbytes⟩
    exact ⟨entry, hentry, hstate, hbytes⟩

theorem allKeyIds_length (h : Resolution materials keyring) :
    keyring.allKeyIds.length ≤ MAX_VERSIONED_KEYRING_KEYS := by
  have hnodup : keyring.allKeyIds.Nodup := by
    refine List.nodup_append.mpr ⟨h.keyIds_nodup, h.stagedKeyIds_nodup, ?_⟩
    intro keyId hreadable other hstaged heq
    rw [← heq] at hstaged
    exact h.disjoint hreadable hstaged
  have hsubset : keyring.allKeyIds ⊆ keyring.metadata.entries.map Prod.fst := by
    intro keyId hmem
    exact (h.decoded keyId).mpr (h.exists_bytes hmem)
  have hlength := (hnodup.subperm hsubset).length_le
  rw [List.length_map] at hlength
  exact hlength.trans h.bounded

end Resolution

/-- A keyring that is well formed, with the sources it was read from. -/
structure WellFormed (platform : Platform) (input : ResolveVersionedKeyringInput)
    (keyring : ResolvedVersionedKeyring) : Prop where
  active_first : keyring.keyIds.head? = some keyring.activeKeyId
  readable_iff : ∀ keyId, keyId ∈ keyring.keyIds ↔
    ∃ entry, keyring.keyMetadata keyId = .ok entry ∧ entry.state = .readable
  staged_iff : ∀ keyId, keyId ∈ keyring.stagedKeyIds ↔
    ∃ entry, keyring.keyMetadata keyId = .ok entry ∧ entry.state = .staged
  keyIds_nodup : keyring.keyIds.Nodup
  stagedKeyIds_nodup : keyring.stagedKeyIds.Nodup
  disjoint : ∀ keyId ∈ keyring.keyIds, keyId ∉ keyring.stagedKeyIds
  keyBytes_iff : ∀ keyId, (∃ bytes, keyring.keyBytes keyId = .ok bytes) ↔
    keyId ∈ keyring.keyIds
  /-- Every id has a key of 256 bits, and a readable one is handed out. -/
  keyBytes_size : ∀ keyId ∈ keyring.allKeyIds, ∃ bytes,
    keyring.verificationKeyBytes keyId = .ok bytes ∧ bytes.length = 32 ∧
      (keyId ∈ keyring.keyIds → keyring.keyBytes keyId = .ok bytes)
  distinct : ∀ keyId ∈ keyring.allKeyIds, ∀ other ∈ keyring.allKeyIds,
    keyring.verificationKeyBytes keyId = keyring.verificationKeyBytes other → keyId = other
  bounded : keyring.allKeyIds.length ≤ MAX_VERSIONED_KEYRING_KEYS
  /-- Every source that gives material for an id gives the key of the keyring. -/
  sources : ∀ sources, enabledSources platform input = .ok sources →
    ∀ e ∈ sources.materials input, e.2.isEmpty = false → ∃ bytes,
      decodeKey (normalizeLegacyKey e.2) = .ok bytes ∧
        keyring.verificationKeyBytes e.1 = .ok bytes

theorem resolveVersionedKeyring_wellFormed {input : ResolveVersionedKeyringInput}
    {keyring : ResolvedVersionedKeyring}
    (h : resolveVersionedKeyring platform input = .ok keyring) :
    WellFormed platform input keyring := by
  rcases resolveVersionedKeyring_resolution h with ⟨sources, hsources, hresolution⟩
  constructor
  · rw [hresolution.keyIds, List.head?_cons]
  · intro keyId
    simp only [hresolution.keyMetadata_eq_ok, hresolution.mem_keyIds]
  · intro keyId
    simp only [hresolution.keyMetadata_eq_ok, hresolution.mem_stagedKeyIds]
  · exact hresolution.keyIds_nodup
  · exact hresolution.stagedKeyIds_nodup
  · exact fun keyId hmem => hresolution.disjoint hmem
  · intro keyId
    simp only [hresolution.keyBytes_eq_ok]
    constructor
    · rintro ⟨_, hmem, -⟩
      exact hmem
    · intro hmem
      rcases hresolution.exists_bytes (List.mem_append_left _ hmem) with ⟨bytes, hbytes⟩
      exact ⟨bytes, hmem, hbytes⟩
  · intro keyId hmem
    rcases hresolution.exists_bytes hmem with ⟨bytes, hbytes⟩
    refine ⟨bytes, hresolution.verificationKeyBytes_eq_ok.mpr hbytes,
      hresolution.size keyId bytes hbytes, ?_⟩
    intro hreadable
    exact hresolution.keyBytes_eq_ok.mpr ⟨hreadable, hbytes⟩
  · intro keyId hmem other _ hsame
    rcases hresolution.exists_bytes hmem with ⟨bytes, hbytes⟩
    have hkey := hresolution.verificationKeyBytes_eq_ok.mpr hbytes
    rw [hkey] at hsame
    exact hresolution.distinct keyId other bytes hbytes
      (hresolution.verificationKeyBytes_eq_ok.mp hsame.symm)
  · exact hresolution.allKeyIds_length
  · intro sources' hsources' e he hnonempty
    rw [hsources] at hsources'
    rw [← Except.ok.inj hsources'] at he
    rcases hresolution.agree e he hnonempty with ⟨bytes, hdecode, hget⟩
    exact ⟨bytes, hdecode, hresolution.verificationKeyBytes_eq_ok.mpr hget⟩

/-- Every accepted environment gives a keyring that is well formed, and the canonical texts of
two accepted manifests are the same exactly when their generations, active ids, source flags
and maps are. -/
theorem resolved_keyring_wellFormed (platform : Platform) :
    (∀ input keyring, resolveVersionedKeyring platform input = .ok keyring →
      WellFormed platform input keyring) ∧
    (∀ text text' m m', parseSlotManifest platform text = .ok m →
      parseSlotManifest platform text' = .ok m' →
        (m.canonical = m'.canonical ↔ SameManifest m m')) := by
  constructor
  · intro input keyring h
    exact resolveVersionedKeyring_wellFormed h
  · intro text text' m m' h h'
    exact canonical_eq_iff (parseSlotManifest_canonical h) (parseSlotManifest_canonical h')

/-- A platform that orders texts by their characters. -/
def characterOrder : Platform where
  localeLe a b := decide (a ≤ b)
  total a b := by
    simp only [decide_eq_true_eq]
    exact le_total a b
  trans a b c hab hbc := by
    simp only [decide_eq_true_eq] at hab hbc ⊢
    exact hab.trans hbc
  antisymm a b _ _ hab hba := by
    simp only [decide_eq_true_eq] at hab hba
    exact le_antisymm hab hba
  roundedInteger _ := none

/-- A ring with the legacy key alone. -/
def sampleKeyring : ResolveVersionedKeyringInput where
  domain := .credentialEncryption
  legacyKeyId := "legacy"
  legacyKey := some (.ofList (List.replicate 43 'A'))

example : (resolveVersionedKeyring characterOrder sampleKeyring).toOption.map
    (fun keyring => (keyring.keyIds, keyring.stagedKeyIds)) = some (["legacy"], []) := by
  decide +kernel

end Keyring
end Server
end TokenStreaming
