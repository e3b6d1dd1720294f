import TokenStreaming.Core.Texts
import TokenStreaming.Foundation.InsertionMap

/-!
# AiManifest - The YAML subset

{lit}`stringifySimpleYaml` writes a record of texts and lists of texts, and
{lit}`parseSimpleYaml` reads one back.  Neither of them escapes anything, so
what comes back depends on the keys and the items.

Records with records in them, which no caller writes, are left out.

Main results:

- Theorem {lit}`parse_file`: what the reader makes of a file that was written
  with plain keys and items without line terminators.
- Theorem {lit}`wellRead_parse`: whatever the reader returns has plain keys and
  items without line terminators.
- Theorem {lit}`yaml_roundTrip_iff`: a record of lists comes back if and only if
  its keys are plain and its items survive.
-/

namespace TokenStreaming
namespace AiManifest

open Core Domain

/-! ## Records -/

/-- A member of a record that is read or written. -/
inductive YamlEntry where
  | text (value : String)
  | list (items : List String)
deriving DecidableEq

/-- A key that an object enumerates before the others, in ascending order. -/
def arrayIndex? (key : String) : Option Nat :=
  key.toNat?.filter fun n => toString n = key && decide (n < 4294967295)

/-- {lit}`Object.entries`: array indices in ascending order, then the other keys in the order
they were set. -/
def objectEntries {ν : Type} (record : InsertionMap String ν) : List (String × ν) :=
  (record.entries.filter fun e => (arrayIndex? e.1).isSome).mergeSort
      (fun left right => decide ((arrayIndex? left.1).getD 0 ≤ (arrayIndex? right.1).getD 0))
    ++ record.entries.filter fun e => !(arrayIndex? e.1).isSome

theorem objectEntries_perm {ν : Type} (record : InsertionMap String ν) :
    (objectEntries record).Perm record.entries :=
  ((List.mergeSort_perm _ _).append_right _).trans (List.filter_append_perm _ _)

/-- {lit}`record[key] = value` on an object of the language: a value for {lit}`__proto__` goes to
the prototype and not to a member. -/
def setMember (record : InsertionMap String YamlEntry) (key : String) (value : YamlEntry) :
    InsertionMap String YamlEntry :=
  if key = "__proto__" then record else record.set key value

/-! ## Writing -/

/-- The lines of one member. -/
def entryLines (key : String) : YamlEntry → List (List Char)
  | .list items => (key.toList ++ [':']) :: items.map fun item => "  - ".toList ++ item.toList
  | .text value => [key.toList ++ ": ".toList ++ value.toList]

def stringifySimpleYaml (record : InsertionMap String YamlEntry) : String :=
  String.ofList (joinLines ((objectEntries record).map fun e => joinLines (entryLines e.1 e.2)))

/-! ## Reading -/

/-- The characters that {lit}`.` does not match. -/
def isLineTerminator (c : Char) : Bool :=
  c == '\n' || c == '\r' || c == '\u2028' || c == '\u2029'

/-- {lit}`[A-Za-z0-9_-]`. -/
def isKeyCharacter (c : Char) : Bool :=
  isAsciiAlphanumeric c || c == '_' || c == '-'

/-- The group of {lit}`/^\s*-\s+(.*)$/`. -/
def listMatch (line : List Char) : Option (List Char) :=
  match trimStart line with
  | '-' :: rest =>
      if (rest.takeWhile isTrimmable).isEmpty || (trimStart rest).any isLineTerminator then none
      else some (trimStart rest)
  | _ => none

/-- The groups of {lit}`/^([A-Za-z0-9_-]+):\s*(.*)$/`. -/
def keyMatch (line : List Char) : Option (List Char × List Char) :=
  match line.dropWhile isKeyCharacter with
  | ':' :: rest =>
      if (line.takeWhile isKeyCharacter).isEmpty || (trimStart rest).any isLineTerminator then none
      else some (line.takeWhile isKeyCharacter, trimStart rest)
  | _ => none

/-- The text begins and ends with the character. -/
def isEnclosed (quote : Char) (value : List Char) : Bool :=
  value.head? == some quote && value.getLast? == some quote

def stripQuotes (value : List Char) : List Char :=
  if isEnclosed '"' value || isEnclosed '\'' value then (value.drop 1).dropLast else value

structure ParseState where
  root : InsertionMap String YamlEntry
  currentKey : Option String

/-- The list that stands under a key; anything else is replaced by an empty list. -/
def listAt (root : InsertionMap String YamlEntry) (key : String) : List String :=
  match root.get key with
  | some (.list items) => items
  | _ => []

/-- One line of the loop. -/
def parseLine (state : ParseState) (rawLine : List Char) : ParseState :=
  let line := trimEnd rawLine
  if line.all isTrimmable || (trimStart line).head? == some '#' then state
  else
    match listMatch line, state.currentKey with
    | some item, some key =>
        { state with
          root := setMember state.root key
            (.list (listAt state.root key ++ [String.ofList (stripQuotes item)])) }
    | _, _ =>
        match keyMatch line with
        | some (key, value) =>
            { currentKey := some (String.ofList key)
              root := setMember state.root (String.ofList key)
                (if value.isEmpty then .list [] else .text (String.ofList (stripQuotes value))) }
        | none => state

def parseSimpleYaml (content : String) : InsertionMap String YamlEntry :=
  ((splitLines content.toList).foldl parseLine ⟨InsertionMap.empty, none⟩).root

/-- {lit}`${content.trimEnd()}\n`, the text that is written to a file. -/
def fileContent (content : String) : String :=
  String.ofList (trimEnd content.toList ++ ['\n'])

/-! ## Keys and items -/

/-- A key that the reader takes for the key of a member. -/
def IsPlainKey (key : String) : Prop :=
  key ≠ "" ∧ (∀ c ∈ key.toList, isKeyCharacter c = true) ∧ key ≠ "__proto__"

/-- No character that ends a line. -/
def IsOneLine (item : String) : Prop :=
  ∀ c ∈ item.toList, isLineTerminator c = false

/-- An item that is read as it was written: on one line, neither empty nor with blanks at its
ends, and not enclosed in quotes. -/
def Survives (item : String) : Prop :=
  IsOneLine item ∧ item ≠ "" ∧ trimBoth item.toList = item.toList ∧
    isEnclosed '"' item.toList = false ∧ isEnclosed '\'' item.toList = false

instance (key : String) : Decidable (IsPlainKey key) :=
  inferInstanceAs (Decidable (_ ∧ _ ∧ _))

instance (item : String) : Decidable (IsOneLine item) :=
  inferInstanceAs (Decidable (∀ _ ∈ _, _))

instance (item : String) : Decidable (Survives item) :=
  inferInstanceAs (Decidable (_ ∧ _ ∧ _ ∧ _ ∧ _))

/-- What the reader makes of an item. -/
def readItem (item : String) : Option String :=
  if trimBoth item.toList = [] then none
  else some (String.ofList (stripQuotes (trimBoth item.toList)))

/-- An item on one line is read as it was written if and only if it survives. -/
theorem readItem_eq_some_iff {item : String} (hline : IsOneLine item) :
    readItem item = some item ↔ Survives item := by
  unfold readItem
  constructor
  · intro h
    by_cases hnil : trimBoth item.toList = []
    · rw [if_pos hnil] at h
      cases h
    · rw [if_neg hnil, Option.some.injEq] at h
      have hstrip : stripQuotes (trimBoth item.toList) = item.toList := by
        rw [← String.toList_ofList (l := stripQuotes (trimBoth item.toList)), h]
      have hlong : (trimBoth item.toList).length ≤ item.toList.length := by
        rw [trimBoth, trimEnd]
        refine (List.rdropWhile_prefix _ _).length_le.trans ?_
        exact (List.dropWhile_suffix _).length_le
      by_cases hquoted : (isEnclosed '"' (trimBoth item.toList) ||
          isEnclosed '\'' (trimBoth item.toList)) = true
      · rw [stripQuotes, if_pos hquoted] at hstrip
        have hshort := congrArg List.length hstrip
        rw [List.length_dropLast, List.length_drop] at hshort
        have hpos : 0 < (trimBoth item.toList).length := List.length_pos_iff.mpr hnil
        omega
      · rw [stripQuotes, if_neg hquoted] at hstrip
        rw [hstrip, Bool.not_eq_true, Bool.or_eq_false_iff] at hquoted
        refine ⟨hline, ?_, hstrip, hquoted.1, hquoted.2⟩
        rintro rfl
        exact hnil rfl
  · rintro ⟨_, hne, htrim, hdouble, hsingle⟩
    have hnil : item.toList ≠ [] := by
      intro hnil
      exact hne (String.toList_injective hnil)
    rw [htrim, if_neg hnil, stripQuotes, hdouble, hsingle]
    simp

/-! ## What the reader returns -/

/-- A member as the reader returns it. -/
def WellRead (e : String × YamlEntry) : Prop :=
  IsPlainKey e.1 ∧ ∀ items, e.2 = .list items → ∀ item ∈ items, IsOneLine item

/-- The key under which items are collected was read from a line. -/
def ParseState.WellRead (state : ParseState) : Prop :=
  (∀ e ∈ state.root.entries, AiManifest.WellRead e) ∧
    ∀ key, state.currentKey = some key → key ≠ "" ∧ ∀ c ∈ key.toList, isKeyCharacter c = true

theorem oneLine_of_listMatch {line item : List Char} (h : listMatch line = some item) :
    ∀ c ∈ item, isLineTerminator c = false := by
  unfold listMatch at h
  split at h
  · split at h
    · cases h
    · rename_i rest _ hnone
      rw [Bool.not_eq_true, Bool.or_eq_false_iff, List.any_eq_false] at hnone
      intro c hc
      rw [← Option.some.inj h] at hc
      exact Bool.not_eq_true _ ▸ hnone.2 c hc
  · cases h

theorem plain_of_keyMatch {line key value : List Char} (h : keyMatch line = some (key, value)) :
    key ≠ [] ∧ ∀ c ∈ key, isKeyCharacter c = true := by
  unfold keyMatch at h
  split at h
  · split at h
    · cases h
    · rename_i rest _ hsome
      rw [Bool.not_eq_true, Bool.or_eq_false_iff] at hsome
      rw [Option.some.injEq, Prod.mk.injEq] at h
      rw [← h.1]
      refine ⟨?_, fun c hc => List.mem_takeWhile_imp hc⟩
      rw [← List.isEmpty_eq_false_iff]
      exact hsome.1
  · cases h

/-- Quotes that are dropped leave a part of the text. -/
theorem mem_of_mem_stripQuotes {value : List Char} {c : Char} (h : c ∈ stripQuotes value) :
    c ∈ value := by
  unfold stripQuotes at h
  split at h
  · exact List.mem_of_mem_drop ((List.dropLast_sublist _).subset h)
  · exact h

/-- A member that is set keeps what is known of the members. -/
theorem wellRead_setMember {root : InsertionMap String YamlEntry}
    (h : ∀ e ∈ root.entries, WellRead e) {key : String} {value : YamlEntry}
    (hkey : key ≠ "" ∧ ∀ c ∈ key.toList, isKeyCharacter c = true)
    (hvalue : ∀ items, value = .list items → ∀ item ∈ items, IsOneLine item) :
    ∀ e ∈ (setMember root key value).entries, WellRead e := by
  unfold setMember
  split
  · exact h
  · rename_i hproto
    intro e he
    rcases InsertionMap.mem_entries_set.mp he with rfl | ⟨hold, _⟩
    · exact ⟨⟨hkey.1, hkey.2, hproto⟩, hvalue⟩
    · exact h e hold

theorem oneLine_listAt {root : InsertionMap String YamlEntry}
    (h : ∀ e ∈ root.entries, WellRead e) (key : String) :
    ∀ item ∈ listAt root key, IsOneLine item := by
  unfold listAt
  split
  · rename_i items hget
    exact (h _ (InsertionMap.get_eq_some_iff.mp hget)).2 items rfl
  · exact fun item hitem => absurd hitem List.not_mem_nil

/-- One line keeps what is known of the state. -/
theorem wellRead_parseLine {state : ParseState} (h : state.WellRead) (rawLine : List Char) :
    (parseLine state rawLine).WellRead := by
  unfold parseLine
  dsimp only
  split
  · exact h
  · split
    · rename_i item key hitem hcurrent
      refine ⟨wellRead_setMember h.1 (h.2 key hcurrent) ?_, h.2⟩
      intro items hitems other hother
      rw [← YamlEntry.list.inj hitems, List.mem_append, List.mem_singleton] at hother
      rcases hother with hother | rfl
      · exact oneLine_listAt h.1 key other hother
      · intro c hc
        rw [String.toList_ofList] at hc
        exact oneLine_of_listMatch hitem c (mem_of_mem_stripQuotes hc)
    · split
      · rename_i key value hmatch
        obtain ⟨hne, hplain⟩ := plain_of_keyMatch hmatch
        have hkey : String.ofList key ≠ "" ∧
            ∀ c ∈ (String.ofList key).toList, isKeyCharacter c = true := by
          rw [String.toList_ofList]
          refine ⟨?_, hplain⟩
          intro hempty
          have hnil := congrArg String.toList hempty
          rw [String.toList_ofList] at hnil
          exact hne hnil
        refine ⟨wellRead_setMember h.1 hkey ?_, ?_⟩
        · intro items hitems item hitem
          split at hitems
          · rw [← YamlEntry.list.inj hitems] at hitem
            cases hitem
          · cases hitems
        · intro other hother
          rw [← Option.some.inj hother]
          exact hkey
      · exact h

/-- Whatever the reader returns has plain keys and items on one line. -/
theorem wellRead_parse (content : String) :
    ∀ e ∈ (parseSimpleYaml content).entries, WellRead e := by
  have hrun : ∀ (lines : List (List Char)) (state : ParseState), state.WellRead →
      (lines.foldl parseLine state).WellRead := by
    intro lines
    induction lines with
    | nil => exact fun state h => h
    | cons line lines ih =>
        intro state h
        exact ih _ (wellRead_parseLine h line)
  refine (hrun _ ⟨InsertionMap.empty, none⟩ ⟨?_, ?_⟩).1
  · intro e he
    cases he
  · intro key hkey
    cases hkey

/-! ## Reading what was written -/

theorem isKeyCharacter_bounds {c : Char} (h : isKeyCharacter c = true) :
    45 ≤ c.toNat ∧ c.toNat ≤ 122 := by
  simp only [isKeyCharacter, isAsciiAlphanumeric, Bool.or_eq_true, Bool.and_eq_true,
    decide_eq_true_eq, beq_iff_eq] at h
  rcases h with (((⟨hlow, hhigh⟩ | ⟨hlow, hhigh⟩) | ⟨hlow, hhigh⟩) | rfl) | rfl
  · exact ⟨le_trans (by decide) (Char.le_def.mp hlow), le_trans (Char.le_def.mp hhigh) (by decide)⟩
  · exact ⟨le_trans (by decide) (Char.le_def.mp hlow), le_trans (Char.le_def.mp hhigh) (by decide)⟩
  · exact ⟨le_trans (by decide) (Char.le_def.mp hlow), le_trans (Char.le_def.mp hhigh) (by decide)⟩
  · decide
  · decide

theorem not_isTrimmable_of_isKeyCharacter {c : Char} (h : isKeyCharacter c = true) :
    isTrimmable c = false :=
  not_isTrimmable_of_bounds (isKeyCharacter_bounds h)

/-- The line of a key starts the list of the key. -/
theorem parseLine_key {key : String} (hkey : IsPlainKey key) (state : ParseState) :
    parseLine state (key.toList ++ [':']) =
      { root := state.root.set key (.list []), currentKey := some key } := by
  obtain ⟨hne, hchars, hproto⟩ := hkey
  have hend : trimEnd (key.toList ++ [':']) = key.toList ++ [':'] := trimEnd_concat (by decide)
  obtain ⟨c, cs, hcons⟩ : ∃ c cs, key.toList = c :: cs := by
    refine List.exists_cons_of_ne_nil ?_
    intro hnil
    exact hne (String.toList_injective hnil)
  have hc : isKeyCharacter c = true := hchars c (hcons ▸ List.mem_cons_self)
  have hstart : trimStart (key.toList ++ [':']) = key.toList ++ [':'] := by
    rw [hcons, List.cons_append, trimStart, List.dropWhile_cons,
      not_isTrimmable_of_isKeyCharacter hc]
    rfl
  have hskip : ((key.toList ++ [':']).all isTrimmable ||
      (trimStart (key.toList ++ [':'])).head? == some '#') = false := by
    rw [hstart, hcons]
    have hhash : c ≠ '#' := by
      rintro rfl
      exact absurd hc (by decide)
    simp [not_isTrimmable_of_isKeyCharacter hc, hhash]
  have hnolist : listMatch (key.toList ++ [':']) = none := by
    rw [listMatch, hstart]
    split
    · rename_i rest hrest
      have hblank : rest.takeWhile isTrimmable = [] := by
        rw [hcons, List.cons_append, List.cons.injEq] at hrest
        rw [← hrest.2]
        cases cs with
        | nil => rfl
        | cons d cs =>
            have hd : isKeyCharacter d = true :=
              hchars d (hcons ▸ List.mem_cons_of_mem _ List.mem_cons_self)
            rw [List.cons_append, List.takeWhile_cons, not_isTrimmable_of_isKeyCharacter hd]
            rfl
      rw [hblank]
      rfl
    · rfl
  have htake : (key.toList ++ [':']).takeWhile isKeyCharacter = key.toList := by
    rw [List.takeWhile_append_of_pos hchars]
    simp [isKeyCharacter, isAsciiAlphanumeric]
  have hdrop : (key.toList ++ [':']).dropWhile isKeyCharacter = [':'] := by
    rw [List.dropWhile_append_of_pos hchars]
    rfl
  have hkeyMatch : keyMatch (key.toList ++ [':']) = some (key.toList, []) := by
    rw [keyMatch, hdrop]
    rw [htake, hcons]
    rfl
  rw [parseLine]
  rw [hend, hskip, hnolist, hkeyMatch]
  simp [setMember, hproto]

/-- The line of an item adds what the reader makes of the item to the list of the key. -/
theorem parseLine_item {item : String} (hitem : IsOneLine item) (root : InsertionMap String YamlEntry)
    (key : String) :
    parseLine ⟨root, some key⟩ ("  - ".toList ++ item.toList) =
      match readItem item with
      | none => ⟨root, some key⟩
      | some read => ⟨setMember root key (.list (listAt root key ++ [read])), some key⟩ := by
  have hdash : "  - ".toList ++ item.toList = "  -".toList ++ (' ' :: item.toList) := rfl
  by_cases hnil : trimBoth item.toList = []
  · have hread : readItem item = none := if_pos hnil
    have hblank : trimEnd (' ' :: item.toList) = [] := by
      rw [trimBoth, trimEnd, List.rdropWhile_eq_nil_iff] at hnil
      rw [trimEnd, List.rdropWhile_eq_nil_iff]
      intro c hc
      rcases List.mem_cons.mp hc with rfl | hc
      · rfl
      · rw [← List.takeWhile_append_dropWhile (p := isTrimmable) (l := item.toList),
          List.mem_append] at hc
        rcases hc with hc | hc
        · exact List.mem_takeWhile_imp hc
        · exact hnil c hc
    rw [parseLine, hdash, trimEnd_append_blank hblank, hread]
    rfl
  · have hread : readItem item = some (String.ofList (stripQuotes (trimBoth item.toList))) :=
      if_neg hnil
    have hkept : trimEnd item.toList ≠ [] := by
      intro hend
      have hcomm := trimStart_trimEnd item.toList
      rw [hend] at hcomm
      exact hnil hcomm.symm
    have hend : trimEnd ("  - ".toList ++ item.toList) = "  - ".toList ++ trimEnd item.toList :=
      trimEnd_append hkept
    have hmatch : listMatch ("  - ".toList ++ trimEnd item.toList) =
        some (trimBoth item.toList) := by
      have hstart : trimStart ("  - ".toList ++ trimEnd item.toList) =
          '-' :: ' ' :: trimEnd item.toList := rfl
      have hbody : trimStart (' ' :: trimEnd item.toList) = trimBoth item.toList := by
        rw [trimBoth, ← trimStart_trimEnd]
        rfl
      have hnone : (trimBoth item.toList).any isLineTerminator = false := by
        rw [List.any_eq_false]
        intro c hc
        rw [Bool.not_eq_true]
        exact hitem c (mem_of_mem_trimBoth hc)
      rw [listMatch, hstart]
      change (if ((List.takeWhile isTrimmable (' ' :: trimEnd item.toList)).isEmpty ||
        (trimStart (' ' :: trimEnd item.toList)).any isLineTerminator) = true then none
        else some (trimStart (' ' :: trimEnd item.toList))) = _
      rw [hbody, hnone]
      rfl
    rw [parseLine]
    dsimp only
    rw [hend, hmatch, hread]
    rfl

/-- The items of a list are added one after the other. -/
theorem foldl_items {items : List String} (hitems : ∀ item ∈ items, IsOneLine item)
    {root : InsertionMap String YamlEntry} {key : String} (hkey : key ≠ "__proto__")
    (before : List String) :
    (items.map fun item => "  - ".toList ++ item.toList).foldl parseLine
        ⟨root.set key (.list before), some key⟩ =
      ⟨root.set key (.list (before ++ items.filterMap readItem)), some key⟩ := by
  induction items generalizing before with
  | nil => rw [List.map_nil, List.foldl_nil, List.filterMap_nil, List.append_nil]
  | cons item items ih =>
      have hrest := ih fun other hother => hitems other (List.mem_cons_of_mem _ hother)
      rw [List.map_cons, List.foldl_cons, parseLine_item (hitems item List.mem_cons_self),
        List.filterMap_cons]
      cases hread : readItem item with
      | none => exact hrest before
      | some read =>
          have hlist : listAt (root.set key (.list before)) key = before := by
            rw [listAt, InsertionMap.get_set_self]
          dsimp only
          rw [hlist, setMember, if_neg hkey, InsertionMap.set_set, hrest, List.append_assoc,
            List.singleton_append]

/-- What the reader makes of a list. -/
def readEntry : YamlEntry → YamlEntry
  | .list items => .list (items.filterMap readItem)
  | .text value => .text value

/-- A member that is written line by line: a list on one line for each item, under a plain key. -/
def Written (e : String × YamlEntry) : Prop :=
  IsPlainKey e.1 ∧ ∃ items, e.2 = .list items ∧ ∀ item ∈ items, IsOneLine item

/-- The lines of one member. -/
theorem foldl_entryLines {e : String × YamlEntry} (he : Written e) (state : ParseState) :
    (entryLines e.1 e.2).foldl parseLine state =
      ⟨state.root.set e.1 (readEntry e.2), some e.1⟩ := by
  obtain ⟨hkey, items, hlist, hitems⟩ := he
  rw [hlist, entryLines, List.foldl_cons, parseLine_key hkey, foldl_items hitems hkey.2.2]
  rfl

/-- The lines of all members are read to the members. -/
theorem foldl_members {members : List (String × YamlEntry)} (h : ∀ e ∈ members, Written e)
    (hnodup : (members.map Prod.fst).Nodup) (state : ParseState)
    (hnew : ∀ e ∈ members, e.1 ∉ state.root.entries.map Prod.fst) :
    ((members.map fun e => entryLines e.1 e.2).flatten.foldl parseLine state).root.entries =
      state.root.entries ++ members.map fun e => (e.1, readEntry e.2) := by
  induction members generalizing state with
  | nil => simp
  | cons e members ih =>
      rw [List.map_cons, List.nodup_cons] at hnodup
      have hentries : (state.root.set e.1 (readEntry e.2)).entries =
          state.root.entries ++ [(e.1, readEntry e.2)] :=
        InsertionMap.entries_set_of_notMem (hnew e List.mem_cons_self) _
      rw [List.map_cons, List.flatten_cons, List.foldl_append,
        foldl_entryLines (h e List.mem_cons_self),
        ih (fun other hother => h other (List.mem_cons_of_mem _ hother)) hnodup.2]
      · rw [hentries, List.append_assoc, List.singleton_append, List.map_cons]
      · intro other hother
        rw [hentries, List.map_append, List.mem_append, not_or]
        refine ⟨hnew other (List.mem_cons_of_mem _ hother), ?_⟩
        rw [List.map_singleton, List.mem_singleton]
        intro heq
        exact hnodup.1 (heq ▸ List.mem_map_of_mem hother)

/-- A text of lines that is written to a file is read line by line. -/
theorem parse_fileContent {lines : List (List Char)}
    (h : ∀ line ∈ lines, '\n' ∉ line ∧ '\r' ∉ line ∧ trimEnd line ≠ []) :
    parseSimpleYaml (fileContent (String.ofList (joinLines lines))) =
      (lines.foldl parseLine ⟨InsertionMap.empty, none⟩).root := by
  have hblank : ∀ state, parseLine state [] = state := fun _ => rfl
  rw [parseSimpleYaml, fileContent, String.toList_ofList, String.toList_ofList]
  rcases List.eq_nil_or_concat lines with rfl | ⟨front, last, rfl⟩
  · rfl
  · rw [List.concat_eq_append] at h ⊢
    obtain ⟨before, hbefore⟩ := joinLines_concat front
    obtain ⟨hnewline, hreturn, hkept⟩ := h last (List.mem_append_right _ List.mem_cons_self)
    have hlast : trimEnd last <+: last := List.rdropWhile_prefix _ _
    have htext : trimEnd (joinLines (front ++ [last])) ++ ['\n'] =
        joinLines (front ++ [trimEnd last, []]) := by
      have hsplit : front ++ [trimEnd last, []] = (front ++ [trimEnd last]) ++ [[]] := by simp
      have hempty : joinLines [[]] = [] := rfl
      have hjoin : joinLines ((front ++ [trimEnd last]) ++ [[]]) =
          joinLines (front ++ [trimEnd last]) ++ '\n' :: joinLines [[]] :=
        joinLines_append (by simp) (by simp)
      rw [hbefore, trimEnd_append hkept, hsplit, hjoin, hempty, hbefore]
    have hlines : ∀ line ∈ front ++ [trimEnd last, []], '\n' ∉ line ∧ '\r' ∉ line := by
      intro line hline
      rcases List.mem_append.mp hline with hfront | hend
      · have hold := h line (List.mem_append_left _ hfront)
        exact ⟨hold.1, hold.2.1⟩
      · rw [List.mem_cons, List.mem_singleton] at hend
        rcases hend with rfl | rfl
        · exact ⟨fun hmem => hnewline (hlast.subset hmem), fun hmem => hreturn (hlast.subset hmem)⟩
        · exact ⟨List.not_mem_nil, List.not_mem_nil⟩
    have htrim : ∀ state, parseLine state (trimEnd last) = parseLine state last := by
      intro state
      rw [parseLine, parseLine, trimEnd_idem]
    rw [htext, splitLines_join (by simp) hlines, List.foldl_append, List.foldl_append]
    simp only [List.foldl_cons, List.foldl_nil, hblank, htrim]

/-- No line of a written member holds a line break, and none is blank. -/
theorem entryLines_plain {e : String × YamlEntry} (he : Written e) {line : List Char}
    (hline : line ∈ entryLines e.1 e.2) : '\n' ∉ line ∧ '\r' ∉ line ∧ trimEnd line ≠ [] := by
  obtain ⟨⟨hne, hchars, _⟩, items, hlist, hitems⟩ := he
  rw [hlist, entryLines, List.mem_cons] at hline
  rcases hline with rfl | hline
  · refine ⟨?_, ?_, ?_⟩
    · intro hmem
      rcases List.mem_append.mp hmem with hmem | hmem
      · exact absurd (hchars _ hmem) (by decide)
      · exact absurd hmem (by decide)
    · intro hmem
      rcases List.mem_append.mp hmem with hmem | hmem
      · exact absurd (hchars _ hmem) (by decide)
      · exact absurd hmem (by decide)
    · rw [trimEnd_concat (by decide)]
      simp
  · obtain ⟨item, hitem, rfl⟩ := List.mem_map.mp hline
    refine ⟨?_, ?_, ?_⟩
    · intro hmem
      rcases List.mem_append.mp hmem with hmem | hmem
      · exact absurd hmem (by decide)
      · exact absurd (hitems item hitem _ hmem) (by decide)
    · intro hmem
      rcases List.mem_append.mp hmem with hmem | hmem
      · exact absurd hmem (by decide)
      · exact absurd (hitems item hitem _ hmem) (by decide)
    · intro hnil
      rw [trimEnd, List.rdropWhile_eq_nil_iff] at hnil
      exact absurd (hnil '-' (List.mem_append_left _ (by decide))) (by decide)

/-- What the reader makes of a file that was written with plain keys and one-line items. -/
theorem parse_file {record : InsertionMap String YamlEntry} (h : ∀ e ∈ record.entries, Written e) :
    (parseSimpleYaml (fileContent (stringifySimpleYaml record))).entries =
      (objectEntries record).map fun e => (e.1, readEntry e.2) := by
  have hperm := objectEntries_perm record
  have hwritten : ∀ e ∈ objectEntries record, Written e :=
    fun e he => h e (hperm.mem_iff.mp he)
  have hnodup : ((objectEntries record).map Prod.fst).Nodup :=
    (hperm.map Prod.fst).nodup_iff.mpr record.nodup_keys
  have hgroups : joinLines ((objectEntries record).map fun e => joinLines (entryLines e.1 e.2)) =
      joinLines ((objectEntries record).map fun e => entryLines e.1 e.2).flatten := by
    rw [← joinLines_flatten, List.map_map]
    · rfl
    · intro group hgroup
      obtain ⟨e, he, rfl⟩ := List.mem_map.mp hgroup
      obtain ⟨_, items, hlist, _⟩ := hwritten e he
      rw [hlist, entryLines]
      exact List.cons_ne_nil _ _
  rw [stringifySimpleYaml, hgroups, parse_fileContent, foldl_members hwritten hnodup]
  · rfl
  · exact fun e _ => List.not_mem_nil
  · intro line hline
    obtain ⟨group, hgroup, hmem⟩ := List.mem_flatten.mp hline
    obtain ⟨e, he, rfl⟩ := List.mem_map.mp hgroup
    exact entryLines_plain (hwritten e he) hmem

/-! ## Round trip -/

/-- A list that a partial map leaves as it is, is left so item by item. -/
theorem filterMap_eq_self {α : Type} {f : α → Option α} {items : List α}
    (h : items.filterMap f = items) : ∀ item ∈ items, f item = some item := by
  induction items with
  | nil => exact fun item hitem => absurd hitem List.not_mem_nil
  | cons first items ih =>
      rw [List.filterMap_cons] at h
      cases hfirst : f first with
      | none =>
          simp only [hfirst] at h
          have hlength := congrArg List.length h
          have hshort := List.length_filterMap_le f items
          rw [List.length_cons] at hlength
          omega
      | some other =>
          rw [hfirst, List.cons.injEq] at h
          intro item hitem
          rcases List.mem_cons.mp hitem with rfl | hitem
          · rw [hfirst, h.1]
          · exact ih h.2 item hitem

/-- A record of lists, as it is written. -/
def listRecord (groups : InsertionMap String (List String)) : InsertionMap String YamlEntry where
  entries := groups.entries.map fun e => (e.1, .list e.2)
  nodup_keys := by
    rw [List.map_map]
    exact groups.nodup_keys

theorem get_listRecord (groups : InsertionMap String (List String)) (key : String) :
    (listRecord groups).get key = (groups.get key).map .list := by
  ext entry
  rw [InsertionMap.get_eq_some_iff, Option.map_eq_some_iff]
  constructor
  · intro h
    obtain ⟨e, he, heq⟩ := List.mem_map.mp h
    rw [Prod.mk.injEq] at heq
    exact ⟨e.2, InsertionMap.get_eq_some_iff.mpr (heq.1 ▸ he), heq.2⟩
  · rintro ⟨items, hget, rfl⟩
    exact List.mem_map.mpr ⟨(key, items), InsertionMap.get_eq_some_iff.mp hget, rfl⟩

/-- The file of a record reads back to the record. -/
def RoundTrips (groups : InsertionMap String (List String)) : Prop :=
  ∀ key, (parseSimpleYaml (fileContent (stringifySimpleYaml (listRecord groups)))).get key =
    (groups.get key).map .list

/-- A record of lists comes back if and only if its keys are plain and its items survive. -/
theorem yaml_roundTrip_iff (groups : InsertionMap String (List String)) :
    RoundTrips groups ↔
      ∀ e ∈ groups.entries, IsPlainKey e.1 ∧ ∀ item ∈ e.2, Survives item := by
  have hread : (∀ e ∈ groups.entries, IsPlainKey e.1 ∧ ∀ item ∈ e.2, IsOneLine item) →
      ∀ key, (parseSimpleYaml (fileContent (stringifySimpleYaml (listRecord groups)))).get key =
        (groups.get key).map fun items => .list (items.filterMap readItem) := by
    intro hplain key
    have hwritten : ∀ e ∈ (listRecord groups).entries, Written e := by
      intro e he
      obtain ⟨old, hold, rfl⟩ := List.mem_map.mp he
      exact ⟨(hplain old hold).1, old.2, rfl, (hplain old hold).2⟩
    ext entry
    rw [InsertionMap.get_eq_some_iff, parse_file hwritten, List.mem_map, Option.map_eq_some_iff]
    constructor
    · rintro ⟨e, he, heq⟩
      obtain ⟨old, hold, rfl⟩ := List.mem_map.mp ((objectEntries_perm _).mem_iff.mp he)
      rw [Prod.mk.injEq] at heq
      exact ⟨old.2, InsertionMap.get_eq_some_iff.mpr (heq.1 ▸ hold), heq.2⟩
    · rintro ⟨items, hget, rfl⟩
      refine ⟨(key, .list items), ?_, rfl⟩
      rw [(objectEntries_perm _).mem_iff]
      exact List.mem_map.mpr ⟨(key, items), InsertionMap.get_eq_some_iff.mp hget, rfl⟩
  constructor
  · intro h
    have hplain : ∀ e ∈ groups.entries, IsPlainKey e.1 ∧ ∀ item ∈ e.2, IsOneLine item := by
      intro e he
      have hget := h e.1
      rw [InsertionMap.get_eq_some_iff.mpr he, Option.map_some, InsertionMap.get_eq_some_iff] at hget
      have hwell := wellRead_parse _ _ hget
      exact ⟨hwell.1, hwell.2 e.2 rfl⟩
    intro e he
    refine ⟨(hplain e he).1, ?_⟩
    have hboth := (hread hplain e.1).symm.trans (h e.1)
    rw [InsertionMap.get_eq_some_iff.mpr he, Option.map_some, Option.map_some, Option.some.injEq,
      YamlEntry.list.injEq] at hboth
    intro item hitem
    rw [← readItem_eq_some_iff ((hplain e he).2 item hitem)]
    exact filterMap_eq_self hboth item hitem
  · intro h key
    rw [hread (fun e he => ⟨(h e he).1, fun item hitem => ((h e he).2 item hitem).1⟩) key]
    cases hget : groups.get key with
    | none => rfl
    | some items =>
        have he := InsertionMap.get_eq_some_iff.mp hget
        have hsame : items.filterMap readItem = items := by
          refine (List.filterMap_congr ?_).trans List.filterMap_some
          intro item hitem
          have hsurvives := (h _ he).2 item hitem
          exact (readItem_eq_some_iff hsurvives.1).mpr hsurvives
        rw [Option.map_some, Option.map_some, hsame]

end AiManifest
end TokenStreaming
