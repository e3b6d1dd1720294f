import TokenStreaming.Foundation.RootedGraph
import TokenStreaming.Domain.Validation
import Mathlib.Data.List.Infix
import Mathlib.Data.Rat.Defs

/-!
# Marketplace domain - Safe input

{lit}`assertSafeInput` of {lit}`validation.ts` over a graph of untyped values: containers are
known by their identity, so they may be shared and form cycles.

Main results:

- Theorem {lit}`assertSafeInputFrom_eq_ok`: what the loop accepts from a stack.
- Theorem {lit}`assertSafeInput_accepts_safe_trees`: it accepts exactly the safe plain trees.

{lit}`String.toLowerCase` is a parameter: nothing depends on the table of the language.
-/

namespace TokenStreaming
namespace Domain

open RootedGraph

/-! ## Values -/

inductive JsNumber where
  | finite (value : Rat)
  | nan
  | positiveInfinity
  | negativeInfinity
deriving DecidableEq

/-- {lit}`Number.isFinite`. -/
def JsNumber.isFinite : JsNumber → Bool
  | .finite _ => true
  | _ => false

/-- A value of the language; containers are references. -/
inductive JsValue (ref : Type) where
  | null
  | undefined
  | boolean (value : Bool)
  | number (value : JsNumber)
  | string (value : String)
  | bigint (value : Int)
  | function
  | symbol
  | object (container : ref)
deriving DecidableEq

inductive Prototype where
  | objectPrototype
  | null
  | other
deriving DecidableEq

/-- An array, or another object with its prototype. -/
inductive ContainerKind where
  | array
  | object (prototype : Prototype)
deriving DecidableEq

/-- A container with its own enumerable properties, as {lit}`Object.entries` lists them. -/
structure JsContainer (ref : Type) where
  kind : ContainerKind
  entries : List (String × JsValue ref)

/-- The containers behind the references. -/
abbrev ValueGraph (ref : Type) := ref → JsContainer ref

/-! ## The check -/

def forbiddenFieldFragments : List String :=
  ["apikey", "password", "cookie", "cookies", "sessioncookie", "accesstoken", "refreshtoken",
    "bearertoken", "clientsecret", "authorizationheader", "rawcredential", "credential",
    "privatekey", "sessiontoken", "idtoken", "secret"]

def invalidInput (message : String) : MarketplaceDomainError where
  code := .invalidArgument
  message := message

/-- An element of {lit}`pending`. -/
structure PendingValue (ref : Type) where
  value : JsValue ref
  path : String
  depth : Nat

section Check

variable {ref : Type} (toLowerCase : String → String)

/-- {lit}`key.replace(/[-_]/g, "").toLowerCase()`. -/
def normalizedKey (key : String) : String :=
  toLowerCase (.ofList (key.toList.filter fun c => c ≠ '-' ∧ c ≠ '_'))

/-- Some forbidden fragment is included in the normalized key. -/
def isForbiddenKey (key : String) : Bool :=
  forbiddenFieldFragments.any fun fragment =>
    decide (fragment.toList <:+: (normalizedKey toLowerCase key).toList)

/-- The prototype of a container that is no array. -/
def checkPrototype (container : JsContainer ref) (path : String) : Checked Unit :=
  match container.kind with
  | .array => .ok ()
  | .object prototype =>
      ensure (prototype == .objectPrototype || prototype == .null)
        (invalidInput ("Marketplace input must contain only plain objects at " ++ path ++ "."))

/-- The loop over the entries of a container: the stack with its children, the last on top. -/
def pushEntries (path : String) (depth : Nat) :
    List (String × JsValue ref) → List (PendingValue ref) → Checked (List (PendingValue ref))
  | [], pending => .ok pending
  | (key, child) :: entries, pending =>
      if isForbiddenKey toLowerCase key then
        .error
          { code := .credentialMaterialRejected
            message := "Credential material is not accepted at " ++ path ++ "." ++ key ++ "."
            details := [("field", .text key)] }
      else pushEntries path depth entries (⟨child, path ++ "." ++ key, depth + 1⟩ :: pending)

variable [DecidableEq ref] (graph : ValueGraph ref)

/-- The loop over {lit}`pending`, its top first.  Only a container that has not been seen
pushes anything, and there are at most a thousand of those. -/
def assertSafeInputFrom (seen : List ref) (visited : Nat) :
    List (PendingValue ref) → Checked Unit
  | [] => .ok ()
  | current :: pending =>
      match current.value with
      | .null => assertSafeInputFrom seen visited pending
      | .undefined => assertSafeInputFrom seen visited pending
      | .boolean _ => assertSafeInputFrom seen visited pending
      | .string _ => assertSafeInputFrom seen visited pending
      | .number n =>
          if n.isFinite then assertSafeInputFrom seen visited pending
          else .error (invalidInput
            ("Marketplace input contains a non-finite number at " ++ current.path ++ "."))
      | .bigint _ => .error (nonSerializable current.path)
      | .function => .error (nonSerializable current.path)
      | .symbol => .error (nonSerializable current.path)
      | .object container =>
          if container ∈ seen then
            .error (invalidInput ("Marketplace input contains a cyclic or repeated object at " ++
              current.path ++ "."))
          else if visited + 1 > 1000 ∨ current.depth > 12 then
            .error (invalidInput "Marketplace input exceeds structural limits.")
          else
            match checkPrototype (graph container) current.path with
            | .error error => .error error
            | .ok () =>
                match pushEntries toLowerCase current.path current.depth
                    (graph container).entries pending with
                | .error error => .error error
                | .ok pending => assertSafeInputFrom (container :: seen) (visited + 1) pending
termination_by pending => (1000 - visited, pending.length)
where
  nonSerializable (path : String) : MarketplaceDomainError :=
    invalidInput ("Marketplace input contains a non-serializable value at " ++ path ++ ".")

def assertSafeInput (value : JsValue ref) : Checked Unit :=
  assertSafeInputFrom toLowerCase graph [] 0 [⟨value, "$", 0⟩]

end Check

/-! ## Safe plain trees -/

section Trees

variable {ref : Type}

def JsValue.IsContainer (value : JsValue ref) : Prop :=
  ∃ container, value = .object container

/-- The values of a container's properties. -/
def childValues (graph : ValueGraph ref) : JsValue ref → List (JsValue ref)
  | .object container => (graph container).entries.map Prod.snd
  | _ => []

/-- A container, a string, a boolean, null, undefined or a finite number. -/
def JsValue.IsPlainData : JsValue ref → Prop
  | .number n => n.isFinite = true
  | .bigint _ => False
  | .function => False
  | .symbol => False
  | _ => True

/-- An array, or an object with one of the two plain prototypes. -/
def JsContainer.IsPlain (container : JsContainer ref) : Prop :=
  container.kind = .array ∨ container.kind = .object .objectPrototype ∨
    container.kind = .object .null

/-- A graph of plain data that is a tree of few containers, none deep and none with a key for
credentials. -/
structure IsSafeTree (toLowerCase : String → String) (graph : ValueGraph ref)
    (root : JsValue ref) : Prop where
  tree : IsTree (childValues graph) JsValue.IsContainer root
  data : ∀ path value, nodeAt (childValues graph) root path = some value → value.IsPlainData
  plain : ∀ path container, nodeAt (childValues graph) root path = some (.object container) →
    (graph container).IsPlain
  count : (reached (childValues graph) JsValue.IsContainer [root]).encard ≤ 1000
  depth : ∀ path container, nodeAt (childValues graph) root path = some (.object container) →
    path.length ≤ 12
  keys : ∀ path container, nodeAt (childValues graph) root path = some (.object container) →
    ∀ entry ∈ (graph container).entries, ∀ fragment ∈ forbiddenFieldFragments,
      ¬ fragment.toList <:+: (normalizedKey toLowerCase entry.1).toList

/-- What the loop asks of a value at a depth. -/
structure Acceptable (toLowerCase : String → String) (graph : ValueGraph ref) (depth : Nat)
    (value : JsValue ref) : Prop where
  data : value.IsPlainData
  plain : ∀ container, value = .object container → (graph container).IsPlain
  depth : ∀ container, value = .object container → depth ≤ 12
  keys : ∀ container, value = .object container →
    ∀ entry ∈ (graph container).entries, isForbiddenKey toLowerCase entry.1 = false

variable {toLowerCase : String → String} {graph : ValueGraph ref}

theorem isForbiddenKey_eq_false {key : String} :
    isForbiddenKey toLowerCase key = false ↔ ∀ fragment ∈ forbiddenFieldFragments,
      ¬ fragment.toList <:+: (normalizedKey toLowerCase key).toList := by
  simp [isForbiddenKey]

/-- A safe tree, place by place. -/
theorem isSafeTree_iff {root : JsValue ref} :
    IsSafeTree toLowerCase graph root ↔
      IsTree (childValues graph) JsValue.IsContainer root ∧
        EachAt (childValues graph) (Acceptable toLowerCase graph) 0 root ∧
        (reached (childValues graph) JsValue.IsContainer [root]).encard ≤ 1000 := by
  constructor
  · intro h
    refine ⟨h.tree, fun path value hpath => ?_, h.count⟩
    constructor
    · exact h.data path value hpath
    · intro container hvalue
      exact h.plain path container (hvalue ▸ hpath)
    · intro container hvalue
      rw [Nat.zero_add]
      exact h.depth path container (hvalue ▸ hpath)
    · intro container hvalue entry hentry
      exact isForbiddenKey_eq_false.mpr (h.keys path container (hvalue ▸ hpath) entry hentry)
  · rintro ⟨htree, heach, hcount⟩
    constructor
    · exact htree
    · exact fun path value hpath => (heach path value hpath).data
    · exact fun path container hpath => (heach path _ hpath).plain container rfl
    · exact hcount
    · intro path container hpath
      have hdepth := (heach path _ hpath).depth container rfl
      rwa [Nat.zero_add] at hdepth
    · intro path container hpath entry hentry
      exact isForbiddenKey_eq_false.mp ((heach path _ hpath).keys container rfl entry hentry)

/-! ## The loop -/

theorem checkPrototype_eq_ok {container : JsContainer ref} {path : String} :
    checkPrototype container path = .ok () ↔ container.IsPlain := by
  unfold checkPrototype JsContainer.IsPlain
  cases container.kind with
  | array => simp
  | object prototype => simp

/-- The children of a container on the stack, the last on top. -/
def pushedEntries (path : String) (depth : Nat) (entries : List (String × JsValue ref)) :
    List (PendingValue ref) :=
  (entries.map fun entry => ⟨entry.2, path ++ "." ++ entry.1, depth + 1⟩).reverse

/-- The entries are pushed one on the other if no key is forbidden. -/
theorem pushEntries_eq_ok {path : String} {depth : Nat} {entries : List (String × JsValue ref)}
    {pending pushed : List (PendingValue ref)} :
    pushEntries toLowerCase path depth entries pending = .ok pushed ↔
      (∀ entry ∈ entries, isForbiddenKey toLowerCase entry.1 = false) ∧
        pushedEntries path depth entries ++ pending = pushed := by
  induction entries generalizing pending with
  | nil => simp [pushEntries, pushedEntries]
  | cons entry entries ih =>
      obtain ⟨key, child⟩ := entry
      unfold pushEntries
      by_cases hkey : isForbiddenKey toLowerCase key = true
      · simp [hkey]
      · rw [if_neg hkey, ih]
        simp [hkey, pushedEntries, List.append_assoc]

theorem pushedEntries_values (graph : ValueGraph ref) (path : String) (depth : Nat)
    (container : ref) (pending : List (PendingValue ref)) :
    (pushedEntries path depth (graph container).entries ++ pending).map PendingValue.value =
      (childValues graph (.object container)).reverse ++ pending.map PendingValue.value := by
  simp [pushedEntries, childValues, List.map_reverse, Function.comp_def]

theorem childValues_of_not_isContainer {value : JsValue ref} (h : ¬ value.IsContainer) :
    childValues graph value = [] := by
  cases value with
  | object container => exact absurd ⟨container, rfl⟩ h
  | _ => rfl

/-- The stack holds safe trees that share nothing, with what has been seen or among
themselves. -/
structure AcceptedFrom (toLowerCase : String → String) (graph : ValueGraph ref) (seen : List ref)
    (visited : Nat) (stack : List (PendingValue ref)) : Prop where
  forest : Forest (childValues graph) JsValue.IsContainer (seen.map .object)
    (stack.map PendingValue.value)
  each : ∀ item ∈ stack,
    EachAt (childValues graph) (Acceptable toLowerCase graph) item.depth item.value
  count : visited + (reached (childValues graph) JsValue.IsContainer
    (stack.map PendingValue.value)).encard ≤ 1000

theorem isContainer_of_mem_map {seen : List ref} {value : JsValue ref}
    (h : value ∈ seen.map JsValue.object) : value.IsContainer := by
  rcases List.mem_map.mp h with ⟨container, -, rfl⟩
  exact ⟨container, rfl⟩

theorem acceptable_of_not_isContainer {value : JsValue ref} {depth : Nat}
    (h : ¬ value.IsContainer) :
    Acceptable toLowerCase graph depth value ↔ value.IsPlainData := by
  have hno : ∀ container, value ≠ .object container := fun container hv => h ⟨container, hv⟩
  constructor
  · exact fun hacceptable => hacceptable.data
  · intro hdata
    constructor
    · exact hdata
    · exact fun container hv => absurd hv (hno container)
    · exact fun container hv => absurd hv (hno container)
    · exact fun container hv => absurd hv (hno container)

/-- A value that is no container is only looked at. -/
theorem acceptedFrom_leaf {seen : List ref} {visited : Nat} {current : PendingValue ref}
    {pending : List (PendingValue ref)} (h : ¬ current.value.IsContainer) :
    AcceptedFrom toLowerCase graph seen visited (current :: pending) ↔
      current.value.IsPlainData ∧ AcceptedFrom toLowerCase graph seen visited pending := by
  have hleaf : childValues graph current.value = [] := childValues_of_not_isContainer h
  have hforest := Forest.cons_leaf (seen.map JsValue.object) (pending.map PendingValue.value) h
    hleaf fun s hs => isContainer_of_mem_map hs
  have hreached := reached_cons_leaf (pending.map PendingValue.value) h hleaf
  have heach : EachAt (childValues graph) (Acceptable toLowerCase graph) current.depth
      current.value ↔ current.value.IsPlainData := by
    rw [eachAt_iff, acceptable_of_not_isContainer h, hleaf]
    simp
  constructor
  · intro haccepted
    refine ⟨heach.mp (haccepted.each current List.mem_cons_self), ?_, ?_, ?_⟩
    · exact hforest.mp haccepted.forest
    · exact fun item hitem => haccepted.each item (List.mem_cons_of_mem current hitem)
    · rw [← hreached]
      exact haccepted.count
  · rintro ⟨hdata, haccepted⟩
    constructor
    · exact hforest.mpr haccepted.forest
    · intro item hitem
      rcases List.mem_cons.mp hitem with rfl | hitem
      · exact heach.mpr hdata
      · exact haccepted.each item hitem
    · rw [List.map_cons, hreached]
      exact haccepted.count

/-- A container is checked and replaced by its children. -/
theorem acceptedFrom_object {seen : List ref} {visited : Nat} {current : PendingValue ref}
    {container : ref} {pending : List (PendingValue ref)}
    (hvalue : current.value = .object container) :
    AcceptedFrom toLowerCase graph seen visited (current :: pending) ↔
      container ∉ seen ∧ (visited + 1 ≤ 1000 ∧ current.depth ≤ 12) ∧ (graph container).IsPlain ∧
        (∀ entry ∈ (graph container).entries, isForbiddenKey toLowerCase entry.1 = false) ∧
        AcceptedFrom toLowerCase graph (container :: seen) (visited + 1)
          (pushedEntries current.path current.depth (graph container).entries ++ pending) := by
  obtain ⟨value, path, depth⟩ := current
  obtain rfl : value = .object container := hvalue
  have hmark : (JsValue.object container).IsContainer := ⟨container, rfl⟩
  have hseen : JsValue.object container ∈ seen.map JsValue.object ↔ container ∈ seen := by
    simp
  have hperm := List.reverse_perm (childValues graph (.object container))
  have hforest := Forest.cons_marked (seen.map JsValue.object) (pending.map PendingValue.value)
    hmark hperm
  have hreached := reached_cons_marked (pending.map PendingValue.value) hmark hperm
  rw [hseen, ← List.map_cons, ← pushedEntries_values graph path depth] at hforest
  rw [← pushedEntries_values graph path depth] at hreached
  -- the container itself is counted apart from what is below it
  have hcount : Forest (childValues graph) JsValue.IsContainer
      ((container :: seen).map JsValue.object)
      ((pushedEntries path depth (graph container).entries ++ pending).map PendingValue.value) →
      (visited : ℕ∞) + (reached (childValues graph) JsValue.IsContainer
        (.object container :: pending.map PendingValue.value)).encard =
      (visited + 1 : ℕ) + (reached (childValues graph) JsValue.IsContainer
        ((pushedEntries path depth (graph container).entries ++ pending).map
          PendingValue.value)).encard := by
    intro h
    have hnew := h.notMem_reached (List.mem_map_of_mem List.mem_cons_self)
    rw [hreached, Set.encard_insert_of_notMem hnew, Nat.cast_succ, add_assoc,
      add_comm (1 : ℕ∞)]
  constructor
  · intro h
    obtain ⟨hnew, hbelow⟩ := hforest.mp h.forest
    obtain ⟨hroot, hchildren⟩ := eachAt_iff.mp (h.each _ List.mem_cons_self)
    have hle := h.count
    rw [List.map_cons, hcount hbelow] at hle
    have hvisited : ((visited + 1 : ℕ) : ℕ∞) ≤ (1000 : ℕ) := le_self_add.trans hle
    refine ⟨hnew, ⟨Nat.cast_le.mp hvisited, hroot.depth container rfl⟩, hroot.plain container rfl,
      hroot.keys container rfl, hbelow, ?_, hle⟩
    intro item hitem
    rcases List.mem_append.mp hitem with hitem | hitem
    · rcases List.mem_map.mp (List.mem_reverse.mp hitem) with ⟨entry, hentry, rfl⟩
      exact hchildren entry.2 (List.mem_map_of_mem hentry)
    · exact h.each item (List.mem_cons_of_mem _ hitem)
  · rintro ⟨hnew, ⟨-, hdepth⟩, hplain, hkeys, h⟩
    constructor
    · exact hforest.mpr ⟨hnew, h.forest⟩
    · intro item hitem
      rcases List.mem_cons.mp hitem with rfl | hitem
      · refine eachAt_iff.mpr ⟨⟨trivial, ?_, ?_, ?_⟩, fun child hchild => ?_⟩
        · rintro _ ⟨⟩
          exact hplain
        · exact fun _ _ => hdepth
        · rintro _ ⟨⟩
          exact hkeys
        · rcases List.mem_map.mp hchild with ⟨entry, hentry, rfl⟩
          exact h.each ⟨entry.2, path ++ "." ++ entry.1, depth + 1⟩ (List.mem_append_left _
            (List.mem_reverse.mpr (List.mem_map_of_mem hentry)))
      · exact h.each item (List.mem_append_right _ hitem)
    · rw [List.map_cons, hcount h.forest]
      exact h.count

/-- What the loop does with a value that is no container. -/
theorem acceptedFrom_of_data {seen : List ref} {visited : Nat} {current : PendingValue ref}
    {pending : List (PendingValue ref)} (hleaf : ¬ current.value.IsContainer)
    (hdata : current.value.IsPlainData) :
    AcceptedFrom toLowerCase graph seen visited pending ↔
      AcceptedFrom toLowerCase graph seen visited (current :: pending) := by
  rw [acceptedFrom_leaf hleaf]
  exact ⟨fun h => ⟨hdata, h⟩, fun h => h.2⟩

theorem error_iff {error : MarketplaceDomainError} {p : Prop} (h : ¬ p) :
    (.error error : Checked Unit) = .ok () ↔ p := by
  simp [h]

theorem error_iff_acceptedFrom {seen : List ref} {visited : Nat} {current : PendingValue ref}
    {pending : List (PendingValue ref)} {error : MarketplaceDomainError}
    (hleaf : ¬ current.value.IsContainer) (hdata : ¬ current.value.IsPlainData) :
    (.error error : Checked Unit) = .ok () ↔
      AcceptedFrom toLowerCase graph seen visited (current :: pending) := by
  rw [acceptedFrom_leaf hleaf]
  exact error_iff fun h => hdata h.1

theorem not_isContainer {value : JsValue ref} (h : ∀ container, value ≠ .object container) :
    ¬ value.IsContainer := by
  rintro ⟨container, hvalue⟩
  exact h container hvalue

/-- What the loop accepts from a stack. -/
theorem assertSafeInputFrom_eq_ok [DecidableEq ref] {seen : List ref} {visited : Nat}
    {stack : List (PendingValue ref)} (hvisited : visited ≤ 1000) :
    assertSafeInputFrom toLowerCase graph seen visited stack = .ok () ↔
      AcceptedFrom toLowerCase graph seen visited stack := by
  fun_induction assertSafeInputFrom toLowerCase graph seen visited stack with
  | case1 seen visited =>
      refine ⟨fun _ => ⟨.nil _, fun _ hitem => absurd hitem List.not_mem_nil, ?_⟩, fun _ => rfl⟩
      rw [List.map_nil, reached_nil, Set.encard_empty, add_zero]
      exact Nat.cast_le.mpr hvisited
  | case2 seen visited current pending hvalue ih =>
      rw [ih hvisited]
      refine acceptedFrom_of_data (not_isContainer ?_) ?_ <;> simp [hvalue, JsValue.IsPlainData]
  | case3 seen visited current pending hvalue ih =>
      rw [ih hvisited]
      refine acceptedFrom_of_data (not_isContainer ?_) ?_ <;> simp [hvalue, JsValue.IsPlainData]
  | case4 seen visited current pending _ hvalue ih =>
      rw [ih hvisited]
      refine acceptedFrom_of_data (not_isContainer ?_) ?_ <;> simp [hvalue, JsValue.IsPlainData]
  | case5 seen visited current pending _ hvalue ih =>
      rw [ih hvisited]
      refine acceptedFrom_of_data (not_isContainer ?_) ?_ <;> simp [hvalue, JsValue.IsPlainData]
  | case6 seen visited current pending n hvalue hfinite ih =>
      rw [ih hvisited]
      refine acceptedFrom_of_data (not_isContainer ?_) ?_
      · simp [hvalue]
      · rw [hvalue]
        exact hfinite
  | case7 seen visited current pending n hvalue hfinite =>
      refine error_iff_acceptedFrom (not_isContainer ?_) ?_
      · simp [hvalue]
      · rw [hvalue]
        exact hfinite
  | case8 seen visited current pending _ hvalue =>
      refine error_iff_acceptedFrom (not_isContainer ?_) ?_ <;> simp [hvalue, JsValue.IsPlainData]
  | case9 seen visited current pending hvalue =>
      refine error_iff_acceptedFrom (not_isContainer ?_) ?_ <;> simp [hvalue, JsValue.IsPlainData]
  | case10 seen visited current pending hvalue =>
      refine error_iff_acceptedFrom (not_isContainer ?_) ?_ <;> simp [hvalue, JsValue.IsPlainData]
  | case11 seen visited current pending container hvalue hseen =>
      rw [acceptedFrom_object hvalue]
      exact error_iff fun h => h.1 hseen
  | case12 seen visited current pending container hvalue _ hlimits =>
      rw [acceptedFrom_object hvalue]
      refine error_iff fun h => ?_
      have hvisited' := h.2.1.1
      have hdepth := h.2.1.2
      omega
  | case13 seen visited current pending container hvalue _ _ error hprototype =>
      rw [acceptedFrom_object hvalue]
      refine error_iff fun h => ?_
      have hok : checkPrototype (graph container) current.path = .ok () :=
        checkPrototype_eq_ok.mpr h.2.2.1
      rw [hprototype] at hok
      cases hok
  | case14 seen visited current pending container hvalue _ _ _ error hentries =>
      rw [acceptedFrom_object hvalue]
      refine error_iff fun h => ?_
      have hok : pushEntries toLowerCase current.path current.depth (graph container).entries
          pending = .ok _ := pushEntries_eq_ok.mpr ⟨h.2.2.2.1, rfl⟩
      rw [hentries] at hok
      cases hok
  | case15 seen visited current pending container hvalue hnew hlimits hprototype pushed hentries
      ih =>
      obtain ⟨hkeys, rfl⟩ := pushEntries_eq_ok.mp hentries
      have hplain := checkPrototype_eq_ok.mp hprototype
      have hbounds : visited + 1 ≤ 1000 ∧ current.depth ≤ 12 := by omega
      rw [acceptedFrom_object hvalue, ih hbounds.1]
      exact ⟨fun h => ⟨hnew, hbounds, hplain, hkeys, h⟩, fun h => h.2.2.2.2⟩

/--
The check ends on every graph of values, and accepts a value exactly when what it reaches is a
tree of at most a thousand arrays and plain objects, none deeper than twelve below the root and
none with a forbidden key, and otherwise strings, booleans, null, undefined and finite numbers.
-/
theorem assertSafeInput_accepts_safe_trees [DecidableEq ref] (toLowerCase : String → String)
    (graph : ValueGraph ref) (value : JsValue ref) :
    assertSafeInput toLowerCase graph value = .ok () ↔ IsSafeTree toLowerCase graph value := by
  rw [assertSafeInput, assertSafeInputFrom_eq_ok (Nat.zero_le _), isSafeTree_iff]
  constructor
  · intro h
    refine ⟨forest_singleton.mp h.forest, h.each _ (List.mem_singleton_self _), ?_⟩
    have hcount := h.count
    rwa [Nat.cast_zero, zero_add] at hcount
  · rintro ⟨htree, heach, hcount⟩
    constructor
    · exact forest_singleton.mpr htree
    · intro item hitem
      rw [List.mem_singleton.mp hitem]
      exact heach
    · rwa [Nat.cast_zero, zero_add]

end Trees

end Domain
end TokenStreaming
