import Mathlib.Data.List.Sort
import TokenStreaming.Domain.Validation
import TokenStreaming.Foundation.Json

/-!
# Server - Versioned keyrings

{lit}`resolveVersionedKeyring` merges the keys of a JSON ring, of one legacy variable and of
the slots that a manifest names.  The manifest has a canonical text, in which the keys stand in
the order of the platform's collation.

The collation orders key ids totally.  A number of the manifest that is no integer in decimal
is read as the nearest double; which integer that is, if it is one, is left to the platform.
-/

namespace TokenStreaming
namespace Server
namespace Keyring

open Domain Json

def MAX_VERSIONED_KEYRING_KEYS : Nat := 8

def KEYRING_MANIFEST_SCHEMA : String :=
  "gongsuanyun.keyring-manifest.v1"

/-! ## Errors and patterns -/

inductive ConfigurationReason where
  | invalid
  | capacity
deriving DecidableEq

structure KeyringConfigurationError where
  message : String
  reason : ConfigurationReason := .invalid
deriving DecidableEq

abbrev Resolved (α : Type) := Except KeyringConfigurationError α

def invalid {α : Type} (message : String) : Resolved α :=
  .error { message }

def capacityExceeded {α : Type} : Resolved α :=
  .error { message := "keyring capacity is exhausted", reason := .capacity }

/-- Throw unless the condition holds. -/
def require (condition : Bool) (message : String) : Resolved Unit :=
  if condition then .ok () else invalid message

def isLowerAlphanumeric (c : Char) : Bool :=
  ('a' ≤ c && c ≤ 'z') || ('0' ≤ c && c ≤ '9')

/-- {lit}`KEY_ID_PATTERN`. -/
def isKeyId (value : String) : Bool :=
  match value.toList with
  | [] => false
  | first :: rest =>
      isLowerAlphanumeric first && rest.length ≤ 47 &&
        rest.all fun c => isLowerAlphanumeric c || c ∈ ['.', '_', '-']

def isBase64Char (c : Char) : Bool :=
  isAsciiAlphanumeric c || c == '+' || c == '/'

/-- {lit}`BASE64_256_BIT_KEY_PATTERN`. -/
def isBase64Key (value : String) : Bool :=
  let chars := value.toList
  chars.length == 44 && (chars.take 43).all isBase64Char && chars.drop 43 == ['=']

/-- {lit}`LEGACY_UNPADDED_256_BIT_KEY_PATTERN`. -/
def isUnpaddedBase64Key (value : String) : Bool :=
  value.toList.length == 43 && value.toList.all isBase64Char

/-- {lit}`VERIFIER_PATTERN`. -/
def isVerifier (value : String) : Bool :=
  value.toList.length == 64 &&
    value.toList.all fun c => ('a' ≤ c && c ≤ 'f') || ('0' ≤ c && c ≤ '9')

/-- {lit}`/^(0[1-8])$/`. -/
def isSlot (value : String) : Bool :=
  value ∈ ["01", "02", "03", "04", "05", "06", "07", "08"]

def validateKeyId (value : String) : Resolved Unit :=
  require (isKeyId value) "key id is invalid"

/-! ## Key material -/

/-- The value of a character of the base64 alphabet. -/
def sextet (c : Char) : Nat :=
  if 'A' ≤ c ∧ c ≤ 'Z' then c.toNat - 65
  else if 'a' ≤ c ∧ c ≤ 'z' then c.toNat - 71
  else if '0' ≤ c ∧ c ≤ '9' then c.toNat + 4
  else if c = '+' then 62
  else 63

/-- The bytes of a text of the alphabet without padding, as {lit}`atob` decodes it. -/
def base64Bytes : List Nat → List UInt8
  | a :: b :: c :: d :: rest =>
      UInt8.ofNat (a * 4 + b / 16) :: UInt8.ofNat (b % 16 * 16 + c / 4) ::
        UInt8.ofNat (c % 4 * 64 + d) :: base64Bytes rest
  | [a, b, c] => [UInt8.ofNat (a * 4 + b / 16), UInt8.ofNat (b % 16 * 16 + c / 4)]
  | [a, b] => [UInt8.ofNat (a * 4 + b / 16)]
  | _ => []

def decodeKey (value : String) : Resolved (List UInt8) := do
  require (isBase64Key value) "key material is not canonical base64"
  let bytes := base64Bytes ((value.toList.take 43).map sextet)
  require (bytes.length == 32) "key material is not 256 bits"
  return bytes

def hexByte (byte : UInt8) : List Char :=
  [Nat.digitChar (byte.toNat / 16), Nat.digitChar (byte.toNat % 16)]

def bytesToHex (value : List UInt8) : String :=
  .ofList (value.flatMap hexByte)

def normalizeLegacyKey (value : String) : String :=
  if value.isEmpty || isBase64Key value then value
  else if isUnpaddedBase64Key value then value ++ "="
  else value

/-! ## The JSON ring -/

def isRecord : JsonValue → Option (List (String × JsonValue))
  | .object members => some members
  | _ => none

def hasExactKeys (members : List (String × JsonValue)) (expected : List String) : Bool :=
  members.length == expected.length && members.all fun m => m.1 ∈ expected

/-- The text is a canonical array index. -/
def isArrayIndex (key : String) : Bool :=
  match key.toList with
  | ['0'] => true
  | '0' :: _ => false
  | digits => !digits.isEmpty && digits.all Char.isDigit &&
      Nat.ofDigitChars 10 digits 0 < 4294967295

/-- The order in which an object lists its members: array indices by value, then the others as
they were created. -/
def objectOrder {α : Type} (members : List (String × α)) : List (String × α) :=
  (members.filter fun m => isArrayIndex m.1).insertionSort
      (fun a b => Nat.ofDigitChars 10 a.1.toList 0 ≤ Nat.ofDigitChars 10 b.1.toList 0) ++
    members.filter fun m => !isArrayIndex m.1

def stringOf (value : Option JsonValue) (message : String) : Resolved String :=
  match value with
  | some (.string text) => .ok text
  | _ => invalid message

def recordOf (value : Option JsonValue) (message : String) :
    Resolved (List (String × JsonValue)) :=
  match value.bind isRecord with
  | some members => .ok members
  | none => invalid message

def boolOf (value : Option JsonValue) (message : String) : Resolved Bool :=
  match value with
  | some (.bool b) => .ok b
  | _ => invalid message

/-- The members of a text that is an object with exactly the expected keys. -/
def parseRecord (serialized : String) (expected : List String) (size syntaxError shape : String) :
    Resolved (List (String × JsonValue)) := do
  require (2 ≤ utf16Length serialized && utf16Length serialized ≤ 8192) size
  match parse serialized.toList with
  | none => invalid syntaxError
  | some value => do
      let members ← recordOf (some value) shape
      require (hasExactKeys members expected) shape
      return members

structure ParsedKeyring where
  active : String
  keys : InsertionMap String String

/-- One entry of the ring. -/
def addKey (keys : InsertionMap String String) (entry : String × JsonValue) :
    Resolved (InsertionMap String String) := do
  validateKeyId entry.1
  let encoded ← stringOf (some entry.2) "encoded key material is invalid"
  return keys.set entry.1 encoded

def parseKeyringJson (serialized : String) : Resolved ParsedKeyring := do
  let members ← parseRecord serialized ["active", "keys"] "keyring JSON size is invalid"
    "keyring JSON is invalid" "keyring JSON shape is invalid"
  let active ← stringOf (members.lookup "active") "active key id is invalid"
  validateKeyId active
  let keys ← recordOf (members.lookup "keys") "keyring keys are invalid"
  if keys.length > MAX_VERSIONED_KEYRING_KEYS then
    capacityExceeded
  else do
    require (1 ≤ keys.length) "keyring key count is invalid"
    let keys ← (objectOrder keys).foldlM addKey .empty
    return { active, keys }

/-! ## The manifest of the slots -/

inductive VersionedKeyState where
  | staged
  | readable
deriving DecidableEq

def VersionedKeyState.text : VersionedKeyState → String
  | .staged => "staged"
  | .readable => "readable"

structure SlotEntry where
  slot : String
  state : VersionedKeyState
  verifier : String
deriving DecidableEq

structure KeySources where
  composite : Bool
  legacyAlias : Bool
deriving DecidableEq

structure ParsedSlotManifest where
  active : String
  generation : Nat
  sources : KeySources
  keys : InsertionMap String SlotEntry
  canonical : String

/-- What the platform decides: the order of texts, which on key ids has no ties, and the
integer to which a fractional number of a JSON text is rounded. -/
structure Platform where
  /-- {lit}`left.localeCompare(right) <= 0`. -/
  localeLe : String → String → Bool
  total : ∀ a b, localeLe a b = true ∨ localeLe b a = true
  trans : ∀ a b c, localeLe a b = true → localeLe b c = true → localeLe a c = true
  antisymm : ∀ a b, isKeyId a = true → isKeyId b = true → localeLe a b = true →
    localeLe b a = true → a = b
  roundedInteger : List Char → Option Int

variable (platform : Platform)

def integerOf : JsonValue → Option Int
  | .number n => some n
  | .decimal text => platform.roundedInteger text
  | _ => none

def generationOf (value : Option JsonValue) : Resolved Nat :=
  match value.bind (integerOf platform) with
  | some n =>
      if 1 ≤ n ∧ n ≤ maxSafeInteger then .ok n.toNat
      else invalid "key slot manifest generation is invalid"
  | none => invalid "key slot manifest generation is invalid"

def stateOf (value : Option JsonValue) : Resolved VersionedKeyState :=
  match value with
  | some (.string "staged") => .ok .staged
  | some (.string "readable") => .ok .readable
  | _ => invalid "key slot state is invalid"

/-- The keys and the slots in use. -/
structure SlotKeys where
  keys : InsertionMap String SlotEntry
  usedSlots : List String

/-- One entry of the manifest. -/
def addSlot (slots : SlotKeys) (entry : String × JsonValue) : Resolved SlotKeys := do
  validateKeyId entry.1
  let members ← recordOf (some entry.2) "key slot manifest entry shape is invalid"
  require (hasExactKeys members ["slot", "state", "verifier"])
    "key slot manifest entry shape is invalid"
  let slot ← stringOf (members.lookup "slot") "key slot number is invalid"
  require (isSlot slot) "key slot number is invalid"
  require (slot ∉ slots.usedSlots) "key slot is assigned more than once"
  let state ← stateOf (members.lookup "state")
  let verifier ← stringOf (members.lookup "verifier") "key slot verifier is invalid"
  require (isVerifier verifier) "key slot verifier is invalid"
  return { keys := slots.keys.set entry.1 { slot, state, verifier }
           usedSlots := slots.usedSlots ++ [slot] }

def SlotEntry.toJson (entry : SlotEntry) : JsonValue :=
  .object [("slot", .string entry.slot), ("state", .string entry.state.text),
    ("verifier", .string entry.verifier)]

/-- The entries in the order in which the canonical text has them. -/
def canonicalOrder (keys : InsertionMap String SlotEntry) : List (String × SlotEntry) :=
  objectOrder (keys.entries.insertionSort fun a b => platform.localeLe a.1 b.1)

def canonicalJson (generation : Nat) (active : String) (sources : KeySources)
    (keys : InsertionMap String SlotEntry) : JsonValue :=
  .object
    [("schema", .string KEYRING_MANIFEST_SCHEMA), ("generation", .number generation),
      ("active", .string active),
      ("sources", .object
        [("composite", .bool sources.composite), ("legacyAlias", .bool sources.legacyAlias)]),
      ("keys", .object ((canonicalOrder platform keys).map fun e => (e.1, e.2.toJson)))]

def parseSlotManifest (serialized : String) : Resolved ParsedSlotManifest := do
  let members ← parseRecord serialized ["schema", "generation", "active", "sources", "keys"]
    "key slot manifest size is invalid" "key slot manifest JSON is invalid"
    "key slot manifest shape is invalid"
  let schema ← stringOf (members.lookup "schema") "key slot manifest schema is invalid"
  require (schema == KEYRING_MANIFEST_SCHEMA) "key slot manifest schema is invalid"
  let active ← stringOf (members.lookup "active") "active key id is invalid"
  validateKeyId active
  let generation ← generationOf platform (members.lookup "generation")
  let flags ← recordOf (members.lookup "sources") "key slot manifest sources are invalid"
  require (hasExactKeys flags ["composite", "legacyAlias"])
    "key slot manifest sources are invalid"
  let composite ← boolOf (flags.lookup "composite") "key slot manifest source flags are invalid"
  let legacyAlias ← boolOf (flags.lookup "legacyAlias")
    "key slot manifest source flags are invalid"
  let keys ← recordOf (members.lookup "keys") "key slot manifest keys are invalid"
  if keys.length > MAX_VERSIONED_KEYRING_KEYS then
    capacityExceeded
  else do
    let slots ← (objectOrder keys).foldlM addSlot { keys := .empty, usedSlots := [] }
    let sources : KeySources := { composite, legacyAlias }
    return { active, generation, sources, keys := slots.keys
             canonical := .ofList
               (render (canonicalJson platform generation active sources slots.keys)) }

/-! ## Resolution -/

inductive VersionedKeyringDomain where
  | credentialEncryption
  | credentialLookup
deriving DecidableEq

inductive VersionedKeySource where
  | composite
  | legacyAlias
  | slot
deriving DecidableEq

structure VersionedKeyMetadata where
  keyId : String
  source : VersionedKeySource
  state : VersionedKeyState
  slot : Option String
  expectedVerifier : Option String
deriving DecidableEq

structure ResolveVersionedKeyringInput where
  domain : VersionedKeyringDomain
  serialized : Option String := none
  slotManifest : Option String := none
  /-- Index zero is slot 01. -/
  slotKeys : List (Option String) := []
  legacyKey : Option String := none
  legacyKeyId : String
  developmentKey : Option String := none
  legacyAliasEnabled : Option Bool := none

/-- The keyring with the two maps that its methods read. -/
structure ResolvedVersionedKeyring where
  domain : VersionedKeyringDomain
  activeKeyId : String
  keyIds : List String
  stagedKeyIds : List String
  configurationGeneration : Option Nat
  canonicalManifest : Option String
  slotKeyCount : Nat
  metadata : InsertionMap String VersionedKeyMetadata
  decoded : InsertionMap String (List UInt8)

def readableMetadata (keyId : String) (source : VersionedKeySource) : VersionedKeyMetadata where
  keyId := keyId
  source := source
  state := .readable
  slot := none
  expectedVerifier := none

/-- A text that is set and not empty. -/
def present (value : Option String) : Option String :=
  value.filter fun text => !text.isEmpty

/-- What the enabled sources of an input are read to. -/
structure EnabledSources where
  manifest : Option ParsedSlotManifest
  composite : Option ParsedKeyring
  legacyKey : Option String

/-- Read a text that may be missing. -/
def parseOptional {α : Type} (parser : String → Resolved α) (value : Option String) :
    Resolved (Option α) :=
  match value with
  | none => .ok none
  | some text => (parser text).map some

/-- The first part of {lit}`resolveVersionedKeyring`. -/
def enabledSources (input : ResolveVersionedKeyringInput) : Resolved EnabledSources := do
  validateKeyId input.legacyKeyId
  let manifest ← parseOptional (parseSlotManifest platform) (present input.slotManifest)
  require ((manifest.bind fun m => input.legacyAliasEnabled.map fun enabled =>
      m.sources.legacyAlias == enabled).getD true)
    "legacy alias policy conflicts with keyring manifest"
  let includeComposite := (manifest.map fun m => m.sources.composite).getD true
  let includeLegacyAlias := (manifest.map fun m => m.sources.legacyAlias).getD
    (input.legacyAliasEnabled.getD true)
  let composite ← parseOptional parseKeyringJson
    (if includeComposite then present input.serialized else none)
  let legacyKey := if includeLegacyAlias then
      (present (input.legacyKey <|> input.developmentKey)).map normalizeLegacyKey
    else none
  return { manifest, composite, legacyKey }

/-- The maps that the sources are merged into. -/
structure MergedKeys where
  encoded : InsertionMap String String
  metadata : InsertionMap String VersionedKeyMetadata

def MergedKeys.empty : MergedKeys where
  encoded := .empty
  metadata := .empty

def mergeEncodedKey (encoded : InsertionMap String String) (keyId material : String) :
    Resolved (InsertionMap String String) := do
  validateKeyId keyId
  require ((encoded.get keyId).all fun existing => existing.isEmpty ||
      normalizeLegacyKey existing == normalizeLegacyKey material)
    "key id conflicts across keyring sources"
  return encoded.set keyId material

/-- A key of the JSON ring. -/
def mergeComposite (keys : MergedKeys) (entry : String × String) : Resolved MergedKeys := do
  let encoded ← mergeEncodedKey keys.encoded entry.1 entry.2
  return { encoded
           metadata := keys.metadata.set entry.1 (readableMetadata entry.1 .composite) }

/-- The legacy key. -/
def mergeLegacy (legacyKeyId : String) (keys : MergedKeys) (material : String) :
    Resolved MergedKeys := do
  let encoded ← mergeEncodedKey keys.encoded legacyKeyId material
  let metadata := if keys.metadata.has legacyKeyId then keys.metadata
    else keys.metadata.set legacyKeyId (readableMetadata legacyKeyId .legacyAlias)
  return { encoded, metadata }

/-- The value of a slot. -/
def slotValue (slotKeys : List (Option String)) (slot : String) : Option String :=
  present (slotKeys[Nat.ofDigitChars 10 slot.toList 0 - 1]?.join)

/-- A key of the manifest. -/
def mergeSlot (slotKeys : List (Option String)) (keys : MergedKeys)
    (entry : String × SlotEntry) : Resolved MergedKeys := do
  match slotValue slotKeys entry.2.slot with
  | none => invalid "configured key slot is unavailable"
  | some value => do
      let encoded ← mergeEncodedKey keys.encoded entry.1 value
      let isReadable := (keys.metadata.get entry.1).any fun previous =>
        previous.state == .readable
      return { encoded
               metadata := keys.metadata.set entry.1
                 { keyId := entry.1
                   source := .slot
                   state := if isReadable then .readable else entry.2.state
                   slot := some entry.2.slot
                   expectedVerifier := some entry.2.verifier } }

def mergeSources (input : ResolveVersionedKeyringInput) (sources : EnabledSources) :
    Resolved MergedKeys := do
  let keys ← ((sources.composite.map fun ring => ring.keys.entries).getD []).foldlM
    mergeComposite .empty
  let keys ← sources.legacyKey.toList.foldlM (mergeLegacy input.legacyKeyId) keys
  ((sources.manifest.map fun m => m.keys.entries).getD []).foldlM (mergeSlot input.slotKeys) keys

/-- The decoded keys and the ids that own their bytes. -/
structure DecodedKeys where
  decoded : InsertionMap String (List UInt8)
  materialOwners : InsertionMap String String

def addDecoded (keys : DecodedKeys) (entry : String × String) : Resolved DecodedKeys := do
  validateKeyId entry.1
  let bytes ← decodeKey entry.2
  let fingerprint := bytesToHex bytes
  require ((keys.materialOwners.get fingerprint).all fun owner =>
      owner.isEmpty || owner == entry.1)
    "duplicate key material is assigned to multiple ids"
  return { decoded := keys.decoded.set entry.1 bytes
           materialOwners := keys.materialOwners.set fingerprint entry.1 }

def idsInState (state : VersionedKeyState)
    (metadata : InsertionMap String VersionedKeyMetadata) : List String :=
  ((metadata.entries.map Prod.snd).filter fun entry => entry.state == state).map
    VersionedKeyMetadata.keyId

/-- Ids are ASCII, so their order is that of their characters. -/
def sortIds (ids : List String) : List String :=
  ids.insertionSort fun a b => a ≤ b

def resolveVersionedKeyring (input : ResolveVersionedKeyringInput) :
    Resolved ResolvedVersionedKeyring := do
  let sources ← enabledSources platform input
  let merged ← mergeSources input sources
  require (merged.encoded.size != 0) "no key material is configured"
  if merged.encoded.size > MAX_VERSIONED_KEYRING_KEYS then
    capacityExceeded
  else do
    let activeKeyId := ((sources.manifest.map ParsedSlotManifest.active) <|>
      (sources.composite.map ParsedKeyring.active)).getD input.legacyKeyId
    validateKeyId activeKeyId
    require ((merged.metadata.get activeKeyId).any fun entry => entry.state == .readable)
      "active key id is not readable"
    let keys ← merged.encoded.entries.foldlM addDecoded
      { decoded := .empty, materialOwners := .empty }
    return {
      domain := input.domain
      activeKeyId
      keyIds := activeKeyId ::
        sortIds ((idsInState .readable merged.metadata).filter fun keyId => keyId ≠ activeKeyId)
      stagedKeyIds := sortIds (idsInState .staged merged.metadata)
      configurationGeneration := sources.manifest.map ParsedSlotManifest.generation
      canonicalManifest := sources.manifest.map ParsedSlotManifest.canonical
      slotKeyCount := (sources.manifest.map fun m => m.keys.size).getD 0
      metadata := merged.metadata
      decoded := keys.decoded }

namespace ResolvedVersionedKeyring

def allKeyIds (keyring : ResolvedVersionedKeyring) : List String :=
  keyring.keyIds ++ keyring.stagedKeyIds

/-- {lit}`requireMetadata`. -/
def keyMetadata (keyring : ResolvedVersionedKeyring) (keyId : String) :
    Resolved VersionedKeyMetadata := do
  validateKeyId keyId
  match keyring.metadata.get keyId with
  | some entry => .ok entry
  | none => invalid "referenced key id is unavailable"

def requireKeyBytes (keyring : ResolvedVersionedKeyring) (keyId : String) :
    Resolved (List UInt8) :=
  match keyring.decoded.get keyId with
  | some bytes => .ok bytes
  | none => invalid "referenced key id is unavailable"

def keyBytes (keyring : ResolvedVersionedKeyring) (keyId : String) : Resolved (List UInt8) := do
  let entry ← keyring.keyMetadata keyId
  require (entry.state == .readable) "staged key material is not operationally readable"
  keyring.requireKeyBytes keyId

def verificationKeyBytes (keyring : ResolvedVersionedKeyring) (keyId : String) :
    Resolved (List UInt8) := do
  let _ ← keyring.keyMetadata keyId
  keyring.requireKeyBytes keyId

end ResolvedVersionedKeyring

end Keyring
end Server
end TokenStreaming
