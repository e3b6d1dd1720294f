import TokenStreaming.Foundation.IsoInstant

/-!
# Control plane - Identities, digests and credential encryption

Cryptography is symbolic: a digest records what was digested and a ciphertext
records its key, context and plaintext, so equal digests mean equal inputs and
only the right key opens a ciphertext.  Key rings list the readable key ids with
the active one first.

Main results:

- Theorem {lit}`decryptCredential_encryptCredential`: a credential sealed for a
  context opens in that context.
- Theorem {lit}`createCredentialLookupDigests_digest`: every lookup digest created
  for a token commits to that token.

Key material, its custody checks and the rate limiter are outside this model.
-/

namespace TokenStreaming
namespace Server

/-! ## Identities -/

/-- {lit}`RequestIdentity`.  Tenant ids are stable ids with the {lit}`tenant` prefix. -/
structure RequestIdentity where
  userId : String
  tenantId : String
  actorId : String
  isAdmin : Bool
  tenantId_ne_platform : tenantId ≠ "platform"

/-! ## Digests -/

/-- The digests the control plane stores. -/
inductive Digest where
  /-- {lit}`sha256Hex`. -/
  | sha256 (text : String)
  /-- The keyed lookup digest of a gateway token. -/
  | credentialLookup (keyId token : String)
  /-- {lit}`createDigestCommitment`. -/
  | commitment (purpose tenantId resourceId : String) (committed : Digest)
  /-- An HMAC signature under a gateway token. -/
  | hmac (key payload : String)
deriving DecidableEq

/-- The text of a digest where one is part of a composed key. -/
def Digest.hex : Digest → String
  | .sha256 text => "sha256(" ++ text ++ ")"
  | .credentialLookup keyId token => "lookup(" ++ keyId ++ "," ++ token ++ ")"
  | .commitment purpose tenantId resourceId committed =>
      "commitment(" ++ purpose ++ "," ++ tenantId ++ "," ++ resourceId ++ "," ++
        committed.hex ++ ")"
  | .hmac key payload => "hmac(" ++ key ++ "," ++ payload ++ ")"

/-- {lit}`sha256Hex`. -/
def sha256Hex (value : String) : Digest :=
  .sha256 value

/-- {lit}`DigestCommitmentContext`; {lit}`ContentEncryptionContext` has the same fields. -/
structure ContentContext where
  purpose : String
  tenantId : String
  resourceId : String
deriving DecidableEq

/-- A digest together with its format version. -/
structure DigestCommitment where
  digest : Digest
  version : Nat
deriving DecidableEq

def createDigestCommitment (sha256Digest : Digest) (context : ContentContext) :
    DigestCommitment where
  digest := .commitment context.purpose context.tenantId context.resourceId sha256Digest
  version := 2

/-! ## Key rings -/

/-- {lit}`LEGACY_CREDENTIAL_KEY_ID`. -/
def legacyCredentialKeyId : String := "legacy-credential-v2"

/-- {lit}`LEGACY_CREDENTIAL_LOOKUP_KEY_ID`. -/
def legacyCredentialLookupKeyId : String := "legacy-commitment-v2"

/-- A resolved key ring: the active key, then the other readable ones. -/
structure ResolvedKeyring where
  activeKeyId : String
  otherKeyIds : List String
deriving DecidableEq

/-- {lit}`keyIds`: all readable keys, the active one first. -/
def ResolvedKeyring.keyIds (keyring : ResolvedKeyring) : List String :=
  keyring.activeKeyId :: keyring.otherKeyIds

/-! ## Credential encryption -/

/-- {lit}`CredentialEncryptionContext`. -/
structure CredentialEncryptionContext where
  tenantId : String
  authorizationRequestId : String
deriving DecidableEq

/-- A stored ciphertext column; {lit}`cleared` is the empty text. -/
inductive Ciphertext where
  | cleared
  | sealed (keyId iv : String) (additionalData : List String) (plaintext : String)
deriving DecidableEq

/-- {lit}`encryptCredential` returns these columns. -/
structure EncryptedCredential where
  ciphertext : Ciphertext
  iv : String
  keyVersion : Nat
  keyId : String
deriving DecidableEq

def credentialAdditionalData (context : CredentialEncryptionContext) (keyVersion : Nat)
    (keyId : String) : List String :=
  [context.tenantId, context.authorizationRequestId, toString keyVersion, keyId]

/-- The format version that belongs to a credential key. -/
def credentialKeyVersion (keyId : String) : Nat :=
  if keyId = legacyCredentialKeyId then 2 else 3

def encryptCredential (keyring : ResolvedKeyring) (iv plaintext : String)
    (context : CredentialEncryptionContext) : EncryptedCredential :=
  let keyId := keyring.activeKeyId
  let keyVersion := credentialKeyVersion keyId
  { ciphertext :=
      .sealed keyId iv (credentialAdditionalData context keyVersion keyId) plaintext
    iv
    keyVersion
    keyId }

/-- The key version fits the key id. -/
def validKeyVersion (keyVersion : Nat) (keyId : String) : Bool :=
  if keyId = legacyCredentialKeyId then keyVersion == 1 || keyVersion == 2 else keyVersion == 3

/-- Version 1 ciphertexts carry no additional data. -/
def expectedAdditionalData (encrypted : EncryptedCredential)
    (context : CredentialEncryptionContext) : List String :=
  if encrypted.keyVersion = 1 then []
  else credentialAdditionalData context encrypted.keyVersion encrypted.keyId

/-- {lit}`decryptCredential`; {lit}`none` is a thrown error. -/
def decryptCredential (keyring : ResolvedKeyring) (encrypted : EncryptedCredential)
    (context : CredentialEncryptionContext) : Option String :=
  match encrypted.ciphertext with
  | .cleared => none
  | .sealed keyId iv additionalData plaintext =>
      if validKeyVersion encrypted.keyVersion encrypted.keyId &&
          keyring.keyIds.contains encrypted.keyId && keyId == encrypted.keyId &&
          iv == encrypted.iv &&
          additionalData == expectedAdditionalData encrypted context then
        some plaintext
      else none

theorem validKeyVersion_credentialKeyVersion (keyId : String) :
    validKeyVersion (credentialKeyVersion keyId) keyId = true := by
  unfold validKeyVersion credentialKeyVersion
  split <;> simp

theorem credentialKeyVersion_ne_one (keyId : String) : credentialKeyVersion keyId ≠ 1 := by
  unfold credentialKeyVersion
  split <;> decide

/-- A sealed credential opens in its own context. -/
theorem decryptCredential_encryptCredential (keyring : ResolvedKeyring) (iv plaintext : String)
    (context : CredentialEncryptionContext) :
    decryptCredential keyring (encryptCredential keyring iv plaintext context) context =
      some plaintext := by
  simp [decryptCredential, encryptCredential, validKeyVersion_credentialKeyVersion,
    credentialKeyVersion_ne_one, expectedAdditionalData, ResolvedKeyring.keyIds]

/-- The plaintext behind a stored credential, whoever may read it. -/
def Ciphertext.plaintext? : Ciphertext → Option String
  | .cleared => none
  | .sealed _ _ _ plaintext => some plaintext

/-- Decryption returns the sealed plaintext or nothing. -/
theorem decryptCredential_eq_some {keyring : ResolvedKeyring} {encrypted : EncryptedCredential}
    {context : CredentialEncryptionContext} {plaintext : String}
    (h : decryptCredential keyring encrypted context = some plaintext) :
    encrypted.ciphertext.plaintext? = some plaintext := by
  unfold decryptCredential at h
  split at h
  · simp at h
  · rename_i keyId iv additionalData text hciphertext
    split at h
    · rw [hciphertext]
      exact h
    · simp at h

/-! ## Credential lookup -/

/-- {lit}`CredentialLookupDigest`. -/
structure CredentialLookupDigest where
  digest : Digest
  version : Nat
  keyId : String
deriving DecidableEq

/-- The lookup digest of a token under one key. -/
def credentialLookupDigest (token keyId : String) : CredentialLookupDigest where
  digest := .credentialLookup keyId token
  version := if keyId = legacyCredentialLookupKeyId then 2 else 3
  keyId

/-- {lit}`createCredentialLookupDigests`: one digest for every readable key. -/
def createCredentialLookupDigests (keyring : ResolvedKeyring) (token : String) :
    List CredentialLookupDigest :=
  keyring.keyIds.map (credentialLookupDigest token)

/-- {lit}`createCredentialLookupDigest`: the digest under the active key. -/
def createCredentialLookupDigest (keyring : ResolvedKeyring) (token : String) :
    CredentialLookupDigest :=
  credentialLookupDigest token keyring.activeKeyId

theorem createCredentialLookupDigest_mem (keyring : ResolvedKeyring) (token : String) :
    createCredentialLookupDigest keyring token ∈ createCredentialLookupDigests keyring token := by
  simp [createCredentialLookupDigest, createCredentialLookupDigests, ResolvedKeyring.keyIds]

/-- Every digest created for a token commits to that token. -/
theorem createCredentialLookupDigests_digest {keyring : ResolvedKeyring} {token : String}
    {lookup : CredentialLookupDigest}
    (h : lookup ∈ createCredentialLookupDigests keyring token) :
    lookup = credentialLookupDigest token lookup.keyId := by
  rcases List.mem_map.mp h with ⟨keyId, -, rfl⟩
  rfl

/-! ## Content encryption -/

/-- {lit}`encryptContent`: content is sealed under the one content key. -/
def encryptContent (iv plaintext : String) (context : ContentContext) : Ciphertext :=
  .sealed "content" iv [context.purpose, context.tenantId, context.resourceId] plaintext

/-- {lit}`encryptContent` writes key version 2. -/
def contentKeyVersion : Nat := 2

/-- {lit}`decryptContent`: version 1 content is sealed under the legacy credential key. -/
def decryptContent (ciphertext : Ciphertext) (iv : String) (keyVersion : Nat)
    (context : ContentContext) : Option String :=
  match ciphertext with
  | .cleared => none
  | .sealed keyId sealedIv additionalData plaintext =>
      let opens :=
        if keyVersion = 1 then keyId == legacyCredentialKeyId && additionalData == []
        else keyVersion == contentKeyVersion && keyId == "content" &&
          additionalData == [context.purpose, context.tenantId, context.resourceId]
      if opens && sealedIv == iv then some plaintext else none

/-- Sealed content opens in its own context. -/
theorem decryptContent_encryptContent (iv plaintext : String) (context : ContentContext) :
    decryptContent (encryptContent iv plaintext context) iv contentKeyVersion context =
      some plaintext := by
  simp [decryptContent, encryptContent, contentKeyVersion]

end Server
end TokenStreaming
