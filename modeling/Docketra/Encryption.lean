import Docketra.Lib.Base64
import Docketra.Lib.Checked
import Docketra.Text

/-!
# Encrypted fields

`security/encryption.local.provider.js` encrypts a text under a tenant's key and joins the parts of
the result, in base64, with colons; `security/encryption.service.js` decrypts a value when it
`looksEncrypted`. The ciphertext of AES-256-GCM is as long as the text, and the check asks that no
part is empty. So every payload is recognised but that of the empty text
(`looksEncrypted_encodePayload`), which `decrypt` returns as it is (`round_trip_iff`).
-/

namespace Docketra.Encryption

open Base64 Checked

/-- An error that is thrown. -/
inductive EncryptionError where
  | error (message : String)
  | forbidden (message : String)
  deriving DecidableEq, Repr

/-- The `message` of an error. -/
def EncryptionError.message : EncryptionError → String
  | .error message | .forbidden message => message

/-- The result of `aesgcmEncrypt`. -/
structure Sealed where
  iv : Bytes
  authTag : Bytes
  ciphertext : Bytes
  deriving DecidableEq

/-- A random initialisation vector. -/
structure Iv where
  bytes : Bytes
  length : bytes.length = 12

/-- AES-256-GCM, of which is used that decryption inverts encryption and how long its results are,
and what `toString('utf8')` makes of bytes that are no UTF-8. -/
structure Crypto where
  /-- The ciphertext and the tag, for a key, an initialisation vector and a plaintext. -/
  gcmSeal : Bytes → Bytes → Bytes → Bytes × Bytes
  /-- The plaintext, for a key, an initialisation vector, a tag and a ciphertext. -/
  gcmOpen : Bytes → Bytes → Bytes → Bytes → Option Bytes
  gcmOpen_gcmSeal : ∀ key iv plaintext,
    gcmOpen key iv (gcmSeal key iv plaintext).2 (gcmSeal key iv plaintext).1 = some plaintext
  ciphertext_length : ∀ key iv plaintext, (gcmSeal key iv plaintext).1.length = plaintext.length
  authTag_length : ∀ key iv plaintext, (gcmSeal key iv plaintext).2.length = 16
  replaceInvalid : Bytes → String

/-! ## Payloads -/

def PAYLOAD_VERSION : String := "v1"

/-- `split(':')`. -/
def split (value : String) : List (List Char) := value.toList.splitOn ':'

/-- `join(':')`. -/
def join (parts : List (List Char)) : String := String.ofList ([':'].intercalate parts)

/-- The three parts of a payload, in base64. -/
def encodedParts (payload : Sealed) : List (List Char) :=
  [encode payload.iv, encode payload.authTag, encode payload.ciphertext]

/-- `encodePayload`, with the version as a first part if there is one. -/
def encodePayload (payload : Sealed) (version : Option String) : String :=
  match version with
  | none => join (encodedParts payload)
  | some version => join (version.toList :: encodedParts payload)

/-- The parts that follow the version. -/
def dropVersion (parts : List (List Char)) : List (List Char) :=
  if parts.head? = some PAYLOAD_VERSION.toList then parts.drop 1 else parts

/-- The parts of a payload without its version. -/
def payloadParts (value : String) : List (List Char) := dropVersion (split value)

/-- `decodePayload`. -/
def decodePayload (encoded : String) : Except EncryptionError Sealed :=
  match payloadParts encoded with
  | [iv, authTag, ciphertext] =>
    .ok { iv := decode iv, authTag := decode authTag, ciphertext := decode ciphertext }
  | _ =>
    .error (.error "Invalid encrypted payload format. Expected [v1:]iv:authTag:ciphertext")

/-- The class `[A-Za-z0-9+/=]`. -/
def isBase64Char (c : Char) : Bool := c ∈ alphabet || c = '='

/-- A part is not empty and has base64 characters only. -/
def isSegment (part : List Char) : Bool := part ≠ [] && part.all isBase64Char

/-- `looksEncrypted`, on a string. -/
def looksEncrypted (value : String) : Bool :=
  (payloadParts value).length = 3 && (payloadParts value).all isSegment

/-! ## The provider -/

/-- `Buffer.from(s, 'utf8')`. -/
def utf8 (s : String) : Bytes := s.toByteArray.data.toList

section provider

variable (C : Crypto)

/-- `buffer.toString('utf8')`. -/
def ofUtf8 (bytes : Bytes) : String :=
  (String.fromUTF8? ⟨bytes.toArray⟩).getD (C.replaceInvalid bytes)

/-- `aesgcmEncrypt`. -/
def aesgcmEncrypt (plainBuf : Bytes) (key : Bytes) (iv : Iv) : Sealed where
  iv := iv.bytes
  authTag := (C.gcmSeal key iv.bytes plainBuf).2
  ciphertext := (C.gcmSeal key iv.bytes plainBuf).1

/-- `aesgcmDecrypt`. -/
def aesgcmDecrypt (payload : Sealed) (key : Bytes) : Except EncryptionError Bytes :=
  match C.gcmOpen key payload.iv payload.authTag payload.ciphertext with
  | some plainBuf => .ok plainBuf
  | none => .error (.error "Unsupported state or unable to authenticate data")

/-- The key of a record of `TenantKey`. -/
def unwrapRecord (masterKey : Bytes) (encryptedDek : String) : Except EncryptionError Bytes := do
  let payload ← decodePayload encryptedDek
  aesgcmDecrypt C payload masterKey

/-- The `encryptedDek` that `generateTenantKey` stores for a random key. -/
def wrapDek (masterKey : Bytes) (dek : Bytes) (iv : Iv) : String :=
  encodePayload (aesgcmEncrypt C dek masterKey iv) none

/-- The master key, and the records of `TenantKey`. -/
structure Keys where
  masterKey : Bytes
  record : String → Option String

/-- `_unwrapDek`, without its cache. -/
def unwrapDek (keys : Keys) (tenantId : String) : Except EncryptionError Bytes :=
  match keys.record tenantId with
  | none =>
    .error (.error
      ("No encryption key found for tenant " ++ tenantId ++ ". Call ensureTenantKey() first."))
  | some encryptedDek => unwrapRecord C keys.masterKey encryptedDek

/-- What `encrypt` of the provider returns, under a key. -/
def encryptWith (dek : Bytes) (iv : Iv) (plaintext : String) : String :=
  encodePayload (aesgcmEncrypt C (utf8 plaintext) dek iv) (some PAYLOAD_VERSION)

/-- What `decrypt` of the provider returns, under a key. -/
def decryptWith (dek : Bytes) (ciphertext : String) : Except EncryptionError String := do
  let payload ← decodePayload ciphertext
  let plainBuf ← aesgcmDecrypt C payload dek
  return ofUtf8 C plainBuf

/-! ## The service -/

/-- `encrypt`. -/
def encrypt (keys : Keys) (iv : Iv) (value : Option String) (tenantId : String) :
    Except EncryptionError (Option String) :=
  match value with
  | none => .ok none
  | some value => do
    throwIf (tenantId = "") (.error "tenantId is required for encryption")
    let dek ← unwrapDek C keys tenantId
    return some (encryptWith C dek iv value)

/-- A role that `decrypt` refuses: `role.toLowerCase().replace('_', '')` is `superadmin`. -/
def isSuperadmin (lowerCase : String → String) (role : String) : Bool :=
  (lowerCase role).toList.erase '_' = "superadmin".toList

/-- `decrypt`. `field` is the field of its `logContext`. -/
def decrypt (lowerCase : String → String) (keys : Keys) (value : Option String) (tenantId : String)
    (role : Option String) (field : Option String) : Except EncryptionError (Option String) :=
  match value with
  | none => .ok none
  | some value => do
    throwIf (truthy role && isSuperadmin lowerCase (role.getD ""))
      (.forbidden "Superadmin is not permitted to decrypt tenant data")
    if looksEncrypted value = false then return some value
    throwIf (tenantId = "") (.error "[EncryptionService] tenantId is required for decryption")
    let failed (e : EncryptionError) : EncryptionError :=
      .error
        ("Decryption failed" ++ (if truthy field then " for " ++ field.getD "" else "") ++ ": " ++
          e.message)
    let plaintext ←
      (do let dek ← unwrapDek C keys tenantId; decryptWith C dek value).mapError failed
    return some plaintext

end provider

/-! ## Payloads are read back -/

theorem isBase64Char_of_mem_encode {bytes : Bytes} {c : Char} (h : c ∈ encode bytes) :
    isBase64Char c = true := by
  unfold isBase64Char
  rcases mem_encode h with h | h <;> simp [h]

theorem colon_not_mem_encode (bytes : Bytes) : ':' ∉ encode bytes := by
  intro h
  have hcolon := isBase64Char_of_mem_encode h
  revert hcolon
  decide

theorem split_join {parts : List (List Char)} (hparts : parts ≠ []) (hcolon : ∀ p ∈ parts, ':' ∉ p) :
    split (join parts) = parts := by
  unfold split join
  rw [String.toList_ofList]
  exact List.splitOn_intercalate ':' hcolon hparts

theorem colon_not_mem_encodedParts {payload : Sealed} : ∀ p ∈ encodedParts payload, ':' ∉ p := by
  intro p hp
  simp only [encodedParts, List.mem_cons, List.not_mem_nil, or_false] at hp
  rcases hp with rfl | rfl | rfl <;> exact colon_not_mem_encode _

/-- The parts of a payload are found with a version before them and without. -/
theorem payloadParts_encodePayload {payload : Sealed} (hiv : payload.iv.length = 12)
    {version : Option String} (hversion : version = none ∨ version = some PAYLOAD_VERSION) :
    payloadParts (encodePayload payload version) = encodedParts payload := by
  unfold payloadParts encodePayload
  rcases hversion with rfl | rfl
  · have hne : encode payload.iv ≠ PAYLOAD_VERSION.toList := by
      intro h
      have hlength := length_le_encode payload.iv
      rw [h, hiv] at hlength
      revert hlength
      decide
    have hparts : encodedParts payload ≠ [] := List.cons_ne_nil _ _
    dsimp only
    rw [split_join hparts colon_not_mem_encodedParts]
    exact if_neg fun h => hne (Option.some.inj h)
  · dsimp only
    rw [split_join (List.cons_ne_nil _ _)
      (List.forall_mem_cons.2 ⟨by decide, colon_not_mem_encodedParts⟩)]
    rfl

theorem decodePayload_encodePayload {payload : Sealed} (hiv : payload.iv.length = 12)
    {version : Option String} (hversion : version = none ∨ version = some PAYLOAD_VERSION) :
    decodePayload (encodePayload payload version) = .ok payload := by
  unfold decodePayload
  rw [payloadParts_encodePayload hiv hversion]
  simp [encodedParts, decode_encode]

theorem isSegment_encode (bytes : Bytes) : isSegment (encode bytes) = decide (bytes ≠ []) := by
  have hall : (encode bytes).all isBase64Char = true :=
    List.all_eq_true.2 fun c hc => isBase64Char_of_mem_encode hc
  unfold isSegment
  rw [hall, Bool.and_true, decide_eq_decide, ne_eq, ne_eq, encode_eq_nil_iff]

/-- A payload is recognised exactly when its ciphertext is not empty. -/
theorem looksEncrypted_encodePayload {payload : Sealed} (hiv : payload.iv.length = 12)
    (htag : payload.authTag.length = 16) {version : Option String}
    (hversion : version = none ∨ version = some PAYLOAD_VERSION) :
    looksEncrypted (encodePayload payload version) = decide (payload.ciphertext ≠ []) := by
  have hiv' : payload.iv ≠ [] := by
    intro h
    rw [h] at hiv
    cases hiv
  have htag' : payload.authTag ≠ [] := by
    intro h
    rw [h] at htag
    cases htag
  have hlength : (encodedParts payload).length = 3 := rfl
  unfold looksEncrypted
  rw [payloadParts_encodePayload hiv hversion, decide_eq_true hlength, Bool.true_and]
  rw [encodedParts, List.all_cons, List.all_cons, List.all_cons, List.all_nil, isSegment_encode,
    isSegment_encode, isSegment_encode, decide_eq_true hiv', decide_eq_true htag', Bool.true_and,
    Bool.true_and, Bool.and_true]

theorem utf8_eq_nil_iff (s : String) : utf8 s = [] ↔ s = "" := by
  unfold utf8
  rw [← String.utf8ByteSize_eq_zero_iff, ← String.size_toByteArray, ByteArray.size,
    ← Array.length_toList, List.length_eq_zero_iff]

section provider

variable {C : Crypto}

theorem ofUtf8_utf8 (s : String) : ofUtf8 C (utf8 s) = s := by
  unfold ofUtf8 utf8
  rw [Array.toArray_toList, String.fromUTF8?, dif_pos s.isValidUTF8]
  rfl

theorem aesgcmDecrypt_aesgcmEncrypt (plainBuf key : Bytes) (iv : Iv) :
    aesgcmDecrypt C (aesgcmEncrypt C plainBuf key iv) key = .ok plainBuf := by
  unfold aesgcmDecrypt aesgcmEncrypt
  dsimp only
  rw [C.gcmOpen_gcmSeal]

/-- What is encrypted under a key is decrypted under it. -/
theorem decryptWith_encryptWith (dek : Bytes) (iv : Iv) (s : String) :
    decryptWith C dek (encryptWith C dek iv s) = .ok s := by
  unfold decryptWith encryptWith
  rw [decodePayload_encodePayload iv.length (.inr rfl), ok_bind, aesgcmDecrypt_aesgcmEncrypt,
    ok_bind, ofUtf8_utf8]
  rfl

/-- The record of a key is unwrapped under the master key that wrapped it. -/
theorem unwrapRecord_wrapDek (masterKey dek : Bytes) (iv : Iv) :
    unwrapRecord C masterKey (wrapDek C masterKey dek iv) = .ok dek := by
  unfold unwrapRecord wrapDek
  rw [decodePayload_encodePayload iv.length (.inl rfl), ok_bind, aesgcmDecrypt_aesgcmEncrypt]

/-- An encrypted text is recognised exactly when it is not empty. -/
theorem looksEncrypted_encryptWith (dek : Bytes) (iv : Iv) (s : String) :
    looksEncrypted (encryptWith C dek iv s) = decide (s ≠ "") := by
  have hciphertext : (aesgcmEncrypt C (utf8 s) dek iv).ciphertext = [] ↔ s = "" := by
    rw [← utf8_eq_nil_iff, ← List.length_eq_zero_iff, ← List.length_eq_zero_iff]
    change (C.gcmSeal dek iv.bytes (utf8 s)).1.length = 0 ↔ _
    rw [C.ciphertext_length]
  unfold encryptWith
  rw [looksEncrypted_encodePayload iv.length (C.authTag_length _ _ _) (.inr rfl)]
  simp [hciphertext]

theorem encryptWith_ne_empty {dek : Bytes} {iv : Iv} {s : String} : encryptWith C dek iv s ≠ "" := by
  intro h
  have hparts : payloadParts (encryptWith C dek iv s) =
      encodedParts (aesgcmEncrypt C (utf8 s) dek iv) :=
    payloadParts_encodePayload iv.length (.inr rfl)
  rw [h, show payloadParts "" = [[]] by decide] at hparts
  have hlength : 1 = 3 := congrArg List.length hparts
  omega

end provider

/-! ## The round trip -/

/-- A tenant with a key. -/
structure KeyedTenant (C : Crypto) (keys : Keys) where
  tenantId : String
  tenantId_given : tenantId ≠ ""
  dek : Bytes
  dek_unwrapped : unwrapDek C keys tenantId = .ok dek

/-- `decrypt(await encrypt(s, tenantId), tenantId)`. -/
def roundTrip (C : Crypto) (lowerCase : String → String) (keys : Keys) (iv : Iv)
    (s tenantId : String) : Except EncryptionError (Option String) := do
  let value ← encrypt C keys iv (some s) tenantId
  decrypt C lowerCase keys value tenantId none none

theorem encrypt_tenant {C : Crypto} {keys : Keys} (tenant : KeyedTenant C keys) (iv : Iv)
    (s : String) :
    encrypt C keys iv (some s) tenant.tenantId = .ok (some (encryptWith C tenant.dek iv s)) := by
  unfold encrypt
  simp [throwIf_neg tenant.tenantId_given, tenant.dek_unwrapped]

/-- A value that is recognised is decrypted under the tenant's key. -/
theorem decrypt_tenant {C : Crypto} {lowerCase : String → String} {keys : Keys}
    (tenant : KeyedTenant C keys) {value : String} (hlooks : looksEncrypted value = true)
    {plaintext : String} (hvalue : decryptWith C tenant.dek value = .ok plaintext)
    (field : Option String) :
    decrypt C lowerCase keys (some value) tenant.tenantId none field = .ok (some plaintext) := by
  unfold decrypt
  simp [throwIf_neg, tenant.tenantId_given, tenant.dek_unwrapped, hlooks, hvalue, truthy]

theorem decrypt_plain {C : Crypto} {lowerCase : String → String} {keys : Keys}
    {value tenantId : String} (hlooks : looksEncrypted value = false) (field : Option String) :
    decrypt C lowerCase keys (some value) tenantId none field = .ok (some value) := by
  unfold decrypt
  simp [throwIf_neg, hlooks, truthy]

/-- The payload of the empty text is returned as it is. -/
theorem roundTrip_empty {C : Crypto} {lowerCase : String → String} {keys : Keys}
    (tenant : KeyedTenant C keys) (iv : Iv) :
    roundTrip C lowerCase keys iv "" tenant.tenantId =
      .ok (some (encryptWith C tenant.dek iv "")) := by
  have hlooks := looksEncrypted_encryptWith (C := C) tenant.dek iv ""
  unfold roundTrip
  rw [encrypt_tenant, ok_bind, decrypt_plain (hlooks.trans (by simp))]

/-- A text comes back from its encryption exactly when it is not empty. -/
theorem round_trip_iff (C : Crypto) (lowerCase : String → String) (keys : Keys)
    (tenant : KeyedTenant C keys) (iv : Iv) (s : String) :
    roundTrip C lowerCase keys iv s tenant.tenantId = .ok (some s) ↔ s ≠ "" := by
  by_cases hs : s = ""
  · rw [hs, roundTrip_empty]
    exact iff_of_false (fun h => encryptWith_ne_empty (by simpa using h)) (by simp)
  · have hlooks := looksEncrypted_encryptWith (C := C) tenant.dek iv s
    unfold roundTrip
    rw [encrypt_tenant, ok_bind, decrypt_tenant tenant (hlooks.trans (by simp [hs]))
      (decryptWith_encryptWith tenant.dek iv s)]
    simp [hs]

/-- The tag of AES-256-GCM for the empty text, under a key and an initialisation vector of zeros. -/
def emptyTextTag : Bytes :=
  [0x53, 0x0F, 0x8A, 0xFB, 0xC7, 0x45, 0x36, 0xB9, 0xA9, 0x63, 0xB4, 0xF1, 0xC4, 0xCB, 0x73, 0x8B]

/-- A cipher that is AES-256-GCM on the empty text, under that key and that vector. -/
def emptyTextCipher : Crypto where
  gcmSeal _ _ plaintext := (plaintext, emptyTextTag)
  gcmOpen _ _ _ ciphertext := some ciphertext
  gcmOpen_gcmSeal _ _ _ := rfl
  ciphertext_length _ _ _ := rfl
  authTag_length _ _ _ := rfl
  replaceInvalid _ := ""

/-- An initialisation vector of zeros. -/
def zeroIv : Iv := ⟨List.replicate 12 0, List.length_replicate⟩

/-- A tenant whose key is made of zeros. -/
def zeroKeys : Keys where
  masterKey := List.replicate 32 0
  record _ := some (wrapDek emptyTextCipher (List.replicate 32 0) (List.replicate 32 0) zeroIv)

def zeroTenant : KeyedTenant emptyTextCipher zeroKeys where
  tenantId := "FIRM001"
  tenantId_given := by decide
  dek := List.replicate 32 0
  dek_unwrapped := unwrapRecord_wrapDek _ _ _

/-- The empty text comes back encrypted. -/
theorem round_trip_fails :
    roundTrip emptyTextCipher toLowerCase zeroKeys zeroIv "" "FIRM001" =
        .ok (some "v1:AAAAAAAAAAAAAAAA:Uw+K+8dFNrmpY7TxxMtziw==:") ∧
      roundTrip emptyTextCipher toLowerCase zeroKeys zeroIv "" "FIRM001" ≠ .ok (some "") := by
  have hvalue : roundTrip emptyTextCipher toLowerCase zeroKeys zeroIv "" "FIRM001" =
      .ok (some "v1:AAAAAAAAAAAAAAAA:Uw+K+8dFNrmpY7TxxMtziw==:") := by
    refine (roundTrip_empty zeroTenant zeroIv).trans ?_
    decide
  rw [hvalue]
  exact ⟨rfl, by simp⟩

end Docketra.Encryption
