import Docketra.Encryption
import Docketra.Lib.Runs
import Mathlib.Logic.Function.Basic
import Mathlib.Algebra.GroupWithZero.Nat

/-!
# Sensitive fields at rest

The pre-save hooks of `models/Case.model.js` and `models/Client.model.js` encrypt the sensitive
fields of a document, unless their value `looksEncrypted`, and the repositories decrypt what they
read when it does. A text that has the form of a payload is therefore stored as it is, and the
payload of the empty text is not read back. All other texts are stored encrypted once, and stay so
however often the document is loaded and saved (`protected_iff`), but for the placeholders that the
client repository takes for no value.
-/

namespace Docketra.FieldEncryption

open Base64 Checked Encryption Runs

/-- `String.prototype.toLowerCase`, with what is used of it. -/
structure LowerCase where
  apply : String → String
  apply_apply : ∀ s, apply (apply s) = apply s
  trim_apply : ∀ s, trim (apply s) = apply (trim s)
  /-- No character is dropped. -/
  length_le : ∀ s, s.length ≤ (apply s).length

/-- The models with sensitive fields. -/
inductive Model where
  | case | client
  deriving DecidableEq, Repr

/-- The sensitive fields. -/
inductive Field where
  | description | primaryContactNumber | businessEmail
  deriving DecidableEq, Repr

/-- `_CASE_SENSITIVE_FIELDS` and `_CLIENT_SENSITIVE_FIELDS`. -/
def Model.fields : Model → List Field
  | .case => [.description]
  | .client => [.primaryContactNumber, .businessEmail]

def Field.name : Field → String
  | .description => "description"
  | .primaryContactNumber => "primaryContactNumber"
  | .businessEmail => "businessEmail"

/-- The sensitive fields of a document. -/
abbrev Document := Field → Option String

/-- `length` of a string, in code units. -/
def utf16Length (s : String) : ℕ := (s.toList.map fun c => if c.toNat < 0x10000 then 1 else 2).sum

/-- The environment of a firm's documents: the firm, and the other tenants whose key its documents
may be encrypted with (`resolveCanonicalTenantFromFirmId`). -/
structure Firm where
  firmId : String
  firmId_given : firmId ≠ ""
  otherTenants : List String := []

/-- The random values of a save. -/
structure Randoms where
  dek : Bytes
  dekIv : Iv
  iv : Field → Iv

/-- What is stored of a document, and of the keys. -/
structure State where
  keys : Keys
  stored : Document

/-- A loop over fields that replaces the value of each. -/
def replaceFields (replace : Field → Option String → Except EncryptionError (Option String)) :
    List Field → Document → Except EncryptionError Document
  | [], document => .ok document
  | field :: fields, document => do
    let value ← replace field (document field)
    replaceFields replace fields (Function.update document field value)

section hooks

variable (C : Crypto) (L : LowerCase) (firm : Firm)

/-! ## Saving -/

/-- `ensureTenantKey`: the tenant's record, which is inserted if there is none. -/
def ensureTenantKey (keys : Keys) (random : Randoms) : Keys :=
  match keys.record firm.firmId with
  | some _ => keys
  | none =>
    { keys with
      record := Function.update keys.record firm.firmId
        (some (wrapDek C keys.masterKey random.dek random.dekIv)) }

/-- What the hook of a model assigns to a field before it encrypts it. The setter of the schema trims
what is assigned. -/
def Field.normalize : Field → String → String
  | .description, s => s
  | .primaryContactNumber, s => trim (trim s)
  | .businessEmail, s => trim (L.apply (trim s))

/-- The part of a pre-save hook for a field. -/
def encryptField (keys : Keys) (iv : Iv) (field : Field) (value : Option String) :
    Except EncryptionError (Option String) :=
  match value with
  | none => .ok none
  | some value =>
    let value := if looksEncrypted value then value else field.normalize L value
    if looksEncrypted value then .ok (some value)
    else (encrypt C keys iv (some value) firm.firmId).map (·.map trim)

/-- The description is too long for the schema. -/
def tooLong (document : Document) : Bool :=
  match document .description with
  | some description => 5000 < utf16Length description
  | none => false

/-- `save`: the validation, then the hook. -/
def save (model : Model) (keys : Keys) (random : Randoms) (document : Document) :
    Except EncryptionError State := do
  throwIf (model = .case ∧ tooLong document)
    (.error "Case description cannot exceed 5000 characters")
  let keys := ensureTenantKey C firm keys random
  let encryptOne field := encryptField C L firm keys (random.iv field) field
  let stored ← replaceFields encryptOne model.fields document
  return { keys, stored }

/-! ## Reading -/

/-- The decryption of a field in `_decryptCaseDoc`. A failure leaves the value as it is. -/
def decryptCaseField (keys : Keys) (field : Field) (value : Option String) : Option String :=
  match value with
  | none => none
  | some value =>
    if looksEncrypted value then
      match decrypt C L.apply keys (some value) firm.firmId none (some field.name) with
      | .ok (some decrypted) => some (trim decrypted)
      | _ => some value
    else some value

/-- `resolveTenantKeyTenantId`: the first tenant that has a key. -/
def resolveTenantKeyTenantId (keys : Keys) : Option String :=
  (firm.firmId :: firm.otherTenants).find? fun tenantId => (keys.record tenantId).isSome

/-- The decryption of a field in `_decryptClientDoc`. -/
def decryptClientField (keys : Keys) (field : Field) (value : Option String) :
    Except EncryptionError (Option String) :=
  match value with
  | none => .ok none
  | some value =>
    if looksEncrypted value then
      match resolveTenantKeyTenantId firm keys with
      | none =>
        .error (.error ("Tenant encryption key is missing for tenant " ++ firm.firmId ++
          ". Repair is required before decrypting client data."))
      | some tenantId =>
        (decrypt C L.apply keys (some value) tenantId none (some field.name)).map (·.map trim)
    else .ok (some value)

/-- The texts that `normalizeClientDisplay` takes for no value. -/
def isPlaceholder (trimmed : String) : Bool :=
  trimmed = "" || L.apply trimmed ∈ ["not available", "n/a", "na", "-"]

/-- `normalizeClientDisplay`, on a field. -/
def display (value : Option String) : Option String :=
  (value.map trim).filter fun trimmed => !isPlaceholder L trimmed

/-- Reads a field through the repository of the model. -/
def readField (model : Model) (keys : Keys) (field : Field) (value : Option String) :
    Except EncryptionError (Option String) :=
  match model with
  | .case => .ok (decryptCaseField C L firm keys field value)
  | .client => (decryptClientField C L firm keys field value).map (display L)

/-- Reads a document through the repository. -/
def readBack (model : Model) (s : State) : Except EncryptionError Document :=
  replaceFields (readField C L firm model s.keys) model.fields s.stored

/-! ## Cycles -/

/-- A document is loaded, as it is stored or through the repository, and saved. -/
structure Cycle where
  throughRepository : Bool
  random : Randoms

/-- The document that a cycle loads. -/
def load (model : Model) (throughRepository : Bool) (s : State) : Except EncryptionError Document :=
  if throughRepository then readBack C L firm model s else .ok s.stored

/-- A document is loaded and saved. -/
def loadAndSave (model : Model) (c : Cycle) (s : State) : Except EncryptionError State := do
  let loaded ← load C L firm model c.throughRepository s
  save C L firm model s.keys c.random loaded

/-- What a cycle leaves. A load or a save that fails changes nothing. -/
def cycle (model : Model) (c : Cycle) (s : State) : State :=
  settle (loadAndSave C L firm model c s) s

end hooks

/-! ## Payloads of texts -/

theorem length_le_utf8 (s : String) : s.length ≤ (utf8 s).length := by
  have hbytes : utf8 s = s.toList.flatMap String.utf8EncodeChar := by
    unfold utf8
    rw [← String.utf8Encode_toList, List.utf8Encode]
    simp
  rw [hbytes, ← String.length_toList]
  induction s.toList with
  | nil => simp
  | cons c l ih =>
    have hpos := c.utf8Size_pos
    rw [List.flatMap_cons, List.length_append, List.length_cons, String.length_utf8EncodeChar]
    omega

section payloads

variable {C : Crypto}

theorem toList_encryptWith (dek : Bytes) (iv : Iv) (s : String) :
    (encryptWith C dek iv s).toList = [':'].intercalate
      (PAYLOAD_VERSION.toList :: encodedParts (aesgcmEncrypt C (utf8 s) dek iv)) :=
  String.toList_ofList

/-- A payload is longer than its text. -/
theorem length_lt_encryptWith (dek : Bytes) (iv : Iv) (s : String) :
    s.length < (encryptWith C dek iv s).length := by
  have hutf8 := length_le_utf8 s
  have hencode := length_le_encode (aesgcmEncrypt C (utf8 s) dek iv).ciphertext
  have hciphertext : (aesgcmEncrypt C (utf8 s) dek iv).ciphertext.length = (utf8 s).length :=
    C.ciphertext_length _ _ _
  rw [← String.length_toList (s := encryptWith C dek iv s), toList_encryptWith]
  unfold encodedParts
  simp only [List.intercalate_cons_cons, List.intercalate_singleton, List.length_append,
    List.length_singleton]
  omega

/-- A payload has no white space around it. -/
theorem trim_encodePayload (payload : Sealed) {version : Option String}
    (hversion : version = none ∨ version = some PAYLOAD_VERSION) :
    trim (encodePayload payload version) = encodePayload payload version := by
  have hbase64 : ∀ c ∈ alphabet, isWhitespace c = false := by
    have hall : alphabet.all (fun c => !isWhitespace c) = true := by decide
    simpa only [List.all_eq_true, Bool.not_eq_true'] using hall
  have hencode (bytes : Bytes) : ∀ c ∈ encode bytes, isWhitespace c = false := by
    intro c hc
    rcases mem_encode hc with hc | rfl
    · exact hbase64 c hc
    · decide
  have hcolon : ∀ c ∈ [':'], isWhitespace c = false := by
    intro c hc
    rw [List.mem_singleton.1 hc]
    decide
  have hparts : ∀ c ∈ [':'].intercalate (encodedParts payload), isWhitespace c = false := by
    unfold encodedParts
    simp only [List.intercalate_cons_cons, List.intercalate_singleton, List.forall_mem_append]
    exact ⟨⟨hencode _, hcolon⟩, ⟨hencode _, hcolon⟩, hencode _⟩
  have hversion' : ∀ c ∈ PAYLOAD_VERSION.toList, isWhitespace c = false := by
    have hall : PAYLOAD_VERSION.toList.all (fun c => !isWhitespace c) = true := by decide
    simpa only [List.all_eq_true, Bool.not_eq_true'] using hall
  have hnone : ∀ c ∈ (encodePayload payload version).toList, isWhitespace c = false := by
    rcases hversion with rfl | rfl
    · rw [encodePayload, join, String.toList_ofList]
      exact hparts
    · have hjoined : [':'].intercalate (PAYLOAD_VERSION.toList :: encodedParts payload) =
          PAYLOAD_VERSION.toList ++ [':'] ++ [':'].intercalate (encodedParts payload) := by
        unfold encodedParts
        simp only [List.intercalate_cons_cons, List.append_assoc]
      rw [encodePayload, join, String.toList_ofList, hjoined, List.forall_mem_append,
        List.forall_mem_append]
      exact ⟨⟨hversion', hcolon⟩, hparts⟩
  unfold trim
  rw [trimList_eq_self (fun c hc => hnone c (List.mem_of_mem_head? hc))
    (fun c hc => hnone c (List.mem_of_mem_getLast? hc)), String.ofList_toList]

theorem trim_encryptWith (dek : Bytes) (iv : Iv) (s : String) :
    trim (encryptWith C dek iv s) = encryptWith C dek iv s :=
  trim_encodePayload _ (Or.inr rfl)

end payloads

theorem length_trim_le (s : String) : (trim s).length ≤ s.length := by
  unfold trim trimList
  rw [String.length_ofList, ← String.length_toList (s := s)]
  exact ((List.rdropWhile_prefix _ _).length_le).trans ((List.dropWhile_suffix _).length_le)

/-! ## One field -/

/-- The text that a field is to hold: what is assigned to it, without white space around it and, for
an email, in lower case. -/
def plaintext (L : LowerCase) (field : Field) (value : String) : String :=
  match field with
  | .businessEmail => L.apply (trim value)
  | _ => trim value

section fields

variable {C : Crypto} {L : LowerCase} {firm : Firm}

theorem normalize_trim (field : Field) (value : String) :
    field.normalize L (trim value) = plaintext L field value := by
  cases field with
  | description => rfl
  | primaryContactNumber => exact (trim_trim _).trans (trim_trim value)
  | businessEmail =>
    unfold Field.normalize plaintext
    dsimp only
    rw [L.trim_apply, trim_trim, trim_trim]

theorem trim_plaintext (field : Field) (value : String) :
    trim (plaintext L field value) = plaintext L field value := by
  cases field with
  | businessEmail => exact (L.trim_apply _).trans (congrArg L.apply (trim_trim value))
  | _ => exact trim_trim value

/-- The normalized text is normalized. -/
theorem plaintext_plaintext (field : Field) (value : String) :
    plaintext L field (plaintext L field value) = plaintext L field value := by
  cases field with
  | businessEmail =>
    change L.apply (trim (L.apply (trim value))) = L.apply (trim value)
    rw [L.trim_apply, trim_trim, L.apply_apply]
  | _ => exact trim_trim value

theorem length_le_plaintext (field : Field) (value : String) :
    (trim value).length ≤ (plaintext L field value).length := by
  cases field with
  | businessEmail => exact L.length_le _
  | _ => exact le_rfl

/-- The firm's key is unwrapped from its record. -/
def firmTenant {keys : Keys} {dek : Bytes} (hdek : unwrapDek C keys firm.firmId = .ok dek) :
    KeyedTenant C keys :=
  ⟨firm.firmId, firm.firmId_given, dek, hdek⟩

theorem encrypt_firm {keys : Keys} {dek : Bytes} (hdek : unwrapDek C keys firm.firmId = .ok dek)
    (iv : Iv) (text : String) :
    encrypt C keys iv (some text) firm.firmId = .ok (some (encryptWith C dek iv text)) :=
  encrypt_tenant (firmTenant hdek) iv text

theorem encryptField_shaped {keys : Keys} {iv : Iv} {field : Field} {value : String}
    (h : looksEncrypted value = true) :
    encryptField C L firm keys iv field (some value) = .ok (some value) := by
  simp [encryptField, h]

theorem encryptField_normalized {keys : Keys} {iv : Iv} {field : Field} {value : String}
    (h : looksEncrypted value = false) (hshaped : looksEncrypted (field.normalize L value) = true) :
    encryptField C L firm keys iv field (some value) = .ok (some (field.normalize L value)) := by
  simp [encryptField, h, hshaped]

theorem encryptField_encrypts {keys : Keys} {dek : Bytes}
    (hdek : unwrapDek C keys firm.firmId = .ok dek) {iv : Iv} {field : Field} {value : String}
    (h : looksEncrypted value = false) (hplain : looksEncrypted (field.normalize L value) = false) :
    encryptField C L firm keys iv field (some value) =
      .ok (some (encryptWith C dek iv (field.normalize L value))) := by
  simp [encryptField, h, hplain, encrypt_firm hdek, Except.map, trim_encryptWith]

theorem decrypt_payload {keys : Keys} {dek : Bytes} (hdek : unwrapDek C keys firm.firmId = .ok dek)
    {iv : Iv} {text : String} (htext : text ≠ "") (field : Option String) :
    decrypt C L.apply keys (some (encryptWith C dek iv text)) firm.firmId none field =
      .ok (some text) :=
  decrypt_tenant (firmTenant hdek)
    ((looksEncrypted_encryptWith dek iv text).trans (decide_eq_true htext))
    (decryptWith_encryptWith dek iv text) field

theorem resolve_firm {keys : Keys} {dek : Bytes} (hdek : unwrapDek C keys firm.firmId = .ok dek) :
    resolveTenantKeyTenantId firm keys = some firm.firmId := by
  have hrecord : (keys.record firm.firmId).isSome = true := by
    unfold unwrapDek at hdek
    cases hrecord : keys.record firm.firmId with
    | none => rw [hrecord] at hdek; cases hdek
    | some r => rfl
  unfold resolveTenantKeyTenantId
  exact List.find?_cons_of_pos hrecord

/-- What the repository of a model makes of a decrypted text. -/
def shown (L : LowerCase) (model : Model) (text : String) : Option String :=
  match model with
  | .case => some text
  | .client => display L (some text)

theorem readField_payload (model : Model) {keys : Keys} {dek : Bytes}
    (hdek : unwrapDek C keys firm.firmId = .ok dek) {iv : Iv} {text : String} (htext : text ≠ "")
    (field : Field) :
    readField C L firm model keys field (some (encryptWith C dek iv text)) =
      .ok (shown L model (trim text)) := by
  have hlooks : looksEncrypted (encryptWith C dek iv text) = true :=
    (looksEncrypted_encryptWith dek iv text).trans (decide_eq_true htext)
  have hdecrypt : decrypt C L.apply keys (some (encryptWith C dek iv text)) firm.firmId none
      (some field.name) = .ok (some text) := decrypt_payload hdek htext _
  cases model with
  | case => simp [readField, decryptCaseField, hlooks, hdecrypt, shown]
  | client =>
    simp [readField, decryptClientField, hlooks, resolve_firm hdek, hdecrypt, shown, Except.map]

theorem readField_plain (model : Model) {keys : Keys} {value : String}
    (h : looksEncrypted value = false) (field : Field) :
    readField C L firm model keys field (some value) = .ok (shown L model value) := by
  cases model with
  | case => simp [readField, decryptCaseField, h, shown]
  | client => simp [readField, decryptClientField, h, shown, Except.map]

theorem readField_none (model : Model) {keys : Keys} (field : Field) :
    readField C L firm model keys field none = .ok none := by
  cases model <;> rfl

/-- The client repository shows no placeholder. -/
theorem not_placeholder_of_shown {text shownText : String}
    (h : shown L .client text = some shownText) : isPlaceholder L shownText = false := by
  simp only [shown, display, Option.filter_eq_some_iff] at h
  simpa using h.2

end fields

/-! ## The loop over the fields -/

theorem replaceFields_eq_ok
    {replace : Field → Option String → Except EncryptionError (Option String)} {fields : List Field}
    (hfields : fields.Nodup) {document result : Document}
    (h : replaceFields replace fields document = .ok result) :
    (∀ field ∈ fields, replace field (document field) = .ok (result field)) ∧
      ∀ field ∉ fields, result field = document field := by
  induction fields generalizing document with
  | nil =>
    cases h
    exact ⟨by simp, fun _ _ => rfl⟩
  | cons first fields ih =>
    obtain ⟨value, hvalue, hrest⟩ := bind_eq_ok.1 h
    obtain ⟨hfirst, hfields⟩ := List.nodup_cons.1 hfields
    obtain ⟨hin, hout⟩ := ih hfields hrest
    constructor
    · intro field hfield
      by_cases heq : field = first
      · rw [heq, hout first hfirst, Function.update_self]
        exact hvalue
      · have hlater := hin field ((List.mem_cons.1 hfield).resolve_left heq)
        rwa [Function.update_of_ne heq] at hlater
    · intro field hfield
      rw [List.mem_cons, not_or] at hfield
      rw [hout field hfield.2, Function.update_of_ne hfield.1]

theorem replaceFields_ok
    {replace : Field → Option String → Except EncryptionError (Option String)} {fields : List Field}
    (hfields : fields.Nodup) {document values : Document}
    (h : ∀ field ∈ fields, replace field (document field) = .ok (values field)) :
    ∃ result, replaceFields replace fields document = .ok result ∧
      ∀ field ∈ fields, result field = values field := by
  induction fields generalizing document with
  | nil => exact ⟨document, rfl, by simp⟩
  | cons first fields ih =>
    obtain ⟨hfirst, hfields'⟩ := List.nodup_cons.1 hfields
    have hothers : ∀ field ∈ fields, replace field
        (Function.update document first (values first) field) = .ok (values field) := by
      intro field hfield
      rw [Function.update_of_ne (ne_of_mem_of_not_mem hfield hfirst)]
      exact h field (List.mem_cons_of_mem _ hfield)
    obtain ⟨result, hresult, _⟩ := ih hfields' hothers
    have hloop : replaceFields replace (first :: fields) document = .ok result := by
      rw [replaceFields, h first (List.mem_cons_self ..), ok_bind, hresult]
    refine ⟨result, hloop, fun field hfield => ?_⟩
    have hvalue := (replaceFields_eq_ok hfields hloop).1 field hfield
    rw [h field hfield] at hvalue
    exact (Except.ok.inj hvalue).symm

theorem fields_nodup (model : Model) : model.fields.Nodup := by
  cases model <;> decide

/-! ## Protection -/

/-- The values as the setters of the schema leave them. -/
def assign (values : Document) : Document := fun field => (values field).map trim

section protection

variable (C : Crypto) (L : LowerCase) (firm : Firm)

/-- The keys of a firm that has none yet, or one that is unwrapped. -/
structure SoundKeys where
  keys : Keys
  sound : ∀ r, keys.record firm.firmId = some r → ∃ dek, unwrapRecord C keys.masterKey r = .ok dek

/-- The fields to which values were assigned hold ciphertexts, and the repository reads the texts. -/
def Holds (model : Model) (values : Document) (s : State) : Prop :=
  ∃ document, readBack C L firm model s = .ok document ∧
    ∀ field ∈ model.fields, ∀ value, values field = some value →
      (∃ text iv, encrypt C s.keys iv (some text) firm.firmId = .ok (s.stored field)) ∧
        document field = some (plaintext L field value)

/-- The fields of a document hold ciphertexts of the texts that are assigned to them, after it is
saved and after any number of cycles. -/
def Protected (model : Model) (keys : Keys) (random : Randoms) (values : Document) : Prop :=
  ∀ s, save C L firm model keys random (assign values) = .ok s →
    ∀ cycles, Holds C L firm model values (run (cycle C L firm model) cycles s)

/-- A text that a field protects. -/
structure Protectable (model : Model) (field : Field) (value : String) : Prop where
  notEmpty : plaintext L field value ≠ ""
  /-- The text is not taken for a payload, when it is assigned and when it is normalized. -/
  notShaped : looksEncrypted (trim value) = false
  notShapedNormalized : looksEncrypted (plaintext L field value) = false
  /-- The client repository shows the text. -/
  shown : model = .client → isPlaceholder L (plaintext L field value) = false

/-- Every field with a value holds a payload of its text, under the firm's key. -/
structure AtRest (model : Model) (values : Document) (dek : Bytes) (s : State) : Prop where
  unwrapped : unwrapDek C s.keys firm.firmId = .ok dek
  unset : ∀ field ∈ model.fields, values field = none → s.stored field = none
  encrypted : ∀ field ∈ model.fields, ∀ value, values field = some value →
    ∃ iv, s.stored field = some (encryptWith C dek iv (plaintext L field value))

variable {C L firm}

theorem ensureTenantKey_self {keys : Keys} {dek : Bytes}
    (hdek : unwrapDek C keys firm.firmId = .ok dek) (random : Randoms) :
    ensureTenantKey C firm keys random = keys := by
  unfold unwrapDek at hdek
  unfold ensureTenantKey
  cases hrecord : keys.record firm.firmId with
  | none => rw [hrecord] at hdek; cases hdek
  | some r => rfl

/-- After `ensureTenantKey` the firm has a key. -/
theorem ensureTenantKey_unwrapped (tenant : SoundKeys C firm) (random : Randoms) :
    ∃ dek, unwrapDek C (ensureTenantKey C firm tenant.keys random) firm.firmId = .ok dek := by
  unfold ensureTenantKey
  cases hrecord : tenant.keys.record firm.firmId with
  | some r =>
    obtain ⟨dek, hdek⟩ := tenant.sound r hrecord
    refine ⟨dek, ?_⟩
    unfold unwrapDek
    rw [hrecord]
    exact hdek
  | none =>
    refine ⟨random.dek, ?_⟩
    unfold unwrapDek
    dsimp only
    rw [Function.update_self]
    exact unwrapRecord_wrapDek _ _ _

theorem save_eq_ok {model : Model} {keys : Keys} {random : Randoms} {document : Document}
    {s : State} :
    save C L firm model keys random document = .ok s ↔
      ¬(model = .case ∧ tooLong document = true) ∧
        s.keys = ensureTenantKey C firm keys random ∧
          replaceFields (fun field => encryptField C L firm (ensureTenantKey C firm keys random)
            (random.iv field) field) model.fields document = .ok s.stored := by
  unfold save
  rw [bind_eq_ok]
  simp only [throwIf_eq_ok, exists_and_left, exists_const, bind_eq_ok, pure_eq, Except.ok.injEq]
  refine and_congr_right fun _ => ?_
  constructor
  · rintro ⟨stored, hstored, rfl⟩
    exact ⟨rfl, hstored⟩
  · rintro ⟨hkeys, hstored⟩
    exact ⟨s.stored, hstored, by rw [← hkeys]⟩

theorem shown_plaintext {model : Model} {field : Field} {value : String}
    (h : Protectable L model field value) :
    shown L model (trim (plaintext L field value)) = some (plaintext L field value) := by
  cases model with
  | case => rw [shown, trim_plaintext]
  | client =>
    have hshown := h.shown rfl
    simp [shown, display, trim_plaintext, hshown]

/-- What is at rest is read back. -/
theorem AtRest.read {model : Model} {values : Document} {dek : Bytes} {s : State}
    (h : AtRest C L firm model values dek s)
    (hvalues : ∀ field ∈ model.fields, ∀ value, values field = some value →
      Protectable L model field value) :
    ∃ document, readBack C L firm model s = .ok document ∧ ∀ field ∈ model.fields,
      document field = (values field).map (plaintext L field) := by
  refine replaceFields_ok (fields_nodup model) fun field hfield => ?_
  cases hvalue : values field with
  | none =>
    rw [h.unset field hfield hvalue]
    exact readField_none model field
  | some value =>
    have hprotectable := hvalues field hfield value hvalue
    obtain ⟨iv, hstored⟩ := h.encrypted field hfield value hvalue
    rw [hstored, readField_payload model h.unwrapped hprotectable.notEmpty,
      shown_plaintext hprotectable]
    rfl

theorem AtRest.holds {model : Model} {values : Document} {dek : Bytes} {s : State}
    (h : AtRest C L firm model values dek s)
    (hvalues : ∀ field ∈ model.fields, ∀ value, values field = some value →
      Protectable L model field value) :
    Holds C L firm model values s := by
  obtain ⟨document, hread, hdocument⟩ := h.read hvalues
  refine ⟨document, hread, fun field hfield value hvalue => ⟨?_, ?_⟩⟩
  · obtain ⟨iv, hstored⟩ := h.encrypted field hfield value hvalue
    refine ⟨plaintext L field value, iv, ?_⟩
    rw [hstored]
    exact encrypt_firm h.unwrapped iv _
  · rw [hdocument field hfield, hvalue]
    rfl

/-- Saving a document with the texts, or with the payloads, leaves them at rest. -/
theorem atRest_of_save {model : Model} {values : Document} {keys : Keys} {random : Randoms}
    {document : Document} {dek : Bytes} {s : State}
    (hdek : unwrapDek C (ensureTenantKey C firm keys random) firm.firmId = .ok dek)
    (hsave : save C L firm model keys random document = .ok s)
    (hvalues : ∀ field ∈ model.fields, ∀ value, values field = some value →
      Protectable L model field value)
    (hunset : ∀ field ∈ model.fields, values field = none → document field = none)
    (hset : ∀ field ∈ model.fields, ∀ value, values field = some value →
      (∃ text, document field = some text ∧ looksEncrypted text = false ∧
        field.normalize L text = plaintext L field value) ∨
      ∃ iv, document field = some (encryptWith C dek iv (plaintext L field value))) :
    AtRest C L firm model values dek s := by
  obtain ⟨_, hkeys, hstored⟩ := save_eq_ok.1 hsave
  have hfields := (replaceFields_eq_ok (fields_nodup model) hstored).1
  refine ⟨hkeys ▸ hdek, fun field hfield hvalue => ?_, fun field hfield value hvalue => ?_⟩
  · have hfield' := hfields field hfield
    rw [hunset field hfield hvalue] at hfield'
    exact (Except.ok.inj hfield').symm
  · have hprotectable := hvalues field hfield value hvalue
    have hfield' := hfields field hfield
    rcases hset field hfield value hvalue with ⟨text, htext, hplain, hnormalize⟩ | ⟨iv, hpayload⟩
    · have hshaped : looksEncrypted (field.normalize L text) = false := by
        rw [hnormalize]
        exact hprotectable.notShapedNormalized
      rw [htext, encryptField_encrypts hdek hplain hshaped, hnormalize] at hfield'
      exact ⟨random.iv field, (Except.ok.inj hfield').symm⟩
    · rw [hpayload, encryptField_shaped ((looksEncrypted_encryptWith dek iv _).trans
        (decide_eq_true hprotectable.notEmpty))] at hfield'
      exact ⟨iv, (Except.ok.inj hfield').symm⟩

/-- What a cycle loads is at rest in the document, or decrypted. -/
theorem AtRest.load {model : Model} {values : Document} {dek : Bytes} {s : State}
    (h : AtRest C L firm model values dek s)
    (hvalues : ∀ field ∈ model.fields, ∀ value, values field = some value →
      Protectable L model field value)
    {throughRepository : Bool} {loaded : Document}
    (hload : load C L firm model throughRepository s = .ok loaded) :
    loaded = s.stored ∨
      ∀ field ∈ model.fields, loaded field = (values field).map (plaintext L field) := by
  unfold FieldEncryption.load at hload
  split_ifs at hload with hrepository
  · obtain ⟨document, hread, hdocument⟩ := h.read hvalues
    rw [hread] at hload
    cases hload
    exact .inr hdocument
  · cases hload
    exact .inl rfl

/-- A cycle keeps what is at rest: what is loaded as it is stored is recognised, and what the
repository has decrypted is encrypted again. -/
theorem AtRest.cycle {model : Model} {values : Document} {dek : Bytes}
    (hvalues : ∀ field ∈ model.fields, ∀ value, values field = some value →
      Protectable L model field value)
    (c : Cycle) {s : State} (h : AtRest C L firm model values dek s) :
    AtRest C L firm model values dek (FieldEncryption.cycle C L firm model c s) := by
  have hdek : unwrapDek C (ensureTenantKey C firm s.keys c.random) firm.firmId = .ok dek := by
    rw [ensureTenantKey_self h.unwrapped]
    exact h.unwrapped
  unfold FieldEncryption.cycle
  cases hresult : loadAndSave C L firm model c s with
  | error e => exact h
  | ok t =>
    obtain ⟨loaded, hloaded, hsave⟩ := bind_eq_ok.1 hresult
    rcases h.load hvalues hloaded with rfl | hdocument
    · exact atRest_of_save hdek hsave hvalues h.unset
        fun field hfield value hvalue => .inr (h.encrypted field hfield value hvalue)
    · refine atRest_of_save hdek hsave hvalues ?_ fun field hfield value hvalue => .inl ?_
      · intro field hfield hvalue
        rw [hdocument field hfield, hvalue]
        rfl
      · have hprotectable := hvalues field hfield value hvalue
        refine ⟨plaintext L field value, ?_, hprotectable.notShapedNormalized, ?_⟩
        · rw [hdocument field hfield, hvalue]
          rfl
        · have hnormalize := normalize_trim (L := L) field (plaintext L field value)
          rwa [trim_plaintext, plaintext_plaintext] at hnormalize

/-- Texts that are protectable are protected. -/
theorem protected_of_protectable (tenant : SoundKeys C firm) {model : Model} {random : Randoms}
    {values : Document}
    (hvalues : ∀ field ∈ model.fields, ∀ value, values field = some value →
      Protectable L model field value) :
    Protected C L firm model tenant.keys random values := by
  intro s hsave cycles
  obtain ⟨dek, hdek⟩ := ensureTenantKey_unwrapped tenant random
  have hrest : AtRest C L firm model values dek s := by
    refine atRest_of_save hdek hsave hvalues ?_ ?_
    · intro field _ hvalue
      rw [assign, hvalue]
      rfl
    · intro field hfield value hvalue
      exact .inl ⟨trim value, by rw [assign, hvalue]; rfl,
        (hvalues field hfield value hvalue).notShaped, normalize_trim field value⟩
  have hrun : AtRest C L firm model values dek (run (cycle C L firm model) cycles s) :=
    run_keeps (fun c _ ht => AtRest.cycle hvalues c ht) cycles s hrest
  exact hrun.holds hvalues

end protection

/-! ## What is not protected -/

section converse

variable {C : Crypto} {L : LowerCase} {firm : Firm}

/-- The repository shows a text as it is, or trimmed. -/
theorem shown_eq_some {model : Model} {text shownText : String}
    (h : shown L model text = some shownText) : shownText = text ∨ shownText = trim text := by
  cases model with
  | case => exact .inl (Option.some.inj h).symm
  | client =>
    simp only [shown, display, Option.map_some, Option.filter_eq_some_iff, Option.some.injEq] at h
    exact .inr h.1.symm

/-- A payload is not read back as itself: what it decrypts to is shorter. -/
theorem not_read_as_itself {model : Model} {keys : Keys} {dek : Bytes}
    (hdek : unwrapDek C keys firm.firmId = .ok dek) {iv : Iv} {field : Field}
    {text shownText : String}
    (hlooks : looksEncrypted (encryptWith C dek iv text) = true)
    (hread : readField C L firm model keys field (some (encryptWith C dek iv text)) =
      .ok (some shownText)) :
    shownText.length < (encryptWith C dek iv text).length := by
  have hne : text ≠ "" :=
    of_decide_eq_true ((looksEncrypted_encryptWith dek iv text).symm.trans hlooks)
  rw [readField_payload model hdek hne] at hread
  have hlonger := length_lt_encryptWith (C := C) dek iv text
  have htrim := length_trim_le text
  rcases shown_eq_some (Except.ok.inj hread) with rfl | rfl
  · omega
  · rw [trim_trim]
    omega

/-- The payload of the empty text is not read back as the empty text. -/
theorem empty_not_read {model : Model} {keys : Keys} {dek : Bytes} {iv : Iv} {field : Field} :
    readField C L firm model keys field (some (encryptWith C dek iv "")) ≠ .ok (some "") := by
  intro hread
  rw [readField_plain model (by rw [looksEncrypted_encryptWith]; rfl)] at hread
  rcases shown_eq_some (Except.ok.inj hread) with h | h
  · exact encryptWith_ne_empty h.symm
  · rw [trim_encryptWith] at h
    exact encryptWith_ne_empty h.symm

theorem encryptField_none {keys : Keys} {iv : Iv} {field : Field} :
    encryptField C L firm keys iv field none = .ok none := rfl

/-- Where the firm's key is unwrapped, the hook does not fail. -/
theorem encryptField_ok {keys : Keys} {dek : Bytes} (hdek : unwrapDek C keys firm.firmId = .ok dek)
    (iv : Iv) (field : Field) (value : Option String) :
    ∃ stored, encryptField C L firm keys iv field value = .ok stored := by
  cases value with
  | none => exact ⟨none, encryptField_none⟩
  | some value =>
    cases hshaped : looksEncrypted value with
    | true => exact ⟨_, encryptField_shaped hshaped⟩
    | false =>
      cases hnormalized : looksEncrypted (field.normalize L value) with
      | true => exact ⟨_, encryptField_normalized hshaped hnormalized⟩
      | false => exact ⟨_, encryptField_encrypts hdek hshaped hnormalized⟩

/-- A document that is not refused is saved. -/
theorem save_ok {model : Model} {keys : Keys} {random : Randoms} {document : Document} {dek : Bytes}
    (hdek : unwrapDek C (ensureTenantKey C firm keys random) firm.firmId = .ok dek)
    (hlong : ¬(model = .case ∧ tooLong document = true)) :
    ∃ s, save C L firm model keys random document = .ok s := by
  choose stored hstored using fun field =>
    encryptField_ok (L := L) hdek (random.iv field) field (document field)
  obtain ⟨result, hresult, _⟩ := replaceFields_ok (fields_nodup model) fun field _ => hstored field
  exact ⟨⟨_, result⟩, save_eq_ok.2 ⟨hlong, rfl, hresult⟩⟩

/-- A text that is stored as an output of `encrypt` and read back is protectable. -/
theorem protectable_of_holds {model : Model} {keys : Keys} {dek : Bytes}
    (hdek : unwrapDek C keys firm.firmId = .ok dek) {iv iv' : Iv} {field : Field}
    {value text : String}
    (hstored : encryptField C L firm keys iv field (some (trim value)) =
      .ok (some (encryptWith C dek iv' text)))
    (hread : readField C L firm model keys field (some (encryptWith C dek iv' text)) =
      .ok (some (plaintext L field value))) :
    Protectable L model field value := by
  have hnotShaped : looksEncrypted (trim value) = false := by
    by_contra hshaped
    rw [Bool.not_eq_false] at hshaped
    -- the text itself would be a payload
    rw [encryptField_shaped hshaped] at hstored
    have hpayload : trim value = encryptWith C dek iv' text :=
      Option.some.inj (Except.ok.inj hstored)
    have hshorter := not_read_as_itself hdek (hpayload ▸ hshaped) hread
    have hlength := length_le_plaintext (L := L) field value
    rw [hpayload] at hlength
    omega
  have hnotShapedNormalized : looksEncrypted (plaintext L field value) = false := by
    by_contra hshaped
    rw [Bool.not_eq_false] at hshaped
    have hnormalized : looksEncrypted (field.normalize L (trim value)) = true := by
      rw [normalize_trim]
      exact hshaped
    rw [encryptField_normalized hnotShaped hnormalized, normalize_trim] at hstored
    have hpayload : plaintext L field value = encryptWith C dek iv' text :=
      Option.some.inj (Except.ok.inj hstored)
    have hshorter := not_read_as_itself hdek (hpayload ▸ hshaped) hread
    rw [hpayload] at hshorter
    omega
  have hnormalized : looksEncrypted (field.normalize L (trim value)) = false := by
    rw [normalize_trim]
    exact hnotShapedNormalized
  rw [encryptField_encrypts hdek hnotShaped hnormalized, normalize_trim] at hstored
  have hpayload : encryptWith C dek iv (plaintext L field value) = encryptWith C dek iv' text :=
    Option.some.inj (Except.ok.inj hstored)
  rw [← hpayload] at hread
  have hnotEmpty : plaintext L field value ≠ "" := by
    intro hempty
    rw [hempty] at hread
    exact empty_not_read hread
  refine ⟨hnotEmpty, hnotShaped, hnotShapedNormalized, ?_⟩
  rintro rfl
  rw [readField_payload .client hdek hnotEmpty] at hread
  exact not_placeholder_of_shown (Except.ok.inj hread)

theorem protectable_of_protected (tenant : SoundKeys C firm) {model : Model} {random : Randoms}
    {values : Document} (hlong : ¬(model = .case ∧ tooLong (assign values) = true))
    (h : Protected C L firm model tenant.keys random values) :
    ∀ field ∈ model.fields, ∀ value, values field = some value →
      Protectable L model field value := by
  intro field hfield value hvalue
  obtain ⟨dek, hdek⟩ := ensureTenantKey_unwrapped tenant random
  obtain ⟨s, hsave⟩ := save_ok (L := L) hdek hlong
  obtain ⟨_, hkeys, hhook⟩ := save_eq_ok.1 hsave
  -- the state right after the save is enough
  obtain ⟨document, hread, hholds⟩ := h s hsave []
  obtain ⟨⟨text, iv, hencrypt⟩, hdocument⟩ := hholds field hfield value hvalue
  have hstored := (replaceFields_eq_ok (fields_nodup model) hhook).1 field hfield
  have hfieldRead := (replaceFields_eq_ok (fields_nodup model) hread).1 field hfield
  rw [run] at hencrypt hfieldRead
  rw [← hkeys] at hdek hstored
  rw [encrypt_firm hdek] at hencrypt
  have hpayload : s.stored field = some (encryptWith C dek iv text) := (Except.ok.inj hencrypt).symm
  rw [assign, hvalue, Option.map_some, hpayload] at hstored
  rw [hpayload, hdocument] at hfieldRead
  exact protectable_of_holds hdek hstored hfieldRead

end converse

/-- The fields of a document that is not refused hold ciphertexts of what is assigned to them,
however often it is loaded and saved, exactly when every text that is assigned is protectable. -/
theorem protected_iff (C : Crypto) (L : LowerCase) (firm : Firm) (tenant : SoundKeys C firm)
    (model : Model) (random : Randoms) (values : Document) :
    Protected C L firm model tenant.keys random values ↔
      (model = .case ∧ tooLong (assign values) = true) ∨
        ∀ field ∈ model.fields, ∀ value, values field = some value →
          Protectable L model field value := by
  constructor
  · intro h
    by_cases hlong : model = .case ∧ tooLong (assign values) = true
    · exact .inl hlong
    · exact .inr (protectable_of_protected tenant hlong h)
  · rintro (hlong | hvalues)
    · intro s hsave
      exact absurd hlong (save_eq_ok.1 hsave).1
    · exact protected_of_protectable tenant hvalues

/-! ## A text in clear -/

/-- A firm whose key is made of zeros. -/
theorem zeroFirm_given : "FIRM001" ≠ "" := by decide

def zeroFirm : Firm where
  firmId := "FIRM001"
  firmId_given := zeroFirm_given

def zeroFirmKeys : SoundKeys emptyTextCipher zeroFirm where
  keys := zeroKeys
  sound r hr := by
    cases hr
    exact ⟨_, unwrapRecord_wrapDek _ _ _⟩

def zeroRandoms : Randoms where
  dek := List.replicate 32 0
  dekIv := zeroIv
  iv _ := zeroIv

/-- `toLowerCase` on texts that are in lower case. -/
def lowerCaseTexts : LowerCase where
  apply := id
  apply_apply _ := rfl
  trim_apply _ := rfl
  length_le _ := le_rfl

/-- A case whose description is a time of day. -/
def timeOfDay : Document := fun field => if field = .description then some "10:30:00" else none

/-- The description is stored in clear. -/
theorem protected_fails :
    (∃ s, save emptyTextCipher lowerCaseTexts zeroFirm .case zeroKeys zeroRandoms
        (assign timeOfDay) = .ok s ∧ s.stored .description = some "10:30:00") ∧
      ¬Protected emptyTextCipher lowerCaseTexts zeroFirm .case zeroKeys zeroRandoms timeOfDay := by
  have hshaped : looksEncrypted (trim "10:30:00") = true := by decide
  constructor
  · exact ⟨⟨zeroKeys, _⟩, rfl, rfl⟩
  · intro h
    have hprotectable := protectable_of_protected zeroFirmKeys (by decide) h .description
      (List.mem_singleton_self _) "10:30:00" rfl
    have hnotShaped := hprotectable.notShaped
    rw [hshaped] at hnotShaped
    cases hnotShaped

end Docketra.FieldEncryption
