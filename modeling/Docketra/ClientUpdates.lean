import Docketra.FieldEncryption

/-!
# Updates of clients

`_encryptClientUpdatePayload` of `models/Client.model.js` runs before an update of clients. It takes
the sensitive fields out of the top level of the update, and puts them under `$set` with the others,
encrypted. When none of them is left to encrypt it returns before that, and what stood at the top
level is gone. Otherwise it is in what is written, and read back unless the text is empty or not
taken for what it is (`losesNothing_iff`).
-/

namespace Docketra.FieldEncryption

open Base64 Checked Encryption

/-! ## Update documents -/

/-- The sensitive fields of a client. -/
inductive ContactField where
  | primaryContactNumber | businessEmail
  deriving DecidableEq, Repr

namespace ContactField

/-- `_CLIENT_SENSITIVE_FIELDS`. -/
def all : List ContactField := [primaryContactNumber, businessEmail]

def field : ContactField → Field
  | primaryContactNumber => .primaryContactNumber
  | businessEmail => .businessEmail

/-- What the hook makes of a text before it encrypts it. -/
def normalize (L : LowerCase) : ContactField → String → String
  | primaryContactNumber, s => trim s
  | businessEmail, s => L.apply (trim s)

end ContactField

/-- A value of the other fields. -/
inductive Value where
  | null
  | text (s : String)
  /-- A number or a boolean, by its text. -/
  | scalar (text : String)
  | array (items : List Value)
  /-- An object, by the entries of `Object.entries`. -/
  | object (entries : List (String × Value))

mutual

/-- `_hasMeaningfulSensitiveValue`. -/
def hasMeaningfulSensitiveValue : Value → Bool
  | .null => false
  | .text s => !isBlank s
  | .scalar _ => true
  | .array items => !items.isEmpty
  | .object entries => hasMeaningfulEntry entries

def hasMeaningfulEntry : List (String × Value) → Bool
  | [] => false
  | (_, value) :: entries => hasMeaningfulSensitiveValue value || hasMeaningfulEntry entries

end

/-- The fields that are assigned in one place, each with its value. -/
structure Assignments where
  /-- The sensitive fields, each of which may be `null`. -/
  sensitive : ContactField → Option (Option String) := fun _ => none
  /-- `firmId`, by its text. -/
  firmId : Option String := none
  rest : String → Option Value := fun _ => none

/-- An update document. -/
structure UpdateDoc where
  top : Assignments := {}
  /-- `$set`. -/
  set : Option Assignments := none
  /-- The other operators. -/
  operators : String → Option Value := fun _ => none

namespace UpdateDoc

/-- `updateDoc.$set || {}`. -/
def setPart (doc : UpdateDoc) : Assignments := doc.set.getD {}

/-- What a document assigns to a sensitive field. The top level goes before `$set`. -/
def assigned (doc : UpdateDoc) (f : ContactField) : Option (Option String) :=
  doc.top.sensitive f <|> doc.setPart.sensitive f

/-- The document without the sensitive fields of its top level. -/
def withoutDirect (doc : UpdateDoc) : UpdateDoc :=
  { doc with top := { doc.top with sensitive := fun _ => none } }

/-- `setUpdate`. -/
def setUpdate (doc : UpdateDoc) : Assignments := { doc.setPart with sensitive := doc.assigned }

theorem setUpdate_sensitive (doc : UpdateDoc) : doc.setUpdate.sensitive = doc.assigned := rfl

end UpdateDoc

/-! ## The hook -/

def NON_PERSISTENT_SENSITIVE_FIELDS : List String :=
  ["PAN", "TAN", "GST", "CIN", "businessAddress", "secondaryContactNumber", "contactPersonName",
    "contactPersonDesignation", "contactPersonPhoneNumber", "contactPersonEmailAddress",
    "clientFactSheet"]

/-- The first field that may not be written, with a value. -/
def blockedField (doc : UpdateDoc) : Option String :=
  NON_PERSISTENT_SENSITIVE_FIELDS.find? fun field =>
    (doc.setUpdate.rest field).any hasMeaningfulSensitiveValue

/-- A text that does not look encrypted. -/
def isPlaintext : Option (Option String) → Bool
  | some (some s) => !looksEncrypted s
  | _ => false

def fieldsToEncrypt (doc : UpdateDoc) : List ContactField :=
  ContactField.all.filter fun f => isPlaintext (doc.setUpdate.sensitive f)

/-- `setUpdate.firmId || filter.firmId`, for a filter by a firm. -/
def tenantOf (firm : Firm) (firmId : Option String) : Firm :=
  if h : firmId.getD "" ≠ "" then { firmId := firmId.getD "", firmId_given := h } else firm

section hook

variable (C : Crypto) (L : LowerCase)

/-- The loop over `fieldsToEncrypt`. -/
def encryptFields (keys : Keys) (random : Randoms) (tenantId : String) :
    List ContactField → (ContactField → Option (Option String)) →
      Except EncryptionError (ContactField → Option (Option String))
  | [], values => .ok values
  | f :: fields, values => do
    let payload ← encrypt C keys (random.iv f.field) (values f).join tenantId
    encryptFields keys random tenantId fields (Function.update values f (some payload))

/-- The texts of `setUpdate`, trimmed and in lower case. -/
def normalized (values : ContactField → Option (Option String)) (f : ContactField) :
    Option (Option String) :=
  (values f).map (·.map fun s => if looksEncrypted s then s else f.normalize L s)

/-- `_encryptClientUpdatePayload`, with a master key, for a filter by a firm. It hands a document to
the update, and leaves the keys. -/
def encryptClientUpdatePayload (firm : Firm) (keys : Keys) (random : Randoms) (doc : UpdateDoc) :
    Except EncryptionError (UpdateDoc × Keys) :=
  match blockedField doc with
  | some field => .error (.error ("BYOS_SENSITIVE_FIELD_PERSISTENCE_BLOCKED:" ++ field))
  | none =>
    -- The sensitive fields of the top level are deleted already.
    if fieldsToEncrypt doc = [] then .ok (doc.withoutDirect, keys)
    else do
      let tenant := tenantOf firm doc.setUpdate.firmId
      let keys := ensureTenantKey C tenant keys random
      let encrypted ← encryptFields C keys random tenant.firmId (fieldsToEncrypt doc)
        (normalized L doc.setUpdate.sensitive)
      return ({ doc.withoutDirect with
        set := some { doc.setUpdate with sensitive := encrypted } }, keys)

end hook

/-! ## What is handed over -/

section spec

variable {C : Crypto} {L : LowerCase} {firm : Firm}

theorem normalize_eq_plaintext (f : ContactField) (s : String) :
    f.normalize L s = plaintext L f.field s := by
  cases f <;> rfl

theorem mem_fieldsToEncrypt {doc : UpdateDoc} {f : ContactField} :
    f ∈ fieldsToEncrypt doc ↔ isPlaintext (doc.assigned f) = true := by
  have hall : f ∈ ContactField.all := by cases f <;> decide
  exact List.mem_filter.trans (and_iff_right hall)

theorem fieldsToEncrypt_nodup (doc : UpdateDoc) : (fieldsToEncrypt doc).Nodup :=
  (by decide : ContactField.all.Nodup).filter _

theorem isPlaintext_eq_true {value : Option (Option String)} :
    isPlaintext value = true ↔ ∃ s, value = some (some s) ∧ looksEncrypted s = false := by
  match value with
  | none => exact iff_of_false Bool.false_ne_true fun ⟨_, h, _⟩ => nomatch h
  | some none => exact iff_of_false Bool.false_ne_true fun ⟨_, h, _⟩ => nomatch h
  | some (some s) =>
    rw [isPlaintext, Bool.not_eq_true']
    exact ⟨fun h => ⟨s, rfl, h⟩, fun ⟨t, ht, h⟩ => by cases ht; exact h⟩

/-- A value as the hook hands it over, under a key. -/
def sealedValue (C : Crypto) (L : LowerCase) (dek : Bytes) (random : Randoms) (f : ContactField) :
    Option (Option String) → Option (Option String)
  | some (some s) =>
    if looksEncrypted s then some (some s)
    else some (some (encryptWith C dek (random.iv f.field) (plaintext L f.field s)))
  | value => value

/-- Where the key of the tenant is unwrapped, the loop encrypts each of its fields. -/
theorem encryptFields_eq {keys : Keys} {random : Randoms} {tenant : Firm} {dek : Bytes}
    (hdek : unwrapDek C keys tenant.firmId = .ok dek) {text : ContactField → String} :
    ∀ {fields : List ContactField} {values : ContactField → Option (Option String)},
      fields.Nodup → (∀ f ∈ fields, values f = some (some (text f))) →
      encryptFields C keys random tenant.firmId fields values = .ok fun f =>
        if f ∈ fields then some (some (encryptWith C dek (random.iv f.field) (text f)))
        else values f
  | [], values, _, _ => by
    rw [encryptFields]
    simp only [List.not_mem_nil, if_false]
  | f :: fields, values, hnodup, htexts => by
    obtain ⟨hf, hnodup⟩ := List.nodup_cons.mp hnodup
    have hrest : ∀ g ∈ fields, Function.update values f
        (some (some (encryptWith C dek (random.iv f.field) (text f)))) g = some (some (text g)) := by
      intro g hg
      rw [Function.update_of_ne (ne_of_mem_of_not_mem hg hf)]
      exact htexts g (List.mem_cons_of_mem f hg)
    rw [encryptFields, htexts f List.mem_cons_self, Option.join_some, encrypt_firm hdek, ok_bind,
      encryptFields_eq hdek hnodup hrest]
    congr 1
    funext g
    by_cases hg : g = f
    · subst hg
      rw [if_neg hf, Function.update_self, if_pos List.mem_cons_self]
    · simp only [List.mem_cons, hg, false_or, Function.update_of_ne hg]

/-- Where it is not, the loop fails, unless it has no field. -/
theorem encryptFields_error {keys : Keys} {random : Randoms} {tenant : Firm} {e : EncryptionError}
    (hdek : unwrapDek C keys tenant.firmId = .error e) {f : ContactField}
    {fields : List ContactField} {values : ContactField → Option (Option String)} {s : String}
    (hf : values f = some (some s)) :
    encryptFields C keys random tenant.firmId (f :: fields) values = .error e := by
  rw [encryptFields, hf, Option.join_some, encrypt, throwIf_neg tenant.firmId_given, ok_bind, hdek]
  rfl

/-- The keys that an update with a text to encrypt leaves. -/
def keysOf (C : Crypto) (firm : Firm) (keys : Keys) (random : Randoms) (doc : UpdateDoc) : Keys :=
  ensureTenantKey C (tenantOf firm doc.setUpdate.firmId) keys random

theorem normalized_of_plaintext {values : ContactField → Option (Option String)} {f : ContactField}
    {s : String} (hf : values f = some (some s)) (hplain : looksEncrypted s = false) :
    normalized L values f = some (some (plaintext L f.field s)) := by
  rw [normalized, hf, Option.map_some, Option.map_some, hplain, if_neg Bool.false_ne_true,
    normalize_eq_plaintext]

/-- What is no plaintext stays as it is. -/
theorem normalized_of_not_plaintext {values : ContactField → Option (Option String)}
    {f : ContactField} (h : ¬isPlaintext (values f) = true) : normalized L values f = values f := by
  unfold normalized
  match hf : values f with
  | none => rfl
  | some none => rfl
  | some (some s) =>
    have hlooks : looksEncrypted s = true := by
      by_contra hplain
      exact h (isPlaintext_eq_true.mpr ⟨s, hf, Bool.not_eq_true _ ▸ hplain⟩)
    rw [Option.map_some, Option.map_some, if_pos hlooks]

theorem sealedValue_of_not_plaintext {dek : Bytes} {random : Randoms} {f : ContactField}
    {value : Option (Option String)} (h : ¬isPlaintext value = true) :
    sealedValue C L dek random f value = value := by
  match value with
  | none => rfl
  | some none => rfl
  | some (some s) =>
    have hlooks : looksEncrypted s = true := by
      by_contra hplain
      exact h (isPlaintext_eq_true.mpr ⟨s, rfl, Bool.not_eq_true _ ▸ hplain⟩)
    rw [sealedValue, if_pos hlooks]

/-- The loop seals each value. -/
theorem encryptFields_sealed {keys : Keys} {random : Randoms} {tenant : Firm} {dek : Bytes}
    (hdek : unwrapDek C keys tenant.firmId = .ok dek) (doc : UpdateDoc) :
    encryptFields C keys random tenant.firmId (fieldsToEncrypt doc)
        (normalized L doc.setUpdate.sensitive) =
      .ok fun f => sealedValue C L dek random f (doc.assigned f) := by
  have htexts : ∀ f ∈ fieldsToEncrypt doc, normalized L doc.setUpdate.sensitive f =
      some (some (plaintext L f.field ((doc.assigned f).join.getD ""))) := by
    intro f hf
    obtain ⟨s, hs, hplain⟩ := isPlaintext_eq_true.mp (mem_fieldsToEncrypt.mp hf)
    rw [UpdateDoc.setUpdate_sensitive, normalized_of_plaintext hs hplain, hs]
    rfl
  rw [encryptFields_eq hdek (fieldsToEncrypt_nodup doc) htexts]
  congr 1
  funext f
  by_cases hf : isPlaintext (doc.assigned f) = true
  · obtain ⟨s, hs, hplain⟩ := isPlaintext_eq_true.mp hf
    rw [if_pos (mem_fieldsToEncrypt.mpr hf), hs, sealedValue, hplain, if_neg Bool.false_ne_true]
    rfl
  · rw [if_neg fun h => hf (mem_fieldsToEncrypt.mp h), sealedValue_of_not_plaintext hf]
    exact normalized_of_not_plaintext hf

/-- What the hook hands over. -/
theorem encryptClientUpdatePayload_eq_ok {keys : Keys} {random : Randoms} {doc : UpdateDoc}
    {result : UpdateDoc × Keys} (hblocked : blockedField doc = none) :
    encryptClientUpdatePayload C L firm keys random doc = .ok result ↔
      if fieldsToEncrypt doc = [] then result = (doc.withoutDirect, keys)
      else ∃ dek, unwrapDek C (keysOf C firm keys random doc)
          (tenantOf firm doc.setUpdate.firmId).firmId = .ok dek ∧
        result = ({ doc.withoutDirect with set := some { doc.setUpdate with
          sensitive := fun f => sealedValue C L dek random f (doc.assigned f) } },
          keysOf C firm keys random doc) := by
  rw [encryptClientUpdatePayload, hblocked]
  dsimp only
  split_ifs with hnone
  · exact ⟨fun h => (Except.ok.inj h).symm, fun h => h ▸ rfl⟩
  · change (encryptFields C (keysOf C firm keys random doc) random _ _ _ >>= _) = _ ↔ _
    cases hdek : unwrapDek C (keysOf C firm keys random doc)
      (tenantOf firm doc.setUpdate.firmId).firmId with
    | ok dek =>
      rw [encryptFields_sealed hdek, ok_bind]
      constructor
      · exact fun h => ⟨dek, rfl, (Except.ok.inj h).symm⟩
      · rintro ⟨_, hdek', rfl⟩
        rw [Except.ok.inj hdek']
        rfl
    | error e =>
      -- There is a text to encrypt, so the loop meets the failure.
      obtain ⟨f, fields, hfields⟩ := List.exists_cons_of_ne_nil hnone
      have hf : f ∈ fieldsToEncrypt doc := hfields ▸ List.mem_cons_self
      obtain ⟨s, hs, hplain⟩ := isPlaintext_eq_true.mp (mem_fieldsToEncrypt.mp hf)
      rw [hfields, UpdateDoc.setUpdate_sensitive,
        encryptFields_error hdek (normalized_of_plaintext hs hplain)]
      exact iff_of_false (fun h => nomatch h) fun ⟨_, h, _⟩ => nomatch h

end spec

/-! ## Updates that lose nothing -/

section loss

variable (C : Crypto) (L : LowerCase) (firm : Firm)

/-- A text is an output of the encryption, with its version or as it was without one. -/
def IsPayload (s : String) : Prop :=
  ∃ version dek iv text, (version = none ∨ version = some PAYLOAD_VERSION) ∧
    s = encodePayload (aesgcmEncrypt C (utf8 text) dek iv) version

/-- The value that replaces a text is a ciphertext of it, and is read back. -/
def Replaced (keys : Keys) (f : ContactField) (s : String) (handed : Option (Option String)) :
    Prop :=
  ∃ payload, handed = some (some payload) ∧
    (∃ tenantId iv, encrypt C keys iv (some (plaintext L f.field s)) tenantId =
      .ok (some payload)) ∧
    decryptClientField C L firm keys f.field (some payload) = .ok (some (plaintext L f.field s))

/-- A text that is no payload is replaced, and every other value stays as it is. -/
def Faithful (keys : Keys) (f : ContactField) :
    Option (Option String) → Option (Option String) → Prop
  | some (some s), handed => (IsPayload C s → handed = some (some s)) ∧
    (¬IsPayload C s → Replaced C L firm keys f s handed)
  | value, handed => handed = value

/-- A document assigns what another one assigns, with its texts encrypted. -/
structure Kept (keys : Keys) (doc handed : UpdateDoc) : Prop where
  sensitive : ∀ f, Faithful C L firm keys f (doc.assigned f) (handed.assigned f)
  firmId : handed.top.firmId = doc.top.firmId ∧ handed.setPart.firmId = doc.setPart.firmId
  rest : handed.top.rest = doc.top.rest ∧ handed.setPart.rest = doc.setPart.rest
  operators : handed.operators = doc.operators

/-- What the hook hands over loses nothing. -/
def LosesNothing (keys : Keys) (random : Randoms) (doc : UpdateDoc) : Prop :=
  ∀ handed left, encryptClientUpdatePayload C L firm keys random doc = .ok (handed, left) →
    Kept C L firm left doc handed

/-- The key that the repository finds for the firm opens what is sealed under a key. -/
def Opens (keys : Keys) (dek : Bytes) (iv : Iv) (text : String) : Prop :=
  ∃ tenantId reader, resolveTenantKeyTenantId firm keys = some tenantId ∧ tenantId ≠ "" ∧
    unwrapDek C keys tenantId = .ok reader ∧
    (decryptWith C reader (encryptWith C dek iv text)).map trim = .ok text

/-- A field is under `$set` as it is assigned, and is no text in clear. -/
def Stays (doc : UpdateDoc) (f : ContactField) : Prop :=
  doc.setPart.sensitive f = doc.assigned f ∧
    ∀ s, doc.assigned f = some (some s) → IsPayload C s

/-- A text in clear at the top level stands over its own ciphertext under `$set`. -/
def Superseded (keys : Keys) (doc : UpdateDoc) (f : ContactField) : Prop :=
  ∃ s, doc.assigned f = some (some s) ∧ ¬IsPayload C s ∧
    Replaced C L firm keys f s (doc.setPart.sensitive f)

/-- The condition on an update. -/
structure Delivers (keys : Keys) (random : Randoms) (doc : UpdateDoc) : Prop where
  /-- Without a text to encrypt, nothing is at the top level only. -/
  nothing : fieldsToEncrypt doc = [] → ∀ f, Stays C doc f ∨ Superseded C L firm keys doc f
  /-- With one, each text is taken for what it is, and those to encrypt are not empty, and read with
  the key that they are encrypted with. -/
  something : fieldsToEncrypt doc ≠ [] → ∀ dek, unwrapDek C (keysOf C firm keys random doc)
      (tenantOf firm doc.setUpdate.firmId).firmId = .ok dek →
    ∀ f s, doc.assigned f = some (some s) → (IsPayload C s ↔ looksEncrypted s = true) ∧
      (looksEncrypted s = false → plaintext L f.field s ≠ "" ∧
        Opens C firm (keysOf C firm keys random doc) dek (random.iv f.field)
          (plaintext L f.field s))

variable {C L firm}

/-! ## Reading -/

theorem decrypt_eq_ok {lowerCase : String → String} {keys : Keys} {value text tenantId : String}
    {field : Option String} (hlooks : looksEncrypted value = true) :
    decrypt C lowerCase keys (some value) tenantId none field = .ok (some text) ↔
      tenantId ≠ "" ∧ ∃ dek, unwrapDek C keys tenantId = .ok dek ∧
        decryptWith C dek value = .ok text := by
  have hlooks' : ¬looksEncrypted value = false := by rw [hlooks]; decide
  have hrole : ¬(truthy none && isSuperadmin lowerCase (Option.getD none "")) = true := by
    simp only [truthy, Bool.false_and, Bool.false_eq_true, not_false_eq_true]
  rw [decrypt, throwIf_neg hrole, ok_bind, if_neg hlooks']
  simp only [bind_eq_ok, throwIf_eq_ok, mapError_eq_ok, pure_eq, Except.ok.injEq, exists_const,
    Option.some.injEq, exists_eq_right]

/-- A ciphertext is read back when the key that the repository finds opens it. -/
theorem decryptClientField_eq_ok {keys : Keys} {field : Field} {dek : Bytes} {iv : Iv}
    {text : String} (htext : text ≠ "") :
    decryptClientField C L firm keys field (some (encryptWith C dek iv text)) = .ok (some text) ↔
      Opens C firm keys dek iv text := by
  have hlooks : looksEncrypted (encryptWith C dek iv text) = true :=
    (looksEncrypted_encryptWith dek iv text).trans (decide_eq_true htext)
  dsimp only [decryptClientField]
  rw [if_pos hlooks]
  unfold Opens
  cases hresolve : resolveTenantKeyTenantId firm keys with
  | none => exact iff_of_false (fun h => nomatch h) fun ⟨_, _, h, _⟩ => nomatch h
  | some tenantId =>
    dsimp only
    constructor
    · intro h
      match hdecrypt : decrypt C L.apply keys (some (encryptWith C dek iv text)) tenantId none
          (some field.name) with
      | .error e =>
        rw [hdecrypt] at h
        exact nomatch h
      | .ok none =>
        rw [hdecrypt] at h
        exact nomatch Except.ok.inj h
      | .ok (some shown) =>
        obtain ⟨htenant, reader, hreader, hopened⟩ := (decrypt_eq_ok hlooks).mp hdecrypt
        rw [hdecrypt] at h
        refine ⟨tenantId, reader, rfl, htenant, hreader, ?_⟩
        rw [hopened]
        exact congrArg Except.ok (Option.some.inj (Except.ok.inj h))
    · rintro ⟨_, reader, hfound, htenant, hreader, hopened⟩
      obtain rfl := Option.some.inj hfound
      cases hwith : decryptWith C reader (encryptWith C dek iv text) with
      | error e =>
        rw [hwith] at hopened
        exact nomatch hopened
      | ok shown =>
        rw [hwith] at hopened
        rw [(decrypt_eq_ok hlooks).mpr ⟨htenant, reader, hreader, hwith⟩]
        exact congrArg (fun t => Except.ok (some t)) (Except.ok.inj hopened)

/-- Under the firm's own key, every text is read back. -/
theorem opens_firm {keys : Keys} {dek : Bytes} (hdek : unwrapDek C keys firm.firmId = .ok dek)
    {iv : Iv} {text : String} (htrim : trim text = text) : Opens C firm keys dek iv text := by
  refine ⟨firm.firmId, dek, resolve_firm hdek, firm.firmId_given, hdek, ?_⟩
  rw [decryptWith_encryptWith]
  exact congrArg Except.ok htrim

/-! ## One field -/

theorem isPayload_encryptWith (dek : Bytes) (iv : Iv) (text : String) :
    IsPayload C (encryptWith C dek iv text) :=
  ⟨some PAYLOAD_VERSION, dek, iv, text, Or.inr rfl, rfl⟩

/-- What replaces a text is a payload. -/
theorem Replaced.isPayload {keys : Keys} {f : ContactField} {s payload : String}
    (h : Replaced C L firm keys f s (some (some payload))) : IsPayload C payload := by
  obtain ⟨_, hpayload, ⟨tenantId, iv, hencrypt⟩, -⟩ := h
  obtain rfl := Option.some.inj (Option.some.inj hpayload)
  simp only [encrypt, bind_eq_ok, throwIf_eq_ok, pure_eq, Except.ok.injEq, Option.some.injEq]
    at hencrypt
  obtain ⟨-, -, dek, -, rfl⟩ := hencrypt
  exact isPayload_encryptWith dek iv _

/-- A text is replaced by what it is sealed to when it is not empty and the key is found. -/
theorem replaced_sealed_iff {keys : Keys} {tenant : Firm} {dek : Bytes}
    (hdek : unwrapDek C keys tenant.firmId = .ok dek) {iv : Iv} {f : ContactField} {s : String} :
    Replaced C L firm keys f s (some (some (encryptWith C dek iv (plaintext L f.field s)))) ↔
      plaintext L f.field s ≠ "" ∧ Opens C firm keys dek iv (plaintext L f.field s) := by
  constructor
  · rintro ⟨payload, hpayload, -, hread⟩
    obtain rfl := Option.some.inj (Option.some.inj hpayload)
    have htext : plaintext L f.field s ≠ "" := by
      intro hempty
      -- The payload of the empty text is shown as it is.
      have hlooks : looksEncrypted (encryptWith C dek iv (plaintext L f.field s)) = false := by
        rw [looksEncrypted_encryptWith, hempty]
        rfl
      dsimp only [decryptClientField] at hread
      rw [hlooks, if_neg Bool.false_ne_true, hempty] at hread
      exact encryptWith_ne_empty (Option.some.inj (Except.ok.inj hread))
    exact ⟨htext, (decryptClientField_eq_ok htext).mp hread⟩
  · rintro ⟨htext, hopens⟩
    exact ⟨_, rfl, ⟨tenant.firmId, iv, encrypt_firm hdek iv _⟩,
      (decryptClientField_eq_ok htext).mpr hopens⟩

/-- A payload is not encrypted into itself. -/
theorem encryptWith_ne_of_isPayload {dek : Bytes} {iv : Iv} {f : ContactField} {s : String}
    (h : IsPayload C s) : encryptWith C dek iv (plaintext L f.field s) ≠ s := by
  obtain ⟨version, _, _, _, hversion, hs⟩ := h
  intro heq
  have htrim : trim s = s := by
    rw [hs]
    exact trim_encodePayload _ hversion
  have hplain := length_le_plaintext (L := L) f.field s
  have hlonger := length_lt_encryptWith (C := C) dek iv (plaintext L f.field s)
  rw [htrim] at hplain
  rw [heq] at hlonger
  omega

/-- Where nothing is encrypted, what is left under `$set` is to be the value. -/
theorem faithful_left_iff {keys : Keys} {doc : UpdateDoc} {f : ContactField} :
    Faithful C L firm keys f (doc.assigned f) (doc.setPart.sensitive f) ↔
      Stays C doc f ∨ Superseded C L firm keys doc f := by
  unfold Stays Superseded
  match doc.assigned f with
  | none => exact ⟨fun h => Or.inl ⟨h, fun _ h => nomatch h⟩, fun h => h.elim (·.1) fun ⟨_, h, _⟩ =>
      nomatch h⟩
  | some none => exact ⟨fun h => Or.inl ⟨h, fun _ h => nomatch h⟩, fun h => h.elim (·.1)
      fun ⟨_, h, _⟩ => nomatch h⟩
  | some (some s) =>
    by_cases hpayload : IsPayload C s
    · constructor
      · rintro ⟨hsame, -⟩
        exact Or.inl ⟨hsame hpayload, fun t ht => by cases ht; exact hpayload⟩
      · rintro (⟨hsame, -⟩ | ⟨t, ht, hnot, -⟩)
        · exact ⟨fun _ => hsame, fun hnot => absurd hpayload hnot⟩
        · cases ht
          exact absurd hpayload hnot
    · constructor
      · rintro ⟨-, hreplaced⟩
        exact Or.inr ⟨s, rfl, hpayload, hreplaced hpayload⟩
      · rintro (⟨-, hall⟩ | ⟨t, ht, -, hreplaced⟩)
        · exact absurd (hall s rfl) hpayload
        · cases ht
          exact ⟨fun h => absurd h hpayload, fun _ => hreplaced⟩

/-- Where values are sealed, each is to be taken for what it is, and to be read back. -/
theorem faithful_sealed_iff {keys : Keys} {tenant : Firm} {dek : Bytes}
    (hdek : unwrapDek C keys tenant.firmId = .ok dek) {random : Randoms} {f : ContactField}
    (value : Option (Option String)) :
    Faithful C L firm keys f value (sealedValue C L dek random f value) ↔
      ∀ s, value = some (some s) → (IsPayload C s ↔ looksEncrypted s = true) ∧
        (looksEncrypted s = false → plaintext L f.field s ≠ "" ∧
          Opens C firm keys dek (random.iv f.field) (plaintext L f.field s)) := by
  match value with
  | none => exact iff_of_true rfl fun _ h => nomatch h
  | some none => exact iff_of_true rfl fun _ h => nomatch h
  | some (some s) =>
    simp only [Option.some.injEq, forall_eq', Faithful, sealedValue]
    cases hlooks : looksEncrypted s with
    | true =>
      -- The text is left as it is, and has to be a payload.
      rw [if_pos rfl]
      constructor
      · rintro ⟨-, hreplaced⟩
        have hpayload : IsPayload C s := by
          by_contra hnot
          exact hnot (hreplaced hnot).isPayload
        exact ⟨iff_of_true hpayload rfl, fun h => nomatch h⟩
      · rintro ⟨hjudged, -⟩
        exact ⟨fun _ => rfl, fun hnot => absurd (hjudged.mpr rfl) hnot⟩
    | false =>
      -- The text is encrypted, and must not have been a payload.
      rw [if_neg Bool.false_ne_true, replaced_sealed_iff hdek]
      constructor
      · rintro ⟨hsame, hread⟩
        have hnot : ¬IsPayload C s := fun h =>
          encryptWith_ne_of_isPayload h (Option.some.inj (Option.some.inj (hsame h)))
        exact ⟨iff_of_false hnot Bool.false_ne_true, fun _ => hread hnot⟩
      · rintro ⟨hjudged, hread⟩
        exact ⟨fun h => absurd (hjudged.mp h) Bool.false_ne_true, fun _ => hread rfl⟩

/-! ## The whole update -/

/-- What an update assigns is handed over, with its texts encrypted and read back, exactly when the
update has a field that blocks it, or meets the condition. -/
theorem losesNothing_iff (C : Crypto) (L : LowerCase) (firm : Firm) (keys : Keys)
    (random : Randoms) (doc : UpdateDoc) :
    LosesNothing C L firm keys random doc ↔
      (blockedField doc = none → Delivers C L firm keys random doc) := by
  cases hblocked : blockedField doc with
  | some field =>
    refine iff_of_true (fun handed left h => ?_) fun h => nomatch h
    rw [encryptClientUpdatePayload, hblocked] at h
    exact nomatch h
  | none =>
    unfold LosesNothing
    simp only [encryptClientUpdatePayload_eq_ok hblocked, forall_const]
    by_cases hnone : fieldsToEncrypt doc = []
    · simp only [if_pos hnone, Prod.mk.injEq]
      constructor
      · intro h
        refine ⟨fun _ f => faithful_left_iff.mp ?_, fun hsome => absurd hnone hsome⟩
        exact (h _ _ ⟨rfl, rfl⟩).sensitive f
      · rintro hdelivers handed left ⟨rfl, rfl⟩
        exact ⟨fun f => faithful_left_iff.mpr (hdelivers.nothing hnone f), ⟨rfl, rfl⟩, ⟨rfl, rfl⟩,
          rfl⟩
    · simp only [if_neg hnone, Prod.mk.injEq]
      constructor
      · intro h
        refine ⟨fun hempty => absurd hempty hnone, fun _ dek hdek f => ?_⟩
        exact (faithful_sealed_iff hdek _).mp ((h _ _ ⟨dek, hdek, rfl, rfl⟩).sensitive f)
      · rintro hdelivers handed left ⟨dek, hdek, rfl, rfl⟩
        exact ⟨fun f => (faithful_sealed_iff hdek _).mpr (hdelivers.something hnone dek hdek f),
          ⟨rfl, rfl⟩, ⟨rfl, rfl⟩, rfl⟩

/-- With a text to encrypt, and without another firm under `$set`, it is enough that each text is
taken for what it is and that those to encrypt are not empty. -/
theorem losesNothing_own_firm_iff {keys : Keys} {random : Randoms} {doc : UpdateDoc} {dek : Bytes}
    (hblocked : blockedField doc = none) (hsome : fieldsToEncrypt doc ≠ [])
    (hfirm : (tenantOf firm doc.setUpdate.firmId).firmId = firm.firmId)
    (hdek : unwrapDek C (keysOf C firm keys random doc) firm.firmId = .ok dek) :
    LosesNothing C L firm keys random doc ↔
      ∀ f s, doc.assigned f = some (some s) → (IsPayload C s ↔ looksEncrypted s = true) ∧
        (looksEncrypted s = false → plaintext L f.field s ≠ "") := by
  rw [losesNothing_iff]
  constructor
  · intro h f s hs
    obtain ⟨hjudged, hread⟩ := (h hblocked).something hsome dek (hfirm ▸ hdek) f s hs
    exact ⟨hjudged, fun hplain => (hread hplain).1⟩
  · intro h _
    refine ⟨fun hnone => absurd hnone hsome, fun _ dek' hdek' f s hs => ?_⟩
    obtain ⟨hjudged, htext⟩ := h f s hs
    rw [hfirm] at hdek'
    exact ⟨hjudged, fun hplain => ⟨htext hplain, opens_firm hdek' (trim_plaintext f.field s)⟩⟩

end loss

/-- An update that takes the contact number away. -/
def clearedNumber : UpdateDoc where
  top := { sensitive := fun f => if f = .primaryContactNumber then some none else none }

/-- Nothing is left of it. -/
theorem losesNothing_fails :
    ¬LosesNothing emptyTextCipher lowerCaseTexts zeroFirm zeroKeys zeroRandoms clearedNumber := by
  intro h
  have hlost := (h clearedNumber.withoutDirect zeroKeys rfl).sensitive .primaryContactNumber
  exact nomatch (show (none : Option (Option String)) = some none from hlost)

end Docketra.FieldEncryption
