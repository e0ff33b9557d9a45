import Mathlib.Data.Option.Basic
import Mathlib.Tactic.Common

/-!
# Updates of client profiles

`services/clientProfileStorage.service.js` keeps the sensitive fields of a client in a profile
outside the database. `updateClientProfile` merges an input of up to fifteen fields with the stored
profile, builds a new profile of the result, and wipes the copies in the database. A read that fails
counts as an empty profile, `null` counts as no input, and the custom fields are never passed on.
`profile_update_iff` tells for which clients and inputs every field comes out as it should.
-/

namespace Docketra.ClientProfiles

/-- A value of a field: a text, or an object by its JSON. -/
inductive Value where
  | text (s : String)
  | object (json : String)
  deriving DecidableEq

def Value.isTruthy : Value → Bool
  | .text s => s != ""
  | .object _ => true

/-- `x || null`. -/
def orNull (x : Option Value) : Option Value := x.filter Value.isTruthy

/-- `x || y`. -/
def either (x y : Option Value) : Option Value := (orNull x).or y

/-- What an input gives for a field: nothing, `null`, or a value. -/
abbrev Given := Option (Option Value)

/-- `x ?? y`. -/
def coalesce (x : Given) (y : Option Value) : Option Value := x.join.or y

/-- `{}`. -/
def emptyObject : Value := .object "\x7b\x7d"

/-- The fields of an input. -/
inductive Field where
  | legalName | businessEmail | primaryContactNumber | secondaryContactNumber | businessAddress
  | contactPersonName | contactPersonDesignation | contactPersonPhoneNumber
  | contactPersonEmailAddress | PAN | GST | TAN | CIN | clientFactSheet | customFields
  deriving DecidableEq

abbrev ProfileInput := Field → Given

structure Identifiers where
  pan : Option Value
  gstin : Option Value
  tan : Option Value
  cin : Option Value

structure ContactPerson where
  name : Option Value
  designation : Option Value
  phone : Option Value
  email : Option Value

structure Contacts where
  primaryEmail : Option Value
  primaryPhone : Option Value
  secondaryPhone : Option Value
  contactPerson : ContactPerson

structure Profile where
  legalName : Option Value
  identifiers : Identifiers
  contacts : Contacts
  businessAddress : Option Value
  factSheet : Option Value
  customFields : Value

structure ProfilePayload where
  clientId : String
  firmId : String
  profileVersion : ℕ
  updatedAt : String
  updatedBy : String
  profile : Profile

/-- The reference of a client to its profile, with what is stored there. -/
structure ProfileRef where
  version : ℕ
  stored : ProfilePayload

/-- A client document. -/
structure Client where
  clientId : String
  firmId : String
  businessName : Option Value
  businessEmail : Option Value
  primaryContactNumber : Option Value
  secondaryContactNumber : Option Value
  businessAddress : Option Value
  contactPersonName : Option Value
  contactPersonDesignation : Option Value
  contactPersonPhoneNumber : Option Value
  contactPersonEmailAddress : Option Value
  PAN : Option Value
  GST : Option Value
  TAN : Option Value
  CIN : Option Value
  clientFactSheet : Option Value
  profileRef : Option ProfileRef

/-! ## The service -/

/-- What a read of the stored profile meets. -/
inductive Storage where
  | available
  | noBackend
  | failing (message : String)
  deriving DecidableEq

/-- What the other services answer during an update, and its time. -/
structure Answers where
  /-- `requireWritableBusinessStorage`. -/
  writable : Except String Unit
  /-- The upload, which may write over the profile that is stored. -/
  upload : Except String Bool
  /-- `client.save()`. -/
  save : Except String Unit
  now : String

def buildProfilePayload (client : Client) (profileInput : ProfileInput) (actorXID : Option String)
    (now : String) : ProfilePayload where
  clientId := client.clientId
  firmId := client.firmId
  profileVersion := (client.profileRef.map ProfileRef.version).getD 0 + 1
  updatedAt := now
  updatedBy := (actorXID.filter (· ≠ "")).getD "SYSTEM"
  profile :=
    { legalName :=
        either (profileInput .legalName).join (either client.businessName (some (.text "")))
      identifiers :=
        { pan := orNull (profileInput .PAN).join
          gstin := orNull (profileInput .GST).join
          tan := orNull (profileInput .TAN).join
          cin := orNull (profileInput .CIN).join }
      contacts :=
        { primaryEmail :=
            either (profileInput .businessEmail).join (orNull client.businessEmail)
          primaryPhone :=
            either (profileInput .primaryContactNumber).join (orNull client.primaryContactNumber)
          secondaryPhone := orNull (profileInput .secondaryContactNumber).join
          contactPerson :=
            { name := orNull (profileInput .contactPersonName).join
              designation := orNull (profileInput .contactPersonDesignation).join
              phone := orNull (profileInput .contactPersonPhoneNumber).join
              email := orNull (profileInput .contactPersonEmailAddress).join } }
      businessAddress := orNull (profileInput .businessAddress).join
      factSheet := orNull (profileInput .clientFactSheet).join
      customFields := (orNull (profileInput .customFields).join).getD emptyObject }

/-- `redactSensitiveFields`. -/
def redactSensitiveFields (client : Client) : Client :=
  { client with
    businessAddress := none
    secondaryContactNumber := none
    PAN := none
    GST := none
    TAN := none
    CIN := none
    contactPersonName := none
    contactPersonDesignation := none
    contactPersonPhoneNumber := none
    contactPersonEmailAddress := none
    clientFactSheet := none }

/-- What is stored of a client after the upload of a profile, before the document is saved. -/
def overwrite (client : Client) (payload : ProfilePayload) (replaces : Bool) : Client :=
  { client with
    profileRef := client.profileRef.map fun ref =>
      if replaces then { ref with stored := payload } else ref }

/-- What it returns or throws, and what is stored of the client then. -/
def createClientProfile (client : Client) (profileInput : ProfileInput) (actorXID : Option String)
    (answers : Answers) : Except String ProfilePayload × Client :=
  match answers.writable with
  | .error error => (.error error, client)
  | .ok () =>
    let payload := buildProfilePayload client profileInput actorXID answers.now
    match answers.upload with
    | .error error => (.error error, client)
    | .ok replaces =>
      match answers.save with
      -- The profile may be stored already, where the old one was.
      | .error error => (.error error, overwrite client payload replaces)
      | .ok () =>
        (.ok payload,
          redactSensitiveFields { client with profileRef := some ⟨payload.profileVersion, payload⟩ })

def getClientProfile (client : Client) : Storage → Except String (Option ProfilePayload)
  | .available => .ok (client.profileRef.map ProfileRef.stored)
  | .noBackend => .ok none
  | .failing message => if client.profileRef.isSome then .error message else .ok none

/-- The profile that an update goes on from. -/
def currentProfile (client : Client) (storage : Storage) : Option Profile :=
  match getClientProfile client storage with
  | .ok current => current.map ProfilePayload.profile
  -- The error is logged, and the update goes on.
  | .error _ => none

/-- The merged profile, as far as it is read. -/
structure Merged where
  identifiers : Identifiers
  contacts : Contacts
  businessAddress : Option Value
  factSheet : Option Value

/-- The profile that is put together of the stored one and the input. -/
def merge (current : Option Profile) (partialProfileInput : ProfileInput) : Merged where
  identifiers :=
    { pan := coalesce (partialProfileInput .PAN) (current.bind (·.identifiers.pan))
      gstin := coalesce (partialProfileInput .GST) (current.bind (·.identifiers.gstin))
      tan := coalesce (partialProfileInput .TAN) (current.bind (·.identifiers.tan))
      cin := coalesce (partialProfileInput .CIN) (current.bind (·.identifiers.cin)) }
  contacts :=
    { primaryEmail :=
        coalesce (partialProfileInput .businessEmail) (current.bind (·.contacts.primaryEmail))
      primaryPhone :=
        coalesce (partialProfileInput .primaryContactNumber) (current.bind (·.contacts.primaryPhone))
      secondaryPhone :=
        coalesce (partialProfileInput .secondaryContactNumber)
          (current.bind (·.contacts.secondaryPhone))
      contactPerson :=
        { name :=
            coalesce (partialProfileInput .contactPersonName)
              (current.bind (·.contacts.contactPerson.name))
          designation :=
            coalesce (partialProfileInput .contactPersonDesignation)
              (current.bind (·.contacts.contactPerson.designation))
          phone :=
            coalesce (partialProfileInput .contactPersonPhoneNumber)
              (current.bind (·.contacts.contactPerson.phone))
          email :=
            coalesce (partialProfileInput .contactPersonEmailAddress)
              (current.bind (·.contacts.contactPerson.email)) } }
  businessAddress :=
    coalesce (partialProfileInput .businessAddress) (current.bind Profile.businessAddress)
  factSheet := coalesce (partialProfileInput .clientFactSheet) (current.bind Profile.factSheet)

/-- The input that a merged profile is passed on as. There are no custom fields in it. -/
def rebuiltInput (client : Client) (partialProfileInput : ProfileInput) (merged : Merged) :
    ProfileInput
  | .legalName => some (either (partialProfileInput .legalName).join client.businessName)
  | .businessEmail => some merged.contacts.primaryEmail
  | .primaryContactNumber => some merged.contacts.primaryPhone
  | .secondaryContactNumber => some merged.contacts.secondaryPhone
  | .businessAddress => some merged.businessAddress
  | .contactPersonName => some merged.contacts.contactPerson.name
  | .contactPersonDesignation => some merged.contacts.contactPerson.designation
  | .contactPersonPhoneNumber => some merged.contacts.contactPerson.phone
  | .contactPersonEmailAddress => some merged.contacts.contactPerson.email
  | .PAN => some merged.identifiers.pan
  | .GST => some merged.identifiers.gstin
  | .TAN => some merged.identifiers.tan
  | .CIN => some merged.identifiers.cin
  | .clientFactSheet => some merged.factSheet
  -- The builder falls back to `{}`.
  | .customFields => none

def updateClientProfile (client : Client) (storage : Storage) (partialProfileInput : ProfileInput)
    (actorXID : Option String) (answers : Answers) : Except String ProfilePayload × Client :=
  match answers.writable with
  | .error error => (.error error, client)
  | .ok () =>
    let merged := merge (currentProfile client storage) partialProfileInput
    createClientProfile client (rebuiltInput client partialProfileInput merged) actorXID answers

def hydrateClientWithProfile (client : Client) (profile : Profile) : Client :=
  { client with
    businessName := either profile.legalName (orNull client.businessName)
    -- The e-mail and the primary number stay those of the document.
    businessAddress := orNull profile.businessAddress
    secondaryContactNumber := orNull profile.contacts.secondaryPhone
    contactPersonName := orNull profile.contacts.contactPerson.name
    contactPersonDesignation := orNull profile.contacts.contactPerson.designation
    contactPersonPhoneNumber := orNull profile.contacts.contactPerson.phone
    contactPersonEmailAddress := orNull profile.contacts.contactPerson.email
    PAN := orNull profile.identifiers.pan
    CIN := orNull profile.identifiers.cin
    GST := orNull profile.identifiers.gstin
    TAN := orNull profile.identifiers.tan
    clientFactSheet := orNull profile.factSheet }

/-! ## What an update should do -/

/-- A field of a client document. -/
def Client.field (client : Client) : Field → Option Value
  | .legalName => client.businessName
  | .businessEmail => client.businessEmail
  | .primaryContactNumber => client.primaryContactNumber
  | .secondaryContactNumber => client.secondaryContactNumber
  | .businessAddress => client.businessAddress
  | .contactPersonName => client.contactPersonName
  | .contactPersonDesignation => client.contactPersonDesignation
  | .contactPersonPhoneNumber => client.contactPersonPhoneNumber
  | .contactPersonEmailAddress => client.contactPersonEmailAddress
  | .PAN => client.PAN
  | .GST => client.GST
  | .TAN => client.TAN
  | .CIN => client.CIN
  | .clientFactSheet => client.clientFactSheet
  | .customFields => none

/-- A field of a client with its profile. The document has no custom fields. -/
def shown (client : Client) (field : Field) : Option Value :=
  match client.profileRef with
  | none => client.field field
  | some ref =>
    if field = .customFields then some ref.stored.profile.customFields
    else (hydrateClientWithProfile client ref.stored.profile).field field

/-- The value of a field, which is none when it is empty. -/
def settled (field : Field) (value : Option Value) : Option Value :=
  (orNull value).filter fun v => field ≠ .customFields || v ≠ emptyObject

/-- What a field should be after an update. -/
def expected (client : Client) (partialProfileInput : ProfileInput) (field : Field) :
    Option Value :=
  match partialProfileInput field with
  | none => settled field (shown client field)
  | some value => settled field value

section property

variable (client : Client) (storage : Storage) (partialProfileInput : ProfileInput)

/-- The client has a profile, and it cannot be read. -/
def Unreadable : Prop := client.profileRef.isSome = true ∧ storage ≠ .available

/-- An update changes the fields that are given and no others, and none when the profile cannot be
read. -/
structure UpdateKeeps : Prop where
  merged : ∀ actorXID answers payload after,
    updateClientProfile client storage partialProfileInput actorXID answers = (.ok payload, after) →
    ∀ field, settled field (shown after field) = expected client partialProfileInput field
  refused : Unreadable client storage → ∀ actorXID answers,
    (∃ error, (updateClientProfile client storage partialProfileInput actorXID answers).1 =
      .error error) ∧
    (updateClientProfile client storage partialProfileInput actorXID answers).2 = client

/-- The fields that come out as they should. -/
def FieldKept (client : Client) (partialProfileInput : ProfileInput) : Field → Prop
  | .legalName =>
    match partialProfileInput .legalName with
    | none => ∀ ref ∈ client.profileRef, orNull ref.stored.profile.legalName = none ∨
        orNull ref.stored.profile.legalName = orNull client.businessName
    | some value => orNull value = none → orNull client.businessName = none
  | .businessEmail =>
    ∀ value, partialProfileInput .businessEmail = some value →
      orNull value = orNull client.businessEmail
  | .primaryContactNumber =>
    ∀ value, partialProfileInput .primaryContactNumber = some value →
      orNull value = orNull client.primaryContactNumber
  | .customFields =>
    match partialProfileInput .customFields with
    | none => ∀ ref ∈ client.profileRef,
        settled .customFields (some ref.stored.profile.customFields) = none
    | some value => settled .customFields value = none
  | field =>
    match partialProfileInput field with
    | none => client.profileRef = none → orNull (client.field field) = none
    | some none => client.profileRef.isSome = true → orNull (shown client field) = none
    | some (some _) => True

end property

/-! ## Values -/

theorem orNull_orNull (x : Option Value) : orNull (orNull x) = orNull x := by
  unfold orNull
  rw [Option.filter_filter]
  simp

theorem orNull_either (x y : Option Value) : orNull (either x y) = either x (orNull y) := by
  unfold either
  cases h : orNull x with
  | none => rfl
  | some v =>
    have := orNull_orNull x
    rw [h] at this
    exact this

theorem settled_of_ne {field : Field} (h : field ≠ .customFields) (value : Option Value) :
    settled field value = orNull value := by
  have hall : (fun v : Value => decide (field ≠ .customFields) || decide (v ≠ emptyObject)) =
      fun _ => true := by
    funext v
    rw [decide_eq_true h, Bool.true_or]
  unfold settled
  rw [hall]
  cases orNull value <;> rfl

theorem settled_emptyObject : settled .customFields (some emptyObject) = none := by decide

/-! ## What an update stores -/

section update

variable {client : Client} {storage : Storage} {partialProfileInput : ProfileInput}
  {actorXID : Option String} {answers : Answers}

/-- The profile that an update stores. -/
def updatedProfile (client : Client) (storage : Storage) (partialProfileInput : ProfileInput) :
    Profile :=
  (buildProfilePayload client
    (rebuiltInput client partialProfileInput
      (merge (currentProfile client storage) partialProfileInput)) none "").profile

theorem updateClientProfile_ok {payload : ProfilePayload} {after : Client}
    (h : updateClientProfile client storage partialProfileInput actorXID answers =
      (.ok payload, after)) :
    ∃ ref, after = redactSensitiveFields { client with profileRef := some ref } ∧
      ref.stored.profile = updatedProfile client storage partialProfileInput := by
  unfold updateClientProfile at h
  split at h
  · cases h
  · next hwritable =>
    unfold createClientProfile at h
    rw [hwritable] at h
    dsimp only at h
    split at h
    · cases h
    · split at h
      · cases h
      · cases h
        exact ⟨_, rfl, rfl⟩

/-- Services that answer every request. -/
def obliging : Answers where
  writable := .ok ()
  upload := .ok false
  save := .ok ()
  now := ""

/-- The services may let any update go through. -/
theorem updateClientProfile_obliging :
    ∃ payload after, updateClientProfile client storage partialProfileInput none obliging =
      (.ok payload, after) := ⟨_, _, rfl⟩

/-! ## The fields after an update -/

/-- The fields that are merged alike. -/
def Field.isPlain (field : Field) : Bool :=
  field ∉ [Field.legalName, .businessEmail, .primaryContactNumber, .customFields]

/-- A field of a profile. -/
def Profile.field (profile : Profile) : Field → Option Value
  | .legalName => profile.legalName
  | .businessEmail => profile.contacts.primaryEmail
  | .primaryContactNumber => profile.contacts.primaryPhone
  | .secondaryContactNumber => profile.contacts.secondaryPhone
  | .businessAddress => profile.businessAddress
  | .contactPersonName => profile.contacts.contactPerson.name
  | .contactPersonDesignation => profile.contacts.contactPerson.designation
  | .contactPersonPhoneNumber => profile.contacts.contactPerson.phone
  | .contactPersonEmailAddress => profile.contacts.contactPerson.email
  | .PAN => profile.identifiers.pan
  | .GST => profile.identifiers.gstin
  | .TAN => profile.identifiers.tan
  | .CIN => profile.identifiers.cin
  | .clientFactSheet => profile.factSheet
  | .customFields => some profile.customFields

theorem hydrate_plain {field : Field} (h : field.isPlain = true) (client : Client)
    (profile : Profile) :
    (hydrateClientWithProfile client profile).field field = orNull (profile.field field) := by
  cases field with
  | legalName | businessEmail | primaryContactNumber | customFields => exact absurd h (by decide)
  | _ => rfl

/-- A plain field is stored as the input gives it, and as it was where the input gives nothing or
`null`. -/
theorem updatedProfile_plain {field : Field} (h : field.isPlain = true) :
    (updatedProfile client storage partialProfileInput).field field =
      orNull (coalesce (partialProfileInput field)
        ((currentProfile client storage).bind (·.field field))) := by
  cases field with
  | legalName | businessEmail | primaryContactNumber | customFields => exact absurd h (by decide)
  | _ => rfl

theorem updatedProfile_legalName :
    orNull (either (updatedProfile client storage partialProfileInput).legalName
        (orNull client.businessName)) =
      either (partialProfileInput .legalName).join (orNull client.businessName) := by
  have hlegal : (updatedProfile client storage partialProfileInput).legalName =
      either (either (partialProfileInput .legalName).join client.businessName)
        (either client.businessName (some (.text ""))) := rfl
  rw [hlegal, orNull_either, orNull_orNull]
  have hempty : orNull (some (.text "")) = none := by decide
  unfold either
  generalize (partialProfileInput .legalName).join = given
  cases hgiven : orNull given with
  | some v =>
    have hv := orNull_orNull given
    rw [hgiven] at hv
    simp only [Option.some_or, hv]
  | none =>
    simp only [Option.none_or]
    cases hname : orNull client.businessName with
    | some v =>
      have hv := orNull_orNull client.businessName
      rw [hname] at hv
      simp only [Option.some_or, hv]
    | none => simp only [Option.none_or, hempty]

theorem updatedProfile_customFields :
    (updatedProfile client storage partialProfileInput).customFields = emptyObject := rfl

/-- The profile that an update goes on from, when it can be read. -/
theorem currentProfile_of_readable (h : ¬ Unreadable client storage) :
    currentProfile client storage = client.profileRef.map fun ref => ref.stored.profile := by
  unfold currentProfile getClientProfile
  cases hprofile : client.profileRef with
  | none => cases storage <;> rfl
  | some ref =>
    have havailable : storage = .available := by
      by_contra hne
      exact h ⟨by rw [hprofile]; rfl, hne⟩
    rw [havailable]
    rfl

end update

section fields

variable {client : Client} {storage : Storage} {partialProfileInput : ProfileInput} {field : Field}
  {ref : ProfileRef} {after : Client}

theorem shown_of_none (h : client.profileRef = none) :
    shown client field = client.field field := by
  rw [shown, h]

theorem shown_of_some {old : ProfileRef} (h : client.profileRef = some old)
    (hne : field ≠ .customFields) :
    shown client field = (hydrateClientWithProfile client old.stored.profile).field field := by
  rw [shown, h]
  exact if_neg hne

/-- What is shown of a client after an update. -/
theorem shown_after
    (hafter : after = redactSensitiveFields { client with profileRef := some ref })
    (hstored : ref.stored.profile = updatedProfile client storage partialProfileInput)
    (h : field ≠ .customFields) :
    shown after field = (hydrateClientWithProfile after
      (updatedProfile client storage partialProfileInput)).field field := by
  have hprofile : after.profileRef = some ref := by
    rw [hafter]
    rfl
  rw [shown_of_some hprofile h, hstored]

theorem settled_shown_plain (h : field.isPlain = true)
    (hafter : after = redactSensitiveFields { client with profileRef := some ref })
    (hstored : ref.stored.profile = updatedProfile client storage partialProfileInput) :
    settled field (shown after field) =
      orNull (coalesce (partialProfileInput field)
        ((currentProfile client storage).bind (·.field field))) := by
  have hne : field ≠ .customFields := by
    rintro rfl
    exact absurd h (by decide)
  rw [settled_of_ne hne, shown_after hafter hstored hne, hydrate_plain h, updatedProfile_plain h,
    orNull_orNull, orNull_orNull]

/-- A plain field comes out as it should. -/
theorem plain_iff (h : field.isPlain = true) (hreadable : ¬ Unreadable client storage)
    (hafter : after = redactSensitiveFields { client with profileRef := some ref })
    (hstored : ref.stored.profile = updatedProfile client storage partialProfileInput) :
    settled field (shown after field) = expected client partialProfileInput field ↔
      match partialProfileInput field with
      | none => client.profileRef = none → orNull (client.field field) = none
      | some none => client.profileRef.isSome = true → orNull (shown client field) = none
      | some (some _) => True := by
  have hne : field ≠ .customFields := by
    rintro rfl
    exact absurd h (by decide)
  rw [settled_shown_plain h hafter hstored, currentProfile_of_readable hreadable]
  unfold expected
  rw [settled_of_ne hne]
  have hshown : ∀ old, client.profileRef = some old →
      shown client field = orNull (old.stored.profile.field field) := by
    intro old hold
    rw [shown_of_some hold hne, hydrate_plain h]
  rcases hgiven : partialProfileInput field with _ | _ | value
  · dsimp only
    cases hold : client.profileRef with
    | none =>
      -- Without a profile, what the document has of the field is wiped.
      have hnone : orNull (none : Option Value) = none := rfl
      rw [shown_of_none hold]
      simp only [coalesce, Option.map_none, Option.bind_none, Option.join_none, Option.or_none,
        hnone, true_imp_iff]
      exact eq_comm
    | some old =>
      rw [hshown old hold, orNull_orNull]
      simp [coalesce]
  · -- `null` is given, and `??` takes the stored value instead.
    dsimp only
    rw [settled_of_ne hne]
    cases hold : client.profileRef with
    | none => simp [coalesce]
    | some old =>
      rw [hshown old hold, orNull_orNull]
      simp [coalesce, orNull]
  · dsimp only
    rw [settled_of_ne hne]
    simp [coalesce]

theorem legalName_iff
    (hafter : after = redactSensitiveFields { client with profileRef := some ref })
    (hstored : ref.stored.profile = updatedProfile client storage partialProfileInput) :
    settled .legalName (shown after .legalName) = expected client partialProfileInput .legalName ↔
      FieldKept client partialProfileInput .legalName := by
  have hne : Field.legalName ≠ .customFields := by decide
  have hname : shown after .legalName =
      either (updatedProfile client storage partialProfileInput).legalName
        (orNull client.businessName) := by
    rw [shown_after hafter hstored hne, hafter]
    rfl
  rw [settled_of_ne hne, hname, updatedProfile_legalName]
  unfold expected FieldKept
  rcases partialProfileInput .legalName with _ | value
  · dsimp only
    rw [settled_of_ne hne]
    have hshown : ∀ old, client.profileRef = some old → orNull (shown client .legalName) =
        either old.stored.profile.legalName (orNull client.businessName) := by
      intro old hold
      rw [shown_of_some hold hne]
      exact (orNull_either _ _).trans (by rw [orNull_orNull])
    cases hold : client.profileRef with
    | none =>
      have hshown : shown client .legalName = client.businessName := shown_of_none hold
      rw [hshown]
      simp [either, orNull]
    | some old =>
      rw [hshown old hold]
      unfold either
      simp only [Option.mem_some_iff, forall_eq', Option.join_none]
      have hnone : orNull (none : Option Value) = none := rfl
      rw [hnone, Option.none_or]
      cases orNull old.stored.profile.legalName with
      | none => exact iff_of_true rfl (.inl rfl)
      | some v =>
        rw [Option.some_or, or_iff_right (Option.some_ne_none v)]
        exact eq_comm
  · dsimp only
    rw [settled_of_ne hne]
    unfold either
    cases hvalue : orNull value with
    | none => simp [hvalue]
    | some v => simp [hvalue]

/-- The fields of the document that the hydration leaves as they are. -/
theorem contact_iff {value : Option Value} (hne : field ≠ .customFields)
    (hdocument : ∀ ref, (hydrateClientWithProfile client ref).field field = value)
    (hclient : client.field field = value)
    (hafter : shown after field = value) :
    settled field (shown after field) = expected client partialProfileInput field ↔
      ∀ given, partialProfileInput field = some given → orNull given = orNull value := by
  have hshown : shown client field = value := by
    cases hold : client.profileRef with
    | none => exact (shown_of_none hold).trans hclient
    | some old => exact (shown_of_some hold hne).trans (hdocument old.stored.profile)
  rw [hafter, settled_of_ne hne]
  unfold expected
  rcases partialProfileInput field with _ | given
  · dsimp only
    rw [hshown, settled_of_ne hne]
    simp
  · dsimp only
    rw [settled_of_ne hne]
    simp [eq_comm]

theorem customFields_iff
    (hafter : after = redactSensitiveFields { client with profileRef := some ref })
    (hstored : ref.stored.profile = updatedProfile client storage partialProfileInput) :
    settled .customFields (shown after .customFields) =
        expected client partialProfileInput .customFields ↔
      FieldKept client partialProfileInput .customFields := by
  -- They come out as `{}`, whatever was stored or given.
  have hshown : shown after .customFields = some emptyObject := by
    subst hafter
    show some ref.stored.profile.customFields = _
    rw [hstored, updatedProfile_customFields]
  rw [hshown, settled_emptyObject, eq_comm]
  unfold expected FieldKept
  rcases partialProfileInput .customFields with _ | value
  · dsimp only
    unfold shown
    cases client.profileRef with
    | none => exact iff_of_true rfl (fun _ h => nomatch h)
    | some old => simp
  · rfl

/-- Each field comes out as it should exactly when it is one that is kept. -/
theorem field_iff (hreadable : ¬ Unreadable client storage)
    (hafter : after = redactSensitiveFields { client with profileRef := some ref })
    (hstored : ref.stored.profile = updatedProfile client storage partialProfileInput)
    (field : Field) :
    settled field (shown after field) = expected client partialProfileInput field ↔
      FieldKept client partialProfileInput field := by
  have hcontact : ∀ field, field ≠ .customFields → shown after field =
      (hydrateClientWithProfile after
        (updatedProfile client storage partialProfileInput)).field field :=
    fun _ hne => shown_after hafter hstored hne
  cases field with
  | legalName => exact legalName_iff hafter hstored
  | businessEmail =>
    refine contact_iff (by decide) (fun _ => rfl) rfl ?_
    rw [hcontact _ (by decide), hafter]
    rfl
  | primaryContactNumber =>
    refine contact_iff (by decide) (fun _ => rfl) rfl ?_
    rw [hcontact _ (by decide), hafter]
    rfl
  | customFields => exact customFields_iff hafter hstored
  | _ => exact plain_iff (by decide) hreadable hafter hstored

end fields

/-- **A partial update keeps the rest of the profile exactly when the profile can be read, if there
is one, and every field is one that is kept: the name is not cleared and the stored one is the
document's; the contacts are not changed; no custom fields are stored or given; and the others are
not given as `null` over a stored value, nor left in the database without a profile.** -/
theorem profile_update_iff (client : Client) (storage : Storage)
    (partialProfileInput : ProfileInput) :
    UpdateKeeps client storage partialProfileInput ↔
      ¬ Unreadable client storage ∧ ∀ field, FieldKept client partialProfileInput field := by
  obtain ⟨payload, after, hupdate⟩ :=
    @updateClientProfile_obliging client storage partialProfileInput
  constructor
  · rintro ⟨hmerged, hrefused⟩
    have hreadable : ¬ Unreadable client storage := by
      intro hunreadable
      obtain ⟨⟨error, herror⟩, -⟩ := hrefused hunreadable none obliging
      rw [hupdate] at herror
      cases herror
    obtain ⟨ref, hafter, hstored⟩ := updateClientProfile_ok hupdate
    exact ⟨hreadable, fun field => (field_iff hreadable hafter hstored field).mp
      (hmerged none obliging payload after hupdate field)⟩
  · rintro ⟨hreadable, hkept⟩
    constructor
    · intro actorXID answers payload after hok field
      obtain ⟨ref, hafter, hstored⟩ := updateClientProfile_ok hok
      exact (field_iff hreadable hafter hstored field).mpr (hkept field)
    · exact fun hunreadable => absurd hunreadable hreadable

/-! ## A client with custom fields -/

def emptyContacts : Contacts := ⟨none, none, none, ⟨none, none, none, none⟩⟩

def storedProfile : Profile where
  legalName := some (.text "Acme")
  identifiers := ⟨some (.text "ABCDE1234F"), none, none, none⟩
  contacts := emptyContacts
  businessAddress := none
  factSheet := none
  customFields := .object "\x7b\"tier\":1\x7d"

def acme : Client where
  clientId := "C000001"
  firmId := "firm"
  businessName := some (.text "Acme")
  businessEmail := none
  primaryContactNumber := none
  secondaryContactNumber := none
  businessAddress := none
  contactPersonName := none
  contactPersonDesignation := none
  contactPersonPhoneNumber := none
  contactPersonEmailAddress := none
  PAN := none
  GST := none
  TAN := none
  CIN := none
  clientFactSheet := none
  profileRef := some ⟨1, ⟨"C000001", "firm", 1, "", "SYSTEM", storedProfile⟩⟩

/-- An input with nothing but a TAN. -/
def newTan : ProfileInput
  | .TAN => some (some (.text "ABCD12345E"))
  | _ => none

/-- The custom fields are lost, and so is the whole profile when it cannot be read. -/
theorem profile_update_fails :
    ¬ UpdateKeeps acme .available newTan ∧ ¬ UpdateKeeps acme (.failing "timeout") newTan := by
  constructor
  · intro h
    have hcustom := h.merged none obliging _ _ rfl .customFields
    exact absurd hcustom (by decide)
  · intro h
    obtain ⟨⟨error, herror⟩, -⟩ := h.refused ⟨rfl, by decide⟩ none obliging
    cases herror

end Docketra.ClientProfiles
