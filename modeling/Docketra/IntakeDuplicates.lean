import Docketra.Intake
import Docketra.Lib.LastWrite

/-!
# Duplicate submissions

`processCmsSubmission` of `services/cmsIntake.service.js` stores a lead for a submission, and then
looks for earlier leads with its email, its phone, or one of its identifiers. The identifiers are
fields of the form under any key. Their values are normalized under keys that are compared in lower
case, and are looked up, in the submission and in the stored leads, under the key in lower case
itself. So an identifier is found only where both submissions spell its key so (`warns_iff`).

The submissions here are those that are not answered with the lead of an earlier one
(`Docketra.Intake`). The leads of a firm have been created one after the other, and the query gives
the last five that match.
-/

namespace Docketra.IntakeDuplicates

open Intake (normalizeTrimmedString)

/-! ## Submissions -/

/-- A value of the form. One that is no text is known by its text, which is empty for a value that
counts as none. -/
inductive Value where
  | text (s : String)
  | other (shown : String)
  deriving DecidableEq, Repr

/-- `String(value || '')`. -/
def Value.shown : Value → String
  | .text s => s
  | .other shown => shown

/-- The fields of a submission, in their order. -/
abbrev Payload := List (String × Value)

abbrev ExtraFields := AList fun _ : String => Value

def RESERVED_INTAKE_KEYS : List String :=
  ["name", "email", "phone", "source", "service", "message", "notes", "pageUrl", "referrer",
    "utm_source", "utm_campaign", "utm_medium", "pageSlug", "slug", "formSlug", "formId", "website",
    "submissionMode", "externalSubmissionId", "idempotencyKey"]

/-- The value of a field with a name of its own. -/
def Payload.field (payload : Payload) (name : String) : Option String :=
  (payload.lookup name).map Value.shown

def isExtraField (entry : String × Value) : Bool :=
  !RESERVED_INTAKE_KEYS.contains entry.1 && trim entry.1 != ""

/-- `extractExtraFields`. Keys that are the same up to white space are one key. -/
def extractExtraFields (payload : Payload) : ExtraFields :=
  (payload.filter isExtraField).foldl (fun extras entry => extras.insert (trim entry.1) entry.2) ∅

/-- The client field that an identifier is compared with. -/
inductive ClientPath where
  | PAN | GST | GSTIN
  deriving DecidableEq, Repr

structure IdentifierField where
  key : String
  clientPath : Option ClientPath
  label : String
  deriving DecidableEq, Repr

def DUPLICATE_IDENTIFIER_FIELDS : List IdentifierField :=
  [⟨"pan", some .PAN, "PAN"⟩, ⟨"gst", some .GST, "GST"⟩, ⟨"gstin", some .GSTIN, "GSTIN"⟩,
    ⟨"clientcode", none, "Client code"⟩, ⟨"firmidentifier", none, "Firm identifier"⟩,
    ⟨"firmid", none, "Firm identifier"⟩]

/-- `normalizeIdentifier`. -/
def normalizeIdentifier (value : Value) : Option String :=
  (normalizeTrimmedString (some value.shown)).map toUpperCase

def isIdentifierKey (key : String) : Bool :=
  DUPLICATE_IDENTIFIER_FIELDS.any fun field => field.key == toLowerCase key

/-- The value that is kept under a key: an identifier is normalized. -/
def normalizeExtraField (key : String) (value : Value) : Value :=
  if isIdentifierKey key then ((normalizeIdentifier value).map Value.text).getD value else value

/-- The extra fields with the identifiers in them normalized. -/
def normalizeExtraFields (extras : ExtraFields) : ExtraFields where
  entries := extras.entries.map fun entry => ⟨entry.1, normalizeExtraField entry.1 entry.2⟩
  nodupKeys := by
    rw [List.NodupKeys, List.keys, List.map_map]
    exact extras.nodupKeys

/-- A submission that passes `validateSubmission`. -/
structure Contact where
  name : String
  email : Option String
  phone : Option String
  deriving DecidableEq, Repr

/-- `/https?:\/\//i`. -/
def hasLink (name : String) : Bool :=
  (toLowerCase name).toList.tails.any fun rest =>
    "http://".toList.isPrefixOf rest || "https://".toList.isPrefixOf rest

/-- `validateSubmission`. -/
def validateSubmission (payload : Payload) : Except String Contact :=
  let name := trim ((payload.field "name").getD "")
  if name = "" then .error "name is required"
  else if hasLink name then .error "Invalid submission"
  else .ok
    { name := name
      email := (normalizeTrimmedString (payload.field "email")).map toLowerCase
      phone := normalizeTrimmedString (payload.field "phone") }

/-! ## Leads and clients -/

structure Lead where
  _id : ℕ
  firmId : String
  email : Option String
  phone : Option String
  extraFields : ExtraFields

/-- A client, with the fields that are compared as they are stored. -/
structure Client where
  clientId : String
  firmId : String
  businessEmail : Option String
  primaryContactNumber : Option String
  PAN : Option String
  GST : Option String
  GSTIN : Option String
  isActive : Bool
  deriving DecidableEq, Repr

def ClientPath.get : ClientPath → Client → Option String
  | .PAN => Client.PAN
  | .GST => Client.GST
  | .GSTIN => Client.GSTIN

/-- The leads, the last one first, and the clients in the order of their query. -/
structure Store where
  leads : List Lead
  clients : List Client

/-- A duplicate warning, with the ids of what it names. -/
structure Warning where
  matchedFields : List String
  leads : List ℕ
  clients : List String
  deriving DecidableEq, Repr

/-! ## The search -/

section search

variable (firmId : String) (email phone : Option String) (extraFields : ExtraFields)

/-- The normalized value of an identifier. -/
def identifier (field : IdentifierField) : Option String :=
  (extraFields.lookup field.key).bind normalizeIdentifier

/-- The conditions on a lead: its email, its phone, or one of the identifiers. -/
def matchesLead (lead : Lead) : Bool :=
  ((normalizeTrimmedString email).map toLowerCase).any (fun e => lead.email == some e) ||
    (normalizeTrimmedString phone).any (fun p => lead.phone == some p) ||
    DUPLICATE_IDENTIFIER_FIELDS.any fun field =>
      (identifier extraFields field).any fun value =>
        lead.extraFields.lookup field.key == some (.text value)

def matchesClient (client : Client) : Bool :=
  ((normalizeTrimmedString email).map toLowerCase).any (fun e => client.businessEmail == some e) ||
    (normalizeTrimmedString phone).any (fun p => client.primaryContactNumber == some p) ||
    DUPLICATE_IDENTIFIER_FIELDS.any fun field =>
      field.clientPath.any fun path =>
        (identifier extraFields field).any fun value => path.get client == some value

/-- The labels of what was looked for. -/
def matchedFields : List String :=
  ((DUPLICATE_IDENTIFIER_FIELDS.filter fun field => (identifier extraFields field).isSome).map
      IdentifierField.label ++
    (if (normalizeTrimmedString email).isSome then ["Email"] else []) ++
    (if (normalizeTrimmedString phone).isSome then ["Phone"] else [])).eraseDups

/-- `detectIntakeDuplicates`. -/
def detectIntakeDuplicates (store : Store) (excludeLeadId : ℕ) : Option Warning :=
  let leads := (store.leads.filter fun lead =>
    lead.firmId == firmId && matchesLead email phone extraFields lead &&
      lead._id != excludeLeadId).take 5
  let clients := (store.clients.filter fun client =>
    client.firmId == firmId && client.isActive &&
      matchesClient email phone extraFields client).take 5
  if leads.isEmpty && clients.isEmpty then none
  else some
    { matchedFields := matchedFields email phone extraFields
      leads := leads.map Lead._id
      clients := clients.map Client.clientId }

end search

/-- The extra fields of a submission, as its lead keeps them. -/
def storedExtraFields (payload : Payload) : ExtraFields :=
  normalizeExtraFields (extractExtraFields payload)

/-- The lead of a submission. -/
def leadOf (leadId : ℕ) (firmId : String) (contact : Contact) (payload : Payload) : Lead where
  _id := leadId
  firmId := firmId
  email := contact.email
  phone := contact.phone
  extraFields := storedExtraFields payload

/-- `processCmsSubmission`, up to the search for duplicates: the leads afterwards, and the warning.
The lead gets the id. -/
def processCmsSubmission (leadId : ℕ) (firmId : String) (payload : Payload) (store : Store) :
    Except String (Store × Option Warning) :=
  match validateSubmission payload with
  | .error message => .error message
  | .ok contact =>
    let stored := { store with leads := leadOf leadId firmId contact payload :: store.leads }
    .ok (stored, detectIntakeDuplicates firmId contact.email contact.phone
      (storedExtraFields payload) stored leadId)

/-! ## What is under a key -/

/-- An identifier that is normalized is normalized to itself. -/
theorem normalizeIdentifier_text {value : Value} {identifier : String}
    (h : normalizeIdentifier value = some identifier) :
    normalizeIdentifier (.text identifier) = some identifier := by
  obtain ⟨text, htext, rfl⟩ := Option.map_eq_some_iff.mp h
  obtain ⟨htrim, hne⟩ := Intake.normalizeTrimmedString_eq_some htext
  have hupper : trim (toUpperCase text) = toUpperCase text := by rw [trim_toUpperCase, htrim]
  rw [normalizeIdentifier, Value.shown, Intake.normalizeTrimmedString_of_trimmed hupper
    (fun h => hne ((toUpperCase_eq_empty text).mp h)), Option.map_some, toUpperCase_toUpperCase]

/-- The last value of a submission under a key. -/
def lastUnder (payload : Payload) (key : String) : Option Value :=
  (LastWrite.last (fun entry => isExtraField entry && trim entry.1 == key) payload).map Prod.snd

theorem lookup_extractExtraFields (payload : Payload) (key : String) :
    (extractExtraFields payload).lookup key = lastUnder payload key := by
  rw [extractExtraFields, LastWrite.lookup_foldl_insert, AList.lookup_empty, Option.or_none,
    lastUnder, LastWrite.last, LastWrite.last, ← List.filter_reverse, List.find?_filter]
  simp only [Bool.beq_eq_decide_eq, Bool.decide_and, Bool.decide_eq_true]

theorem lookup_normalizeExtraFields (extras : ExtraFields) (key : String) :
    (normalizeExtraFields extras).lookup key = (extras.lookup key).map (normalizeExtraField key) :=
  List.dlookup_map₂ key

/-- The six keys are keys of identifiers. -/
theorem isIdentifierKey_field {field : IdentifierField}
    (h : field ∈ DUPLICATE_IDENTIFIER_FIELDS) : isIdentifierKey field.key = true := by
  revert field
  decide

/-- The identifier of a submission under the lower-case key of its field, the last one if there are
several. -/
def GivesPlainly (payload : Payload) (field : IdentifierField) (identifier : String) : Prop :=
  (lastUnder payload field.key).bind normalizeIdentifier = some identifier

instance (payload : Payload) (field : IdentifierField) (identifier : String) :
    Decidable (GivesPlainly payload field identifier) :=
  inferInstanceAs (Decidable (_ = _))

/-- That is what a submission is searched with. -/
theorem identifier_storedExtraFields {payload : Payload} {field : IdentifierField}
    (hfield : field ∈ DUPLICATE_IDENTIFIER_FIELDS) {value : String} :
    identifier (storedExtraFields payload) field = some value ↔
      GivesPlainly payload field value := by
  rw [identifier, storedExtraFields, lookup_normalizeExtraFields, lookup_extractExtraFields,
    GivesPlainly]
  cases hlast : lastUnder payload field.key with
  | none => rfl
  | some raw =>
    rw [Option.map_some, Option.bind_some, Option.bind_some, normalizeExtraField,
      if_pos (isIdentifierKey_field hfield)]
    cases hraw : normalizeIdentifier raw with
    | none => rw [Option.map_none, Option.getD_none, hraw]
    | some given => rw [Option.map_some, Option.getD_some, normalizeIdentifier_text hraw]

/-- And that is what its lead is found by. -/
theorem lookup_storedExtraFields {payload : Payload} {field : IdentifierField}
    (hfield : field ∈ DUPLICATE_IDENTIFIER_FIELDS) {value : String}
    (hvalue : normalizeIdentifier (.text value) = some value) :
    (storedExtraFields payload).lookup field.key = some (.text value) ↔
      GivesPlainly payload field value := by
  rw [← identifier_storedExtraFields hfield, identifier]
  constructor
  · intro h
    rw [h, Option.bind_some, hvalue]
  · intro h
    rw [storedExtraFields, lookup_normalizeExtraFields, lookup_extractExtraFields] at h ⊢
    cases hlast : lastUnder payload field.key with
    | none =>
      rw [hlast] at h
      exact absurd h.symm (Option.some_ne_none value)
    | some raw =>
      rw [hlast, Option.map_some, Option.bind_some, normalizeExtraField,
        if_pos (isIdentifierKey_field hfield)] at h
      rw [Option.map_some, normalizeExtraField, if_pos (isIdentifierKey_field hfield)]
      cases hraw : normalizeIdentifier raw with
      | none =>
        rw [hraw, Option.map_none, Option.getD_none, hraw] at h
        exact absurd h.symm (Option.some_ne_none value)
      | some given =>
        rw [hraw, Option.map_some, Option.getD_some, normalizeIdentifier_text hraw] at h
        rw [Option.some.inj h]
        rfl

/-! ## Two submissions -/

/-- An identifier of a submission, under its key in any letter case. -/
def Gives (payload : Payload) (field : IdentifierField) (identifier : String) : Prop :=
  ∃ entry ∈ payload, toLowerCase entry.1 = field.key ∧
    normalizeIdentifier entry.2 = some identifier

/-- Two submissions give the same identifier, by what giving one is. -/
def SameIdentifier (gives : Payload → IdentifierField → String → Prop) (first second : Payload) :
    Prop :=
  ∃ field ∈ DUPLICATE_IDENTIFIER_FIELDS, ∃ identifier,
    gives first field identifier ∧ gives second field identifier

/-- Two contacts have an email or a phone in common. -/
def SameContact (first second : Contact) : Prop :=
  first.email.isSome ∧ first.email = second.email ∨ first.phone.isSome ∧ first.phone = second.phone

/-- A submission of a firm has been processed, with a new id for its lead. -/
structure Processed (leadId : ℕ) (firmId : String) (payload : Payload) (contact : Contact)
    (before after : Store) (warning : Option Warning) : Prop where
  fresh : ∀ lead ∈ before.leads, lead._id ≠ leadId
  contact : validateSubmission payload = .ok contact
  run : processCmsSubmission leadId firmId payload before = .ok (after, warning)

/-- A warning names a lead. -/
def Names (leadId : ℕ) (warning : Option Warning) : Prop :=
  ∃ w, warning = some w ∧ leadId ∈ w.leads

theorem trim_toLowerCase_normalized {value : Option String} {text : String}
    (h : normalizeTrimmedString value = some text) :
    normalizeTrimmedString (some (toLowerCase text)) = some (toLowerCase text) := by
  obtain ⟨htrim, hne⟩ := Intake.normalizeTrimmedString_eq_some h
  refine Intake.normalizeTrimmedString_of_trimmed (by rw [trim_toLowerCase, htrim]) fun hempty => ?_
  rw [toLowerCase, String.ofList_eq_empty_iff, List.map_eq_nil_iff] at hempty
  exact hne (String.toList_eq_nil_iff.mp hempty)

/-- The email and the phone of a submission are normalized already. -/
theorem contact_normalized {payload : Payload} {contact : Contact}
    (h : validateSubmission payload = .ok contact) :
    (normalizeTrimmedString contact.email).map toLowerCase = contact.email ∧
      normalizeTrimmedString contact.phone = contact.phone := by
  unfold validateSubmission at h
  dsimp only at h
  split_ifs at h
  obtain rfl := (Except.ok.inj h).symm
  dsimp only
  refine ⟨?_, Intake.normalizeTrimmedString_idem (payload.field "phone")⟩
  cases hemail : normalizeTrimmedString (payload.field "email") with
  | none => rfl
  | some email =>
    rw [Option.map_some, trim_toLowerCase_normalized hemail, Option.map_some,
      toLowerCase_toLowerCase]

/-- The search of a submission finds the lead of another one by the contact, or by an identifier
that both give plainly. -/
theorem matchesLead_leadOf {first second : Payload} {contact contact' : Contact} {leadId : ℕ}
    {firmId : String} (hcontact : validateSubmission second = .ok contact') :
    matchesLead contact'.email contact'.phone (storedExtraFields second)
        (leadOf leadId firmId contact first) = true ↔
      SameContact contact contact' ∨ SameIdentifier GivesPlainly first second := by
  obtain ⟨hemail, hphone⟩ := contact_normalized hcontact
  simp only [matchesLead, hemail, hphone, leadOf, Bool.or_eq_true, List.any_eq_true,
    Option.any_eq_true, beq_iff_eq]
  refine or_congr ?_ ?_
  · unfold SameContact
    simp only [Option.isSome_iff_exists]
    constructor
    · rintro (⟨email, hsecond, hfirst⟩ | ⟨phone, hsecond, hfirst⟩)
      · exact Or.inl ⟨⟨email, hfirst⟩, hfirst.trans hsecond.symm⟩
      · exact Or.inr ⟨⟨phone, hfirst⟩, hfirst.trans hsecond.symm⟩
    · rintro (⟨⟨email, hfirst⟩, heq⟩ | ⟨⟨phone, hfirst⟩, heq⟩)
      · exact Or.inl ⟨email, heq.symm.trans hfirst, hfirst⟩
      · exact Or.inr ⟨phone, heq.symm.trans hfirst, hfirst⟩
  · refine exists_congr fun field => ?_
    constructor
    · rintro ⟨hfield, value, hsecond, hfirst⟩
      obtain ⟨raw, -, hraw⟩ := Option.bind_eq_some_iff.mp hsecond
      have hvalue := normalizeIdentifier_text hraw
      exact ⟨hfield, value, (lookup_storedExtraFields hfield hvalue).mp hfirst,
        (identifier_storedExtraFields hfield).mp hsecond⟩
    · rintro ⟨hfield, value, hfirst, hsecond⟩
      obtain ⟨raw, -, hraw⟩ := Option.bind_eq_some_iff.mp hsecond
      have hvalue := normalizeIdentifier_text hraw
      exact ⟨hfield, value, (identifier_storedExtraFields hfield).mpr hsecond,
        (lookup_storedExtraFields hfield hvalue).mpr hfirst⟩

/-- What a submission leaves: its lead before the others, and a warning from its search. -/
theorem Processed.eq {leadId : ℕ} {firmId : String} {payload : Payload} {contact : Contact}
    {before after : Store} {warning : Option Warning}
    (h : Processed leadId firmId payload contact before after warning) :
    after.leads = leadOf leadId firmId contact payload :: before.leads ∧
      warning = detectIntakeDuplicates firmId contact.email contact.phone
        (storedExtraFields payload) after leadId := by
  have hrun := h.run
  rw [processCmsSubmission, h.contact] at hrun
  obtain ⟨rfl, rfl⟩ := Prod.ext_iff.mp (Except.ok.inj hrun)
  exact ⟨rfl, rfl⟩

section pair

variable {firstId secondId : ℕ} {firmId : String} {first second : Payload}
  {contact contact' : Contact} {before after before' after' : Store}
  {warning warning' : Option Warning}

/-- A warning names the first five leads that are found. -/
theorem names_detectIntakeDuplicates {email phone : Option String} {extraFields : ExtraFields}
    {store : Store} {excludeLeadId leadId : ℕ} :
    Names leadId (detectIntakeDuplicates firmId email phone extraFields store excludeLeadId) ↔
      leadId ∈ ((store.leads.filter fun lead =>
        lead.firmId == firmId && matchesLead email phone extraFields lead &&
          lead._id != excludeLeadId).take 5).map Lead._id := by
  rw [detectIntakeDuplicates]
  constructor
  · rintro ⟨w, hw, hmem⟩
    split_ifs at hw
    rw [← Option.some.inj hw] at hmem
    exact hmem
  · intro hmem
    refine ⟨_, if_neg fun hempty => ?_, hmem⟩
    have hnil := List.isEmpty_iff.mp (Bool.and_eq_true_iff.mp hempty).1
    rw [hnil] at hmem
    exact absurd hmem List.not_mem_nil

/-- A submission is warned of the one before it when its search finds the lead of that one. -/
theorem names_iff (hfirst : Processed firstId firmId first contact before after warning)
    (hsecond : Processed secondId firmId second contact' before' after' warning')
    (hleads : before'.leads = after.leads) :
    Names firstId warning' ↔
      matchesLead contact'.email contact'.phone (storedExtraFields second)
        (leadOf firstId firmId contact first) = true := by
  obtain ⟨hafter, -⟩ := hfirst.eq
  obtain ⟨hafter', hwarning⟩ := hsecond.eq
  rw [hleads, hafter] at hafter'
  have hne : firstId ≠ secondId :=
    hsecond.fresh (leadOf firstId firmId contact first)
      (by rw [hleads, hafter]; exact List.mem_cons_self)
  set found := after'.leads.filter fun lead =>
    lead.firmId == firmId &&
      matchesLead contact'.email contact'.phone (storedExtraFields second) lead &&
      lead._id != secondId with hfound
  rw [hwarning, names_detectIntakeDuplicates, ← hfound]
  -- The lead of the submission itself is passed over, and that of the first one comes next.
  constructor
  · intro hmem
    obtain ⟨lead, hlead, hid⟩ := List.mem_map.mp hmem
    obtain ⟨hstored, hmatch⟩ := List.mem_filter.mp (List.mem_of_mem_take hlead)
    simp only [Bool.and_eq_true] at hmatch
    rw [hafter', List.mem_cons, List.mem_cons] at hstored
    obtain rfl | rfl | hstored := hstored
    · exact absurd hid.symm hne
    · exact hmatch.1.2
    · exact absurd hid (hfirst.fresh lead hstored)
  · intro hmatch
    have hhead : found = leadOf firstId firmId contact first :: found.tail := by
      rw [hfound, hafter', List.filter_cons_of_neg (by simp [leadOf]), List.filter_cons_of_pos]
      · rfl
      · rw [hmatch]
        simpa [leadOf] using hne
    rw [hhead, List.take_succ_cons, List.map_cons]
    exact List.mem_cons_self

/-- A submission is warned of the one before it, for an identifier, an email, or a phone that both
give, exactly when it has a contact or plain identifier in common with it as soon as it has any
identifier in common. -/
theorem warns_iff (hfirst : Processed firstId firmId first contact before after warning)
    (hsecond : Processed secondId firmId second contact' before' after' warning')
    (hleads : before'.leads = after.leads) :
    (SameIdentifier Gives first second ∨ SameContact contact contact' → Names firstId warning') ↔
      (SameIdentifier Gives first second →
        SameContact contact contact' ∨ SameIdentifier GivesPlainly first second) := by
  rw [names_iff hfirst hsecond hleads, matchesLead_leadOf hsecond.contact]
  constructor
  · intro h hsame
    exact h (Or.inl hsame)
  · rintro h (hsame | hcontact)
    · exact h hsame
    · exact Or.inl hcontact

end pair

section pan

/-- A submission with a PAN. -/
def panSubmission (key value : String) : Payload :=
  [("name", .text "Asha Rao"), (key, .text value)]

def panContact : Contact := ⟨"Asha Rao", none, none⟩

/-- The leads after one submission with a PAN. -/
def panStore : Store :=
  ⟨[leadOf 1 "FIRM001" panContact (panSubmission "pan" "ABCDE1234F")], []⟩

theorem processed_pan :
    Processed 1 "FIRM001" (panSubmission "pan" "ABCDE1234F") panContact ⟨[], []⟩ panStore none where
  fresh := fun _ hlead => absurd hlead List.not_mem_nil
  contact := by decide
  run := rfl

/-- The same PAN again, in lower case and between spaces, is found. -/
theorem warns_iff_panAgain :
    ∃ after warning, Processed 2 "FIRM001" (panSubmission "pan" " abcde1234f ") panContact panStore
        after warning ∧ Names 1 warning := by
  have hsecond : Processed 2 "FIRM001" (panSubmission "pan" " abcde1234f ") panContact panStore
      _ _ := ⟨by simp [panStore, leadOf], by decide, rfl⟩
  have hplain : SameIdentifier GivesPlainly (panSubmission "pan" "ABCDE1234F")
      (panSubmission "pan" " abcde1234f ") :=
    ⟨⟨"pan", some .PAN, "PAN"⟩, by decide, "ABCDE1234F", by decide,
      by decide⟩
  refine ⟨_, _, hsecond, (warns_iff processed_pan hsecond rfl).mpr (fun _ => Or.inr hplain) ?_⟩
  exact Or.inl ⟨⟨"pan", some .PAN, "PAN"⟩, by decide, "ABCDE1234F",
    ⟨("pan", .text "ABCDE1234F"), by decide, by decide, by decide⟩,
    ⟨("pan", .text " abcde1234f "), by decide, by decide, by decide⟩⟩

/-- The same PAN under the key `PAN` is not. -/
theorem warns_fails :
    ∃ after, Processed 2 "FIRM001" (panSubmission "PAN" "ABCDE1234F") panContact panStore
        after none ∧
      SameIdentifier Gives (panSubmission "pan" "ABCDE1234F") (panSubmission "PAN" "ABCDE1234F") ∧
      ¬ Names 1 none := by
  refine ⟨_, ⟨by simp [panStore, leadOf], by decide, rfl⟩, ?_, ?_⟩
  · exact ⟨⟨"pan", some .PAN, "PAN"⟩, by decide, "ABCDE1234F",
      ⟨("pan", .text "ABCDE1234F"), by decide, by decide, by decide⟩,
      ⟨("PAN", .text "ABCDE1234F"), by decide, by decide, by decide⟩⟩
  · rintro ⟨w, hw, -⟩
    exact absurd hw.symm (Option.some_ne_none w)

end pan

end Docketra.IntakeDuplicates
