import Docketra.Lib.Interleaving
import Docketra.ComplianceGeneration
import Mathlib.Data.List.Basic
import Mathlib.Data.List.Nodup

/-!
# Replayed submissions

`processCmsSubmission` of `services/cmsIntake.service.js` answers a submission with the lead of an
earlier one that is the same, and creates a lead and a docket for it where there is none. Which
submissions are the same is coded twice. The query for the lead compares the form only in the two
form modes, compares text exactly, and also takes the external id of the earlier submission for its
key. The key of the docket, which is unique in the firm, always has the form in it, and is in lower
case. And the lead is looked for and created in two steps.

So a run replays the same submissions exactly (`intake_exact`) where no two submissions differ in
what only one of the two notices (`Consistent`), and what a call has looked for is still missing when
it creates its lead. The calls are those for one firm, with an idempotency key. What a call does
besides its lead and its docket is left out, and it may end without a docket for any reason. Nothing
else creates or removes such a lead.
-/

namespace Docketra.Intake

open Interleaving Runs
open Compliance (castIdempotencyKey)

inductive SubmissionMode where
  | cms
  | apiIntake
  | publicForm
  | embeddedForm
  deriving DecidableEq, Repr

def SubmissionMode.value : SubmissionMode → String
  | .cms => "cms"
  | .apiIntake => "api_intake"
  | .publicForm => "public_form"
  | .embeddedForm => "embedded_form"

/-- The fields of a submission that its metadata is made of, as text. -/
structure Payload where
  pageSlug : Option String := none
  slug : Option String := none
  formSlug : Option String := none
  formId : Option String := none
  externalSubmissionId : Option String := none
  idempotencyKey : Option String := none

/-- The metadata of a submission, which its lead keeps. -/
structure Metadata where
  submissionMode : SubmissionMode
  pageSlug : Option String
  formSlug : Option String
  formId : Option String
  externalSubmissionId : Option String
  idempotencyKey : Option String
  deriving DecidableEq, Repr

def normalizeTrimmedString (value : Option String) : Option String :=
  let trimmed := trim (value.getD "")
  if trimmed = "" then none else some trimmed

def normalizeMetadata (submissionMode : SubmissionMode) (payload : Payload)
    (requestKey : Option String) : Metadata :=
  let externalSubmissionId := normalizeTrimmedString payload.externalSubmissionId
  let idempotencyKey := normalizeTrimmedString (orElse payload.idempotencyKey requestKey)
  { submissionMode := submissionMode
    pageSlug := normalizeTrimmedString (orElse payload.pageSlug payload.slug)
    formSlug := normalizeTrimmedString (orElse payload.formSlug payload.formId)
    formId := normalizeTrimmedString payload.formId
    externalSubmissionId := externalSubmissionId
    idempotencyKey := idempotencyKey.or externalSubmissionId }

/-! ## The two notions of sameness -/

inductive ScopeField where
  | formId
  | formSlug
  | pageSlug
  deriving DecidableEq, Repr

def ScopeField.path : ScopeField → String
  | .formId => "metadata.formId"
  | .formSlug => "metadata.formSlug"
  | .pageSlug => "metadata.pageSlug"

def ScopeField.get : ScopeField → Metadata → Option String
  | .formId => Metadata.formId
  | .formSlug => Metadata.formSlug
  | .pageSlug => Metadata.pageSlug

structure ScopeToken where
  scopeField : ScopeField
  scopeValue : String
  deriving DecidableEq, Repr

def shouldUseFormScopedIdempotency : SubmissionMode → Bool
  | .publicForm | .embeddedForm => true
  | .cms | .apiIntake => false

def resolveIdempotencyScopeToken (metadata : Metadata) : Option ScopeToken :=
  match normalizeTrimmedString metadata.formId with
  | some formId => some ⟨.formId, formId⟩
  | none =>
    match normalizeTrimmedString metadata.formSlug with
    | some formSlug => some ⟨.formSlug, formSlug⟩
    | none => (normalizeTrimmedString metadata.pageSlug).map fun pageSlug => ⟨.pageSlug, pageSlug⟩

/-- A lead matches `buildIdempotencyScopeQuery`. -/
def isInScope (metadata lead : Metadata) : Bool :=
  lead.submissionMode == metadata.submissionMode &&
    (!shouldUseFormScopedIdempotency metadata.submissionMode ||
      (resolveIdempotencyScopeToken metadata).all fun token =>
        token.scopeField.get lead == some token.scopeValue)

/-- A lead matches the query of a submission. -/
def isFound (metadata lead : Metadata) : Bool :=
  isInScope metadata lead && metadata.idempotencyKey.any fun key =>
    lead.idempotencyKey == some key || lead.externalSubmissionId == some key

/-- `parts.join(':')`. -/
def join : List String → String
  | [] => ""
  | [part] => part
  | part :: parts => part ++ ":" ++ join parts

/-- The field and the value of the scope in the key of a docket. -/
def scopeFieldPart (token : Option ScopeToken) : String :=
  (token.map fun t => t.scopeField.path).getD "-"

def scopeValuePart (token : Option ScopeToken) : String :=
  toLowerCase ((orElse (token.map ScopeToken.scopeValue) (some "-")).getD "")

def buildDocketIdempotencyKey (firmId : String) (metadata : Metadata) : Option String :=
  (normalizeTrimmedString metadata.idempotencyKey).map fun intakeKey =>
    "cms-intake:" ++ join [firmId, metadata.submissionMode.value,
      scopeFieldPart (resolveIdempotencyScopeToken metadata),
      scopeValuePart (resolveIdempotencyScopeToken metadata), toLowerCase intakeKey]

/-! ## Calls -/

/-- The submissions that have been received, the leads, and the idempotency keys of the dockets. -/
structure Store where
  received : List Metadata
  leads : List Metadata
  dockets : List String

/-- The await that a call has come to. -/
inductive Phase where
  | idle
  | looking (metadata : Metadata)
  | creating (metadata : Metadata)
  | created (metadata : Metadata)
  | replayed (metadata existingLead : Metadata)
  | refused (metadata : Metadata)
  | done (metadata : Metadata)
  | failed

/-- The steps of a call. The query may give any of the leads that match. -/
inductive Action where
  | receive (submissionMode : SubmissionMode) (payload : Payload) (requestKey : Option String)
  | findLead (existingLead : Option Metadata)
  | createLead
  | createDocket
  | skipDocket
  | fail

def act (firmId : String) (_ : ℕ) : Action → Store → Phase → Option (Store × Phase)
  | .receive submissionMode payload requestKey, s, .idle =>
    let metadata := normalizeMetadata submissionMode payload requestKey
    -- Calls without a key are not looked up, and are left out.
    if metadata.idempotencyKey.isSome then
      some ({ s with received := metadata :: s.received }, .looking metadata)
    else none
  | .findLead (some existingLead), s, .looking metadata =>
    if s.leads.contains existingLead && isFound metadata existingLead then
      some (s, .replayed metadata existingLead)
    else none
  | .findLead none, s, .looking metadata =>
    if s.leads.any (isFound metadata) then none else some (s, .creating metadata)
  -- No index keeps a second lead out.
  | .createLead, s, .creating metadata =>
    some ({ s with leads := metadata :: s.leads }, .created metadata)
  | .createDocket, s, .created metadata =>
    match (buildDocketIdempotencyKey firmId metadata).map castIdempotencyKey with
    | none => some (s, .done metadata)
    | some key =>
      -- The index on the firm and the key, as the schema casts it, is unique.
      if s.dockets.contains key then some (s, .refused metadata)
      else some ({ s with dockets := key :: s.dockets }, .done metadata)
  | .skipDocket, s, .created metadata => some (s, .done metadata)
  | .fail, s, .looking _ => some (s, .failed)
  | .fail, s, .creating _ => some (s, .failed)
  | _, _, _ => none

/-- Nothing else happens. -/
def program (firmId : String) : Program Store Phase Action Empty where
  act := act firmId
  other := nofun

/-- Before any call. -/
def initial : System Store Phase where
  stored := ⟨[], [], []⟩
  phase _ := .idle

/-! ## What is asked -/

/-- The submission mode, the form scope, and the key of a submission. -/
def identity (metadata : Metadata) : SubmissionMode × Option ScopeToken × Option String :=
  (metadata.submissionMode, resolveIdempotencyScopeToken metadata, metadata.idempotencyKey)

/-- The forms of two submissions, as the key of a docket has them. -/
def SameForm (a b : Metadata) : Prop :=
  scopeFieldPart (resolveIdempotencyScopeToken a) =
      scopeFieldPart (resolveIdempotencyScopeToken b) ∧
    scopeValuePart (resolveIdempotencyScopeToken a) =
      scopeValuePart (resolveIdempotencyScopeToken b)

/-- A lead is created once, the two notions of sameness agree, no call creates a lead and is refused
its docket as a duplicate, and none is answered with the lead of another form. -/
structure Exact (firmId : String) (t : System Store Phase) : Prop where
  once : (t.stored.leads.map identity).Nodup
  same : ∀ a ∈ t.stored.received, ∀ b ∈ t.stored.received,
    (isFound b a = true ↔ buildDocketIdempotencyKey firmId a = buildDocketIdempotencyKey firmId b)
  accepted : ∀ r metadata, t.phase r ≠ .refused metadata
  form : ∀ r metadata lead, t.phase r = .replayed metadata lead → SameForm lead metadata

/-- The scope value and the key of a submission in lower case. -/
def keyPart (metadata : Metadata) : String := toLowerCase (metadata.idempotencyKey.getD "")

def textPart (metadata : Metadata) : String :=
  scopeValuePart (resolveIdempotencyScopeToken metadata) ++ ":" ++ keyPart metadata

/-- A submission has the key of another one, or its external id for a key. -/
def HasKeyOf (a b : Metadata) : Prop :=
  b.idempotencyKey = a.idempotencyKey ∨ b.externalSubmissionId = a.idempotencyKey

/-- Two submissions with one key are for one form, when the query does not tell their forms apart.
The key of one is not the external id of the other, unless they have one key. And two whose form and
key are the same text for the docket, joined and in lower case, are spelled alike. -/
structure Consistent (a b : Metadata) : Prop where
  form : isInScope b a = true → HasKeyOf b a → SameForm a b
  external : isInScope b a = true → a.externalSubmissionId = b.idempotencyKey →
    keyPart a = keyPart b
  spelling : a.submissionMode = b.submissionMode →
    scopeFieldPart (resolveIdempotencyScopeToken a) =
      scopeFieldPart (resolveIdempotencyScopeToken b) → textPart a = textPart b →
    HasKeyOf b a ∧ (shouldUseFormScopedIdempotency b.submissionMode = true →
      resolveIdempotencyScopeToken a = resolveIdempotencyScopeToken b)

/-- A submission that is received is consistent with those before, and what a call has looked for is
still missing when it creates a lead. -/
def Orderly : Event Action Empty → System Store Phase → Prop
  | .act r (.receive submissionMode payload requestKey), s =>
    s.phase r = .idle →
      (normalizeMetadata submissionMode payload requestKey).idempotencyKey.isSome →
        ∀ earlier ∈ s.stored.received,
          Consistent earlier (normalizeMetadata submissionMode payload requestKey) ∧
            Consistent (normalizeMetadata submissionMode payload requestKey) earlier
  | .act r .createLead, s =>
    ∀ metadata, s.phase r = .creating metadata →
      s.stored.leads.any (isFound metadata) = false
  | _, _ => True

/-! ## Normalized text -/

theorem normalizeTrimmedString_eq_some {value : Option String} {text : String}
    (h : normalizeTrimmedString value = some text) : trim text = text ∧ text ≠ "" := by
  unfold normalizeTrimmedString at h
  dsimp only at h
  split_ifs at h with hempty
  cases h
  exact ⟨trim_trim _, hempty⟩

theorem normalizeTrimmedString_of_trimmed {text : String} (htrim : trim text = text)
    (hne : text ≠ "") : normalizeTrimmedString (some text) = some text := by
  unfold normalizeTrimmedString
  dsimp only [Option.getD_some]
  rw [htrim, if_neg hne]

/-- Text that has been normalized stays as it is. -/
theorem normalizeTrimmedString_idem (value : Option String) :
    normalizeTrimmedString (normalizeTrimmedString value) = normalizeTrimmedString value := by
  cases h : normalizeTrimmedString value with
  | none => decide
  | some text =>
    obtain ⟨htrim, hne⟩ := normalizeTrimmedString_eq_some h
    exact normalizeTrimmedString_of_trimmed htrim hne

/-- The metadata of a submission with a key: its fields are normalized. -/
structure Normal (metadata : Metadata) : Prop where
  formId : normalizeTrimmedString metadata.formId = metadata.formId
  formSlug : normalizeTrimmedString metadata.formSlug = metadata.formSlug
  pageSlug : normalizeTrimmedString metadata.pageSlug = metadata.pageSlug
  key : ∃ key, metadata.idempotencyKey = some key ∧ trim key = key ∧ key ≠ ""

theorem normal_normalizeMetadata {submissionMode : SubmissionMode} {payload : Payload}
    {requestKey : Option String}
    (h : (normalizeMetadata submissionMode payload requestKey).idempotencyKey.isSome) :
    Normal (normalizeMetadata submissionMode payload requestKey) := by
  obtain ⟨key, hkey⟩ := Option.isSome_iff_exists.mp h
  have hor := hkey
  simp only [normalizeMetadata, Option.or_eq_some_iff] at hor
  constructor
  · simp only [normalizeMetadata, normalizeTrimmedString_idem]
  · simp only [normalizeMetadata, normalizeTrimmedString_idem]
  · simp only [normalizeMetadata, normalizeTrimmedString_idem]
  · refine ⟨key, hkey, ?_⟩
    rcases hor with hfirst | ⟨_, hsecond⟩
    · exact normalizeTrimmedString_eq_some hfirst
    · exact normalizeTrimmedString_eq_some hsecond

/-- The lead of a submission has the scope that its query asks for. -/
theorem Normal.get_scope {metadata : Metadata} (h : Normal metadata) {token : ScopeToken}
    (htoken : resolveIdempotencyScopeToken metadata = some token) :
    token.scopeField.get metadata = some token.scopeValue := by
  unfold resolveIdempotencyScopeToken at htoken
  rw [h.formId, h.formSlug, h.pageSlug] at htoken
  split at htoken
  · next formId hform =>
    cases htoken
    exact hform
  · split at htoken
    · next formSlug hslug =>
      cases htoken
      exact hslug
    · obtain ⟨pageSlug, hpage, rfl⟩ := Option.map_eq_some_iff.mp htoken
      exact hpage

/-! ## The key of a docket -/

/-- Two lists are the same up to an element that comes once in neither of their first parts. -/
theorem append_cons_inj {α : Type} {a : α} : ∀ {x y r s : List α}, a ∉ x → a ∉ y →
    (x ++ a :: r = y ++ a :: s ↔ x = y ∧ r = s)
  | [], [], r, s, _, _ => by simp
  | [], b :: y, r, s, _, hy => by
    have hne : a ≠ b := fun h => hy (h ▸ List.mem_cons_self)
    simp [hne]
  | c :: x, [], r, s, hx, _ => by
    have hne : c ≠ a := fun h => hx (h ▸ List.mem_cons_self)
    simp [hne]
  | c :: x, b :: y, r, s, hx, hy => by
    have ih := @append_cons_inj _ a x y r s (fun h => hx (List.mem_cons_of_mem _ h))
      (fun h => hy (List.mem_cons_of_mem _ h))
    simp only [List.cons_append, List.cons.injEq, ih, and_assoc]

/-- The first part of a joined text is determined where it has no colon. -/
theorem join_cons_inj {part part' : String} {parts parts' : List String}
    (hparts : parts ≠ []) (hparts' : parts' ≠ []) (h : ':' ∉ part.toList)
    (h' : ':' ∉ part'.toList) :
    join (part :: parts) = join (part' :: parts') ↔ part = part' ∧ join parts = join parts' := by
  have hjoin : ∀ (x : String) {xs : List String}, xs ≠ [] →
      (join (x :: xs)).toList = x.toList ++ ':' :: (join xs).toList := by
    intro x xs hxs
    obtain ⟨y, ys, rfl⟩ := List.exists_cons_of_ne_nil hxs
    show (x ++ ":" ++ join (y :: ys)).toList = _
    simp
  rw [← String.toList_inj, hjoin part hparts, hjoin part' hparts', append_cons_inj h h',
    String.toList_inj, String.toList_inj]

theorem colon_notMem_value (submissionMode : SubmissionMode) :
    ':' ∉ submissionMode.value.toList := by
  cases submissionMode <;> decide

theorem value_inj {a b : SubmissionMode} : a.value = b.value ↔ a = b := by
  cases a <;> cases b <;> decide

theorem colon_notMem_scopeFieldPart (token : Option ScopeToken) :
    ':' ∉ (scopeFieldPart token).toList := by
  cases token with
  | none => decide
  | some token =>
    show ':' ∉ token.scopeField.path.toList
    cases token.scopeField <;> decide

/-- The dockets of two submissions would have one key. -/
structure SameDocket (a b : Metadata) : Prop where
  mode : a.submissionMode = b.submissionMode
  field : scopeFieldPart (resolveIdempotencyScopeToken a) =
    scopeFieldPart (resolveIdempotencyScopeToken b)
  text : textPart a = textPart b

theorem SameDocket.symm {a b : Metadata} (h : SameDocket a b) : SameDocket b a :=
  ⟨h.mode.symm, h.field.symm, h.text.symm⟩

/-- The parts of the key of a docket after the firm. -/
def keyParts (metadata : Metadata) : List String :=
  [metadata.submissionMode.value, scopeFieldPart (resolveIdempotencyScopeToken metadata),
    textPart metadata]

theorem Normal.buildDocketIdempotencyKey_eq {metadata : Metadata} (h : Normal metadata)
    (firmId : String) :
    buildDocketIdempotencyKey firmId metadata =
      some ("cms-intake:" ++ (firmId ++ ":" ++ join (keyParts metadata))) := by
  obtain ⟨key, hkey, htrim, hne⟩ := h.key
  rw [buildDocketIdempotencyKey, hkey, normalizeTrimmedString_of_trimmed htrim hne, Option.map_some,
    keyParts, textPart, keyPart, hkey, Option.getD_some]
  simp only [join, String.append_assoc]

theorem join_keyParts_inj (a b : Metadata) :
    join (keyParts a) = join (keyParts b) ↔ SameDocket a b := by
  unfold keyParts
  rw [join_cons_inj (by simp) (by simp) (colon_notMem_value _) (colon_notMem_value _), value_inj,
    join_cons_inj (by simp) (by simp) (colon_notMem_scopeFieldPart _)
      (colon_notMem_scopeFieldPart _)]
  exact ⟨fun ⟨hmode, hfield, htext⟩ => ⟨hmode, hfield, htext⟩,
    fun h => ⟨h.mode, h.field, h.text⟩⟩

/-- Two submissions have one docket key exactly when the mode, the scope field, and the text of the
scope value and the key are the same. -/
theorem buildDocketIdempotencyKey_inj (firmId : String) {a b : Metadata} (ha : Normal a)
    (hb : Normal b) :
    buildDocketIdempotencyKey firmId a = buildDocketIdempotencyKey firmId b ↔ SameDocket a b := by
  rw [ha.buildDocketIdempotencyKey_eq, hb.buildDocketIdempotencyKey_eq, Option.some_inj,
    String.append_right_inj, String.append_right_inj, join_keyParts_inj]

theorem getLast_trimList (l : List Char) :
    ∀ c ∈ (trimList l).getLast?, isWhitespace c = false := by
  intro c hc
  obtain ⟨hne, rfl⟩ := List.mem_getLast?_eq_getLast hc
  exact (Bool.not_eq_true _).mp (List.rdropWhile_last_not _ _ hne)

/-- There is nothing to trim of text that ends with trimmed text. -/
theorem trim_append {s text : String} (hs : s ≠ "")
    (hhead : ∀ c ∈ s.toList.head?, isWhitespace c = false) (htrim : trim text = text)
    (hne : text ≠ "") : trim (s ++ text) = s ++ text := by
  have hslist : s.toList ≠ [] := fun h => hs (String.toList_inj.mp h)
  have hlist : text.toList ≠ [] := fun h => hne (String.toList_inj.mp h)
  have htext : trimList text.toList = text.toList := by
    rw [← String.toList_inj, trim, String.toList_ofList] at htrim
    exact htrim
  have hall : trimList (s ++ text).toList = (s ++ text).toList := by
    rw [String.toList_append]
    refine trimList_eq_self (fun c hc => ?_) fun c hc => ?_
    · rw [List.head?_append_of_ne_nil _ hslist] at hc
      exact hhead c hc
    · rw [List.getLast?_append_of_ne_nil _ hlist, ← htext] at hc
      exact getLast_trimList _ c hc
  rw [trim, hall, String.ofList_toList]

theorem toLowerCase_value (submissionMode : SubmissionMode) :
    toLowerCase submissionMode.value = submissionMode.value := by
  cases submissionMode <;> decide

theorem toLowerCase_scopeFieldPart_inj (a b : Option ScopeToken) :
    toLowerCase (scopeFieldPart a) = toLowerCase (scopeFieldPart b) ↔
      scopeFieldPart a = scopeFieldPart b := by
  have hparts : ∀ t, scopeFieldPart t ∈
      ["-", "metadata.formId", "metadata.formSlug", "metadata.pageSlug"] := by
    intro t
    cases t with
    | none => decide
    | some token =>
      show token.scopeField.path ∈ _
      cases token.scopeField <;> decide
  have hinj : ∀ x ∈ ["-", "metadata.formId", "metadata.formSlug", "metadata.pageSlug"],
      ∀ y ∈ ["-", "metadata.formId", "metadata.formSlug", "metadata.pageSlug"],
        toLowerCase x = toLowerCase y → x = y := by decide
  exact ⟨hinj _ (hparts a) _ (hparts b), congrArg toLowerCase⟩

theorem toLowerCase_textPart (metadata : Metadata) :
    toLowerCase (textPart metadata) = textPart metadata := by
  have hcolon : toLowerCase ":" = ":" := by decide
  simp only [textPart, scopeValuePart, keyPart, toLowerCase_append, toLowerCase_toLowerCase, hcolon]

theorem toLowerCase_ne_empty {text : String} (h : text ≠ "") : toLowerCase text ≠ "" := by
  intro hempty
  rw [toLowerCase, ← String.toList_inj, String.toList_ofList] at hempty
  exact h (String.toList_inj.mp (List.map_eq_nil_iff.mp hempty))

/-- There is nothing to trim of the key of a docket. -/
theorem Normal.trim_key {metadata : Metadata} (h : Normal metadata) (firmId : String) :
    trim ("cms-intake:" ++ (firmId ++ ":" ++ join (keyParts metadata))) =
      "cms-intake:" ++ (firmId ++ ":" ++ join (keyParts metadata)) := by
  obtain ⟨key, hkey, htrim, hne⟩ := h.key
  have hpart : keyPart metadata = toLowerCase key := by rw [keyPart, hkey, Option.getD_some]
  have hsplit : "cms-intake:" ++ (firmId ++ ":" ++ join (keyParts metadata)) =
      ("cms-intake:" ++ (firmId ++ ":" ++ (metadata.submissionMode.value ++ ":" ++
        (scopeFieldPart (resolveIdempotencyScopeToken metadata) ++ ":" ++
          (scopeValuePart (resolveIdempotencyScopeToken metadata) ++ ":"))))) ++
        keyPart metadata := by
    simp only [keyParts, textPart, join, String.append_assoc]
  rw [hsplit]
  refine trim_append ?_ (fun c hc => ?_) ?_ ?_
  · intro hempty
    have := congrArg String.toList hempty
    simp at this
  · have : c = 'c' := by simpa [eq_comm] using hc
    rw [this]
    rfl
  · rw [hpart, trim_toLowerCase, htrim]
  · rw [hpart]
    exact toLowerCase_ne_empty hne

/-- The key of a docket as it is stored. -/
def storedKey (firmId : String) (metadata : Metadata) : Option String :=
  (buildDocketIdempotencyKey firmId metadata).map castIdempotencyKey

theorem Normal.storedKey_eq {metadata : Metadata} (h : Normal metadata) (firmId : String) :
    storedKey firmId metadata = some (toLowerCase "cms-intake:" ++ (toLowerCase firmId ++
      toLowerCase ":" ++ join [metadata.submissionMode.value,
        toLowerCase (scopeFieldPart (resolveIdempotencyScopeToken metadata)),
        textPart metadata])) := by
  have hcolon : toLowerCase ":" = ":" := by decide
  rw [storedKey, h.buildDocketIdempotencyKey_eq, Option.map_some, castIdempotencyKey, h.trim_key]
  simp only [keyParts, join, toLowerCase_append, toLowerCase_value, toLowerCase_textPart, hcolon]

theorem colon_notMem_toLowerCase (token : Option ScopeToken) :
    ':' ∉ (toLowerCase (scopeFieldPart token)).toList := by
  cases token with
  | none => decide
  | some token =>
    show ':' ∉ (toLowerCase token.scopeField.path).toList
    cases token.scopeField <;> decide

/-- The schema casts the keys of two dockets to one key only when they are the same. -/
theorem storedKey_inj (firmId : String) {a b : Metadata} (ha : Normal a) (hb : Normal b) :
    storedKey firmId a = storedKey firmId b ↔ SameDocket a b := by
  rw [ha.storedKey_eq, hb.storedKey_eq, Option.some_inj, String.append_right_inj,
    String.append_right_inj,
    join_cons_inj (by simp) (by simp) (colon_notMem_value _) (colon_notMem_value _), value_inj,
    join_cons_inj (by simp) (by simp) (colon_notMem_toLowerCase _) (colon_notMem_toLowerCase _),
    toLowerCase_scopeFieldPart_inj]
  exact ⟨fun ⟨hmode, hfield, htext⟩ => ⟨hmode, hfield, htext⟩,
    fun h => ⟨h.mode, h.field, h.text⟩⟩

/-! ## The two notions agree -/

theorem mode_of_isFound {metadata lead : Metadata} (h : isFound metadata lead = true) :
    lead.submissionMode = metadata.submissionMode := by
  simp only [isFound, isInScope, Bool.and_eq_true, beq_iff_eq] at h
  exact h.1.1

theorem SameForm.textPart_eq {a b : Metadata} (h : SameForm a b) (hkey : keyPart a = keyPart b) :
    textPart a = textPart b := by
  rw [textPart, textPart, h.2, hkey]

/-- What the query of a submission finds has its scope, and its key. -/
theorem Normal.isFound_iff {a b : Metadata} (hb : Normal b) :
    isFound b a = true ↔ isInScope b a = true ∧ HasKeyOf b a := by
  obtain ⟨key, hkey, -⟩ := hb.key
  rw [isFound, HasKeyOf, hkey, Option.any_some, Bool.and_eq_true, Bool.or_eq_true, beq_iff_eq,
    beq_iff_eq]

/-- A submission has the scope of another one in its mode, when the two are for one form. -/
theorem Normal.isInScope_of_same {a b : Metadata} (ha : Normal a)
    (hmode : a.submissionMode = b.submissionMode)
    (htoken : shouldUseFormScopedIdempotency b.submissionMode = true →
      resolveIdempotencyScopeToken a = resolveIdempotencyScopeToken b) :
    isInScope b a = true := by
  rw [isInScope, Bool.and_eq_true, beq_iff_eq, Bool.or_eq_true]
  refine ⟨hmode, ?_⟩
  by_cases hform : shouldUseFormScopedIdempotency b.submissionMode = true
  · -- The query compares the field of the scope, which a submission has as its token.
    right
    rw [← htoken hform]
    cases hscope : resolveIdempotencyScopeToken a with
    | none => rfl
    | some token => exact beq_iff_eq.mpr (ha.get_scope hscope)
  · left
    rw [Bool.not_eq_true] at hform
    rw [hform, Bool.not_false]

theorem Consistent.isFound_iff {a b : Metadata} (h : Consistent a b) (ha : Normal a)
    (hb : Normal b) : isFound b a = true ↔ SameDocket a b := by
  constructor
  · intro hfound
    obtain ⟨hscope, hkey⟩ := hb.isFound_iff.mp hfound
    have hform := h.form hscope hkey
    have hpart : keyPart a = keyPart b := by
      rcases hkey with hkey | hexternal
      · rw [keyPart, keyPart, hkey]
      · exact h.external hscope hexternal
    exact ⟨mode_of_isFound hfound, hform.1, hform.textPart_eq hpart⟩
  · intro hsame
    obtain ⟨hkey, htoken⟩ := h.spelling hsame.mode hsame.field hsame.text
    exact hb.isFound_iff.mpr ⟨ha.isInScope_of_same hsame.mode htoken, hkey⟩

theorem consistent_self (metadata : Metadata) : Consistent metadata metadata :=
  ⟨fun _ _ => ⟨rfl, rfl⟩, fun _ _ => rfl, fun _ _ _ => ⟨Or.inl rfl, fun _ => rfl⟩⟩

/-- Two submissions with one identity would have one docket key. -/
theorem sameDocket_of_identity {a b : Metadata} (h : identity a = identity b) : SameDocket a b := by
  simp only [identity, Prod.mk.injEq] at h
  obtain ⟨hmode, htoken, hkey⟩ := h
  refine ⟨hmode, by rw [htoken], ?_⟩
  rw [textPart, textPart, keyPart, keyPart, htoken, hkey]

/-! ## The invariant -/

structure StoreInv (firmId : String) (s : Store) : Prop where
  normal : ∀ m ∈ s.received, Normal m
  consistent : ∀ a ∈ s.received, ∀ b ∈ s.received, Consistent a b
  leads : ∀ lead ∈ s.leads, lead ∈ s.received
  distinct : s.leads.Pairwise fun a b => ¬ SameDocket a b
  dockets : ∀ key ∈ s.dockets, ∃ lead ∈ s.leads, storedKey firmId lead = some key

/-- What a call has come to. No call is refused its docket. -/
def PhaseInv (firmId : String) (s : Store) : Phase → Prop
  | .idle | .done _ | .failed => True
  | .looking metadata | .creating metadata => metadata ∈ s.received
  | .created metadata =>
    metadata ∈ s.leads ∧ ∀ key ∈ s.dockets, storedKey firmId metadata ≠ some key
  | .replayed metadata lead =>
    metadata ∈ s.received ∧ lead ∈ s.received ∧ isFound metadata lead = true
  | .refused _ => False

/-- The lead that a call has created, with its docket still to create. -/
def createdLead : Phase → Option Metadata
  | .created metadata => some metadata
  | _ => none

/-- Two calls that have created their leads have different dockets to create. -/
def Differ (p p' : Phase) : Prop :=
  ∀ a b, createdLead p = some a → createdLead p' = some b → ¬ SameDocket a b

def assertions (firmId : String) : Assertions Store Phase where
  store := StoreInv firmId
  own _ := PhaseInv firmId
  both := Differ

theorem differ_of_none {p : Phase} (h : createdLead p = none) (p' : Phase) :
    Differ p p' ∧ Differ p' p := by
  constructor
  · intro a _ ha
    rw [h] at ha
    cases ha
  · intro _ b _ hb
    rw [h] at hb
    cases hb

theorem eq_of_createdLead {p : Phase} {metadata : Metadata} (h : createdLead p = some metadata) :
    p = .created metadata := by
  cases p with
  | created other =>
    cases h
    rfl
  | _ => cases h

/-- What is received and created later leaves a phase as it is, unless its docket is created. -/
theorem PhaseInv.grows {firmId : String} {s s' : Store} {p : Phase} (h : PhaseInv firmId s p)
    (hreceived : ∀ m ∈ s.received, m ∈ s'.received) (hleads : ∀ m ∈ s.leads, m ∈ s'.leads)
    (hdockets : ∀ m, p = .created m → ∀ key ∈ s'.dockets, key ∉ s.dockets →
      storedKey firmId m ≠ some key) : PhaseInv firmId s' p := by
  cases p with
  | looking metadata => exact hreceived _ h
  | creating metadata => exact hreceived _ h
  | created metadata =>
    refine ⟨hleads _ h.1, fun key hkey => ?_⟩
    by_cases hold : key ∈ s.dockets
    · exact h.2 key hold
    · exact hdockets metadata rfl key hkey hold
  | replayed metadata lead => exact ⟨hreceived _ h.1, hreceived _ h.2.1, h.2.2⟩
  | refused metadata => exact h.elim
  | _ => trivial

/-! ## Steps -/

def Store.receive (s : Store) (metadata : Metadata) : Store :=
  { s with received := metadata :: s.received }

def Store.createLead (s : Store) (metadata : Metadata) : Store :=
  { s with leads := metadata :: s.leads }

def Store.createDocket (s : Store) (key : String) : Store := { s with dockets := key :: s.dockets }

/-- A step of a call receives its submission, creates its lead or its docket, or moves on. -/
inductive Effect (firmId : String) (s : Store) (p : Phase) : Action → Store → Phase → Prop where
  | moves {action : Action} {q : Phase} (hq : PhaseInv firmId s q) (hlead : createdLead q = none) :
    Effect firmId s p action s q
  | receives {submissionMode : SubmissionMode} {payload : Payload} {requestKey : Option String}
    (hp : p = .idle)
    (hkey : (normalizeMetadata submissionMode payload requestKey).idempotencyKey.isSome) :
    Effect firmId s p (.receive submissionMode payload requestKey)
      (s.receive (normalizeMetadata submissionMode payload requestKey))
      (.looking (normalizeMetadata submissionMode payload requestKey))
  | creates {metadata : Metadata} (hp : p = .creating metadata) :
    Effect firmId s p .createLead (s.createLead metadata) (.created metadata)
  | docket {metadata : Metadata} {key : String} (hp : p = .created metadata)
    (hkey : storedKey firmId metadata = some key) :
    Effect firmId s p .createDocket (s.createDocket key) (.done metadata)

theorem act_effect {firmId : String} (r : ℕ) {action : Action} {s s' : Store} {p p' : Phase}
    (hs : StoreInv firmId s) (h : PhaseInv firmId s p)
    (hact : act firmId r action s p = some (s', p')) : Effect firmId s p action s' p' := by
  unfold act at hact
  split at hact
  · next submissionMode payload requestKey =>
    dsimp only at hact
    split_ifs at hact with hkey
    cases hact
    exact .receives rfl hkey
  · next existingLead metadata =>
    split_ifs at hact with hfound
    cases hact
    rw [Bool.and_eq_true, List.contains_iff_mem] at hfound
    exact .moves ⟨h, hs.leads _ hfound.1, hfound.2⟩ rfl
  · split_ifs at hact with hany
    cases hact
    exact .moves h rfl
  · cases hact
    exact .creates rfl
  · next metadata =>
    split at hact
    · cases hact
      exact .moves trivial rfl
    · next key hkey =>
      split_ifs at hact with hcontains
      · -- The docket would be a duplicate.
        cases hact
        exact absurd hkey (h.2 key (List.contains_iff_mem.mp hcontains))
      · cases hact
        exact .docket rfl hkey
  · cases hact
    exact .moves trivial rfl
  · cases hact
    exact .moves trivial rfl
  · cases hact
    exact .moves trivial rfl
  · cases hact

theorem StoreInv.receive {firmId : String} {s : Store} (h : StoreInv firmId s) {metadata : Metadata}
    (hnormal : Normal metadata)
    (hconsistent : ∀ earlier ∈ s.received,
      Consistent earlier metadata ∧ Consistent metadata earlier) :
    StoreInv firmId (s.receive metadata) := by
  refine ⟨fun m hm => ?_, fun a ha b hb => ?_, fun lead hlead => ?_, h.distinct, h.dockets⟩
  · rcases List.mem_cons.mp hm with rfl | hm
    · exact hnormal
    · exact h.normal m hm
  · rcases List.mem_cons.mp ha with rfl | hold
    · rcases List.mem_cons.mp hb with rfl | hb
      · exact consistent_self _
      · exact (hconsistent b hb).2
    · rcases List.mem_cons.mp hb with rfl | hb
      · exact (hconsistent a hold).1
      · exact h.consistent a hold b hb
  · exact List.mem_cons_of_mem _ (h.leads lead hlead)

/-- A lead that is missing is the only one of its submission. -/
theorem StoreInv.not_sameDocket {firmId : String} {s : Store} (h : StoreInv firmId s)
    {metadata : Metadata} (hreceived : metadata ∈ s.received)
    (hmissing : s.leads.any (isFound metadata) = false) :
    ∀ lead ∈ s.leads, ¬ SameDocket metadata lead := by
  intro lead hlead hsame
  have hconsistent := h.consistent lead (h.leads lead hlead) metadata hreceived
  have hfound := (hconsistent.isFound_iff (h.normal _ (h.leads lead hlead))
    (h.normal _ hreceived)).mpr hsame.symm
  rw [List.any_eq_false] at hmissing
  exact hmissing lead hlead hfound

theorem StoreInv.createLead {firmId : String} {s : Store} (h : StoreInv firmId s)
    {metadata : Metadata} (hreceived : metadata ∈ s.received)
    (hmissing : s.leads.any (isFound metadata) = false) :
    StoreInv firmId (s.createLead metadata) := by
  refine ⟨h.normal, h.consistent, fun lead hlead => ?_, ?_, fun key hkey => ?_⟩
  · rcases List.mem_cons.mp hlead with rfl | hlead
    · exact hreceived
    · exact h.leads lead hlead
  · exact List.pairwise_cons.mpr ⟨h.not_sameDocket hreceived hmissing, h.distinct⟩
  · obtain ⟨lead, hlead, hstored⟩ := h.dockets key hkey
    exact ⟨lead, List.mem_cons_of_mem _ hlead, hstored⟩

/-- And no docket has its key. -/
theorem StoreInv.created {firmId : String} {s : Store} (h : StoreInv firmId s) {metadata : Metadata}
    (hreceived : metadata ∈ s.received) (hmissing : s.leads.any (isFound metadata) = false) :
    PhaseInv firmId (s.createLead metadata) (.created metadata) := by
  refine ⟨List.mem_cons_self, fun key hkey hstored => ?_⟩
  obtain ⟨lead, hlead, hlead'⟩ := h.dockets key hkey
  have hsame := (storedKey_inj firmId (h.normal metadata hreceived)
    (h.normal lead (h.leads lead hlead))).mp (hstored.trans hlead'.symm)
  exact h.not_sameDocket hreceived hmissing lead hlead hsame

theorem StoreInv.createDocket {firmId : String} {s : Store} (h : StoreInv firmId s)
    {metadata : Metadata} {key : String} (hlead : metadata ∈ s.leads)
    (hkey : storedKey firmId metadata = some key) : StoreInv firmId (s.createDocket key) := by
  refine ⟨h.normal, h.consistent, h.leads, h.distinct, fun key' hkey' => ?_⟩
  rcases List.mem_cons.mp hkey' with rfl | hkey'
  · exact ⟨metadata, hlead, hkey⟩
  · exact h.dockets key' hkey'

/-- Two leads that are not the same have different dockets. -/
theorem StoreInv.storedKey_ne {firmId : String} {s : Store} (h : StoreInv firmId s)
    {a b : Metadata} (ha : a ∈ s.leads) (hb : b ∈ s.leads) (hne : ¬ SameDocket a b) {key : String}
    (hkey : storedKey firmId a = some key) : storedKey firmId b ≠ some key := by
  intro hkey'
  have hnormal := h.normal a (h.leads a ha)
  have hnormal' := h.normal b (h.leads b hb)
  exact hne ((storedKey_inj firmId hnormal hnormal').mp (hkey.trans hkey'.symm))

theorem differ_created {metadata : Metadata} {p : Phase}
    (h : ∀ other, createdLead p = some other → ¬ SameDocket metadata other) :
    Differ (.created metadata) p ∧ Differ p (.created metadata) := by
  constructor
  · intro a b ha hb
    cases ha
    exact h b hb
  · intro a b ha hb hsame
    cases hb
    exact h a ha hsame.symm

/-- A step keeps the invariant when it is orderly. -/
theorem holds_step (firmId : String) (event : Event Action Empty) (s : System Store Phase)
    (h : Holds (assertions firmId) s) (hok : Orderly event s) :
    Holds (assertions firmId) (step (program firmId) event s) := by
  cases event with
  | other event => exact event.elim
  | act r action =>
    refine h.act fun result hresult => ?_
    obtain ⟨s', p'⟩ := result
    have hphase : PhaseInv firmId s.stored (s.phase r) := h.own r
    cases act_effect r h.store hphase hresult with
    | moves hq hlead =>
      exact ⟨h.store, hq, fun r' _ => h.own r', fun r' _ => differ_of_none hlead (s.phase r')⟩
    | receives hp hkey =>
      exact ⟨h.store.receive (normal_normalizeMetadata hkey) (hok hp hkey), List.mem_cons_self,
        fun r' _ => (h.own r').grows (fun _ => List.mem_cons_of_mem _) (fun _ hm => hm)
          fun _ _ key hkey hnew => absurd hkey hnew,
        fun r' _ => differ_of_none rfl (s.phase r')⟩
    | @creates metadata hp =>
      -- The lead is still missing, so no lead has its docket's key.
      have hmissing := hok metadata hp
      rw [hp] at hphase
      have hnew := h.store.not_sameDocket hphase hmissing
      refine ⟨h.store.createLead hphase hmissing, h.store.created hphase hmissing,
        fun r' _ => (h.own r').grows (fun _ hm => hm) (fun _ => List.mem_cons_of_mem _)
          fun _ _ key hkey hnew => absurd hkey hnew,
        fun r' _ => differ_created fun other hother => ?_⟩
      have hown : PhaseInv firmId s.stored (s.phase r') := h.own r'
      rw [eq_of_createdLead hother] at hown
      exact hnew other hown.1
    | @docket metadata key hp hkey =>
      rw [hp] at hphase
      refine ⟨h.store.createDocket hphase.1 hkey, trivial, fun r' hr' => ?_,
        fun r' _ => differ_of_none rfl (s.phase r')⟩
      -- Another call that has created its lead has another docket to create.
      refine (h.own r').grows (fun _ hm => hm) (fun _ hm => hm)
        fun other hother key' hkey' hnew => ?_
      have hboth : Differ (s.phase r) (s.phase r') := h.both r r' (Ne.symm hr')
      have hown : PhaseInv firmId s.stored (s.phase r') := h.own r'
      rw [hother] at hown
      rcases List.mem_cons.mp hkey' with rfl | hold
      · have hne := hboth metadata other (by rw [hp]; rfl) (by rw [hother]; rfl)
        exact h.store.storedKey_ne hphase.1 hown.1 hne hkey
      · exact absurd hold hnew

theorem exact_of_holds {firmId : String} {s : System Store Phase}
    (h : Holds (assertions firmId) s) : Exact firmId s := by
  refine ⟨?_, fun a ha b hb => ?_, fun r metadata hp => ?_, fun r metadata lead hp => ?_⟩
  · exact List.pairwise_map.mpr (h.store.distinct.imp fun hne heq =>
      hne (sameDocket_of_identity heq))
  · have hnormal := h.store.normal a ha
    have hnormal' := h.store.normal b hb
    rw [(h.store.consistent a ha b hb).isFound_iff hnormal hnormal',
      buildDocketIdempotencyKey_inj firmId hnormal hnormal']
  · have hphase : PhaseInv firmId s.stored (s.phase r) := h.own r
    rw [hp] at hphase
    exact hphase
  · have hphase : PhaseInv firmId s.stored (s.phase r) := h.own r
    rw [hp] at hphase
    obtain ⟨hreceived, hlead, hfound⟩ := hphase
    obtain ⟨hscope, hkey⟩ := (h.store.normal _ hreceived).isFound_iff.mp hfound
    exact (h.store.consistent lead hlead metadata hreceived).form hscope hkey

theorem holds_initial (firmId : String) : Holds (assertions firmId) initial :=
  ⟨⟨fun _ hm => absurd hm List.not_mem_nil, fun _ ha => absurd ha List.not_mem_nil,
      fun _ hlead => absurd hlead List.not_mem_nil, List.Pairwise.nil,
      fun _ hkey => absurd hkey List.not_mem_nil⟩,
    fun _ => trivial, fun _ _ _ => (differ_of_none rfl Phase.idle).1⟩

def submission (key : String) : Payload := { formId := some "form-1", idempotencyKey := some key }

def metadata (key : String) : Metadata := normalizeMetadata .publicForm (submission key) none

/-- A submission to a form is received, and gets a lead and a docket. -/
def accepted (request : ℕ) (key : String) : List (Event Action Empty) :=
  [.act request (.receive .publicForm (submission key) none), .act request (.findLead none),
    .act request .createLead, .act request .createDocket]

/-- A submission that is sent again. -/
def replay : List (Event Action Empty) :=
  accepted 0 "idem-1" ++
    [.act 1 (.receive .publicForm (submission "idem-1") none),
      .act 1 (.findLead (some (metadata "idem-1")))]

def Phase.isRefused : Phase → Bool
  | .refused _ => true
  | _ => false

end Docketra.Intake
