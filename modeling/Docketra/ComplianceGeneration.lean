import Mathlib.Data.List.Infix
import Mathlib.Data.List.Sort
import Docketra.Periods

/-!
# Generating compliance dockets

`previewOrGenerate` goes through the candidates in order. A candidate whose key is among those that
were found in the store is skipped, and so is one whose docket the store refuses for its key. The
preview stops before a docket is made.

The keys that are compared first are the candidates' own, and the stored ones: the Case schema
trims a key and lowers its case when it stores it, and a query for it does the same to what it looks
for. The unique index is on what is stored.

The store holds the dockets of the firm that have a key. The other fields with a unique index are
counters or random, and taken to be fresh.
-/

namespace Docketra.Compliance

open Calendar

/-! ## Dockets -/

/-- The links of a `sopSnapshot`. -/
structure SopSnapshotLink where
  title : String
  url : String
  description : String
  type : String
  sortOrder : ℤ
  deriving DecidableEq, Repr

/-- `sopSnapshot`. The schema has no `files` and drops them. -/
structure SopSnapshot where
  title : String
  body : String
  format : String
  links : List SopSnapshotLink
  sourceSubcategoryId : String
  deriving DecidableEq, Repr

/-- The fields of a `checklist` item that depend on the template. -/
structure ChecklistItem where
  title : String
  description : String
  required : Bool
  dueDate : Day
  sortOrder : ℤ
  deriving DecidableEq, Repr

/-- The fields of `casePayload` that depend on its candidate, category, or actor. -/
structure CasePayload where
  title : String
  description : String
  categoryId : ObjectId
  subcategoryId : String
  category : String
  subcategory : String
  clientId : ClientId
  statutory_due_date : Day
  internal_due_date : Day
  obligation_type : Option String
  obligation_period : String
  reviewer_xid : Option String
  approver_xid : Option String
  assignedToXID : Option String
  assignedTo : Option String
  queueType : QueueType
  createdByXID : String
  checklist : List ChecklistItem
  sopSnapshot : SopSnapshot
  expectedMinutes : ℤ
  estimatedBudget : ℤ
  idempotencyKey : String
  deriving DecidableEq, Repr

/-- `buildChecklistSnapshot`. -/
def buildChecklistSnapshot (checklist : List TemplateChecklistItem) (internalDueDate : Day) :
    List ChecklistItem :=
  let titled := checklist.filter fun item => trim item.title ≠ ""
  titled.mapIdx fun idx item =>
    { title := String.ofList ((trim item.title).toList.take 200)
      description := String.ofList ((trim item.description).toList.take 1000)
      required := item.required
      dueDate := addUtcDays internalDueDate (item.dueOffsetDays.getD 0)
      sortOrder := item.sortOrder.getD idx }

/-- `[...].includes(String(x || fallback)) ? String(x) : fallback`. A field that is not there is
among the admitted ones, by the fallback, and `String` makes the text `undefined` of it. -/
def admittedOr (admitted : List String) (x : Option String) (fallback : String) : String :=
  if textOr x fallback ∈ admitted then x.getD "undefined" else fallback

/-- The formats of an SOP. -/
def sopFormats : List String := ["plain_text", "markdown"]

/-- The types of a link of an SOP. -/
def linkTypes : List String := ["portal", "reference", "template", "internal", "other"]

/-- `buildSopSnapshot`. -/
def buildSopSnapshot (sop : Sop) (subcategoryId : String) : SopSnapshot where
  title := trim sop.title
  body := trim sop.body
  format := admittedOr sopFormats sop.format "markdown"
  links := (sop.links.mapIdx fun idx link =>
    { title := trim link.title
      url := trim link.url
      description := trim link.description
      type := admittedOr linkTypes link.type "reference"
      sortOrder := link.sortOrder.getD idx : SopSnapshotLink }).filter
        fun link => link.title ≠ "" ∧ link.url ≠ ""
  sourceSubcategoryId := subcategoryId

/-- `OBLIGATION_TYPE_LABEL[obligationType] || 'Compliance'`. -/
def obligationTypeLabel (obligationType : Option String) : String :=
  (List.lookup (obligationType.getD "") [("GST", "GST"), ("TDS", "TDS"), ("ROC", "ROC"),
    ("ANNUAL_FILING", "Annual Filing"), ("OTHER", "Other")]).getD "Compliance"

/-- What `resolveFallbackCategoryConfig` returns. -/
structure CategoryConfig where
  categoryId : ObjectId
  subcategoryId : String
  categoryName : String
  subcategoryName : String
  deriving DecidableEq, Repr

/-- The category and subcategory of a template's dockets, if neither is missing. -/
def categoryOf (template : Template) (fallbackCategory : Option CategoryConfig) :
    Option (ObjectId × String) :=
  let templateCategoryId :=
    template.docketCategoryId <|> fallbackCategory.map CategoryConfig.categoryId
  let templateSubcategoryId :=
    orElse template.docketSubcategoryId (fallbackCategory.map CategoryConfig.subcategoryId)
  match templateCategoryId, templateSubcategoryId with
  | some categoryId, some subcategoryId =>
    if subcategoryId = "" then none else some (categoryId, subcategoryId)
  | _, _ => none

/-- `x || null`. -/
def orNull (x : Option String) : Option String := orElse x none

/-- `casePayload`, of a candidate whose category is not missing. -/
def casePayload (actor : Actor) (fallbackCategory : Option CategoryConfig) (candidate : Candidate)
    (categoryId : ObjectId) (subcategoryId : String) : CasePayload :=
  let template := candidate.template
  { title := template.name ++ " · " ++ candidate.periodLabel
    description := template.name ++ " for " ++
      textOr candidate.client.businessName candidate.client.clientId.text ++ " (" ++
      candidate.periodLabel ++ ")"
    categoryId := categoryId
    subcategoryId := subcategoryId
    category := textOr (fallbackCategory.map CategoryConfig.categoryName)
      (obligationTypeLabel template.obligationType ++ " Docket")
    subcategory := textOr (fallbackCategory.map CategoryConfig.subcategoryName)
      (textOr (some template.name) "Compliance Obligation")
    clientId := candidate.client.clientId
    statutory_due_date := candidate.statutoryDueDate
    internal_due_date := candidate.internalDueDate
    obligation_type := template.obligationType
    obligation_period := candidate.periodLabel
    reviewer_xid := orNull template.defaultReviewerXID
    approver_xid := orNull template.defaultApproverXID
    assignedToXID := orNull template.defaultAssigneeXID
    assignedTo := orNull template.defaultAssigneeXID
    queueType := if truthy template.defaultAssigneeXID then .PERSONAL else .GLOBAL
    createdByXID := toUpperCase (textOr actor.xID "SYSTEM")
    checklist := buildChecklistSnapshot template.defaultChecklist candidate.internalDueDate
    sopSnapshot := buildSopSnapshot template.defaultSop subcategoryId
    expectedMinutes := template.expectedMinutes.getD 0
    estimatedBudget := template.estimatedBudget.getD 0
    idempotencyKey := candidate.idempotencyKey }

/-! ## The Case schema -/

/-- A path that fails, and the message about it. -/
abbrev PathError := String × String

/-- `s.length`, which counts the code units of UTF-16. -/
def utf16Length (s : String) : ℕ := (s.toList.map fun c => if c.toNat < 0x10000 then 1 else 2).sum

/-- `required`, of a trimmed text. -/
def requiredError (path message text : String) : List PathError :=
  if trim text = "" then [(path, message)] else []

/-- `maxlength`, at a path of the document or of an element of an array. -/
def maxlengthError (path name text : String) (limit : ℕ) : List PathError :=
  if utf16Length text ≤ limit then []
  else [(path, "Path \x60" ++ name ++ "\x60 (\x60" ++ text ++ "\x60, length " ++
    toString (utf16Length text) ++ ") is longer than the maximum allowed length (" ++
    toString limit ++ ").")]

/-- `enum`. -/
def enumError (path name text : String) (values : List String) : List PathError :=
  if text ∈ values then []
  else [(path, "\x60" ++ text ++ "\x60 is not a valid enum value for path \x60" ++ name ++ "\x60.")]

/-- `min: 0`. -/
def minError (path name : String) (n : ℤ) : List PathError :=
  if 0 ≤ n then []
  else [(path, "Path \x60" ++ name ++ "\x60 (" ++ toString n ++
    ") is less than minimum allowed value (0).")]

/-- The validators of a link of the `sopSnapshot`, at its place in the list. -/
def linkErrors (idx : ℕ) (link : SopSnapshotLink) : List PathError :=
  let path := "sopSnapshot.links." ++ toString idx ++ "."
  maxlengthError (path ++ "title") "title" link.title 200 ++
    maxlengthError (path ++ "url") "url" link.url 2048 ++
    maxlengthError (path ++ "description") "description" link.description 1000 ++
    enumError (path ++ "type") "type" link.type linkTypes ++
    minError (path ++ "sortOrder") "sortOrder" link.sortOrder

/-- The validators of an item of the `checklist`, at its place in the list. -/
def checklistErrors (idx : ℕ) (item : ChecklistItem) : List PathError :=
  minError ("checklist." ++ toString idx ++ ".sortOrder") "sortOrder" item.sortOrder

/-- The cast of `assignedTo`. -/
def castErrors (isObjectId : String → Bool) (payload : CasePayload) : List PathError :=
  match payload.assignedTo with
  | none => []
  | some text =>
    if isObjectId text then []
    else [("assignedTo", "Cast to ObjectId failed for value \"" ++ text ++
      "\" (type string) at path \"assignedTo\" because of \"BSONError\"")]

/-- The hook `enforceAssignedUserForWorklistLifecycle`, on the field as the schema has cast it. -/
def worklistErrors (payload : CasePayload) : List PathError :=
  if payload.queueType = .PERSONAL ∧ ¬truthy (payload.assignedToXID.map castXID)
  then [("assignedToXID", "PERSONAL docket must have assignedToXID")] else []

/-- What the schema finds wrong with a payload: its cast, its hook, and its validators. -/
def schemaErrors (isObjectId : String → Bool) (payload : CasePayload) : List PathError :=
  castErrors isObjectId payload ++ worklistErrors payload ++
    (if utf16Length (trim payload.description) ≤ 5000 then []
      else [("description", "Case description cannot exceed 5000 characters")]) ++
    requiredError "subcategoryId" "Subcategory is required" payload.subcategoryId ++
    enumError "sopSnapshot.format" "sopSnapshot.format" payload.sopSnapshot.format sopFormats ++
    (payload.sopSnapshot.links.mapIdx linkErrors).flatten ++
    (payload.checklist.mapIdx checklistErrors).flatten ++
    minError "estimatedBudget" "estimatedBudget" payload.estimatedBudget ++
    minError "expectedMinutes" "expectedMinutes" payload.expectedMinutes ++
    requiredError "createdByXID" "Creator xID is required" payload.createdByXID

/-- The exception of a validation that has found something. -/
def schemaFailure (errors : List PathError) : Failure :=
  plainError ("Case validation failed: " ++
    ", ".intercalate (errors.map fun e => e.1 ++ ": " ++ e.2))

/-! ## The store -/

/-- The setters of `idempotencyKey`. -/
def castIdempotencyKey (key : String) : String := toLowerCase (trim key)

/-- The setters leave what they have cast. -/
theorem castIdempotencyKey_castIdempotencyKey (key : String) :
    castIdempotencyKey (castIdempotencyKey key) = castIdempotencyKey key := by
  simp only [castIdempotencyKey, trim_toLowerCase, trim_trim, toLowerCase_toLowerCase]

/-- A key as the schema stores it. -/
structure StoredKey where
  text : String
  isCast : castIdempotencyKey text = text
  deriving DecidableEq, Repr

/-- The key that is stored of a key. -/
def StoredKey.ofKey (key : String) : StoredKey where
  text := castIdempotencyKey key
  isCast := castIdempotencyKey_castIdempotencyKey key

theorem StoredKey.ofKey_eq_iff {a b : String} :
    StoredKey.ofKey a = StoredKey.ofKey b ↔ castIdempotencyKey a = castIdempotencyKey b := by
  rw [StoredKey.ofKey, StoredKey.ofKey, StoredKey.mk.injEq]

/-- A docket with a key. -/
structure StoredDocket where
  idempotencyKey : StoredKey
  /-- The candidate that the docket was generated for, if any. The document has no such field. -/
  generatedFor : Option Candidate := none

/-- The dockets of the firm that have a key, with the unique index on `firmId` and
`idempotencyKey`. -/
structure Store where
  dockets : List StoredDocket
  unique : (dockets.map StoredDocket.idempotencyKey).Nodup

namespace Store

/-- The store of a firm without dockets. -/
def empty : Store := ⟨[], List.nodup_nil⟩

/-- The stored keys. -/
def keys (store : Store) : List StoredKey := store.dockets.map StoredDocket.idempotencyKey

/-- A docket under a key that no other docket has. -/
def insert (store : Store) (docket : StoredDocket) (h : docket.idempotencyKey ∉ store.keys) :
    Store where
  dockets := docket :: store.dockets
  unique := List.nodup_cons.mpr ⟨h, store.unique⟩

end Store

/-- The exception of the unique index. -/
def duplicateKeyError : Failure where
  message := "E11000 duplicate key error index: firmId_1_idempotencyKey_1"
  code := some "11000"

/-- `new Case(casePayload)` and `saveWithRetry()`. -/
def saveCase (isObjectId : String → Bool) (payload : CasePayload) (candidate : Candidate)
    (store : Store) : Except Failure Store :=
  match schemaErrors isObjectId payload with
  | [] =>
    let docket : StoredDocket := ⟨StoredKey.ofKey payload.idempotencyKey, some candidate⟩
    if h : docket.idempotencyKey ∉ store.keys then .ok (store.insert docket h)
    else .error duplicateKeyError
  | errors => .error (schemaFailure errors)

/-! ## Loading -/

/-- A subcategory of a Category document. -/
structure Subcategory where
  id : String
  name : String
  isActive : Option Bool := some true

/-- A Category document. -/
structure Category where
  _id : ObjectId
  name : String
  isActive : Bool := true
  subcategories : List Subcategory := []

/-- The documents of a firm that the service reads. A client's id is unique in its firm. -/
structure Firm where
  templates : List Template
  clients : List Client
  categories : List Category
  templates_nodup : (templates.map Template._id).Nodup
  clients_nodup : (clients.map Client.clientId).Nodup

namespace Firm

/-- `loadTemplates`, of the active ones. -/
def loadTemplates (firm : Firm) (templateIds : List ObjectId) : List Template :=
  (firm.templates.filter fun template =>
    template.isActive ∧ (templateIds = [] ∨ template._id ∈ templateIds)).insertionSort
      fun a b => a.name ≤ b.name

/-- `loadClientsForGeneration`. -/
def loadClientsForGeneration (firm : Firm) (clientIds : List String) : List Client :=
  firm.clients.filter fun client =>
    client.status ≠ "inactive" ∧ client.isInternal = false ∧
      (clientIds = [] ∨ client.clientId.text ∈ clientIds)

/-- `resolveFallbackCategoryConfig`. -/
def resolveFallbackCategoryConfig (firm : Firm) : Option CategoryConfig :=
  match firm.categories.find? fun category => category.isActive with
  | none => none
  | some category =>
    match category.subcategories.find? fun item => item.isActive ≠ some false with
    | none => none
    | some subcategory =>
      if subcategory.id = "" then none
      else some
        { categoryId := category._id
          subcategoryId := subcategory.id
          categoryName := textOr (some category.name) "Compliance"
          subcategoryName := textOr (some subcategory.name) "Compliance Obligation" }

end Firm

/-! ## Generation -/

/-- The `status` of an item. -/
inductive ItemStatus where
  | failed | skipped_duplicate | ready_to_generate | generated
  deriving DecidableEq, Repr

/-- An element of `items`. The `docketId` of a generated one, a counter's, is left out. -/
structure Item where
  clientId : ClientId
  clientName : String
  templateId : ObjectId
  templateName : String
  obligationType : Option String
  period : String
  status : ItemStatus
  reason : Option String := none
  statutoryDueDate : Option Day := none
  internalDueDate : Option Day := none
  deriving DecidableEq, Repr

/-- The item of a candidate. -/
def Candidate.item (candidate : Candidate) (status : ItemStatus) (reason : Option String) :
    Item where
  clientId := candidate.client.clientId
  clientName := textOr candidate.client.businessName ""
  templateId := candidate.template._id
  templateName := candidate.template.name
  obligationType := candidate.template.obligationType
  period := candidate.periodLabel
  status := status
  reason := reason

/-- `s.includes(part)`. -/
def includes (s part : String) : Bool := part.toList <:+: s.toList

/-- What the loop carries from one candidate to the next. -/
structure Progress where
  existingKeys : List String
  store : Store

/-- The item of a candidate whose docket could not be saved. -/
def refusedItem (candidate : Candidate) (error : Failure) : Item :=
  if error.code = some "11000" ∨ includes error.message "idempotencyKey" then
    candidate.item .skipped_duplicate (some "Duplicate prevented by idempotency key")
  else candidate.item .failed (some (textOr (some error.message) "Failed to generate docket"))

section

variable (isObjectId : String → Bool) (actor : Actor) (fallbackCategory : Option CategoryConfig)
  (execute : Bool)

/-- One round of the loop of `previewOrGenerate`. -/
def generateOne (candidate : Candidate) (s : Progress) : Item × Progress :=
  match categoryOf candidate.template fallbackCategory with
  | none =>
    (candidate.item .failed (some "Template category/subcategory mapping is missing"), s)
  | some (categoryId, subcategoryId) =>
    if candidate.idempotencyKey ∈ s.existingKeys then
      (candidate.item .skipped_duplicate
        (some "Existing docket found for this entity/obligation/period"), s)
    else if execute = false then
      ({ candidate.item .ready_to_generate none with
          statutoryDueDate := some candidate.statutoryDueDate
          internalDueDate := some candidate.internalDueDate }, s)
    else
      let payload := casePayload actor fallbackCategory candidate categoryId subcategoryId
      match saveCase isObjectId payload candidate s.store with
      | .ok store =>
        (candidate.item .generated none,
          { existingKeys := candidate.idempotencyKey :: s.existingKeys, store := store })
      | .error error => (refusedItem candidate error, s)

/-- The loop of `previewOrGenerate`. -/
def generateAll : List Candidate → Progress → List Item × Progress
  | [], s => ([], s)
  | candidate :: candidates, s =>
    let one := generateOne isObjectId actor fallbackCategory execute candidate s
    let rest := generateAll candidates one.2
    (one.1 :: rest.1, rest.2)

end

/-- `summary`. -/
structure Summary where
  totalCandidates : ℕ
  generated : ℕ
  skippedDuplicate : ℕ
  failed : ℕ
  deriving DecidableEq, Repr

/-- The number of candidates, and the counts of their items. A preview has generated nothing. -/
def summaryOf (totalCandidates : ℕ) (items : List Item) : Summary :=
  let count (status : ItemStatus) := (items.filter fun item => item.status = status).length
  { totalCandidates := totalCandidates
    generated := count .generated
    skippedDuplicate := count .skipped_duplicate
    failed := count .failed }

/-- What `previewOrGenerate` returns, and the store that it leaves. -/
structure Generation where
  summary : Summary
  items : List Item
  store : Store

/-- A time, as the day that it is of, and the milliseconds since then. -/
structure Instant where
  day : Day
  millisecond : ℕ
  deriving DecidableEq, Repr

/-- `a > b`. -/
def Instant.after (a b : Instant) : Bool :=
  ¬a.day ≤ b.day ∨ a.day = b.day ∧ b.millisecond < a.millisecond

/-- The arguments of `previewOrGenerate`. The dates are what `asDate` makes of them. -/
structure GenerationRequest where
  actor : Actor := {}
  rangeStart : Option Instant
  rangeEnd : Option Instant
  templateIds : List ObjectId := []
  clientIds : List String := []

/-- The days of the range of a request. -/
def GenerationRequest.range (req : GenerationRequest) : Except Failure (Day × Day) :=
  match req.rangeStart, req.rangeEnd with
  | some first, some last =>
    if first.after last then .error (plainError "rangeStart cannot be after rangeEnd")
    else .ok (first.day, last.day)
  | _, _ => .error (plainError "Valid rangeStart and rangeEnd are required")

/-- The candidates of a request, over the days of its range. -/
def Firm.candidates (firm : Firm) (req : GenerationRequest) (range : Day × Day) :
    List Candidate :=
  buildGenerationCandidates (firm.loadTemplates req.templateIds)
    (firm.loadClientsForGeneration req.clientIds) range.1 range.2

/-- `existingKeys`, before the loop. -/
def existingKeys (store : Store) (candidates : List Candidate) : List String :=
  (store.keys.filter fun key =>
    key ∈ candidates.map fun item => StoredKey.ofKey item.idempotencyKey).map StoredKey.text

/-- `previewOrGenerate`. -/
def previewOrGenerate (isObjectId : String → Bool) (firm : Firm) (req : GenerationRequest)
    (execute : Bool) (store : Store) : Except Failure Generation :=
  match req.range with
  | .error e => .error e
  | .ok range =>
    let candidates := firm.candidates req range
    let loop := generateAll isObjectId req.actor firm.resolveFallbackCategoryConfig execute
      candidates ⟨existingKeys store candidates, store⟩
    .ok { summary := summaryOf candidates.length loop.1, items := loop.1, store := loop.2.store }

end Docketra.Compliance
