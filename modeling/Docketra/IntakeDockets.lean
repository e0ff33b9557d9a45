import Docketra.Coherence
import Docketra.Intake

/-!
# Dockets from intake

`createDocket` of `services/cmsIntake.service.js` builds a docket from a submission, the intake
configuration of the firm, and the routing that `resolveRouting` has found, with constants for
status, state, lifecycle, and queue. The Case schema takes no such document: an SLA date is required
and none is given, and the priorities of an intake configuration are in upper case, those of the
schema in lower case (`createDocket_never`). With these two set right, the docket would be coherent
unless the configuration has a default assignee (`coherent_repaired_iff`).
-/

namespace Docketra.IntakeDockets

open Checked
open Intake (Metadata normalizeTrimmedString buildDocketIdempotencyKey)
open Compliance (castIdempotencyKey)

/-! ## Configuration and routing -/

/-- The values of `defaultPriority` that the schema of firms admits. -/
inductive IntakePriority where
  | LOW | MEDIUM | HIGH
  deriving DecidableEq, Repr

def IntakePriority.value : IntakePriority → String
  | .LOW => "LOW"
  | .MEDIUM => "MEDIUM"
  | .HIGH => "HIGH"

/-- What `createDocket` and `resolveRouting` read of the intake configuration. -/
structure IntakeConfig where
  defaultWorkbasketId : Option ObjectId := none
  defaultCategoryId : Option ObjectId := none
  defaultSubcategoryId : Option String := none
  defaultPriority : Option IntakePriority := none
  defaultAssignee : Option String := none
  deriving DecidableEq, Repr

structure Subcategory where
  id : String
  name : String
  workbasketId : Option ObjectId
  isActive : Bool
  deriving DecidableEq, Repr

structure Category where
  _id : ObjectId
  name : String
  subcategories : List Subcategory
  deriving DecidableEq, Repr

/-- The active categories and the active workbaskets of a firm. -/
structure Firm where
  categories : List Category
  workbaskets : List ObjectId
  deriving DecidableEq, Repr

structure Routing where
  category : Option String := none
  subcategory : Option String := none
  categoryId : Option ObjectId := none
  subcategoryId : Option String := none
  workbasketId : Option ObjectId := none
  deriving DecidableEq, Repr

inductive ReasonCode where
  | missingRouting
  | inactiveWorkbench
  deriving DecidableEq, Repr

def ReasonCode.value : ReasonCode → String
  | .missingRouting => "missing_routing"
  | .inactiveWorkbench => "inactive_workbench"

/-- The answer of `resolveRouting`. -/
inductive Resolved where
  | routed (routing : Routing)
  | refused (reasonCode : ReasonCode) (validationMessage : String)
  deriving DecidableEq, Repr

/-- `normalize` of `services/routing.service.js`. -/
def normalizeService (value : String) : String := toLowerCase (trim value)

/-- The subcategory of a category that a service names. -/
def matchedSubcategory (service : String) (category : Category) : Option Subcategory :=
  category.subcategories.find? fun subcategory =>
    subcategory.isActive && normalizeService subcategory.name == normalizeService service

/-- `mapServiceToRouting`. -/
def mapServiceToRouting (firm : Firm) (service : String) : Except String Routing :=
  if normalizeService service = "" then .error "firmId and service are required for routing"
  else
    match firm.categories.findSome? fun category =>
      (matchedSubcategory service category).map fun subcategory => (category, subcategory) with
    | none => .error ("No routing defined for service: " ++ service)
    | some (category, subcategory) => .ok
      { category := some category.name
        subcategory := some subcategory.name
        categoryId := some category._id
        subcategoryId := some subcategory.id
        workbasketId := subcategory.workbasketId }

/-- `resolveRouting`. -/
def resolveRouting (firm : Firm) (config : IntakeConfig) (service : Option String) : Resolved :=
  if config.defaultCategoryId.isSome && truthy config.defaultSubcategoryId then
    .routed
      { categoryId := config.defaultCategoryId
        subcategoryId := config.defaultSubcategoryId
        workbasketId := config.defaultWorkbasketId }
  else if !truthy service then
    .refused .missingRouting ("Docket routing is incomplete: service or default " ++
      "category/subcategory config is required.")
  else
    match mapServiceToRouting firm (toLowerCase (service.getD "")) with
    | .error message => .refused .missingRouting message
    | .ok routing =>
      match routing.workbasketId with
      | none => .refused .missingRouting
          "Docket skipped because no active workbench mapping exists for the selected routing rule."
      | some workbasketId =>
        if firm.workbaskets.contains workbasketId then .routed routing
        else .refused .inactiveWorkbench
          "Docket skipped because routing points to an inactive or missing workbench."

/-! ## The schema -/

/-- A new Case document, with the fields that the schema asks for beside those of a docket. -/
structure NewDocket extends Docket where
  firmId : String
  clientId : Option String
  title : String
  description : String
  caseCategory : Option String
  priority : String
  slaDueAt : Option Date
  createdByXID : String
  createdBy : String
  idempotencyKey : Option String
  deriving DecidableEq, Repr

/-- A failed validation, by its path. -/
structure PathError where
  path : String
  message : String
  deriving DecidableEq, Repr

inductive SaveError where
  | hook (error : Failure)
  | validation (errors : List PathError)
  | duplicateKey
  deriving DecidableEq, Repr

def priorities : List String := ["low", "medium", "high", "urgent"]

/-- The validators of the schema, each with the documents that it refuses. -/
def validators (docket : NewDocket) : List (Bool × PathError) :=
  [(docket.firmId = "", ⟨"firmId", "Firm ID is required"⟩),
    (docket.title = "", ⟨"title", "Case title is required"⟩),
    (5000 < docket.description.length,
      ⟨"description", "Case description cannot exceed 5000 characters"⟩),
    (docket.categoryId = none, ⟨"categoryId", "Category is required"⟩),
    (!truthy docket.subcategoryId, ⟨"subcategoryId", "Subcategory is required"⟩),
    (docket.status = .PENDING && !truthy docket.pendingReason,
      ⟨"status", "pendingReason is required when status is PENDING"⟩),
    (!docket.pendingReasonListed,
      ⟨"pendingReason", "not a valid enum value for path pendingReason"⟩),
    (!priorities.contains docket.priority,
      ⟨"priority", docket.priority ++ " is not a valid priority"⟩),
    (docket.slaDueAt = none, ⟨"slaDueAt", "SLA Due At is required"⟩),
    (docket.createdByXID = "", ⟨"createdByXID", "Creator xID is required"⟩),
    (docket.queueType = .PERSONAL && !truthy docket.assignedToXID,
      ⟨"assignedToXID", "PERSONAL docket must have assignedToXID"⟩),
    (!truthy docket.clientId, ⟨"clientId", "Path clientId is required."⟩)]

def pathErrors (docket : NewDocket) : List PathError :=
  ((validators docket).filter Prod.fst).map Prod.snd

/-- What is outside a document: the number that the hook before validation generates, after which it
also enqueues a job for the folders, the key that the hook before the save encrypts with, and
whether another docket of the firm has the idempotency key. -/
structure Outside where
  caseNumber : Except Failure String
  tenantKey : Except Failure Unit
  isDuplicate : Bool

/-- The assignments of the hooks before validation. -/
def NewDocket.filled (docket : NewDocket) (caseNumber : String) : NewDocket :=
  { docket with
    caseId := caseNumber
    lifecycle := .state (deriveLifecycle docket.lifecycle docket.assignedToXID docket.status)
    state := some (docket.state.getD docket.canonicalState) }

/-- `Case.create`. The encryption of the description is left out. -/
def create (outside : Outside) (docket : NewDocket) : Except SaveError NewDocket := do
  throwIf (docket.firmId = "") (.hook (plainError "Firm ID is required for case creation"))
  let caseNumber ← outside.caseNumber.mapError SaveError.hook
  throwIf (pathErrors (docket.filled caseNumber) ≠ [])
    (.validation (pathErrors (docket.filled caseNumber)))
  outside.tenantKey.mapError SaveError.hook
  throwIf (outside.isDuplicate = true) .duplicateKey
  return docket.filled caseNumber

/-- What the validators ask of a new document. -/
structure Valid (docket : NewDocket) : Prop where
  firmId : docket.firmId ≠ ""
  title : docket.title ≠ ""
  description : docket.description.length ≤ 5000
  categoryId : docket.categoryId ≠ none
  subcategoryId : truthy docket.subcategoryId = true
  reason : docket.ReasonGiven
  priority : docket.priority ∈ priorities
  slaDueAt : docket.slaDueAt ≠ none
  createdByXID : docket.createdByXID ≠ ""
  owner : docket.queueType = .PERSONAL → truthy docket.assignedToXID = true
  clientId : truthy docket.clientId = true

theorem pathErrors_eq_nil {docket : NewDocket} : pathErrors docket = [] ↔ Valid docket := by
  rw [pathErrors, List.map_eq_nil_iff, List.filter_eq_nil_iff]
  simp only [validators, List.forall_mem_cons, List.not_mem_nil, false_imp_iff, implies_true,
    and_true, Bool.and_eq_true, Bool.not_eq_true', decide_eq_true_eq, not_and, not_lt,
    Bool.not_eq_false, List.contains_iff_mem]
  constructor
  · rintro ⟨h₁, h₂, h₃, h₄, h₅, h₆, h₇, h₈, h₉, h₁₀, h₁₁, h₁₂⟩
    exact ⟨h₁, h₂, h₃, h₄, h₅, ⟨h₆, h₇⟩, h₈, h₉, h₁₀, h₁₁, h₁₂⟩
  · intro h
    exact ⟨h.firmId, h.title, h.description, h.categoryId, h.subcategoryId, h.reason.pending,
      h.reason.listed, h.priority, h.slaDueAt, h.createdByXID, h.owner, h.clientId⟩

/-- The hooks fill in nothing that is validated. -/
theorem valid_filled {docket : NewDocket} (caseNumber : String) :
    Valid (docket.filled caseNumber) ↔ Valid docket :=
  ⟨fun h => ⟨h.firmId, h.title, h.description, h.categoryId, h.subcategoryId,
      ⟨h.reason.pending, h.reason.listed⟩, h.priority, h.slaDueAt, h.createdByXID, h.owner,
      h.clientId⟩,
    fun h => ⟨h.firmId, h.title, h.description, h.categoryId, h.subcategoryId,
      ⟨h.reason.pending, h.reason.listed⟩, h.priority, h.slaDueAt, h.createdByXID, h.owner,
      h.clientId⟩⟩

/-- The hooks get what they ask for, and no docket has the key. -/
structure Outside.Grants (outside : Outside) (caseNumber : String) : Prop where
  caseNumber : outside.caseNumber = .ok caseNumber
  tenantKey : outside.tenantKey = .ok ()
  isDuplicate : outside.isDuplicate = false

/-- When a new document is stored, and what of it. -/
theorem create_eq_ok {outside : Outside} {docket stored : NewDocket} :
    create outside docket = .ok stored ↔
      Valid docket ∧
        ∃ caseNumber, outside.Grants caseNumber ∧ stored = docket.filled caseNumber := by
  simp only [create, bind_eq_ok, throwIf_eq_ok, not_not, pure_eq, Except.ok.injEq, mapError_eq_ok,
    exists_const, pathErrors_eq_nil, valid_filled, Bool.not_eq_true]
  constructor
  · rintro ⟨-, caseNumber, hnumber, hvalid, ⟨⟩, hkey, hduplicate, rfl⟩
    exact ⟨hvalid, caseNumber, ⟨hnumber, hkey, hduplicate⟩, rfl⟩
  · rintro ⟨hvalid, caseNumber, ⟨hnumber, hkey, hduplicate⟩, rfl⟩
    exact ⟨hvalid.firmId, caseNumber, hnumber, hvalid, (), hkey, hduplicate, rfl⟩

/-! ## The docket of a submission -/

/-- What `createDocket` reads of the metadata of a submission. -/
structure Submission extends Metadata where
  source : String
  service : Option String := none
  message : Option String := none
  deriving DecidableEq, Repr

section createDocket

variable (firmId clientId leadName : String) (submission : Submission) (config : IntakeConfig)
  (routing : Routing)

/-- The document of `createDocket`, as the setters of the schema cast it. -/
def intakeDocket : NewDocket where
  firmId := firmId
  clientId := some (trim clientId)
  title :=
    let titleService := orElse submission.service (orElse submission.formSlug (some "CMS intake"))
    trim (titleService.getD "" ++ " request - " ++ leadName)
  description :=
    trim ((orElse submission.message (some ("Lead captured via " ++ submission.source))).getD "")
  category := (orElse routing.category none).map trim
  subcategory := (orElse routing.subcategory none).map trim
  caseCategory := (orElse routing.category none).map trim
  caseSubCategory := (orElse routing.subcategory none).map trim
  categoryId := routing.categoryId
  subcategoryId := routing.subcategoryId.map trim
  status := .OPEN
  state := some .IN_WB
  lifecycle := .state .ACTIVE
  queueType := .GLOBAL
  ownerTeamId := routing.workbasketId.or config.defaultWorkbasketId
  routedToTeamId := routing.workbasketId.or config.defaultWorkbasketId
  workbasketId := routing.workbasketId.or config.defaultWorkbasketId
  priority := (config.defaultPriority.map IntakePriority.value).getD "MEDIUM"
  -- No date is given.
  slaDueAt := none
  assignedToXID := (orElse config.defaultAssignee none).map castXID
  createdByXID := "SYSTEM"
  createdBy := "system@docketra.local"
  idempotencyKey :=
    (buildDocketIdempotencyKey firmId submission.toMetadata).map castIdempotencyKey

/-- `createDocket`. -/
def createDocket (outside : Outside) : Except SaveError NewDocket :=
  create outside (intakeDocket firmId clientId leadName submission config routing)

end createDocket

/-! ## What is stored -/

variable {firmId clientId leadName : String} {submission : Submission} {config : IntakeConfig}
  {routing : Routing} {outside : Outside}

/-- No priority of an intake configuration is one of the schema's. -/
theorem priority_unlisted (config : IntakeConfig) :
    (config.defaultPriority.map IntakePriority.value).getD "MEDIUM" ∉ priorities := by
  cases config.defaultPriority with
  | none => decide
  | some priority => cases priority <;> decide

/-- No docket is stored of a submission. -/
theorem createDocket_never (firmId clientId leadName : String) (submission : Submission)
    (config : IntakeConfig) (routing : Routing) (outside : Outside) :
    ¬∃ stored, createDocket firmId clientId leadName submission config routing outside =
      .ok stored ∧ Coherent stored.toDocket := by
  rintro ⟨stored, hstored, -⟩
  obtain ⟨hvalid, -⟩ := create_eq_ok.mp hstored
  exact priority_unlisted config hvalid.priority

/-- A firm with one service. -/
def taxFirm : Firm where
  categories := [⟨⟨"c1"⟩, "Tax", [⟨"s1", "GST filing", some ⟨"t1"⟩, true⟩]⟩]
  workbaskets := [⟨"t1"⟩]

def taxRouting : Routing where
  category := some "Tax"
  subcategory := some "GST filing"
  categoryId := some ⟨"c1"⟩
  subcategoryId := some "s1"
  workbasketId := some ⟨"t1"⟩

/-- A submission of a form. -/
def gstSubmission : Submission where
  submissionMode := .publicForm
  pageSlug := none
  formSlug := some "contact"
  formId := none
  externalSubmissionId := none
  idempotencyKey := none
  source := "form"
  service := some "GST filing"

def obliging : Outside where
  caseNumber := .ok "CASE-20260105-00001"
  tenantKey := .ok ()
  isDuplicate := false

/-- Both paths are refused, with the default configuration. -/
theorem createDocket_fails :
    resolveRouting taxFirm {} gstSubmission.service = .routed taxRouting ∧
      createDocket "F1" "C000001" "Asha" gstSubmission {} taxRouting obliging =
        .error (.validation
          [⟨"priority", "MEDIUM is not a valid priority"⟩,
            ⟨"slaDueAt", "SLA Due At is required"⟩]) := by
  decide +kernel

/-! ## Behind the two paths -/

/-- The document with a priority and an SLA date. -/
def repaired (docket : NewDocket) (priority : String) (slaDueAt : Date) : NewDocket :=
  { docket with priority := priority, slaDueAt := some slaDueAt }

/-- `OPEN` is in progress with an owner, and the docket is in the workbasket. -/
theorem coherent_iff_unowned {docket : NewDocket} (hstatus : docket.status = .OPEN)
    (hstate : docket.state = some .IN_WB) (hqueue : docket.queueType = .GLOBAL)
    (caseNumber : String) :
    Coherent (docket.filled caseNumber).toDocket ↔ truthy docket.assignedToXID = false := by
  have hfilled : (docket.filled caseNumber).state = some .IN_WB := by
    rw [NewDocket.filled, hstate]
    rfl
  constructor
  · intro h
    exact (h.workbasket hfilled).1
  · intro howner
    -- Without an owner, `OPEN` in the global queue is in the workbasket.
    have hcanonical : (docket.filled caseNumber).canonicalState = .IN_WB := by
      simp only [NewDocket.filled, Docket.canonicalState, Docket.view, getCanonicalDocketState,
        hstatus, CaseStatus.normalize, howner]
      rfl
    refine ⟨by rw [hfilled, hcanonical], fun _ => ⟨howner, hqueue⟩, fun hprogress => ?_⟩
    rw [hfilled] at hprogress
    exact absurd hprogress (by decide)

/-- With one of the schema's priorities and an SLA date, a docket of a routed submission is stored
and coherent exactly when nothing else keeps it from being stored, and no assignee is configured. -/
theorem coherent_repaired_iff {priority : String} {slaDueAt : Date} {docket : NewDocket}
    (hdocket : docket = repaired
      (intakeDocket firmId clientId leadName submission config routing) priority slaDueAt) :
    (∃ stored, create outside docket = .ok stored ∧ Coherent stored.toDocket) ↔
      Valid docket ∧ (∃ caseNumber, outside.Grants caseNumber) ∧
        truthy ((orElse config.defaultAssignee none).map castXID) = false := by
  have hcoherent (caseNumber : String) : Coherent (docket.filled caseNumber).toDocket ↔
      truthy ((orElse config.defaultAssignee none).map castXID) = false := by
    subst hdocket
    exact coherent_iff_unowned rfl rfl rfl caseNumber
  constructor
  · rintro ⟨stored, hstored, hc⟩
    obtain ⟨hvalid, caseNumber, hgrants, rfl⟩ := create_eq_ok.mp hstored
    exact ⟨hvalid, ⟨caseNumber, hgrants⟩, (hcoherent caseNumber).mp hc⟩
  · rintro ⟨hvalid, ⟨caseNumber, hgrants⟩, howner⟩
    exact ⟨_, create_eq_ok.mpr ⟨hvalid, caseNumber, hgrants, rfl⟩,
      (hcoherent caseNumber).mpr howner⟩

end Docketra.IntakeDockets
