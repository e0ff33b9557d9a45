import Docketra.Lib.Runs
import Docketra.Docket
import Mathlib.Algebra.Order.Field.Rat

/-!
# The compliance state

A docket's `compliance_state` moves by the table of
`domain/compliance/complianceStateMachine.js`. `updateComplianceState` of
`services/dashboard.service.js` asks the table. The approvals (`services/docketApproval.service.js`)
and the request checklist (`services/clientRequestChecklist.service.js`, and the controller over it)
write the state that they go to, whatever the state is. A run of calls keeps to the table exactly
when these are made in states from which the table leads where they go (`keepsTable_iff`).
-/

namespace Docketra.ComplianceStates

open Checked Runs

/-! ## The table -/

/-- `COMPLIANCE_STATES`. -/
inductive ComplianceState where
  | not_started | in_progress | awaiting_client | awaiting_partner | ready_to_file | filed
  | blocked | closed
  deriving DecidableEq, Repr

namespace ComplianceState

/-- The stored word of a state. -/
def value : ComplianceState → String
  | not_started => "not_started"
  | in_progress => "in_progress"
  | awaiting_client => "awaiting_client"
  | awaiting_partner => "awaiting_partner"
  | ready_to_file => "ready_to_file"
  | filed => "filed"
  | blocked => "blocked"
  | closed => "closed"

/-- The values of `COMPLIANCE_STATES`. -/
def values : List ComplianceState :=
  [not_started, in_progress, awaiting_client, awaiting_partner, ready_to_file, filed, blocked,
    closed]

/-- `TRANSITIONS`. -/
def transitions : ComplianceState → List ComplianceState
  | not_started => [in_progress, awaiting_client, blocked, closed]
  | in_progress => [awaiting_client, awaiting_partner, ready_to_file, blocked, closed]
  | awaiting_client => [in_progress, blocked, closed]
  | awaiting_partner => [in_progress, ready_to_file, blocked, closed]
  | ready_to_file => [filed, blocked, closed]
  | filed => [closed]
  | blocked => [in_progress, awaiting_client, awaiting_partner, ready_to_file, closed]
  | closed => []

end ComplianceState

/-- `canComplianceTransition`, of two states. -/
def canComplianceTransition (src tgt : ComplianceState) : Bool :=
  src ≠ tgt && tgt ∈ src.transitions

/-! ## The document -/

/-- `APPROVAL_TYPES`. -/
inductive ApprovalType where
  | internal_partner | client | authorised_signatory | other
  deriving DecidableEq, Repr

/-- `APPROVAL_STATUSES`. -/
inductive ApprovalStatus where
  | pending | approved | rejected | cancelled
  deriving DecidableEq, Repr

/-- The states that an approval resumes to. -/
inductive ResumeState where
  | ready_to_file | in_progress
  deriving DecidableEq, Repr

/-- `approval_stage`, with the schema's defaults. -/
structure ApprovalStage where
  approval_type : Option ApprovalType := none
  requested_by : Option String := none
  approver : Option String := none
  requested_at : Option Date := none
  due_at : Option Date := none
  status : Option ApprovalStatus := none
  comments : String := ""
  evidence_attachment_id : Option String := none
  resume_to_state : Option ResumeState := some .ready_to_file
  decided_at : Option Date := none
  decided_by : Option String := none
  decision_comment : String := ""
  deriving DecidableEq, Repr

/-- An entry of `approval_history`. -/
structure ApprovalSnapshot where
  stage : ApprovalStage
  snapshot_at : Date
  deriving DecidableEq, Repr

/-- `snapshotApprovalStage`. It keeps a stage, with empty names as absent ones. -/
def snapshotApprovalStage (now : Date) (stage : ApprovalStage) : ApprovalSnapshot where
  stage := { stage with
    requested_by := stage.requested_by.filter (· ≠ "")
    approver := stage.approver.filter (· ≠ "")
    evidence_attachment_id := stage.evidence_attachment_id.filter (· ≠ "")
    decided_by := stage.decided_by.filter (· ≠ "") }
  snapshot_at := now

/-- `ITEM_STATUSES`. -/
inductive ItemStatus where
  | requested | submitted | accepted | rejected | waived
  deriving DecidableEq, Repr

/-- The word of a status. -/
def ItemStatus.value : ItemStatus → String
  | requested => "requested"
  | submitted => "submitted"
  | accepted => "accepted"
  | rejected => "rejected"
  | waived => "waived"

/-- `VALID_ITEM_STATUSES`. -/
def ItemStatus.values : List ItemStatus := [requested, submitted, accepted, rejected, waived]

/-- An item of the checklist. -/
structure ChecklistItem where
  id : String
  title : String
  description : String := ""
  required : Bool := false
  dueDate : Option Date := none
  sortOrder : ℚ := 0
  status : ItemStatus := .requested
  uploadedAttachmentId : Option String := none
  uploadedFileName : Option String := none
  reviewerNotes : String := ""
  submittedAt : Option Date := none
  submittedBy : Option String := none
  reviewedAt : Option Date := none
  reviewedByXID : Option String := none
  deriving DecidableEq, Repr

/-- A Case document, with the fields of its compliance. -/
structure ComplianceDocket extends Docket where
  compliance_state : ComplianceState := .not_started
  approval_stage : ApprovalStage := {}
  approval_history : List ApprovalSnapshot := []
  checklist : List ChecklistItem := []
  blocked_reason : Option String := none
  blockedAt : Option Date := none
  unblockedAt : Option Date := none
  pend_until : Option Date := none
  filed_at : Option Date := none
  deriving DecidableEq, Repr

/-- `save()`. -/
def ComplianceDocket.save (docket : ComplianceDocket) : Except Failure ComplianceDocket := do
  let saved ← docket.toDocket.save
  return { docket with toDocket := saved }

/-- An error with a status code. -/
def errorWith (statusCode : ℕ) (message : String) : Failure :=
  { message := message, statusCode := some statusCode }

/-- `value.slice(0, max)`. -/
def clip (max : ℕ) (value : String) : String := String.ofList (value.toList.take max)

section operations

-- `String.prototype.toLowerCase`
variable (lowerCase : String → String)

/-- `normalizeComplianceState`. -/
def normalizeComplianceState (value : String) : Option ComplianceState :=
  ComplianceState.values.find? fun state => state.value = lowerCase (trim value)

/-! ## Approvals -/

/-- `normalizeType`, and the test of `APPROVAL_TYPES`. -/
def approvalTypeOf (value : String) : Option ApprovalType :=
  let normalized := lowerCase (trim value)
  if normalized = "internal_partner" then some .internal_partner
  else if normalized = "client" then some .client
  else if normalized = "authorised_signatory" then some .authorised_signatory
  else if normalized = "other" then some .other
  else none

/-- The decision that `decideApproval` accepts. -/
def decisionOf (value : String) : Option ApprovalStatus :=
  let normalized := lowerCase (trim value)
  if normalized = "approved" then some .approved
  else if normalized = "rejected" then some .rejected
  else if normalized = "cancelled" then some .cancelled
  else none

/-- `normalizeXid`. -/
def normalizeXid (value : String) : String := toUpperCase (trim value)

/-- `computePendingComplianceState`. Each type awaits the partner or the client, so that its last
line is not reached. -/
def computePendingComplianceState (approvalType : ApprovalType) : ComplianceState :=
  if approvalType = .internal_partner then .awaiting_partner else .awaiting_client

/-- The arguments of `requestApproval`. -/
structure ApprovalRequest where
  now : Date
  requestedByXID : String
  approvalType : String
  approverXID : String
  /-- `dueAt`, when it is a date. -/
  dueAt : Option Date := none
  comments : String := ""
  evidenceAttachmentId : Option String := none
  resumeToState : String := "ready_to_file"
  deriving DecidableEq, Repr

/-- The stage that `requestApproval` opens. -/
def requestedStage (req : ApprovalRequest) (approvalType : ApprovalType) : ApprovalStage where
  approval_type := some approvalType
  requested_by := some (normalizeXid req.requestedByXID)
  approver := some (normalizeXid req.approverXID)
  requested_at := some req.now
  due_at := req.dueAt
  status := some .pending
  comments := clip 1200 (trim req.comments)
  evidence_attachment_id :=
    if truthy req.evidenceAttachmentId then req.evidenceAttachmentId.map trim else none
  resume_to_state := some (if trim req.resumeToState = "in_progress" then .in_progress
    else .ready_to_file)

/-- What `requestApproval` writes. -/
def requested (req : ApprovalRequest) (approvalType : ApprovalType) (docket : ComplianceDocket) :
    ComplianceDocket :=
  { docket with
    -- A stage that has been decided is kept.
    approval_history := docket.approval_history ++
      if docket.approval_stage.status.isSome then
        [snapshotApprovalStage req.now docket.approval_stage]
      else []
    approval_stage := requestedStage req approvalType
    compliance_state := computePendingComplianceState approvalType }

/-- `requestApproval`, for an identifier that names the docket. -/
def requestApproval (req : ApprovalRequest) (docket : ComplianceDocket) :
    Except Failure ComplianceDocket :=
  match approvalTypeOf lowerCase req.approvalType with
  | none => .error (errorWith 400 "Invalid approval type")
  | some approvalType => do
    throwIf (normalizeXid req.approverXID = "") (errorWith 400 "Approver is required")
    throwIf (docket.approval_stage.status = some .pending)
      (errorWith 409 "An approval request is already pending for this docket")
    (requested req approvalType docket).save

/-- The arguments of `decideApproval`. -/
structure Decision where
  now : Date
  actorXID : String
  decision : String
  comment : String := ""
  deriving DecidableEq, Repr

/-- The state that a decision leads to. -/
def decidedState (stage : ApprovalStage) (decision : ApprovalStatus) : ComplianceState :=
  if decision = .approved ∧ stage.resume_to_state ≠ some .in_progress then .ready_to_file
  else .in_progress

/-- The stage that `decideApproval` closes. -/
def decidedStage (req : Decision) (decision : ApprovalStatus) (stage : ApprovalStage) :
    ApprovalStage :=
  let actor := normalizeXid req.actorXID
  { stage with
    status := some decision
    decided_at := some req.now
    decided_by := if actor = "" then none else some actor
    decision_comment := clip 1200 (trim req.comment) }

/-- What `decideApproval` writes. -/
def decided (req : Decision) (decision : ApprovalStatus) (docket : ComplianceDocket) :
    ComplianceDocket :=
  let stage := decidedStage req decision docket.approval_stage
  { docket with
    approval_stage := stage
    approval_history := docket.approval_history ++ [snapshotApprovalStage req.now stage]
    compliance_state := decidedState docket.approval_stage decision }

/-- Another user than the approver approves or rejects. -/
def isOtherApprover (req : Decision) (decision : ApprovalStatus) (stage : ApprovalStage) : Prop :=
  let actor := normalizeXid req.actorXID
  let approver := normalizeXid (stage.approver.getD "")
  decision ≠ .cancelled ∧ approver ≠ "" ∧ actor ≠ "" ∧ approver ≠ actor

instance (req : Decision) (decision : ApprovalStatus) (stage : ApprovalStage) :
    Decidable (isOtherApprover req decision stage) :=
  inferInstanceAs (Decidable (_ ∧ _ ∧ _ ∧ _))

/-- `decideApproval`, for an identifier that names the docket. -/
def decideApproval (req : Decision) (docket : ComplianceDocket) :
    Except Failure ComplianceDocket :=
  match decisionOf lowerCase req.decision with
  | none => .error (errorWith 400 "Decision must be approved, rejected, or cancelled")
  | some decision => do
    throwIf (docket.approval_stage.status ≠ some .pending)
      (errorWith 409 "No pending approval exists for this docket")
    throwIf (isOtherApprover req decision docket.approval_stage)
      (errorWith 403 "Only the assigned approver can approve/reject")
    (decided req decision docket).save

/-! ## The control room -/

/-- The arguments of `updateComplianceState`. -/
structure StateUpdate where
  now : Date
  nextState : String
  actorXID : Option String := none
  blockedReason : Option String := none
  /-- `pendUntil`, when it is a date. -/
  pendUntil : Option Date := none
  /-- `filedAt`, when it is a date. -/
  filedAt : Option Date := none
  deriving DecidableEq, Repr

/-- What `updateComplianceState` writes. -/
def moved (req : StateUpdate) (next : ComplianceState) (docket : ComplianceDocket) :
    ComplianceDocket :=
  let toBlocked := next = .blocked
  let pendUntil := if next = .awaiting_client then req.pendUntil else none
  { docket with
    compliance_state := next
    lastActionByXID := (orElse req.actorXID docket.lastActionByXID).map castXID
    lastActionAt := some req.now
    blocked_reason :=
      if toBlocked ∧ truthy req.blockedReason then req.blockedReason.map trim
      else docket.blocked_reason
    blockedAt := if toBlocked then docket.blockedAt.or (some req.now) else docket.blockedAt
    unblockedAt :=
      if toBlocked then none
      else if docket.compliance_state = .blocked then some req.now
      else docket.unblockedAt
    pend_until := pendUntil.or docket.pend_until
    pendingUntil := pendUntil.or docket.pendingUntil
    filed_at := if next = .filed then some (req.filedAt.getD req.now) else docket.filed_at }

/-- `updateComplianceState`, for an identifier that names the docket. -/
def updateComplianceState (req : StateUpdate) (docket : ComplianceDocket) :
    Except Failure ComplianceDocket :=
  match normalizeComplianceState lowerCase req.nextState with
  | none => .error (errorWith 400 "Invalid compliance state")
  | some next => do
    throwIf (¬canComplianceTransition docket.compliance_state next)
      (errorWith 400 ("Invalid transition " ++ docket.compliance_state.value ++ " -> " ++
        next.value))
    let written := moved req next docket
    throwIf (600 < (written.blocked_reason.getD "").length)
      (validationError "blocked_reason" "longer than the maximum allowed length (600)")
    written.save

/-! ## The request checklist -/

/-- An item that `normalizeChecklistItem` is given. Absent fields are `none`. -/
structure ItemInput where
  id : Option String := none
  title : Option String := none
  description : Option String := none
  required : Bool := false
  dueDate : Option Date := none
  /-- `Number(item.sortOrder)`, when it is finite. -/
  sortOrder : Option ℚ := none
  status : Option String := none
  uploadedAttachmentId : Option String := none
  uploadedFileName : Option String := none
  reviewerNotes : Option String := none
  submittedAt : Option Date := none
  submittedBy : Option String := none
  reviewedAt : Option Date := none
  reviewedByXID : Option String := none
  deriving DecidableEq, Repr

/-- `toTrimmedString`. -/
def toTrimmedString (value : Option String) (max : ℕ) : String := clip max (trim (value.getD ""))

/-- `value || null`. -/
def orNull (value : String) : Option String := if value = "" then none else some value

/-- The status of an item, which is `requested` when it is no status. -/
def itemStatusOf (value : Option String) : ItemStatus :=
  (ItemStatus.values.find? fun status => status.value = lowerCase (trim (value.getD ""))).getD
    .requested

/-- `normalizeChecklistItem`. -/
def normalizeChecklistItem (item : ItemInput) (fallbackSortOrder : ℕ) : ChecklistItem where
  id := item.id.getD ""
  title := toTrimmedString item.title 200
  description := toTrimmedString item.description 1000
  required := item.required
  dueDate := item.dueDate
  sortOrder := item.sortOrder.getD fallbackSortOrder
  status := itemStatusOf lowerCase item.status
  uploadedAttachmentId := orNull (item.uploadedAttachmentId.getD "")
  uploadedFileName := orNull (toTrimmedString item.uploadedFileName 300)
  reviewerNotes := toTrimmedString item.reviewerNotes 1200
  submittedAt := item.submittedAt
  submittedBy := orNull (toTrimmedString item.submittedBy 120)
  reviewedAt := item.reviewedAt
  reviewedByXID := orNull (toUpperCase (toTrimmedString item.reviewedByXID 20))

/-- A stored item, as `normalizeChecklistItem` is given it. -/
def ChecklistItem.input (item : ChecklistItem) : ItemInput where
  id := some item.id
  title := some item.title
  description := some item.description
  required := item.required
  dueDate := item.dueDate
  sortOrder := some item.sortOrder
  status := some item.status.value
  uploadedAttachmentId := item.uploadedAttachmentId
  uploadedFileName := item.uploadedFileName
  reviewerNotes := some item.reviewerNotes
  submittedAt := item.submittedAt
  submittedBy := item.submittedBy
  reviewedAt := item.reviewedAt
  reviewedByXID := item.reviewedByXID

/-- A required item that is neither accepted nor waived. -/
def ChecklistItem.isMissing (item : ChecklistItem) : Bool :=
  item.required && item.status ≠ .accepted && item.status ≠ .waived

/-- What `getChecklistSummary` counts. -/
structure ChecklistSummary where
  total : ℕ
  requested : ℕ
  submitted : ℕ
  accepted : ℕ
  rejected : ℕ
  waived : ℕ
  overdueCount : ℕ
  missingRequiredCount : ℕ
  allRequiredAccepted : Bool
  deriving DecidableEq, Repr

/-- `getChecklistSummary`. -/
def getChecklistSummary (now : Date) (checklist : List ChecklistItem) : ChecklistSummary where
  total := checklist.length
  requested := checklist.countP (·.status = .requested)
  submitted := checklist.countP (·.status = .submitted)
  accepted := checklist.countP (·.status = .accepted)
  rejected := checklist.countP (·.status = .rejected)
  waived := checklist.countP (·.status = .waived)
  overdueCount := checklist.countP fun item =>
    item.status = .requested && item.dueDate.any fun dueDate => dueDate < now
  missingRequiredCount := checklist.countP ChecklistItem.isMissing
  allRequiredAccepted := (checklist.filter (·.required)).all fun item =>
    item.status = .accepted || item.status = .waived

/-- `computeComplianceStateFromChecklist`. -/
def computeComplianceStateFromChecklist (now : Date) (checklist : List ChecklistItem)
    (currentState : ComplianceState) : ComplianceState :=
  let summary := getChecklistSummary now checklist
  if summary.missingRequiredCount = 0 ∧ currentState = .awaiting_client then .in_progress
  else if 0 < summary.missingRequiredCount then .awaiting_client
  else currentState

/-- What the schema asks of an item. -/
def ChecklistItem.isValid (item : ChecklistItem) : Bool :=
  !isBlank item.id && item.title ≠ "" && 0 ≤ item.sortOrder

/-- What both endpoints write: the checklist, and the state that follows from it. -/
def withChecklist (now : Date) (checklist : List ChecklistItem) (docket : ComplianceDocket) :
    ComplianceDocket :=
  { docket with
    checklist := checklist
    compliance_state :=
      computeComplianceStateFromChecklist now checklist docket.compliance_state }

/-- The end of both endpoints. -/
def saveChecklist (now : Date) (checklist : List ChecklistItem) (docket : ComplianceDocket) :
    Except Failure ComplianceDocket := do
  throwIf (¬checklist.all ChecklistItem.isValid) (validationError "checklist" "invalid item")
  (withChecklist now checklist docket).save

/-- The request of `saveRequestChecklist`. -/
structure SaveRequest where
  now : Date
  items : List ItemInput
  /-- The results of `randomUUID`. -/
  randomUUID : ℕ → String

/-- The checklist that `saveRequestChecklist` saves. -/
def SaveRequest.checklist (req : SaveRequest) : List ChecklistItem :=
  req.items.mapIdx fun idx item =>
    normalizeChecklistItem lowerCase { item with id := item.id.or (some (req.randomUUID idx)) } idx

/-- `saveRequestChecklist`, for an identifier that names the docket. -/
def saveRequestChecklist (req : SaveRequest) (docket : ComplianceDocket) :
    Except Failure ComplianceDocket :=
  saveChecklist req.now (req.checklist lowerCase) docket

/-- The request of `reviewChecklistItem`. -/
structure ReviewRequest where
  now : Date
  itemId : String
  status : Option String
  reviewerNotes : Option String := none
  xID : Option String := none
  deriving DecidableEq, Repr

/-- The statuses that a review may give. -/
def reviewStatusOf (value : Option String) : Option ItemStatus :=
  [ItemStatus.accepted, .rejected, .waived, .requested].find? fun status =>
    status.value = lowerCase (trim (value.getD ""))

/-- The item that a review leaves. -/
def reviewed (req : ReviewRequest) (status : ItemStatus) (index : ℕ) (item : ChecklistItem) :
    ChecklistItem :=
  let currentItem := normalizeChecklistItem lowerCase item.input index
  normalizeChecklistItem lowerCase
    { currentItem.input with
      status := some status.value
      reviewerNotes := some (req.reviewerNotes.getD currentItem.reviewerNotes)
      reviewedAt := some req.now
      reviewedByXID := req.xID } index

/-- `reviewChecklistItem`, for an identifier that names the docket. -/
def reviewChecklistItem (req : ReviewRequest) (docket : ComplianceDocket) :
    Except Failure ComplianceDocket :=
  match docket.checklist.findIdx? fun item => item.id = req.itemId with
  | none => .error (errorWith 404 "Checklist item not found")
  | some index =>
    match reviewStatusOf lowerCase req.status with
    | none => .error (errorWith 400 "Invalid status transition")
    | some status =>
      saveChecklist req.now
        (docket.checklist.modify index (reviewed lowerCase req status index)) docket

/-- The checklist that a review saves, if its item is there and its status is one of a review. -/
def reviewedChecklist (req : ReviewRequest) (docket : ComplianceDocket) :
    Option (List ChecklistItem) := do
  let index ← docket.checklist.findIdx? fun item => item.id = req.itemId
  let status ← reviewStatusOf lowerCase req.status
  return docket.checklist.modify index (reviewed lowerCase req status index)

/-! ## Runs -/

/-- A call that may write the compliance state. -/
inductive ComplianceCall where
  | requestApproval (req : ApprovalRequest)
  | decideApproval (req : Decision)
  | updateComplianceState (req : StateUpdate)
  | saveRequestChecklist (req : SaveRequest)
  | reviewChecklistItem (req : ReviewRequest)

/-- What a call answers. -/
def ComplianceCall.answer : ComplianceCall → ComplianceDocket → Except Failure ComplianceDocket
  | .requestApproval req => ComplianceStates.requestApproval lowerCase req
  | .decideApproval req => ComplianceStates.decideApproval lowerCase req
  | .updateComplianceState req => ComplianceStates.updateComplianceState lowerCase req
  | .saveRequestChecklist req => ComplianceStates.saveRequestChecklist lowerCase req
  | .reviewChecklistItem req => ComplianceStates.reviewChecklistItem lowerCase req

/-- The docket that is stored after a call. -/
def step (call : ComplianceCall) (docket : ComplianceDocket) : ComplianceDocket :=
  settle (call.answer lowerCase docket) docket

/-- A change of state is one of the table's. -/
def Permitted (src tgt : ComplianceState) : Prop :=
  src = tgt ∨ canComplianceTransition src tgt = true

instance (src tgt : ComplianceState) : Decidable (Permitted src tgt) :=
  inferInstanceAs (Decidable (_ ∨ _))

/-- A call keeps to the table. -/
def KeepsTable (call : ComplianceCall) (docket : ComplianceDocket) : Prop :=
  Permitted docket.compliance_state (step lowerCase call docket).compliance_state

/-! ## When the calls succeed -/

/-- A document is saved when the part of it that has validators is. -/
theorem save_eq_ok {docket t : ComplianceDocket} :
    docket.save = .ok t ↔
      docket.toDocket.Savable ∧ t = { docket with toDocket := docket.toDocket.saved } := by
  simp only [ComplianceDocket.save, bind_eq_ok, Docket.save_eq_ok, pure_eq, Except.ok.injEq]
  constructor
  · rintro ⟨saved, ⟨hsavable, rfl⟩, rfl⟩
    exact ⟨hsavable, rfl⟩
  · rintro ⟨hsavable, rfl⟩
    exact ⟨_, ⟨hsavable, rfl⟩, rfl⟩

/-- What `requestApproval` checks, for an approval of a type. -/
structure RequestAccepted (req : ApprovalRequest) (approvalType : ApprovalType)
    (docket : ComplianceDocket) : Prop where
  type : approvalTypeOf lowerCase req.approvalType = some approvalType
  approver : normalizeXid req.approverXID ≠ ""
  open_ : docket.approval_stage.status ≠ some .pending
  savable : docket.toDocket.Savable

/-- What `decideApproval` checks, for a decision. -/
structure DecisionAccepted (req : Decision) (decision : ApprovalStatus)
    (docket : ComplianceDocket) : Prop where
  given : decisionOf lowerCase req.decision = some decision
  pending : docket.approval_stage.status = some .pending
  approver : ¬isOtherApprover req decision docket.approval_stage
  savable : docket.toDocket.Savable

/-- What the end of the checklist endpoints checks. -/
structure ChecklistAccepted (checklist : List ChecklistItem) (docket : ComplianceDocket) :
    Prop where
  valid : checklist.all ChecklistItem.isValid = true
  savable : docket.toDocket.Savable

theorem requestApproval_eq_ok {req : ApprovalRequest} {docket t : ComplianceDocket} :
    requestApproval lowerCase req docket = .ok t ↔
      ∃ approvalType, RequestAccepted lowerCase req approvalType docket ∧
        t = { requested req approvalType docket with toDocket := docket.toDocket.saved } := by
  unfold requestApproval
  cases htype : approvalTypeOf lowerCase req.approvalType with
  | none =>
    refine iff_of_false (by simp) ?_
    rintro ⟨approvalType, haccepted, -⟩
    cases htype.symm.trans haccepted.type
  | some approvalType =>
    simp only [bind_eq_ok, throwIf_eq_ok, save_eq_ok]
    constructor
    · rintro ⟨-, happrover, -, hopen, hsavable, rfl⟩
      exact ⟨approvalType, ⟨htype, happrover, hopen, hsavable⟩, rfl⟩
    · rintro ⟨_, ⟨htype', happrover, hopen, hsavable⟩, rfl⟩
      obtain rfl : approvalType = _ := Option.some_inj.mp (htype.symm.trans htype')
      exact ⟨(), happrover, (), hopen, hsavable, rfl⟩

theorem decideApproval_eq_ok {req : Decision} {docket t : ComplianceDocket} :
    decideApproval lowerCase req docket = .ok t ↔
      ∃ decision, DecisionAccepted lowerCase req decision docket ∧
        t = { decided req decision docket with toDocket := docket.toDocket.saved } := by
  unfold decideApproval
  cases hgiven : decisionOf lowerCase req.decision with
  | none =>
    refine iff_of_false (by simp) ?_
    rintro ⟨decision, haccepted, -⟩
    cases hgiven.symm.trans haccepted.given
  | some decision =>
    simp only [bind_eq_ok, throwIf_eq_ok, save_eq_ok, not_not]
    constructor
    · rintro ⟨-, hpending, -, happrover, hsavable, rfl⟩
      exact ⟨decision, ⟨hgiven, hpending, happrover, hsavable⟩, rfl⟩
    · rintro ⟨_, ⟨hgiven', hpending, happrover, hsavable⟩, rfl⟩
      obtain rfl : decision = _ := Option.some_inj.mp (hgiven.symm.trans hgiven')
      exact ⟨(), hpending, (), happrover, hsavable, rfl⟩

theorem saveChecklist_eq_ok {now : Date} {checklist : List ChecklistItem}
    {docket t : ComplianceDocket} :
    saveChecklist now checklist docket = .ok t ↔
      ChecklistAccepted checklist docket ∧
        t = { withChecklist now checklist docket with toDocket := docket.toDocket.saved } := by
  simp only [saveChecklist, bind_eq_ok, throwIf_eq_ok, save_eq_ok, not_not]
  constructor
  · rintro ⟨-, hvalid, hsavable, rfl⟩
    exact ⟨⟨hvalid, hsavable⟩, rfl⟩
  · rintro ⟨⟨hvalid, hsavable⟩, rfl⟩
    exact ⟨(), hvalid, hsavable, rfl⟩

theorem reviewChecklistItem_eq_ok {req : ReviewRequest} {docket t : ComplianceDocket} :
    reviewChecklistItem lowerCase req docket = .ok t ↔
      ∃ checklist, reviewedChecklist lowerCase req docket = some checklist ∧
        ChecklistAccepted checklist docket ∧
          t = { withChecklist req.now checklist docket with
            toDocket := docket.toDocket.saved } := by
  unfold reviewChecklistItem reviewedChecklist
  cases docket.checklist.findIdx? fun item => item.id = req.itemId with
  | none => simp
  | some index =>
    cases reviewStatusOf lowerCase req.status with
    | none => simp
    | some status => simp [saveChecklist_eq_ok]

/-- The control room asks the table. -/
theorem updateComplianceState_permitted {req : StateUpdate} {docket t : ComplianceDocket}
    (h : updateComplianceState lowerCase req docket = .ok t) :
    Permitted docket.compliance_state t.compliance_state := by
  unfold updateComplianceState at h
  cases hnext : normalizeComplianceState lowerCase req.nextState with
  | none =>
    rw [hnext] at h
    cases h
  | some next =>
    rw [hnext] at h
    simp only [bind_eq_ok, throwIf_eq_ok, save_eq_ok, not_not] at h
    obtain ⟨-, hpermitted, -, -, -, rfl⟩ := h
    exact .inr hpermitted

/-! ## When the calls keep to the table -/

/-- The states in which an approval is requested in time. -/
def requestedFrom (approvalType : ApprovalType) : List ComplianceState :=
  if approvalType = .internal_partner then [.in_progress, .blocked, .awaiting_partner]
  else [.not_started, .in_progress, .blocked, .awaiting_client]

/-- The states in which a decision is made in time. -/
def decidedFrom (stage : ApprovalStage) (decision : ApprovalStatus) : List ComplianceState :=
  if decision = .approved ∧ stage.resume_to_state ≠ some .in_progress then
    [.in_progress, .awaiting_partner, .blocked, .ready_to_file]
  else [.not_started, .in_progress, .awaiting_client, .awaiting_partner, .blocked]

/-- A checklist is saved in time: none of its required items is missing, or the state is one from
which the client may be asked. -/
def SavedFrom (checklist : List ChecklistItem) (state : ComplianceState) : Prop :=
  checklist.any ChecklistItem.isMissing = true →
    state ∈ [.not_started, .in_progress, .blocked, .awaiting_client]

/-- A call is refused, or made in a state from which the table leads where it goes. -/
def Timely : ComplianceCall → ComplianceDocket → Prop
  | .requestApproval req, docket => ∀ approvalType,
    RequestAccepted lowerCase req approvalType docket →
      docket.compliance_state ∈ requestedFrom approvalType
  | .decideApproval req, docket => ∀ decision, DecisionAccepted lowerCase req decision docket →
    docket.compliance_state ∈ decidedFrom docket.approval_stage decision
  | .updateComplianceState _, _ => True
  | .saveRequestChecklist req, docket =>
    ChecklistAccepted (req.checklist lowerCase) docket →
      SavedFrom (req.checklist lowerCase) docket.compliance_state
  | .reviewChecklistItem req, docket => ∀ checklist,
    reviewedChecklist lowerCase req docket = some checklist →
      ChecklistAccepted checklist docket → SavedFrom checklist docket.compliance_state

/-- The state that an approval waits in is reached by the table from the states of
`requestedFrom`. -/
theorem permitted_requested_iff (approvalType : ApprovalType) (state : ComplianceState) :
    Permitted state (computePendingComplianceState approvalType) ↔
      state ∈ requestedFrom approvalType := by
  cases approvalType <;> cases state <;> decide

/-- The state that a decision leads to is reached by the table from the states of `decidedFrom`. -/
theorem permitted_decided_iff (stage : ApprovalStage) (decision : ApprovalStatus)
    (state : ComplianceState) :
    Permitted state (decidedState stage decision) ↔ state ∈ decidedFrom stage decision := by
  unfold decidedState decidedFrom
  split_ifs <;> cases state <;> decide

/-- The state that follows from a checklist. -/
theorem permitted_checklist_iff (now : Date) (checklist : List ChecklistItem)
    (state : ComplianceState) :
    Permitted state (computeComplianceStateFromChecklist now checklist state) ↔
      SavedFrom checklist state := by
  have hmissing : 0 < checklist.countP ChecklistItem.isMissing ↔
      checklist.any ChecklistItem.isMissing = true := by
    rw [List.countP_pos_iff, List.any_eq_true]
  unfold computeComplianceStateFromChecklist getChecklistSummary SavedFrom
  by_cases hany : checklist.any ChecklistItem.isMissing = true
  · have hpos := hmissing.mpr hany
    simp only [hany, hpos, Nat.ne_of_gt hpos, false_and, if_false, if_true, forall_const]
    cases state <;> decide
  · have hzero : checklist.countP ChecklistItem.isMissing = 0 :=
      Nat.eq_zero_of_not_pos fun h => hany (hmissing.mp h)
    simp only [hany, hzero, lt_irrefl, if_false, true_and]
    cases state <;> decide

/-- A call keeps to the table exactly when it is timely. -/
theorem keepsTable_iff (call : ComplianceCall) (docket : ComplianceDocket) :
    KeepsTable lowerCase call docket ↔ Timely lowerCase call docket := by
  let KeptBy (t : ComplianceDocket) : Prop := Permitted docket.compliance_state t.compliance_state
  have hself : KeptBy docket := .inl rfl
  have hsettle : KeepsTable lowerCase call docket ↔
      ∀ t, call.answer lowerCase docket = .ok t → KeptBy t := settle_iff hself
  rw [hsettle]
  cases call with
  | requestApproval req =>
    simp only [ComplianceCall.answer, requestApproval_eq_ok, Timely, ← permitted_requested_iff]
    constructor
    · intro h approvalType haccepted
      exact h _ ⟨approvalType, haccepted, rfl⟩
    · rintro h t ⟨approvalType, haccepted, rfl⟩
      exact h approvalType haccepted
  | decideApproval req =>
    simp only [ComplianceCall.answer, decideApproval_eq_ok, Timely, ← permitted_decided_iff]
    constructor
    · intro h decision haccepted
      exact h _ ⟨decision, haccepted, rfl⟩
    · rintro h t ⟨decision, haccepted, rfl⟩
      exact h decision haccepted
  | updateComplianceState req =>
    exact iff_of_true (fun t ht => updateComplianceState_permitted lowerCase ht) trivial
  | saveRequestChecklist req =>
    simp only [ComplianceCall.answer, saveRequestChecklist, saveChecklist_eq_ok, Timely,
      ← permitted_checklist_iff req.now]
    constructor
    · intro h haccepted
      exact h _ ⟨haccepted, rfl⟩
    · rintro h t ⟨haccepted, rfl⟩
      exact h haccepted
  | reviewChecklistItem req =>
    simp only [ComplianceCall.answer, reviewChecklistItem_eq_ok, Timely,
      ← permitted_checklist_iff req.now]
    constructor
    · intro h checklist hreviewed haccepted
      exact h _ ⟨checklist, hreviewed, haccepted, rfl⟩
    · rintro h t ⟨checklist, hreviewed, haccepted, rfl⟩
      exact h checklist hreviewed haccepted

/-- A change that keeps to the table leaves a docket filed or closed. -/
theorem Permitted.done {src tgt : ComplianceState} (h : Permitted src tgt)
    (hsrc : src = .filed ∨ src = .closed) : tgt = .filed ∨ tgt = .closed := by
  rcases hsrc with rfl | rfl <;> cases tgt <;> revert h <;> decide

end operations

/-- A docket whose obligation has been filed. -/
def filedDocket : ComplianceDocket where
  compliance_state := .filed

/-- A request for the approval of the client. -/
def clientApproval : ApprovalRequest where
  now := 1
  requestedByXID := "X000001"
  approvalType := "client"
  approverXID := "X000002"

/-- A decision on it. -/
def rejection : Decision where
  now := 2
  actorXID := "X000002"
  decision := "rejected"

/-- A checklist with a required item that is still requested. -/
def openChecklist : SaveRequest where
  now := 1
  items := [{ id := some "1", title := some "Bank statement", required := true }]
  randomUUID _ := "0"

end Docketra.ComplianceStates
