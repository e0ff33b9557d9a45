import Docketra.Repository

/-!
# The assignment service

`services/caseAssignment.service.js`. Four of its functions are one conditional update each: a
filter on the stored document, and the fields set when it matches. They are modelled on a docket
that the identifiers of the filter name, as the new document, or `none` when the filter does not
match. The updates are aggregation pipelines, which the schema's setters do not see. `reassignCase`
reads the docket and saves it.
-/

namespace Docketra.Assignment

open Checked

/-- The status that an assignment moves a docket to: a routed docket stays with its team. -/
def assignedStatus (docket : Docket) : CaseStatus :=
  if docket.status = .ROUTED then .ROUTED_ASSIGNED else .ASSIGNED

/-- What the three assignments set alike. -/
def assignUpdate (now : Date) (xid : String) (assignedTo assignedBy : Option ObjectId)
    (docket : Docket) : Docket :=
  { docket with
    assignedToXID := some xid
    assignedAt := some now
    assignedTo := assignedTo
    assignedBy := assignedBy
    status := assignedStatus docket
    queueType := .PERSONAL
    -- Back to a worklist's lifecycle, whatever the docket's was.
    lifecycle := .state .WL
    state := some .IN_PROGRESS
    qcOutcome := none }

/-- The filter that a pull and a bulk assignment share: no owner in either field, in a status that
waits for one. -/
def unownedFilter (docket : Docket) : Bool :=
  -- `null` in a filter matches an absent field too, but not an empty string.
  docket.assignedToXID = none && docket.assignedTo = none &&
    (docket.status = .UNASSIGNED || docket.status = .ROUTED)

/-- The arguments of `pullCaseFromWorkbasket`. -/
structure PullCaseRequest where
  now : Date
  userId : String
  assigneeObjectId : Option ObjectId := none
  assignerObjectId : Option ObjectId := none
  deriving DecidableEq, Repr

/-- `pullCaseFromWorkbasket`. The xID must not be empty. -/
def pullCaseFromWorkbasket (req : PullCaseRequest) (docket : Docket) :
    Except Failure (Option Docket) := do
  throwIf (req.userId = "") (plainError "caseId, tenantId, and userId are required")
  return if unownedFilter docket then
    some (assignUpdate req.now (toUpperCase req.userId) req.assigneeObjectId
      (req.assignerObjectId.orElse fun _ => req.assigneeObjectId) docket)
  else none

/-- When a pull modifies the docket, and how. -/
theorem pullCaseFromWorkbasket_eq_some {req : PullCaseRequest} {docket t : Docket} :
    pullCaseFromWorkbasket req docket = .ok (some t) ↔
      req.userId ≠ "" ∧ unownedFilter docket = true ∧
        t = assignUpdate req.now (toUpperCase req.userId) req.assigneeObjectId
          (req.assignerObjectId.orElse fun _ => req.assigneeObjectId) docket := by
  simp only [pullCaseFromWorkbasket, bind_eq_ok, throwIf_eq_ok, pure_eq, Except.ok.injEq,
    exists_const, Option.ite_none_right_eq_some, Option.some.injEq]
  grind

/-- The arguments of `bulkAssignCasesToUser`, for a request that lists the docket, by a user whose
role is known. -/
structure BulkAssignRequest where
  now : Date
  xID : String
  userObjectId : Option ObjectId := none
  assignerObjectId : Option ObjectId := none
  deriving DecidableEq, Repr

/-- The update of `bulkAssignCasesToUser`. -/
def bulkAssignUpdate (req : BulkAssignRequest) (docket : Docket) : Docket :=
  { assignUpdate req.now (toUpperCase req.xID) req.userObjectId
      (req.assignerObjectId.orElse fun _ => req.userObjectId) docket with
    lastActionByXID := some (toUpperCase req.xID)
    lastActionAt := some req.now }

/-- `bulkAssignCasesToUser`: the docket when it is one of those that the update modifies, which are
the dockets that the reply counts in `assigned`. A locked docket is passed over. -/
def bulkAssignCasesToUser (req : BulkAssignRequest) (docket : Docket) :
    Except Failure (Option Docket) := do
  throwIf (req.xID = "") (plainError "Valid user with xID is required for case assignment")
  -- Locked dockets are left out of the update, and counted among those not assigned.
  return if unownedFilter docket && !docket.lockStatus.isLocked then
    some (bulkAssignUpdate req docket)
  else none

/-- When a bulk assignment modifies the docket, and how. -/
theorem bulkAssignCasesToUser_eq_some {req : BulkAssignRequest} {docket t : Docket} :
    bulkAssignCasesToUser req docket = .ok (some t) ↔
      req.xID ≠ "" ∧ unownedFilter docket = true ∧ docket.lockStatus.isLocked = false ∧
        t = bulkAssignUpdate req docket := by
  simp only [bulkAssignCasesToUser, bind_eq_ok, throwIf_eq_ok, pure_eq, Except.ok.injEq,
    exists_const, Option.ite_none_right_eq_some, Option.some.injEq, Bool.and_eq_true,
    Bool.not_eq_true']
  grind

/-- The arguments of `assignDocket`. -/
structure AssignDocketRequest where
  now : Date
  userXID : String
  assigneeObjectId : Option ObjectId := none
  assignedByObjectId : Option ObjectId := none
  deriving DecidableEq, Repr

/-- The filter of `assignDocket`, beside the identifiers. It also accepts an `OPEN` docket, and
does not look at `assignedTo`. -/
def assignDocketFilter (docket : Docket) : Bool :=
  docket.assignedToXID = none &&
    (docket.status = .UNASSIGNED || docket.status = .OPEN || docket.status = .ROUTED)

/-- `assignDocket`. -/
def assignDocket (req : AssignDocketRequest) (docket : Docket) :
    Except Failure (Option Docket) := do
  throwIf (isBlank req.userXID) (plainError "Valid userXID is required")
  return if assignDocketFilter docket then
    some (assignUpdate req.now (castXID req.userXID) req.assigneeObjectId
      (req.assignedByObjectId.orElse fun _ => req.assigneeObjectId) docket)
  else none

/-- When an assignment modifies the docket, and how. -/
theorem assignDocket_eq_some {req : AssignDocketRequest} {docket t : Docket} :
    assignDocket req docket = .ok (some t) ↔
      isBlank req.userXID = false ∧ assignDocketFilter docket = true ∧
        t = assignUpdate req.now (castXID req.userXID) req.assigneeObjectId
          (req.assignedByObjectId.orElse fun _ => req.assigneeObjectId) docket := by
  simp only [assignDocket, bind_eq_ok, throwIf_eq_ok, pure_eq, Except.ok.injEq, exists_const,
    Option.ite_none_right_eq_some, Option.some.injEq, Bool.not_eq_true]
  grind

/-- The update of `unassignDocket`. -/
def unassignUpdate (docket : Docket) : Docket :=
  { docket with
    assignedToXID := none
    assignedTo := none
    assignedBy := none
    assignedAt := none
    queueType := .GLOBAL
    lifecycle := .state .WL
    -- A docket that has been routed goes back to its team's workbasket, whatever its status was.
    status := if docket.routedToTeamId.isSome then .ROUTED else .UNASSIGNED
    state := some .IN_WB
    qcOutcome := none }

/-- `unassignDocket`. -/
def unassignDocket (docket : Docket) : Option Docket :=
  if docket.status ≠ .FILED then some (unassignUpdate docket) else none

/-- The pattern `/^X\d{6}$/i` of an xID. -/
def isXID (s : String) : Bool :=
  match s.toList with
  | c :: digits =>
    (c = 'X' || c = 'x') && digits.length = 6 && digits.all fun d => '0' ≤ d && d ≤ '9'
  | [] => false

/-- `reassignCase`. Reading through the repository normalizes the lifecycle. -/
def reassignCase (now : Date) (newUserXID : String) (performedBy : Actor) (docket : Docket) :
    Except Failure Docket := do
  throwIf (¬isXID newUserXID)
    (plainError "Valid xID is required for reassignment (format: X123456)")
  let docket ← CaseRepository.findByCaseId performedBy.role docket
  throwIf (docket.status = .UNASSIGNED ∨ docket.status = .ROUTED)
    (plainError "Cannot reassign unassigned/routed dockets. Use assignment instead.")
  throwIf (docket.status = .FILED) (plainError "Cannot reassign filed cases")
  -- Neither the status nor the queue is looked at or changed after this.
  let docket := { docket with
    assignedToXID := some (castXID newUserXID)
    assignedAt := some now }
  docket.save

/-- What a successful `reassignCase` stores: the new owner, and the status as it was. -/
theorem reassignCase_ok {now : Date} {newUserXID : String} {performedBy : Actor}
    {docket t : Docket} (h : reassignCase now newUserXID performedBy docket = .ok t) :
    t.status = docket.status ∧ t.assignedToXID = some (castXID newUserXID) := by
  simp only [reassignCase, bind_eq_ok, CaseRepository.findByCaseId_eq_ok] at h
  obtain ⟨_, -, d, ⟨-, rfl⟩, _, -, _, -, hsave⟩ := h
  obtain ⟨-, rfl⟩ := Docket.save_eq_ok.mp hsave
  exact ⟨rfl, rfl⟩

end Docketra.Assignment
