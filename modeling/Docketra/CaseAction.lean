import Docketra.StatusUpdate

/-!
# Case actions

`services/caseAction.service.js`: pending, resolving, filing, and reopening a docket. Each action
makes checks of its own, and then calls `updateStatus`. A comment that is absent is the empty
string.
-/

namespace Docketra.CaseAction

open Checked
open CaseRepository (StatusPatch)
open StatusUpdate (StatusContext updateStatus)

/-- `LIFECYCLE_TRANSITIONS`, by current status. -/
def lifecycleTransitions (current : CaseStatus) : List CaseStatus :=
  match current.normalize with
  | .ASSIGNED => [.PENDING, .QC_PENDING, .RESOLVED, .FILED]
  | .OPEN => [.PENDING, .QC_PENDING, .RESOLVED, .FILED]
  -- The key `ACTIVE`, which comes before this one, is no status.
  | .IN_PROGRESS => [.PENDING, .QC_PENDING, .RESOLVED, .FILED]
  | .PENDING => [.OPEN, .ASSIGNED, .ROUTED, .UNASSIGNED]
  | .QC_PENDING => [.RESOLVED, .OPEN]
  | _ => []

/-- Whether `normalizeActorRole` of this service gives `'ADMIN'`. -/
def isAdminRole (role : Role) : Bool := role = .ADMIN || role = .SUPER_ADMIN

/-- `assertLifecycleTransitionAllowed`. -/
def assertLifecycleTransitionAllowed (currentStatus nextStatus : CaseStatus) (actorRole : Role) :
    Except Failure Unit := do
  let current := currentStatus.normalize
  -- Only administrators move a docket that is in quality check or closed.
  throwIf (¬isAdminRole actorRole ∧
      (current = .QC_PENDING ∨ current = .RESOLVED ∨ current = .FILED))
    (plainError "Permission denied")
  throwIf (nextStatus.normalize ∉ lifecycleTransitions currentStatus)
    (plainError "Invalid lifecycle transition")

/-- `validateComment`. -/
def validateComment (comment : String) : Except Failure Unit :=
  throwIf (isBlank comment) (plainError "Comment is mandatory for this action")

/-- The arguments of a user's action. `session` tells whether the request has a transaction. -/
structure ActionRequest where
  now : Date
  user : Actor
  comment : String := ""
  session : Bool := true
  deriving DecidableEq, Repr

/-- The context that a user's action gives `updateStatus`, beside what differs by action. -/
def ActionRequest.context (req : ActionRequest) : StatusContext where
  now := req.now
  session := req.session
  role := req.user.role

/-- The fields of a patch that name a user and the time. -/
def lastAction (xID : Option String) (now : Date) : StatusPatch where
  lastActionByXID := some xID
  lastActionAt := some (some now)

/-! ## `resolveCase` -/

/-- The checks of `resolveCase` on the docket that it has read. -/
def resolveChecks (role : Role) (caseData : Docket) : Except Failure Unit := do
  throwIf (¬canResolve caseData.canonicalState)
    (plainError ("Resolve is allowed only from IN_PROGRESS or IN_QC. Current state: " ++
      caseData.canonicalState.value))
  assertLifecycleTransitionAllowed caseData.status .RESOLVED role

/-- The context of the status update that `resolveCase` makes. -/
def resolveContext (req : ActionRequest) : StatusContext :=
  { req.context with
    notes := some req.comment
    statusPatch := { lastAction req.user.xID req.now with
      pendingUntil := some none
      reopenAt := some none
      resolvedAt := some (some req.now) } }

/-- `resolveCase`. -/
def resolveCase (req : ActionRequest) (docket : Docket) : Except Failure Docket := do
  validateComment req.comment
  let caseData ← CaseRepository.findByCaseId req.user.role docket
  resolveChecks req.user.role caseData
  updateStatus .RESOLVED (resolveContext req) docket

/-! ## `pendCase` -/

/-- The checks of `pendCase` on the docket that it has read. -/
def pendChecks (role : Role) (caseData : Docket) : Except Failure Unit :=
  assertLifecycleTransitionAllowed caseData.status .PENDING role

/-- The context of the status update that `pendCase` makes. `pendingUntil` is the reopening date,
at eight in the morning in Kolkata. -/
def pendContext (pendingUntil : Date) (req : ActionRequest) : StatusContext :=
  { req.context with
    reason := some req.comment
    auditReason := some (trim req.comment)
    statusPatch := { lastAction req.user.xID req.now with
      pendedByXID := some req.user.xID
      pendingReason := some (some (trim req.comment))
      pendingUntil := some (some pendingUntil)
      reopenAt := some (some pendingUntil) } }

/-- `pendCase`. -/
def pendCase (pendingUntil : Date) (req : ActionRequest) (docket : Docket) :
    Except Failure Docket := do
  validateComment req.comment
  let caseData ← CaseRepository.findByCaseId req.user.role docket
  pendChecks req.user.role caseData
  updateStatus .PENDING (pendContext pendingUntil req) docket

/-! ## `fileCase` -/

/-- The check of `fileCase` on the docket that it has read. -/
def fileChecks (caseData : Docket) : Except Failure Unit :=
  throwIf (¬canFile caseData.canonicalState)
    (plainError ("Cannot file docket from current state: " ++ caseData.canonicalState.value))

/-- The context of the status update that `fileCase` makes. -/
def fileContext (req : ActionRequest) : StatusContext :=
  { req.context with
    statusPatch := { lastAction req.user.xID req.now with
      pendingUntil := some none
      reopenAt := some none } }

/-- `fileCase`. -/
def fileCase (req : ActionRequest) (docket : Docket) : Except Failure Docket := do
  validateComment req.comment
  let caseData ← CaseRepository.findByCaseId req.user.role docket
  fileChecks caseData
  updateStatus .FILED (fileContext req) docket

/-! ## Reopening -/

/-- The status that a reopened docket goes to, by its ownership. -/
def reopenTarget (caseData : Docket) : CaseStatus :=
  if hasText caseData.assignedToXID then .ASSIGNED
  else if caseData.routedToTeamId.isSome then .ROUTED
  else .UNASSIGNED

/-- The context of the status update that `unpendCase` makes. -/
def unpendContext (req : ActionRequest) : StatusContext :=
  { req.context with
    statusPatch := { lastAction req.user.xID req.now with
      pendingUntil := some none
      reopenAt := some none
      pendedByXID := some none } }

/-- `unpendCase`. -/
def unpendCase (req : ActionRequest) (docket : Docket) : Except Failure Docket := do
  validateComment req.comment
  let caseData ← CaseRepository.findByCaseId req.user.role docket
  assertLifecycleTransitionAllowed caseData.status (reopenTarget caseData) req.user.role
  updateStatus (reopenTarget caseData) (unpendContext req) docket

/-- The context of the status update that `performAutoReopen` makes, in a session of its own. -/
def autoReopenContext (now : Date) : StatusContext where
  now := now
  session := true
  role := .ADMIN
  auditReason := some "pending_until elapsed"
  statusPatch := { lastAction (some "SYSTEM") now with
    pendingUntil := some none
    reopenAt := some none }

/-- `performAutoReopen`. -/
def performAutoReopen (now : Date) (docket : Docket) : Except Failure Docket :=
  -- The job makes none of the checks of `unpendCase`.
  updateStatus (reopenTarget docket) (autoReopenContext now) docket

end Docketra.CaseAction
