import Mathlib.Data.Rat.Floor
import Docketra.Docket

/-!
# The workflow service

`services/docketWorkflow.service.js`. Each function is given the docket that its query has found,
and the results of the lookups that it makes in other collections. It returns the docket as it is
stored afterwards, or fails at the first check that does not hold, and then stores nothing. The
functions that write by a raw update are given as what they select and what they set.

Audit records, notifications, and events are left out: nothing here reads them back.
-/

namespace Docketra.Workflow

open Checked

/-! ## Quality-check routing -/

/-- An entry of a category's `subcategories`. -/
structure Subcategory where
  id : String
  name : String
  workbasketId : Option ObjectId := none
  isActive : Bool := true
  qcPercent : Option ℚ := none
  forceQC : Bool := false

/-- A Category document. -/
structure Category where
  name : String
  subcategories : List Subcategory := []
  qcPercent : Option ℚ := none
  forceQC : Bool := false

/-- What `resolveQcRoutingDecision` reads of the resolver's User document. -/
structure ResolverUser where
  qcSamplingRate : Option ℚ := none

/-- The lookups that the service makes, as the answers of the other collections. -/
structure Lookups where
  /-- `Category.findOne({ firmId, $or: [{ _id }, { name }] })`, by the keys that are present. -/
  category : Option ObjectId → Option String → Option Category := fun _ _ => none
  /-- `User.findOne({ firmId, xID })`. -/
  user : String → Option ResolverUser := fun _ => none
  /-- The active QC workbasket below a workbasket. -/
  qcWorkbasket : ObjectId → Option ObjectId := fun _ => none
  /-- The active category of a name. -/
  activeCategory : String → Option Category := fun _ => none
  /-- The active primary workbasket with an id, by its id. -/
  activePrimaryTeam : ObjectId → Option ObjectId := fun _ => none
  /-- The first four bytes of a string's SHA-256 digest, as a big-endian integer. -/
  sha256UInt32BE : String → ℕ := fun _ => 0

/-- `normalizeQcPercent`: `Math.round`, clamped to 0 and 100. -/
def normalizeQcPercent (value : Option ℚ) : ℕ :=
  -- `Math.round` rounds a half up, and an absent percentage counts as 0.
  (min 100 (max 0 ⌊value.getD 0 + 1 / 2⌋)).toNat

/-- `shouldRouteToQcByPercent`. -/
def shouldRouteToQcByPercent (env : Lookups) (docketId : String) (percent : ℕ) : Bool :=
  let normalizedPercent := normalizeQcPercent (some percent)
  if normalizedPercent ≤ 0 then false
  else if normalizedPercent ≥ 100 then true
  -- The digest makes the sample a function of the docket, not of the moment.
  else env.sha256UInt32BE docketId % 100 < normalizedPercent

/-- `findDocketSubcategory`. -/
def findDocketSubcategory (category : Option Category) (docket : Docket) : Option Subcategory :=
  let subcategories := (category.map (·.subcategories)).getD []
  let docketSubcategoryId := trim (docket.subcategoryId.getD "")
  let docketSubcategoryName :=
    toLowerCase (trim ((orElse docket.subcategory docket.caseSubCategory).getD ""))
  subcategories.find? fun subcategory =>
    (docketSubcategoryId != "" && subcategory.id == docketSubcategoryId) ||
      (docketSubcategoryName != "" && toLowerCase (trim subcategory.name) == docketSubcategoryName)

/-- The `source` of a routing decision. -/
inductive QcSource where
  | manual | configured | sampled | user_sampled | none
  deriving DecidableEq, Repr

/-- A routing decision. -/
structure QcRouting where
  routeToQc : Bool
  source : QcSource
  percent : ℕ
  deriving DecidableEq, Repr

/-- `resolveQcRoutingDecision`. -/
def resolveQcRoutingDecision (env : Lookups) (docket : Docket) (category : Option Category)
    (subcategory : Option Subcategory) (sendToQC : Bool) (resolverUser : Option ResolverUser) :
    QcRouting :=
  if sendToQC then ⟨true, .manual, 100⟩
  else if docket.forceQc || (subcategory.map (·.forceQC)).getD false ||
      (category.map (·.forceQC)).getD false then ⟨true, .configured, 100⟩
  else
    let (effectivePercent, source) :=
      -- A resolver with a rate of its own is sampled at that rate, whatever the category says.
      match resolverUser.bind (·.qcSamplingRate) with
      | some rate => (normalizeQcPercent (some rate), QcSource.user_sampled)
      | none =>
        let subcategoryPercent := normalizeQcPercent (subcategory.bind (·.qcPercent))
        let categoryPercent := normalizeQcPercent (category.bind (·.qcPercent))
        (if subcategoryPercent > 0 then subcategoryPercent else categoryPercent, QcSource.sampled)
    let sampled := shouldRouteToQcByPercent env docket.caseId effectivePercent
    ⟨sampled, if sampled then source else .none, effectivePercent⟩

/-! ## Checks shared by the service's functions -/

/-- `requireComment`. An absent comment is the empty string. -/
def requireComment (comment context : String) : Except Failure Unit :=
  throwIf (isBlank comment) (makeErrorWith (context ++ " requires comment") 400 "COMMENT_REQUIRED")

/-- `normalizeActorRole`, whose other value is `'USER'`. -/
inductive ActorRole where
  | ADMIN | SYSTEM | USER
  deriving DecidableEq, Repr

/-- `normalizeActorRole`. -/
def normalizeActorRole : Role → ActorRole
  | .ADMIN => .ADMIN
  | .SUPER_ADMIN => .ADMIN
  | .SYSTEM => .SYSTEM
  | _ => .USER

/-- `lockHolderLabel`. -/
def lockHolderLabel (lock : LockStatus) : String :=
  let display := trim (lock.activeUserDisplayName.getD "")
  let xid := toUpperCase (trim (lock.activeUserXID.getD ""))
  let email := toLowerCase (trim (lock.activeUserEmail.getD ""))
  if display ≠ "" ∧ xid ≠ "" then display ++ " (" ++ xid ++ ")"
  else if display ≠ "" then display
  else if xid ≠ "" then xid
  else if email ≠ "" then email
  else "another user"

/-- `CASE_LOCK_CONFIG.INACTIVITY_TIMEOUT_MS`. -/
def inactivityTimeoutMs : Int := 2 * 60 * 60 * 1000

/-- Whether the docket is locked by another active user: the condition under which
`assertNotLockedByAnotherActiveUser` throws. -/
def lockedByAnotherActiveUser (now : Date) (docket : Docket) (actor : Actor) : Bool :=
  let lock := docket.lockStatus
  let actorXID := toUpperCase (trim (actor.xID.getD ""))
  let ownerXID := toUpperCase (trim (lock.activeUserXID.getD ""))
  let lockTs := (lock.lastActivityAt.orElse fun _ => lock.lockedAt).getD 0
  -- A lock without a time, or one that has been idle for too long, holds nobody up.
  lock.isLocked && !(actorXID != "" && ownerXID != "" && actorXID == ownerXID) &&
    (0 < lockTs && now - lockTs < inactivityTimeoutMs)

/-- `assertNotLockedByAnotherActiveUser`. -/
def assertNotLockedByAnotherActiveUser (now : Date) (docket : Docket) (actor : Actor) :
    Except Failure Unit :=
  throwIf (lockedByAnotherActiveUser now docket actor)
    (makeErrorWith ("Docket is locked by " ++ lockHolderLabel docket.lockStatus ++
      ". Ask them to exit or close the docket before moving it.") 409 "DOCKET_LOCKED_ACTIVE")

/-- `validateOwnershipRules`. -/
def validateOwnershipRules (docket : Docket) : Except Failure Docket := do
  throwIf (docket.state = some .IN_WB ∧ truthy docket.assignedToXID)
    (makeError "WB docket cannot have owner")
  throwIf (docket.state = some .IN_PROGRESS ∧ ¬truthy docket.assignedToXID)
    (makeError "IN_PROGRESS docket must have owner")
  return docket

/-- `enforceOwnershipRules`. -/
def enforceOwnershipRules (docket : Docket) : Except Failure Docket := do
  let docket :=
    if docket.state = some .IN_WB then
      { docket with assignedToXID := none, assignedTo := none, queueType := .GLOBAL }
    else docket
  -- This check is made again, with another text, by `validateOwnershipRules`.
  throwIf (docket.state = some .IN_PROGRESS ∧ ¬truthy docket.assignedToXID)
    (makeError "IN_PROGRESS docket must have an owner")
  let docket :=
    if docket.state = some .IN_PROGRESS then { docket with queueType := .PERSONAL } else docket
  validateOwnershipRules docket

/-- `assertValidLifecycleTransition` of `domain/docketLifecycle.js`. -/
def assertValidLifecycleTransition (src tgt : Lifecycle) : Except Failure Unit :=
  throwIf (src ≠ tgt ∧ ¬isValidTransition src tgt)
    (makeErrorWith ("Invalid docket lifecycle transition: " ++ src.value ++ " -> " ++ tgt.value) 400
      "INVALID_DOCKET_LIFECYCLE_TRANSITION")

/-- The docket with a lifecycle state stored. -/
def setLifecycle (lifecycle : Lifecycle) (docket : Docket) : Docket :=
  { docket with lifecycle := .state lifecycle }

/-- `transitionLifecycle`. -/
def transitionLifecycle (docket : Docket) (toLifecycle : Lifecycle) : Except Failure Docket := do
  let fromLifecycle := normalizeLifecycle docket.lifecycle
  assertValidLifecycleTransition fromLifecycle toLifecycle
  -- The owner is the one that the caller has set by now.
  throwIf (toLifecycle = .WL ∧ ¬hasText docket.assignedToXID)
    (makeErrorWith "Cannot move to WL without assignment" 400 "WL_ASSIGNMENT_REQUIRED")
  return setLifecycle toLifecycle docket

/-- `validateLifecycleAccess`. -/
def validateLifecycleAccess (actor : Actor) (fromLifecycle toLifecycle : Lifecycle)
    (fromStatus : CaseStatus) : Except Failure Unit := do
  throwIf (normalizeActorRole actor.role = .USER ∧
      getCanonicalDocketState { status := some fromStatus } = .IN_QC)
    (makeErrorWith "Permission denied" 403 "DOCKET_PERMISSION_DENIED")
  throwIf (¬isValidTransition fromLifecycle toLifecycle)
    (makeErrorWith ("Invalid lifecycle transition from " ++ fromLifecycle.value ++ " to " ++
      toLifecycle.value ++ ". Allowed: " ++
      (if fromLifecycle.transitions = [] then "none"
        else ", ".intercalate (fromLifecycle.transitions.map (·.value)))) 400
      "INVALID_DOCKET_TRANSITION")

/-- The failure of a move that the canonical states do not admit. -/
def invalidStateTransition (src tgt : DocketState) : Failure :=
  makeErrorWith ("Invalid docket state transition from " ++ src.value ++ " to " ++ tgt.value) 400
    "INVALID_DOCKET_STATE_TRANSITION"

/-! ## `transition` -/

/-- A date that a caller supplies, once `new Date` has read it. -/
inductive DateArg where
  | absent | invalid | date (d : Date)
  deriving DecidableEq, Repr

/-- The arguments of `transition`. `toState` is `none` when the caller's word is no `CaseStatus`. -/
structure TransitionRequest where
  now : Date
  actor : Actor
  toState : Option CaseStatus
  comment : String := ""
  reopenAt : DateArg := .absent
  sendToQC : Bool := false
  duplicateOf : Option String := none
  deriving DecidableEq, Repr

/-- The branch of `transition` that decides between a resolution and a quality check: the target,
and the docket with its `forceQc` flag. -/
def resolutionTarget (env : Lookups) (req : TransitionRequest) (docket : Docket) :
    Except Failure (CaseStatus × Docket) := do
  let categoryName := if truthy docket.category then docket.category else none
  let category := env.category docket.categoryId categoryName
  let resolverXID := orElse docket.assignedToXID req.actor.xID
  let resolverUser := if truthy resolverXID then env.user (resolverXID.getD "") else none
  -- The argument of `resolveQcRoutingDecision` names `subcategory`, which no scope binds: reading
  -- it throws. `findDocketSubcategory` is never called.
  let subcategory : Option Subcategory ← throw (referenceError "subcategory")
  let qcRoutingDecision :=
    resolveQcRoutingDecision env docket category subcategory req.sendToQC resolverUser
  let docket := { docket with
    forceQc := docket.forceQc || req.sendToQC || (category.map (·.forceQC)).getD false ||
      (subcategory.map (·.forceQC)).getD false }
  if qcRoutingDecision.routeToQc then
    requireComment req.comment "QC request"
    return (.QC_PENDING, docket)
  else return (.RESOLVED, docket)

/-- The workbasket that a docket sent to quality check goes to. -/
def qcWorkbasketId (env : Lookups) (docket : Docket) : Option ObjectId :=
  (docket.routedToTeamId.orElse fun _ => docket.ownerTeamId).bind env.qcWorkbasket

/-- What `transition` sets on a docket that it sends to quality check. -/
def enterQc (env : Lookups) (req : TransitionRequest) (docket : Docket) : Docket :=
  let submitterXID := orElse docket.assignedToXID req.actor.xID
  let basket := qcWorkbasketId env docket
  { docket with
    qcStatus := some .REQUESTED
    qcBy := req.actor.xID.map castXID
    qcAt := some req.now
    qc := { docket.qc with
      requestedBy := req.actor.xID.map castXID
      status := some .REQUESTED
      comment := if req.comment = "" then none else some (trim req.comment)
      requestedAt := some req.now
      originalAssigneeXID := submitterXID.map castXID
      attempts := docket.qc.attempts + 1 }
    -- Without a workbasket for quality checks the docket stays with its team.
    ownerTeamId := basket.orElse fun _ => docket.ownerTeamId
    workbasketId := basket.orElse fun _ => docket.workbasketId
    routedToTeamId := none
    assignedToXID := none
    assignedTo := none
    queueType := .GLOBAL
    state := some .IN_QC
    qcOutcome := none
    qcSubmittedByXID := submitterXID.map castXID
    qcSubmittedAt := some req.now
    qcDecisionByXID := none
    qcDecisionAt := none
    qcFailedCorrected := false }

/-- The two fields for the date on which a pending docket reopens. -/
def setDates (date : Option Date) (docket : Docket) : Docket :=
  { docket with reopenAt := date, pendingUntil := date }

/-- The date that `transition` stores for a pending docket. -/
def setReopenAt (req : TransitionRequest) (finalTarget : CaseStatus) (docket : Docket) :
    Except Failure Docket :=
  if finalTarget = .PENDING then
    match req.reopenAt with
    | .absent => return setDates none docket
    | .date d => return setDates (some d) docket
    | .invalid => throw (validationError "reopenAt" "Cast to date failed")
  else return setDates none docket

/-- The checks of `transition` on its final target, between canonical states and lifecycles. -/
def checkTarget (actor : Actor) (docket : Docket) (finalTarget : CaseStatus)
    (fromState : CaseStatus) (fromCanonicalState targetCanonicalState : DocketState) :
    Except Failure Unit := do
  -- Only a pull or an assignment puts a docket in progress.
  throwIf (targetCanonicalState = .IN_PROGRESS)
    (makeError "Use pull/assign APIs to move docket to IN_PROGRESS")
  throwIf (fromCanonicalState ≠ targetCanonicalState ∧
      ¬canTransition fromCanonicalState targetCanonicalState)
    (invalidStateTransition fromCanonicalState targetCanonicalState)
  validateLifecycleAccess actor (normalizeLifecycle docket.lifecycle)
    (toLifecycleFromStatus finalTarget) fromState

/-- The canonical state of a docket with its status replaced. -/
def canonicalStateWith (docket : Docket) (status : CaseStatus) : DocketState :=
  -- The owner and the queue are those that the docket has before it is moved.
  getCanonicalDocketState { docket.view with status := some (toPersistenceState status) }

/-- The comment that `transition` requires of a target that ends or suspends the work. -/
def requireTargetComment (req : TransitionRequest) (normalizedTarget : CaseStatus) :
    Except Failure Unit :=
  if normalizedTarget = .PENDING ∨ normalizedTarget = .RESOLVED ∨ normalizedTarget = .FILED then
    requireComment req.comment normalizedTarget.value
  else return ()

/-- The final target of `transition`: quality check may come before a resolution. -/
def finalTarget (env : Lookups) (req : TransitionRequest) (normalizedTarget : CaseStatus)
    (docket : Docket) : Except Failure (CaseStatus × Docket) :=
  if normalizedTarget = .RESOLVED then resolutionTarget env req docket
  else return (normalizedTarget, docket)

/-- The status, the state, and the outcome of a quality check, as `transition` sets them. -/
def setTarget (finalTarget : CaseStatus) (targetCanonicalState : DocketState) (docket : Docket) :
    Docket :=
  { docket with
    status := toPersistenceState finalTarget
    state := some targetCanonicalState
    qcOutcome := if targetCanonicalState = .IN_PROGRESS ∨ targetCanonicalState = .IN_WB then none
      else docket.qcOutcome }

/-- The last action on a docket. -/
def recordAction (actor : Actor) (now : Date) (docket : Docket) : Docket :=
  { docket with
    lastActionByXID := actor.xID.map castXID
    lastActionAt := some now }

/-- The duplicate that a filed docket names. -/
def setDuplicateOf (req : TransitionRequest) (normalizedTarget : CaseStatus) (docket : Docket) :
    Docket :=
  { docket with
    duplicateOf := if normalizedTarget = .FILED ∧ truthy req.duplicateOf then
        req.duplicateOf.map trim
      else docket.duplicateOf }

/-- The docket, with what a quality check needs when that is its target. -/
def entered (env : Lookups) (req : TransitionRequest) (finalTarget : CaseStatus)
    (docket : Docket) : Docket :=
  if finalTarget = .QC_PENDING then enterQc env req docket else docket

/-- `transition`, from its final target on. `src` is the docket as it was read. -/
def moveTo (env : Lookups) (req : TransitionRequest) (src : Docket)
    (normalizedTarget finalTarget : CaseStatus) (docket : Docket) : Except Failure Docket := do
  let targetCanonicalState := canonicalStateWith docket finalTarget
  checkTarget req.actor docket finalTarget (toDocketState src.status) src.canonicalState
    targetCanonicalState
  -- Two tables have let the move through: that of the canonical states, and that of the lifecycles.
  let docket ← transitionLifecycle (setTarget finalTarget targetCanonicalState docket)
    (toLifecycleFromStatus finalTarget)
  let docket ← setReopenAt req finalTarget (recordAction req.actor req.now docket)
  let docket := setDuplicateOf req normalizedTarget docket
  -- A quality check gives up the owner, and its state is none that the ownership rules look at.
  let docket ← enforceOwnershipRules (entered env req finalTarget docket)
  docket.save

/-- `transition`. A word that is no status fails one of its checks, at the latest the schema's. -/
def transition (env : Lookups) (req : TransitionRequest) (docket : Docket) :
    Except Failure Docket :=
  match req.toState with
  | none => throw (validationError "status" "not a valid status")
  | some toState => do
    let normalizedTarget := toDocketState toState
    requireTargetComment req normalizedTarget
    let (target, routed) ← finalTarget env req normalizedTarget docket
    moveTo env req docket normalizedTarget target routed

/-! ## `qcDecision` -/

/-- `QC_DECISIONS`. -/
inductive QcDecision where
  | APPROVED | PASSED | FAILED | CORRECTED
  deriving DecidableEq, Repr

/-- The arguments of `qcDecision`. `decision` is `none` when the caller's word is no decision. -/
structure QcDecisionRequest where
  now : Date
  actor : Actor
  decision : Option QcDecision
  comment : String := ""
  deriving DecidableEq, Repr

/-- The state that `getQcDecisionTransition` gives for a decision on a docket in quality check. -/
def getQcDecisionTransition : QcDecision → DocketState
  | .FAILED => .IN_PROGRESS
  | .CORRECTED => .RESOLVED
  | .APPROVED => .RESOLVED
  | .PASSED => .RESOLVED

/-- What `qcDecision` sets on the docket for each decision, before its checks. -/
def recordQcDecision (req : QcDecisionRequest) (decision : QcDecision) (docket : Docket) : Docket :=
  let handled (status : QcStatus) : QcRecord := { docket.qc with
    status := some status
    handledBy := req.actor.xID.map castXID
    handledAt := some req.now
    comment := some (trim req.comment) }
  match decision with
  | .FAILED =>
    { docket with
      -- Back to the submitter, or else to whoever had the docket before.
      assignedToXID := (orElse docket.qcSubmittedByXID
        (orElse docket.qc.originalAssigneeXID docket.assignedToXID)).map castXID
      queueType := .PERSONAL
      qcStatus := some .REJECTED
      qcBy := req.actor.xID.map castXID
      qcAt := some req.now
      qcOutcome := some .FAILED
      qc := handled .FAILED }
  | .CORRECTED =>
    { docket with
      qcOutcome := some .CORRECTED
      qcStatus := some .CORRECTED
      qcBy := req.actor.xID.map castXID
      qcAt := some req.now
      qc := handled .CORRECTED
      qcFailedCorrected := true }
  | .APPROVED | .PASSED =>
    { docket with
      qcOutcome := some .PASSED
      qcStatus := some .APPROVED
      qcBy := req.actor.xID.map castXID
      qcAt := some req.now
      qc := handled .APPROVED
      qcFailedCorrected := false }

/-- The status that `qcDecision` moves a docket to. -/
def qcDecisionStatus (decision : QcDecision) : CaseStatus :=
  if getQcDecisionTransition decision = .IN_PROGRESS then .IN_PROGRESS else .RESOLVED

/-- The check of `qcDecision` between canonical states. -/
def checkQcTarget (fromCanonicalState targetCanonicalState : DocketState) : Except Failure Unit :=
  throwIf (fromCanonicalState ≠ targetCanonicalState ∧
      ¬canTransition fromCanonicalState targetCanonicalState)
    (invalidStateTransition fromCanonicalState targetCanonicalState)

/-- The status, the state, and the decision, as `qcDecision` sets them. -/
def setDecision (req : QcDecisionRequest) (toState : CaseStatus)
    (targetCanonicalState : DocketState) (docket : Docket) : Docket :=
  { docket with
    status := toPersistenceState toState
    qcDecisionByXID := req.actor.xID.map castXID
    qcDecisionAt := some req.now
    state := some targetCanonicalState }

/-- `qcDecision`, from its decision on. `src` is the docket as it was read, and `docket` has the
decision recorded. -/
def applyDecision (req : QcDecisionRequest) (src : Docket) (toState : CaseStatus) (docket : Docket) :
    Except Failure Docket := do
  let targetCanonicalState := canonicalStateWith docket toState
  checkQcTarget src.canonicalState targetCanonicalState
  let targetLifecycle := toLifecycleFromStatus toState
  validateLifecycleAccess req.actor (normalizeLifecycle docket.lifecycle) targetLifecycle
    (toDocketState src.status)
  -- No decision changes the lifecycle before this, so the source is that of the check itself.
  let docket ← transitionLifecycle (setDecision req toState targetCanonicalState docket)
    targetLifecycle
  let docket ← enforceOwnershipRules (recordAction req.actor req.now docket)
  docket.save

/-- `qcDecision`. -/
def qcDecision (req : QcDecisionRequest) (docket : Docket) : Except Failure Docket := do
  requireComment req.comment "QC action"
  match req.decision with
  | none => throw (makeError "Invalid QC decision")
  | some decision =>
    throwIf (docket.canonicalState ≠ .IN_QC)
      (makeError "QC can only be performed when docket is in QC state")
    applyDecision req docket (qcDecisionStatus decision) (recordQcDecision req decision docket)

/-! ## `reassign` and `activateOnOpen` -/

/-- The arguments of `reassign`. -/
structure ReassignRequest where
  now : Date
  actor : Actor
  toUserXID : String
  comment : String := ""
  deriving DecidableEq, Repr

/-- What `reassign` sets: the new owner, and the fields of a docket in progress. The status stays
as it is. -/
def reassigned (req : ReassignRequest) (docket : Docket) : Docket :=
  { docket with
    assignedToXID := some (castXID req.toUserXID)
    assignedTo := none
    assignedAt := some req.now
    lastActionByXID := req.actor.xID.map castXID
    lastActionAt := some req.now
    state := some .IN_PROGRESS
    queueType := .PERSONAL
    qcOutcome := none }

/-- `reassign`. -/
def reassign (req : ReassignRequest) (docket : Docket) : Except Failure Docket := do
  requireComment req.comment "Reassignment"
  assertNotLockedByAnotherActiveUser req.now docket req.actor
  -- The lifecycle stays as it is, and this check is the only one to look at it.
  throwIf (castXID req.toUserXID = "" ∧ normalizeLifecycle docket.lifecycle = .WL)
    (makeErrorWith "Cannot move to WL without assignment" 400 "WL_ASSIGNMENT_REQUIRED")
  let docket ← enforceOwnershipRules (reassigned req docket)
  docket.save

/-- What `activateOnOpen` sets, beside the lifecycle. -/
def activated (now : Date) (actor : Actor) (docket : Docket) : Docket :=
  { docket with
    status := toPersistenceState .IN_PROGRESS
    state := some .IN_PROGRESS
    qcOutcome := none
    lastActionByXID :=
      (orElse actor.xID (orElse docket.assignedToXID (some "SYSTEM"))).map castXID
    lastActionAt := some now }

/-- `activateOnOpen`. -/
def activateOnOpen (now : Date) (actor : Actor) (docket : Docket) : Except Failure Docket :=
  if normalizeLifecycle docket.lifecycle = .WL then do
    -- The docket's status is not looked at, here or above.
    let docket ← transitionLifecycle docket .ACTIVE
    let docket ← enforceOwnershipRules (activated now actor docket)
    docket.save
  else return docket

/-! ## `pullFromWorkbench` -/

/-- The arguments of `pullFromWorkbench`. -/
structure PullRequest where
  now : Date
  userId : String
  userObjectId : Option ObjectId := none
  assignToXID : Option String := none
  deriving DecidableEq, Repr

/-- The xID that the docket is pulled for, before the schema's setter. -/
def PullRequest.assigneeXID (req : PullRequest) : String :=
  toUpperCase ((orElse req.assignToXID (some req.userId)).getD "")

/-- The filter of `pullFromWorkbench`, beside the identifiers. -/
def pullFilter (docket : Docket) : Bool :=
  -- `assignedToXID` may be `null`, absent, or empty.
  docket.status = toPersistenceState .AVAILABLE && !truthy docket.assignedToXID

/-- The update of `pullFromWorkbench`. -/
def pullUpdate (req : PullRequest) (docket : Docket) : Docket :=
  { docket with
    status := toPersistenceState .ASSIGNED
    lifecycle := .state .WL
    assignedToXID := some (castXID req.assigneeXID)
    assignedTo := req.userObjectId
    assignedAt := some req.now
    lastActionByXID := some (castXID req.userId)
    lastActionAt := some req.now
    queueType := .PERSONAL
    state := some .IN_PROGRESS
    qcOutcome := none
    version := some (docket.version.getD 0 + 1) }

/-- `pullFromWorkbench`. -/
def pullFromWorkbench (req : PullRequest) (docket : Docket) : Except Failure Docket := do
  throwIf (req.assigneeXID = "") (makeError "assignee xID required")
  throwIf (¬pullFilter docket)
    (makeErrorWith "Docket is already assigned" 409 "DOCKET_ALREADY_ASSIGNED")
  return pullUpdate req docket

/-! ## The background jobs

Each job reads the dockets that it selects, and later writes by `_id`, whatever the document then
holds. The fields that it sets are computed from what it read, so a write takes both documents. -/

/-- What the three reopening jobs set alike. -/
def reopenWrite (now : Date) (status : CaseStatus) (state : DocketState) (queueType : QueueType)
    (stored : Docket) : Docket :=
  { stored with
    lifecycle := .state .ACTIVE
    status := status
    state := some state
    queueType := queueType
    reopenAt := none
    pendingUntil := none
    lastActionAt := some now
    lastActionByXID := some "SYSTEM" }

/-- The dockets that `reopenDuePending` reads. -/
def reopenDuePendingSelects (now : Date) (docket : Docket) : Bool :=
  docket.status = .PENDING &&
    ((docket.reopenAt.any fun t => t ≤ now) || (docket.pendingUntil.any fun t => t ≤ now))

/-- The write of `reopenDuePending` for a docket that it has read. -/
def reopenDuePendingWrite (now : Date) (read stored : Docket) : Docket :=
  -- The fields follow from the document read, and the filter of the write is its `_id` alone.
  if hasText read.assignedToXID then
    { reopenWrite now .ASSIGNED .IN_PROGRESS .PERSONAL stored with qcOutcome := none }
  else
    { reopenWrite now (if read.routedToTeamId.isSome then .ROUTED else .UNASSIGNED) .IN_WB .GLOBAL
        stored with
      qcOutcome := none
      assignedToXID := none
      assignedTo := none }

/-- `reopenDuePending`, when nothing happens between its reads and its writes. -/
def reopenDuePending (now : Date) (docket : Docket) : Docket :=
  if reopenDuePendingSelects now docket then reopenDuePendingWrite now docket docket else docket

/-- The status that `reopenDocketFromClientEmail` and `processExpiredPendedDockets` give a docket,
by its ownership. -/
def reopenedStatus (read : Docket) : CaseStatus :=
  toPersistenceState (if hasText read.assignedToXID then .IN_PROGRESS else .AVAILABLE)

/-- The write of `processExpiredPendedDockets` for a docket that it has read as pending. -/
def processExpiredPendedDocketsWrite (now : Date) (read stored : Docket) : Docket :=
  if hasText read.assignedToXID then
    reopenWrite now (reopenedStatus read) .IN_PROGRESS .PERSONAL stored
  else reopenWrite now (reopenedStatus read) .IN_WB .GLOBAL stored

/-- The write of `reopenDocketFromClientEmail` for a docket that it has read as pending. It also
clears the outcome of the quality check and, for a docket without owner, the owner. -/
def reopenDocketFromClientEmailWrite (now : Date) (read stored : Docket) : Docket :=
  let stored := { processExpiredPendedDocketsWrite now read stored with qcOutcome := none }
  if hasText read.assignedToXID then stored
  else { stored with assignedToXID := none, assignedTo := none }

/-- `reopenDocketFromClientEmail`, when nothing happens between its read and its write. -/
def reopenDocketFromClientEmail (now : Date) (docket : Docket) : Docket :=
  if docket.status = toPersistenceState .PENDING then
    reopenDocketFromClientEmailWrite now docket docket
  else docket

/-- The dockets that `handleUserDeactivation` reads. The setter of `assignedToXID` casts the xID in
the query. -/
def handleUserDeactivationSelects (userXID : String) (docket : Docket) : Bool :=
  docket.assignedToXID = some (castXID userXID) && docket.status ≠ .RESOLVED &&
    docket.status ≠ .FILED

/-- The workbasket that `handleUserDeactivation` moves a docket to: the active primary workbasket
of its active subcategory, if it has one. -/
def mappedWorkbasket (env : Lookups) (read : Docket) : Option ObjectId := do
  let name ← if truthy read.category then read.category else none
  -- Only the name of the category is looked up, not its id.
  let category ← env.activeCategory name
  let sub ← category.subcategories.find? fun entry =>
    -- Unlike `findDocketSubcategory`, this compares the words as they are.
    entry.isActive && (some entry.id == read.subcategoryId || some entry.name == read.subcategory ||
      some entry.name == read.caseSubCategory)
  env.activePrimaryTeam (← sub.workbasketId)

/-- The write of `handleUserDeactivation` for a docket that it moves to the workbasket `mappedWb`. -/
def handleUserDeactivationWrite (mappedWb : ObjectId) (stored : Docket) : Docket :=
  { stored with
    -- The lifecycle is left as it is.
    assignedToXID := none
    assignedTo := none
    assignedBy := none
    assignedAt := none
    queueType := .GLOBAL
    state := some .IN_WB
    status := toPersistenceState .AVAILABLE
    ownerTeamId := some mappedWb
    workbasketId := some mappedWb
    qcOutcome := none }

/-- `handleUserDeactivation`, when nothing happens between its reads and its writes. -/
def handleUserDeactivation (env : Lookups) (userXID : String) (docket : Docket) : Docket :=
  if handleUserDeactivationSelects userXID docket then
    match mappedWorkbasket env docket with
    | some mappedWb => handleUserDeactivationWrite mappedWb docket
    | none => docket
  else docket

end Docketra.Workflow
