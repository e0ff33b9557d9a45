import Docketra.Text

/-!
# Statuses, canonical states, and lifecycles

The three vocabularies in which a docket's progress is stored, and the tables that relate them:

- `CaseStatus`, the stored status (`domain/case/caseStatus.js`), with the maps `toDocketState` and
  `toPersistenceState` of `domain/docket/docketStateMachine.js`. A `DocketStatus` is one of the case
  statuses too, so both maps are on `CaseStatus`.
- `DocketState`, the canonical state, which `getCanonicalDocketState` reads off a document
  (`utils/docketStateMapper.js`), with the moves of `utils/docketStateTransitions.js`.
- `Lifecycle`, with the table and the derivations of `domain/docketLifecycle.js`. A document may
  still store one of the older words, so the stored field is a `LifecycleWord`.
-/

namespace Docketra

/-! ## Case statuses -/

/-- The values of `CaseStatus`, which the schema's `status` admits. -/
inductive CaseStatus where
  | OPEN | ASSIGNED | PEND | ROUTED | ROUTED_ASSIGNED | ROUTED_PEND | ROUTED_SUBMITTED | FILED
  | RESOLVED | QC_WB | QC_ASSIGNED | QC_PASS | QC_FAIL | QC_CORRECTED
  | CREATED | AVAILABLE | UNASSIGNED | IN_PROGRESS | PENDING | QC_PENDING | QC_FAILED | CLOSED
  | DRAFT | SUBMITTED | UNDER_REVIEW | APPROVED | REJECTED | RETURNED
  /-- `'Reviewed'` -/
  | REVIEWED
  /-- `'Open'` -/
  | OPEN_LEGACY
  /-- `'Pending'` -/
  | PENDING_LEGACY
  /-- `'Filed'` -/
  | FILED_LEGACY
  /-- `'Archived'` -/
  | ARCHIVED
  deriving DecidableEq, Repr

namespace CaseStatus

/-- The stored word of a status. -/
def value : CaseStatus → String
  | OPEN => "OPEN"
  | ASSIGNED => "ASSIGNED"
  | PEND => "PEND"
  | ROUTED => "ROUTED"
  | ROUTED_ASSIGNED => "ROUTED_ASSIGNED"
  | ROUTED_PEND => "ROUTED_PEND"
  | ROUTED_SUBMITTED => "ROUTED_SUBMITTED"
  | FILED => "FILED"
  | RESOLVED => "RESOLVED"
  | QC_WB => "QC_WB"
  | QC_ASSIGNED => "QC_ASSIGNED"
  | QC_PASS => "QC_PASS"
  | QC_FAIL => "QC_FAIL"
  | QC_CORRECTED => "QC_CORRECTED"
  | CREATED => "CREATED"
  | AVAILABLE => "AVAILABLE"
  | UNASSIGNED => "UNASSIGNED"
  | IN_PROGRESS => "IN_PROGRESS"
  | PENDING => "PENDING"
  | QC_PENDING => "QC_PENDING"
  | QC_FAILED => "QC_FAILED"
  | CLOSED => "CLOSED"
  | DRAFT => "DRAFT"
  | SUBMITTED => "SUBMITTED"
  | UNDER_REVIEW => "UNDER_REVIEW"
  | APPROVED => "APPROVED"
  | REJECTED => "REJECTED"
  | RETURNED => "RETURNED"
  | REVIEWED => "Reviewed"
  | OPEN_LEGACY => "Open"
  | PENDING_LEGACY => "Pending"
  | FILED_LEGACY => "Filed"
  | ARCHIVED => "Archived"

/-- `String(status).trim().toUpperCase()`, which is how the mappings compare a status. The
upper-cased words of `Reviewed` and `Archived` are in none of their tables, so these two stay. -/
def normalize : CaseStatus → CaseStatus
  | OPEN_LEGACY => OPEN
  | PENDING_LEGACY => PENDING
  | FILED_LEGACY => FILED
  | s => s

end CaseStatus

/-- `normalizeStatus` of `domain/case/caseStateMachine.js`. -/
def normalizeStatus : CaseStatus → CaseStatus
  | .PENDING_LEGACY => .PENDING
  | .OPEN_LEGACY => .OPEN
  | .FILED_LEGACY => .FILED
  | .ARCHIVED => .FILED
  | s => s

/-- `toDocketState`: the docket status of a stored status. -/
def toDocketState : CaseStatus → CaseStatus
  | .UNASSIGNED => .AVAILABLE
  | .OPEN => .ASSIGNED
  | .OPEN_LEGACY => .ASSIGNED
  | .PENDING_LEGACY => .PENDING
  | .FILED_LEGACY => .FILED
  | s => s

/-- `toPersistenceState`: the status that a docket status is stored as. -/
def toPersistenceState : CaseStatus → CaseStatus
  | .CREATED => .UNASSIGNED
  | .AVAILABLE => .UNASSIGNED
  | s => s

/-! ## Canonical states -/

/-- The canonical states of a docket, `CANONICAL_DOCKET_STATES`. -/
inductive DocketState where
  | IN_WB | IN_PROGRESS | IN_QC | PENDED | RESOLVED | FILED
  deriving DecidableEq, Repr

/-- The word of a canonical state. -/
def DocketState.value : DocketState → String
  | .IN_WB => "IN_WB"
  | .IN_PROGRESS => "IN_PROGRESS"
  | .IN_QC => "IN_QC"
  | .PENDED => "PENDED"
  | .RESOLVED => "RESOLVED"
  | .FILED => "FILED"

/-- The queue that a docket is in. -/
inductive QueueType where
  | GLOBAL | PERSONAL
  deriving DecidableEq, Repr

/-- The fields that `getCanonicalDocketState` reads, each of which its argument may lack. -/
structure DocketView where
  status : Option CaseStatus := none
  state : Option DocketState := none
  assignedToXID : Option String := none
  queueType : Option QueueType := none
  deriving DecidableEq, Repr

/-- The end of `getCanonicalDocketState`, once status and state have not decided. -/
def ownershipState (docket : DocketView) : DocketState :=
  if hasText docket.assignedToXID then .IN_PROGRESS
  else if docket.queueType = some .PERSONAL then .IN_PROGRESS
  else .IN_WB

/-- `getCanonicalDocketState`. -/
def getCanonicalDocketState (docket : DocketView) : DocketState :=
  match docket.status with
  | some status =>
    match status.normalize with
    | .RESOLVED => .RESOLVED
    | .FILED => .FILED
    | .QC_PENDING => .IN_QC
    | .PENDING => .PENDED
    | .ROUTED => .IN_WB
    | .ASSIGNED => .IN_PROGRESS
    | .IN_PROGRESS => .IN_PROGRESS
    | .ROUTED_ASSIGNED => .IN_PROGRESS
    | .OPEN => if truthy docket.assignedToXID then .IN_PROGRESS else .IN_WB
    -- Every other status leaves the decision to owner and queue; the stored state is not asked.
    | _ => ownershipState docket
  | none => docket.state.getD (ownershipState docket)

/-- The moves of `ALLOWED_TRANSITIONS`. -/
def allowedTransitions : DocketState → List DocketState
  | .IN_WB => [.IN_PROGRESS]
  | .IN_PROGRESS => [.IN_QC, .PENDED, .RESOLVED]
  | .PENDED => [.IN_PROGRESS, .IN_WB]
  | .IN_QC => [.RESOLVED, .IN_PROGRESS]
  | .RESOLVED => []
  | .FILED => []

/-- `canTransition`. -/
def canTransition (src tgt : DocketState) : Bool := tgt ∈ allowedTransitions src

/-- `canResolve`. -/
def canResolve (state : DocketState) : Bool := state = .IN_PROGRESS || state = .IN_QC

/-- `canFile`. -/
def canFile (_state : DocketState) : Bool := true

/-! ## Lifecycles -/

/-- The lifecycle states, `STATES`. The aliases of `DocketLifecycle` (`CREATED`, `IN_WORKLIST`,
`COMPLETED`, `ARCHIVED`) are names of these. -/
inductive Lifecycle where
  | WL | ACTIVE | WAITING | DONE
  deriving DecidableEq, Repr

namespace Lifecycle

/-- The word of a lifecycle state. -/
def value : Lifecycle → String
  | WL => "WL"
  | ACTIVE => "ACTIVE"
  | WAITING => "WAITING"
  | DONE => "DONE"

/-- `TRANSITIONS`. -/
def transitions : Lifecycle → List Lifecycle
  | WL => [ACTIVE, WAITING]
  | ACTIVE => [WAITING, DONE]
  -- Nothing leads from `WAITING` to `DONE`, or back to `WL`.
  | WAITING => [ACTIVE]
  | DONE => []

end Lifecycle

/-- What a document's `lifecycle` may hold, up to the letter case and white space that every reader
of the field drops: a lifecycle state, one of the older words of `LEGACY_LIFECYCLE_TO_DOCKET`, or
some other word. A document without the field is read with the schema's default, `WL`. -/
inductive LifecycleWord where
  | state (l : Lifecycle)
  | ASSIGNED | IN_PROGRESS | REVIEW | CREATED | IN_WORKLIST | COMPLETED | ARCHIVED
  | other (word : String)
  deriving DecidableEq, Repr

/-- `isValidTransition`. -/
def isValidTransition (src tgt : Lifecycle) : Bool := tgt ∈ src.transitions

/-- `toLifecycleFromStatus`. -/
def toLifecycleFromStatus (status : CaseStatus) : Lifecycle :=
  match status.normalize with
  | .PENDING => .WAITING
  | .QC_PENDING => .WAITING
  | .RESOLVED => .DONE
  | .FILED => .DONE
  | .CLOSED => .DONE
  | .ASSIGNED => .WL
  | .ROUTED_ASSIGNED => .WL
  | _ => .ACTIVE

/-- `coerceLifecycleToDocket`. -/
def coerceLifecycleToDocket : LifecycleWord → Option Lifecycle
  | .state l => some l
  | .ASSIGNED => some .WL
  | .IN_PROGRESS => some .ACTIVE
  | .REVIEW => some .ACTIVE
  | .CREATED => some .WL
  | .IN_WORKLIST => some .WL
  | .COMPLETED => some .DONE
  | .ARCHIVED => some .DONE
  | .other _ => none

/-- `normalizeLifecycle`. -/
def normalizeLifecycle (word : LifecycleWord) : Lifecycle :=
  (coerceLifecycleToDocket word).getD .WL

/-- `deriveLifecycle`. -/
def deriveLifecycle (lifecycle : LifecycleWord) (assignedToXID : Option String)
    (status : CaseStatus) : Lifecycle :=
  match coerceLifecycleToDocket lifecycle with
  | some coerced => coerced
  | none =>
    let ns := normalizeStatus status
    if ns = .RESOLVED ∨ ns = .CLOSED ∨ ns = .FILED then .DONE
    else if ¬truthy assignedToXID then .WL
    else if ns = .PENDING ∨ ns = .QC_PENDING then .WAITING
    else .ACTIVE

@[simp] theorem normalizeLifecycle_state (l : Lifecycle) : normalizeLifecycle (.state l) = l := rfl

@[simp] theorem deriveLifecycle_state (l : Lifecycle) (x : Option String) (s : CaseStatus) :
    deriveLifecycle (.state l) x s = l := rfl

end Docketra
