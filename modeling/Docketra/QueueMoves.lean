import Docketra.Coherence

/-!
# Moves between queues

`moveDocket` of `controllers/docketWorkflow.controller.js` puts a docket into the worklist of a user,
into a workbasket, or into a QC workbasket. The move to a worklist writes status, state, lifecycle,
queue, and owner together. The move to a workbasket writes the queue and takes the owner, and leaves
status and state: a docket in progress is then in progress without an owner in the global queue
(`movesCoherently_iff`). A finished docket is not moved at all (`isTerminal_of_moveDocket`).

The docket is read once and updated once. The history entry is written after the update, and is left
out.
-/

namespace Docketra.QueueMoves

open Checked

/-! ## The firm -/

inductive TeamType where
  | PRIMARY | QC
  deriving DecidableEq, Repr

structure Team where
  _id : ObjectId
  type : TeamType
  isActive : Bool
  managerId : Option ObjectId
  deriving DecidableEq, Repr

structure User where
  _id : ObjectId
  xID : String
  isActive : Bool
  managerId : Option ObjectId
  /-- The schema requires an xID. -/
  xID_given : isBlank xID = false

/-- The teams and the users of a firm. -/
structure Firm where
  teams : List Team
  users : List User

/-- `req.user`. -/
structure Viewer where
  _id : ObjectId
  xID : String
  role : Role
  teamIds : List ObjectId
  deriving DecidableEq, Repr

/-- `getFirmUserByXid`. -/
def getFirmUserByXid (firm : Firm) (xID : Option String) : Option User :=
  firm.users.find? fun user => user.xID == toUpperCase (xID.getD "") && user.isActive

/-- The active team that the request names. -/
def findTeam (firm : Firm) (destinationId : Option ObjectId) : Option Team :=
  firm.teams.find? fun team => some team._id == destinationId && team.isActive

/-! ## Who may move a docket where -/

/-- `isTerminal` of `services/workbasketAuthorization.service.js`. -/
def isTerminal (docket : Docket) : Bool :=
  docket.status.normalize ∈ [CaseStatus.RESOLVED, .FILED] ||
    docket.state ∈ [some DocketState.RESOLVED, some .FILED]

/-- What a manager may move dockets from and to. -/
structure ManagerScope where
  permittedTeamIds : List ObjectId
  permittedUserXids : List String
  deriving DecidableEq, Repr

/-- The teams and users of `moveDocket`, of which a manager's own are looked up. -/
def managerScope (firm : Firm) (viewer : Viewer) : ManagerScope :=
  let owned := firm.teams.filter fun team => team.managerId == some viewer._id && team.isActive
  let managed := firm.users.filter fun user => user.managerId == some viewer._id && user.isActive
  if viewer.role = .MANAGER then
    { permittedTeamIds := viewer.teamIds ++ owned.map Team._id
      permittedUserXids := toUpperCase viewer.xID :: managed.map fun user => toUpperCase user.xID }
  else ⟨viewer.teamIds, [toUpperCase viewer.xID]⟩

/-- The xIDs of a scope, as they are compared. -/
def ManagerScope.permitsUser (scope : ManagerScope) (xID : String) : Bool :=
  castXID xID != "" && (scope.permittedUserXids.map castXID).contains (castXID xID)

/-- Where a docket is moved to. -/
inductive Destination where
  | worklist (user : User)
  | workbasket (team : Team)

def canAccessSource (scope : ManagerScope) (docket : Docket) : Bool :=
  (docket.ownerTeamId.or docket.workbasketId).any scope.permittedTeamIds.contains ||
    scope.permitsUser (docket.assignedToXID.getD "")

def canAccessDestination (scope : ManagerScope) : Destination → Bool
  | .worklist user => scope.permitsUser user.xID
  | .workbasket team => scope.permittedTeamIds.contains team._id

/-- `canMoveDocketBetweenQueues`. -/
def canMoveDocketBetweenQueues (scope : ManagerScope) (viewer : Viewer) (docket : Docket)
    (destination : Destination) : Bool :=
  match viewer.role with
  | .ADMIN | .PRIMARY_ADMIN => !isTerminal docket
  | .MANAGER =>
    !isTerminal docket && canAccessSource scope docket && canAccessDestination scope destination
  | .SUPER_ADMIN | .USER | .SYSTEM => false

/-! ## The move -/

/-- `destinationType`. The route for worklists admits any word. -/
inductive DestinationType where
  | USER_WORKLIST
  | WORKBASKET
  | QC_WORKBASKET
  | other (word : String)
  deriving DecidableEq, Repr

structure MoveRequest where
  destinationType : DestinationType
  assigneeXID : Option String := none
  destinationId : Option ObjectId := none
  deriving DecidableEq, Repr

def answer (statusCode : Nat) (message : String) : Failure :=
  { message := message, statusCode := some statusCode }

/-- The destination of a request, with the fields that are written for it. -/
def resolveDestination (firm : Firm) (req : MoveRequest) : Except Failure Destination :=
  match req.destinationType with
  | .USER_WORKLIST =>
    match getFirmUserByXid firm req.assigneeXID with
    | none => .error (answer 404 "Destination assignee not found")
    | some assignee => .ok (.worklist assignee)
  | destinationType =>
    match findTeam firm req.destinationId with
    | none => .error (answer 404 "Destination queue not found for this firm")
    | some team =>
      if destinationType = .WORKBASKET ∧ team.type = .QC then
        .error (answer 400 "Destination must be a primary workbasket")
      else if destinationType = .QC_WORKBASKET ∧ team.type ≠ .QC then
        .error (answer 400 "Destination must be a QC workbasket")
      else .ok (.workbasket team)

/-- The update of a move. The schema has no `assignedToName`. -/
def updated (docket : Docket) : Destination → Docket
  | .worklist assignee =>
    { docket with
      assignedToXID := some (castXID assignee.xID)
      assignedTo := some assignee._id
      queueType := .PERSONAL
      status := .ASSIGNED
      state := some .IN_PROGRESS
      lifecycle := .state .WL }
  | .workbasket team =>
    -- Neither the status nor the state.
    { docket with
      ownerTeamId := some team._id
      workbasketId := some team._id
      routedToTeamId := none
      assignedToXID := none
      assignedTo := none
      queueType := .GLOBAL }

/-- `moveDocket`, on the docket that it finds: the docket that is stored. -/
def moveDocket (firm : Firm) (viewer : Viewer) (req : MoveRequest) (docket : Docket) :
    Except Failure Docket := do
  let destination ← resolveDestination firm req
  throwIf (¬canMoveDocketBetweenQueues (managerScope firm viewer) viewer docket destination)
    (answer 403 "Not allowed to move this docket")
  return updated docket destination

variable {firm : Firm} {viewer : Viewer} {req : MoveRequest} {docket stored : Docket}

/-- What a move that is permitted does. -/
theorem moveDocket_eq_ok :
    moveDocket firm viewer req docket = .ok stored ↔
      ∃ destination, resolveDestination firm req = .ok destination ∧
        canMoveDocketBetweenQueues (managerScope firm viewer) viewer docket destination = true ∧
        stored = updated docket destination := by
  simp only [moveDocket, bind_eq_ok, throwIf_eq_ok, not_not, pure_eq, Except.ok.injEq,
    exists_const, eq_comm (a := updated docket _)]

/-- A destination is a worklist exactly for the type of worklists. -/
theorem resolveDestination_eq_ok {destination : Destination}
    (h : resolveDestination firm req = .ok destination) :
    (∃ user, destination = .worklist user) ↔ req.destinationType = .USER_WORKLIST := by
  unfold resolveDestination at h
  split at h
  · next htype =>
    refine iff_of_true ?_ htype
    split at h
    · exact absurd h (by simp)
    · next user _ => exact ⟨user, (Except.ok.inj h).symm⟩
  · next htype =>
    refine iff_of_false ?_ htype
    rintro ⟨user, rfl⟩
    split at h
    · exact absurd h (by simp)
    · split_ifs at h
      exact absurd h (by simp)

/-- A finished docket is not moved. -/
theorem isTerminal_of_moveDocket (h : moveDocket firm viewer req docket = .ok stored) :
    isTerminal docket = false := by
  obtain ⟨destination, -, hpermitted, -⟩ := moveDocket_eq_ok.mp h
  unfold canMoveDocketBetweenQueues at hpermitted
  split at hpermitted
  · simpa using hpermitted
  · simpa using hpermitted
  · simp only [Bool.and_eq_true, Bool.not_eq_eq_eq_not, Bool.not_true] at hpermitted
    exact hpermitted.1.1
  all_goals exact absurd hpermitted Bool.false_ne_true

/-! ## Coherence -/

/-- A docket in a worklist is coherent, wherever it was before. -/
theorem coherent_worklist (docket : Docket) (user : User) :
    Coherent (updated docket (.worklist user)) :=
  coherent_inProgress rfl ((truthy_castXID user.xID).mpr user.xID_given) rfl rfl

/-- Without an owner in the global queue, a docket that is not in progress keeps its canonical
state. -/
theorem canonicalState_workbasket (h : docket.canonicalState ≠ .IN_PROGRESS) (team : Team) :
    (updated docket (.workbasket team)).canonicalState = docket.canonicalState := by
  simp only [Docket.canonicalState, Docket.view, getCanonicalDocketState, ownershipState,
    updated] at h ⊢
  -- The status decides, or else owner and queue have said `IN_WB` already.
  generalize docket.status.normalize = status at h ⊢
  cases status <;> grind [truthy_none, hasText_none]

/-- In a workbasket, a docket that was coherent is so unless it was in progress. -/
theorem coherent_workbasket_iff (hd : Coherent docket) (team : Team) :
    Coherent (updated docket (.workbasket team)) ↔ docket.state ≠ some .IN_PROGRESS := by
  have hstate : (updated docket (.workbasket team)).state = docket.state := rfl
  constructor
  · -- A docket in progress has an owner, and the move has taken it.
    intro h hprogress
    have howned : truthy none = true := (h.worklist (hstate.trans hprogress)).1
    exact absurd howned Bool.false_ne_true
  · intro hprogress
    have hcanonical : docket.canonicalState ≠ .IN_PROGRESS := by
      rw [hd.state] at hprogress
      exact fun h => hprogress (congrArg some h)
    refine ⟨?_, fun _ => ⟨rfl, rfl⟩, fun h => absurd (hstate.symm.trans h) hprogress⟩
    rw [canonicalState_workbasket hcanonical, hstate]
    exact hd.state

/-- What a move is to leave: a coherent docket, and a finished one where it was. -/
structure MovesCoherently (docket stored : Docket) : Prop where
  coherent : Coherent stored
  status : docket.status ∈ [CaseStatus.RESOLVED, .FILED] →
    stored.status ∈ [CaseStatus.RESOLVED, .FILED]
  owner : docket.status ∈ [CaseStatus.RESOLVED, .FILED] →
    stored.assignedToXID = none ∨ stored.assignedToXID = docket.assignedToXID

instance (docket stored : Docket) : Decidable (MovesCoherently docket stored) :=
  decidable_of_iff
    (Coherent stored ∧
      (docket.status ∈ [CaseStatus.RESOLVED, .FILED] →
        stored.status ∈ [CaseStatus.RESOLVED, .FILED]) ∧
      (docket.status ∈ [CaseStatus.RESOLVED, .FILED] →
        stored.assignedToXID = none ∨ stored.assignedToXID = docket.assignedToXID))
    ⟨fun ⟨h₁, h₂, h₃⟩ => ⟨h₁, h₂, h₃⟩, fun ⟨h₁, h₂, h₃⟩ => ⟨h₁, h₂, h₃⟩⟩

/-- The status of a docket that is moved is none of the two. -/
theorem status_of_moveDocket (h : moveDocket firm viewer req docket = .ok stored) :
    docket.status ∉ [CaseStatus.RESOLVED, .FILED] := by
  intro hstatus
  have hterminal := isTerminal_of_moveDocket h
  have hnormal : docket.status.normalize = docket.status := by
    simp only [List.mem_cons, List.not_mem_nil, or_false] at hstatus
    obtain hstatus | hstatus := hstatus
    · rw [hstatus]
      rfl
    · rw [hstatus]
      rfl
  rw [isTerminal, hnormal, decide_eq_true hstatus] at hterminal
  exact absurd hterminal (by simp)

/-- A coherent docket is moved coherently exactly to a worklist, or when it is not in progress. -/
theorem movesCoherently_iff (hd : Coherent docket)
    (h : moveDocket firm viewer req docket = .ok stored) :
    MovesCoherently docket stored ↔
      req.destinationType = .USER_WORKLIST ∨ docket.state ≠ some .IN_PROGRESS := by
  -- A finished docket is not moved, so that only coherence is left to ask.
  have hstatus := status_of_moveDocket h
  have hcoherent : MovesCoherently docket stored ↔ Coherent stored :=
    ⟨fun hm => hm.coherent,
      fun hc => ⟨hc, fun hs => absurd hs hstatus, fun hs => absurd hs hstatus⟩⟩
  obtain ⟨destination, hdestination, -, rfl⟩ := moveDocket_eq_ok.mp h
  rw [hcoherent, ← resolveDestination_eq_ok hdestination]
  cases destination with
  | worklist user => exact iff_of_true (coherent_worklist docket user) (Or.inl ⟨user, rfl⟩)
  | workbasket team =>
    rw [coherent_workbasket_iff hd team]
    exact ⟨Or.inr, fun hor => hor.resolve_left fun ⟨_, huser⟩ => by simp at huser⟩

/-! ## A docket taken out of a worklist -/

def administrator : Viewer where
  _id := ⟨"u9"⟩
  xID := "X000009"
  role := .ADMIN
  teamIds := []

/-- A firm with two workbaskets. -/
def twoWorkbaskets : Firm where
  teams := [⟨⟨"t1"⟩, .PRIMARY, true, none⟩, ⟨⟨"t2"⟩, .PRIMARY, true, none⟩]
  users := []

def toSecondWorkbasket : MoveRequest where
  destinationType := .WORKBASKET
  destinationId := some ⟨"t2"⟩

/-- A docket in the first workbasket. -/
def basketDocket : Docket where
  status := .UNASSIGNED
  state := some .IN_WB
  ownerTeamId := some ⟨"t1"⟩
  workbasketId := some ⟨"t1"⟩

theorem movesCoherently_basketDocket :
    MovesCoherently basketDocket (updated basketDocket
      (.workbasket ⟨⟨"t2"⟩, .PRIMARY, true, none⟩)) ↔
      toSecondWorkbasket.destinationType = .USER_WORKLIST ∨
        basketDocket.state ≠ some .IN_PROGRESS :=
  movesCoherently_iff (by decide)
    (rfl : moveDocket twoWorkbaskets administrator toSecondWorkbasket basketDocket = .ok _)

/-- A docket at work, of the first workbasket. -/
def workedDocket : Docket where
  status := .IN_PROGRESS
  state := some .IN_PROGRESS
  lifecycle := .state .ACTIVE
  queueType := .PERSONAL
  assignedToXID := some "X000001"
  ownerTeamId := some ⟨"t1"⟩
  workbasketId := some ⟨"t1"⟩

/-- It is coherent, and may be moved to the second workbasket, where it is not. -/
theorem movesCoherently_fails :
    Coherent workedDocket ∧
      ∃ stored, moveDocket twoWorkbaskets administrator toSecondWorkbasket workedDocket =
        .ok stored ∧ ¬MovesCoherently workedDocket stored :=
  ⟨by decide, _, rfl, by decide⟩

end Docketra.QueueMoves
