import Docketra.Docket

/-!
# The routing service

`services/docketRouting.service.js`. Each function reads the docket, makes its checks, sets some of
its fields, and saves it. The teams and users that a function looks up are given as predicates.
-/

namespace Docketra.Routing

open Checked

/-- `makeError` of this service, whose failures carry no code. -/
def makeError (message : String) (statusCode : Nat) : Failure :=
  { message := message, statusCode := some statusCode }

/-- `requireComment` of this service. -/
def requireComment (note context : String) : Except Failure Unit :=
  throwIf (isBlank note) (makeError (context ++ " requires comment") 400)

/-- `isAdmin`. -/
def isAdmin : Role → Bool
  | .ADMIN => true
  | .PRIMARY_ADMIN => true
  | .SUPER_ADMIN => true
  | _ => false

/-- `String(actor.xID || '').toUpperCase()`, as the schema's setters store it. -/
def actorXID (actor : Actor) : String := castXID (actor.xID.getD "")

/-- The actor's team is the team that the docket is routed to. -/
def isRoutedTeam (actor : Actor) (docket : Docket) : Bool :=
  docket.routedToTeamId.isSome && docket.routedToTeamId = actor.teamId

/-! ## `routeDocket` -/

/-- The arguments of `routeDocket`. -/
structure RouteRequest where
  now : Date
  actor : Actor
  toTeamId : ObjectId
  note : String := ""
  deriving DecidableEq, Repr

/-- What `routeDocket` sets. -/
def routed (req : RouteRequest) (docket : Docket) : Docket :=
  { docket with
    routedToTeamId := some req.toTeamId
    ownerTeamId := some req.toTeamId
    workbasketId := some req.toTeamId
    routedByUserId := some (actorXID req.actor)
    routedAt := some req.now
    routingNote := some (trim req.note)
    status := .ROUTED
    state := some .IN_WB
    queueType := .GLOBAL
    assignedToXID := none
    assignedTo := none
    -- The team and the workbasket that the docket has been in, for its return.
    routeOriginatorUserXID := some (actorXID req.actor)
    routeOriginatorTeamId := docket.ownerTeamId
    routeOriginatorWorkbasketId := docket.workbasketId }

/-- `routeDocket`. `primaryTeam` tells the active primary teams of the firm. -/
def routeDocket (primaryTeam : ObjectId → Bool) (req : RouteRequest) (docket : Docket) :
    Except Failure Docket := do
  throwIf (req.actor.teamId = none) (makeError "User does not belong to any team" 400)
  requireComment req.note "Route"
  throwIf (docket.canonicalState = .RESOLVED ∨ docket.canonicalState = .FILED)
    (makeError "Terminal dockets cannot be routed" 409)
  throwIf (¬isAdmin req.actor.role ∧ docket.ownerTeamId ≠ req.actor.teamId ∧
      docket.routedToTeamId ≠ req.actor.teamId)
    (makeError "Only owner team, routed team, or admin can route docket" 403)
  throwIf (¬primaryTeam req.toTeamId)
    (makeError "Target workbasket must be an active PRIMARY team in this firm" 404)
  throwIf (docket.ownerTeamId = some req.toTeamId) (makeError "Cannot route to owner team" 400)
  (routed req docket).save

/-! ## The routed team -/

/-- `acceptRoutedDocket`. -/
def acceptRoutedDocket (actor : Actor) (docket : Docket) : Except Failure Docket := do
  throwIf (¬isRoutedTeam actor docket) (makeError "Only routed team can accept" 403)
  -- The status alone: owner, queue, and state stay.
  { docket with status := .IN_PROGRESS }.save

/-- The arguments of `returnRoutedDocket`. -/
structure ReturnRequest where
  now : Date
  actor : Actor
  note : String := ""
  deriving DecidableEq, Repr

/-- The user that a routed docket goes back to. -/
def originatorXID (docket : Docket) : String :=
  toUpperCase ((orElse docket.routeOriginatorUserXID docket.routedByUserId).getD "")

/-- What `returnRoutedDocket` sets. -/
def returned (req : ReturnRequest) (docket : Docket) : Docket :=
  { docket with
    routedToTeamId := none
    -- A docket routed before the originator was recorded stays with its team.
    ownerTeamId := docket.routeOriginatorTeamId.or docket.ownerTeamId
    workbasketId := docket.routeOriginatorWorkbasketId.or docket.workbasketId
    assignedToXID := some (castXID (originatorXID docket))
    queueType := .PERSONAL
    state := some .IN_PROGRESS
    status := .IN_PROGRESS
    routingNote := some (trim req.note)
    routeReturnedAt := some req.now
    routeOriginatorUserXID := none
    routeOriginatorTeamId := none
    routeOriginatorWorkbasketId := none }

/-- `returnRoutedDocket`. -/
def returnRoutedDocket (req : ReturnRequest) (docket : Docket) : Except Failure Docket := do
  requireComment req.note "Submit"
  throwIf (¬isRoutedTeam req.actor docket)
    (makeError "Only routed team can submit routed docket" 403)
  throwIf (toUpperCase (docket.assignedToXID.getD "") ≠ toUpperCase (req.actor.xID.getD ""))
    (makeError "Only assigned routed user can submit" 403)
  throwIf (originatorXID docket = "") (makeError "Routed docket is missing originator" 409)
  (returned req docket).save

/-- `transitionRoutedTeamStatus`. -/
def transitionRoutedTeamStatus (actor : Actor) (status : CaseStatus) (docket : Docket) :
    Except Failure Docket := do
  throwIf (status ≠ .IN_PROGRESS ∧ status ≠ .PENDING)
    (makeError "Invalid status for routed team" 400)
  throwIf (¬isRoutedTeam actor docket) (makeError "Only routed team can update routed status" 403)
  -- The status alone here too; the schema asks for a reason when it is `PENDING`.
  { docket with status := status }.save

/-! ## The owner team -/

/-- `resolveDocketWithTeamRestriction`. -/
def resolveDocketWithTeamRestriction (actor : Actor) (docket : Docket) :
    Except Failure Docket := do
  throwIf (docket.ownerTeamId ≠ actor.teamId) (makeError "Only owner team can resolve" 403)
  throwIf docket.routedToTeamId.isSome (makeError "Cannot resolve while docket is routed" 409)
  -- Any status may be resolved, and the lifecycle stays.
  { docket with status := .RESOLVED }.save

/-- The target of `managerMoveDocket`: a user's worklist, the workbasket, or neither. -/
inductive MoveTarget where
  | WL (userXID : String)
  | WB
  | invalid
  deriving DecidableEq, Repr

/-- What `managerMoveDocket` sets, for a docket moved to a user or, without one, to the
workbasket. -/
def moved (actor : Actor) (userXID : Option String) (docket : Docket) : Docket :=
  { docket with
    assignedToXID := userXID.map castXID
    status := if userXID.isSome then .IN_PROGRESS else .UNASSIGNED
    -- State and queue stay.
    routedToTeamId := actor.teamId }

/-- `managerMoveDocket`. `teamUser` tells the users of a team that are not deleted. -/
def managerMoveDocket (teamUser : String → Option ObjectId → Bool) (actor : Actor)
    (target : MoveTarget) (docket : Docket) : Except Failure Docket := do
  throwIf (actor.role ≠ .MANAGER) (makeError "Manager role required" 403)
  throwIf (docket.ownerTeamId ≠ actor.teamId) (makeError "Cross-team movement is forbidden" 403)
  match target with
  | .WL userXID =>
    throwIf (¬teamUser (toUpperCase userXID) actor.teamId)
      (makeError "Target user must be in manager team" 400)
    (moved actor (some (toUpperCase userXID)) docket).save
  | .WB => (moved actor none docket).save
  | .invalid => throw (makeError "Invalid target type. Use WL or WB" 400)

/-! ## What the operations do

For each function, the checks that a call passes when it returns, and the docket that it stores. -/

theorem routeDocket_ok {primaryTeam : ObjectId → Bool} {req : RouteRequest} {docket t : Docket}
    (h : routeDocket primaryTeam req docket = .ok t) :
    docket.canonicalState ≠ .RESOLVED ∧ docket.canonicalState ≠ .FILED ∧
      (routed req docket).save = .ok t := by
  simp only [routeDocket, requireComment, bind_eq_ok, throwIf_eq_ok, exists_const, not_or] at h
  obtain ⟨-, -, ⟨hresolved, hfiled⟩, -, -, -, hsave⟩ := h
  exact ⟨hresolved, hfiled, hsave⟩

theorem acceptRoutedDocket_eq_ok {actor : Actor} {docket t : Docket} :
    acceptRoutedDocket actor docket = .ok t ↔
      isRoutedTeam actor docket = true ∧ { docket with status := .IN_PROGRESS }.save = .ok t := by
  simp [acceptRoutedDocket]

theorem returnRoutedDocket_eq_ok {req : ReturnRequest} {docket t : Docket} :
    returnRoutedDocket req docket = .ok t ↔
      isBlank req.note = false ∧ isRoutedTeam req.actor docket = true ∧
        toUpperCase (docket.assignedToXID.getD "") = toUpperCase (req.actor.xID.getD "") ∧
        originatorXID docket ≠ "" ∧ (returned req docket).save = .ok t := by
  simp [returnRoutedDocket, requireComment]

theorem transitionRoutedTeamStatus_eq_ok {actor : Actor} {status : CaseStatus}
    {docket t : Docket} :
    transitionRoutedTeamStatus actor status docket = .ok t ↔
      (status = .IN_PROGRESS ∨ status = .PENDING) ∧ isRoutedTeam actor docket = true ∧
        { docket with status := status }.save = .ok t := by
  simp only [transitionRoutedTeamStatus, bind_eq_ok, throwIf_eq_ok, exists_const, not_not]
  rw [← not_or, not_not]

theorem resolveDocketWithTeamRestriction_eq_ok {actor : Actor} {docket t : Docket} :
    resolveDocketWithTeamRestriction actor docket = .ok t ↔
      docket.ownerTeamId = actor.teamId ∧ docket.routedToTeamId = none ∧
        { docket with status := .RESOLVED }.save = .ok t := by
  simp [resolveDocketWithTeamRestriction]

/-- The user that a target of `managerMoveDocket` names, when the target is accepted. -/
def MoveTarget.user (teamUser : String → Option ObjectId → Bool) (teamId : Option ObjectId) :
    MoveTarget → Option (Option String)
  | .WL userXID => if teamUser (toUpperCase userXID) teamId then some (some (toUpperCase userXID))
    else none
  | .WB => some none
  | .invalid => none

theorem managerMoveDocket_eq_ok {teamUser : String → Option ObjectId → Bool} {actor : Actor}
    {target : MoveTarget} {docket t : Docket} :
    managerMoveDocket teamUser actor target docket = .ok t ↔
      actor.role = .MANAGER ∧ docket.ownerTeamId = actor.teamId ∧
        ∃ user, target.user teamUser actor.teamId = some user ∧
          (moved actor user docket).save = .ok t := by
  cases target <;>
    simp [managerMoveDocket, MoveTarget.user]

end Docketra.Routing
