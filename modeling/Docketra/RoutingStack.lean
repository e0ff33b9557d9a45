import Docketra.Pulling
import Docketra.Routing

/-!
# Routing a docket away and back

A docket may be routed on by the team that it was routed to. A journey is a list of legs, each of
them a route, a pull in the target team, and the return that belongs to the route. The routes and
the pulls happen from the first leg to the last, the returns from the last to the first.

Each route keeps where the docket was before it in one place on the document, over what the route
before it kept there, and each return ends the routing altogether. So a journey unwinds when it has
one leg at most, and the docket came from a team and a workbasket (`unwinds_iff`).
-/

namespace Docketra.Routing

open Checked

/-- Where a docket is: the fields that a route moves and a return is to restore. -/
structure Placement where
  ownerTeamId : Option ObjectId
  workbasketId : Option ObjectId
  routedToTeamId : Option ObjectId
  deriving DecidableEq, Repr

/-- Where a docket is. -/
def placement (docket : Docket) : Placement :=
  ⟨docket.ownerTeamId, docket.workbasketId, docket.routedToTeamId⟩

/-- One route of a docket, the pull that follows it, and the return that belongs to it. -/
structure Leg where
  route : RouteRequest
  pull : Pull
  back : ReturnRequest

variable (primaryTeam : ObjectId → Bool)

/-- The route and the pull of a leg. -/
def Leg.go (leg : Leg) (docket : Docket) : Option Docket :=
  (routeDocket primaryTeam leg.route docket).toOption.bind leg.pull.attempt

/-- The routes and the pulls of a journey, from the first leg to the last. -/
def goAll : List Leg → Docket → Option Docket
  | [], docket => some docket
  | leg :: legs, docket => (leg.go primaryTeam docket).bind (goAll legs)

/-- The returns of a journey, from the last leg to the first. -/
def returnAll : List Leg → Docket → Option Docket
  | [], docket => some docket
  | leg :: legs, docket =>
    (returnAll legs docket).bind fun docket => (returnRoutedDocket leg.back docket).toOption

/-- A whole journey. -/
def journey (legs : List Leg) (docket : Docket) : Option Docket :=
  (goAll primaryTeam legs docket).bind (returnAll legs)

/-- The user that a docket is assigned to, as `returnRoutedDocket` compares users. -/
def isAssignee (actor : Actor) (docket : Docket) : Prop :=
  toUpperCase (docket.assignedToXID.getD "") = toUpperCase (actor.xID.getD "")

/-- Each return is made by a member of the team of its leg, whom the docket is then assigned to. -/
def ReturnedByAssignees : List Leg → Docket → Prop
  | [], _ => True
  | leg :: legs, docket =>
    leg.back.actor.teamId = some leg.route.toTeamId ∧
      ∀ entered ∈ leg.go primaryTeam docket,
        ReturnedByAssignees legs entered ∧
          ∀ inner ∈ journey primaryTeam legs entered, isAssignee leg.back.actor inner

/-- Each return succeeds, and puts the docket back where it was before the route of its leg. -/
def Unwinds : List Leg → Docket → Prop
  | [], _ => True
  | leg :: legs, docket =>
    ∃ entered, leg.go primaryTeam docket = some entered ∧ Unwinds legs entered ∧
      ∃ inner, journey primaryTeam legs entered = some inner ∧
        ∃ t, returnRoutedDocket leg.back inner = .ok t ∧ placement t = placement docket

/-- The journeys that unwind: there is none, or it has a single leg, from a docket with a team and a
workbasket that is not routed, by a user with an xID, and the return has a comment. -/
def SingleLeg (legs : List Leg) (docket : Docket) : Prop :=
  legs = [] ∨ ∃ leg, legs = [leg] ∧
    docket.ownerTeamId ≠ none ∧ docket.workbasketId ≠ none ∧ docket.routedToTeamId = none ∧
      isBlank (leg.route.actor.xID.getD "") = false ∧ isBlank leg.back.note = false

variable {primaryTeam}

instance (actor : Actor) (docket : Docket) : Decidable (isAssignee actor docket) :=
  inferInstanceAs (Decidable (_ = _))

instance decidableReturnedByAssignees : ∀ (legs : List Leg) (docket : Docket),
    Decidable (ReturnedByAssignees primaryTeam legs docket)
  | [], _ => isTrue trivial
  | leg :: legs, docket =>
    have := decidableReturnedByAssignees legs
    inferInstanceAs (Decidable (leg.back.actor.teamId = some leg.route.toTeamId ∧
      ∀ entered ∈ leg.go primaryTeam docket, ReturnedByAssignees primaryTeam legs entered ∧
        ∀ inner ∈ journey primaryTeam legs entered, isAssignee leg.back.actor inner))

/-! ## One leg -/

/-- A pull leaves the routing of a docket as it is. -/
theorem attempt_routing {p : Pull} {docket t : Docket} (h : p.attempt docket = some t) :
    placement t = placement docket ∧
      t.routedByUserId = docket.routedByUserId ∧
      t.routeOriginatorUserXID = docket.routeOriginatorUserXID ∧
      t.routeOriginatorTeamId = docket.routeOriginatorTeamId ∧
      t.routeOriginatorWorkbasketId = docket.routeOriginatorWorkbasketId ∧
      t.pendingReason = docket.pendingReason := by
  cases p with
  | pullFromWorkbench req =>
    obtain ⟨-, -, rfl⟩ := Workflow.pullFromWorkbench_eq_ok.mp (toOption_eq_some.mp h)
    exact ⟨rfl, rfl, rfl, rfl, rfl, rfl⟩
  | pullCaseFromWorkbasket req =>
    obtain ⟨-, -, rfl⟩ :=
      Assignment.pullCaseFromWorkbasket_eq_some.mp (toOption_join_eq_some.mp h)
    exact ⟨rfl, rfl, rfl, rfl, rfl, rfl⟩
  | bulkAssignCasesToUser req =>
    obtain ⟨-, -, -, rfl⟩ :=
      Assignment.bulkAssignCasesToUser_eq_some.mp (toOption_join_eq_some.mp h)
    exact ⟨rfl, rfl, rfl, rfl, rfl, rfl⟩
  | assignDocket req =>
    obtain ⟨-, -, rfl⟩ := Assignment.assignDocket_eq_some.mp (toOption_join_eq_some.mp h)
    exact ⟨rfl, rfl, rfl, rfl, rfl, rfl⟩

/-- What a route and its pull leave on the document: the docket is with the target team, and what
is kept for the return is where it was before. -/
structure Entered (leg : Leg) (docket entered : Docket) : Prop where
  placement : placement entered =
    ⟨some leg.route.toTeamId, some leg.route.toTeamId, some leg.route.toTeamId⟩
  originator : originatorXID entered = actorXID leg.route.actor
  team : entered.routeOriginatorTeamId = docket.ownerTeamId
  workbasket : entered.routeOriginatorWorkbasketId = docket.workbasketId
  reason : entered.pendingReasonListed = true

/-- The xID that a route stores is upper-cased already. -/
theorem toUpperCase_actorXID (actor : Actor) : toUpperCase (actorXID actor) = actorXID actor := by
  unfold actorXID castXID
  rw [← trim_toUpperCase, toUpperCase_toUpperCase]

theorem Leg.go_eq_some {leg : Leg} {docket entered : Docket}
    (h : leg.go primaryTeam docket = some entered) : Entered leg docket entered := by
  obtain ⟨t, hroute, hpull⟩ := Option.bind_eq_some_iff.mp h
  obtain ⟨-, -, hsave⟩ := routeDocket_ok (toOption_eq_some.mp hroute)
  obtain ⟨hsavable, rfl⟩ := Docket.save_eq_ok.mp hsave
  obtain ⟨hplacement, hby, huser, hteam, hworkbasket, hreason⟩ := attempt_routing hpull
  constructor
  · rw [hplacement]
    rfl
  · have hsome : orElse (some (actorXID leg.route.actor)) (some (actorXID leg.route.actor)) =
        some (actorXID leg.route.actor) := ite_self _
    unfold originatorXID
    rw [hby, huser]
    show toUpperCase ((orElse (some (actorXID leg.route.actor))
      (some (actorXID leg.route.actor))).getD "") = _
    rw [hsome, Option.getD_some, toUpperCase_actorXID]
  · exact hteam
  · exact hworkbasket
  · have hlisted := hsavable.reason.listed
    unfold Docket.pendingReasonListed at hlisted ⊢
    rw [hreason]
    exact hlisted

/-- A return ends the routing of the docket. -/
theorem returnRoutedDocket_placement {req : ReturnRequest} {docket t : Docket}
    (h : returnRoutedDocket req docket = .ok t) :
    placement t = ⟨docket.routeOriginatorTeamId.or docket.ownerTeamId,
      docket.routeOriginatorWorkbasketId.or docket.workbasketId, none⟩ := by
  obtain ⟨-, -, -, -, hsave⟩ := returnRoutedDocket_eq_ok.mp h
  obtain ⟨-, rfl⟩ := Docket.save_eq_ok.mp hsave
  rfl

/-- When a routed docket is returned by the user that it is assigned to, in the team that it is
routed to: the return needs a comment and a user to go back to. -/
theorem returnRoutedDocket_entered {leg : Leg} {docket entered : Docket}
    (hentered : Entered leg docket entered)
    (hteam : leg.back.actor.teamId = some leg.route.toTeamId)
    (hassignee : isAssignee leg.back.actor entered) :
    (∃ t, returnRoutedDocket leg.back entered = .ok t) ↔
      isBlank (leg.route.actor.xID.getD "") = false ∧ isBlank leg.back.note = false := by
  have hrouted : entered.routedToTeamId = some leg.route.toTeamId :=
    congrArg Placement.routedToTeamId hentered.placement
  have hmember : isRoutedTeam leg.back.actor entered = true := by
    simp [isRoutedTeam, hrouted, hteam]
  have horiginator : originatorXID entered ≠ "" ↔ isBlank (leg.route.actor.xID.getD "") = false := by
    rw [hentered.originator, actorXID, ne_eq, castXID_eq_empty, Bool.not_eq_true]
  constructor
  · rintro ⟨t, ht⟩
    obtain ⟨hnote, -, -, hxid, -⟩ := returnRoutedDocket_eq_ok.mp ht
    exact ⟨horiginator.mp hxid, hnote⟩
  · rintro ⟨hxid, hnote⟩
    have howner : truthy (some (castXID (originatorXID entered))) = true := by
      rw [hentered.originator, actorXID, castXID_castXID, truthy_castXID]
      exact hxid
    have hsavable : (returned leg.back entered).Savable :=
      ⟨fun _ => howner, ⟨nofun, hentered.reason⟩⟩
    refine ⟨(returned leg.back entered).saved, returnRoutedDocket_eq_ok.mpr ?_⟩
    exact ⟨hnote, hmember, hassignee, horiginator.mpr hxid,
      Docket.save_eq_ok.mpr ⟨hsavable, rfl⟩⟩

/-! ## Whole journeys -/

/-- A journey with two legs does not unwind: the inner return leaves the docket unrouted, and it was
routed to the team of the outer leg. -/
theorem not_unwinds_two (outer inner : Leg) (legs : List Leg) (docket : Docket) :
    ¬Unwinds primaryTeam (outer :: inner :: legs) docket := by
  rintro ⟨entered, hgo, ⟨_, -, -, _, -, t, hreturn, hplacement⟩, -⟩
  have hnone := congrArg Placement.routedToTeamId (returnRoutedDocket_placement hreturn)
  have hsome := congrArg Placement.routedToTeamId (Leg.go_eq_some hgo).placement
  rw [hplacement, hsome] at hnone
  cases hnone

/-- A journey of one leg, from a docket that has been routed and pulled. -/
theorem unwinds_singleton {leg : Leg} {docket entered : Docket}
    (hgo : leg.go primaryTeam docket = some entered)
    (hteam : leg.back.actor.teamId = some leg.route.toTeamId)
    (hassignee : isAssignee leg.back.actor entered) :
    Unwinds primaryTeam [leg] docket ↔
      docket.ownerTeamId ≠ none ∧ docket.workbasketId ≠ none ∧ docket.routedToTeamId = none ∧
        isBlank (leg.route.actor.xID.getD "") = false ∧ isBlank leg.back.note = false := by
  have hentered := Leg.go_eq_some hgo
  have hreturns := returnRoutedDocket_entered hentered hteam hassignee
  -- Without a team before the route, the return leaves the docket with the team that it was at.
  have hplacement : ∀ t, returnRoutedDocket leg.back entered = .ok t →
      (placement t = placement docket ↔
        docket.ownerTeamId ≠ none ∧ docket.workbasketId ≠ none ∧ docket.routedToTeamId = none) := by
    intro t ht
    have howner := congrArg Placement.ownerTeamId hentered.placement
    have hworkbasket := congrArg Placement.workbasketId hentered.placement
    simp only [placement] at howner hworkbasket
    rw [returnRoutedDocket_placement ht, hentered.team, hentered.workbasket, howner, hworkbasket]
    simp only [placement, Placement.mk.injEq]
    cases docket.ownerTeamId <;> cases docket.workbasketId <;> simp [eq_comm]
  constructor
  · rintro ⟨entered', hgo', -, inner, hinner, t, ht, hback⟩
    obtain rfl : entered' = inner := Option.some.inj hinner
    obtain rfl : entered = entered' := Option.some.inj (hgo.symm.trans hgo')
    obtain ⟨howner, hworkbasket, hrouted⟩ := (hplacement t ht).mp hback
    exact ⟨howner, hworkbasket, hrouted, hreturns.mp ⟨t, ht⟩⟩
  · rintro ⟨howner, hworkbasket, hrouted, hcomment⟩
    obtain ⟨t, ht⟩ := hreturns.mpr hcomment
    exact ⟨entered, hgo, trivial, entered, rfl, t, ht,
      (hplacement t ht).mpr ⟨howner, hworkbasket, hrouted⟩⟩

/-- A leg to a team, from the router to a member of the team, who pulls the docket and returns it. -/
def legTo (team : ObjectId) (router member : Actor) : Leg where
  route := { now := 0, actor := router, toTeamId := team, note := "for your part" }
  pull := .pullCaseFromWorkbasket { now := 1, userId := member.xID.getD "" }
  back := { now := 2, actor := member, note := "done" }

end Docketra.Routing
