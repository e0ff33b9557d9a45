import Docketra.Coherence

/-!
# Coherence under the routing operations

`routeDocket` and `returnRoutedDocket` set status, state, owner, and queue together. The other
operations of the routing service set the status, and leave the stored state: they keep a docket
coherent exactly when the state was that of the new status before.
-/

namespace Docketra

open Checked Routing

/-- With its status alone replaced, a docket stays coherent when the canonical state is the same. -/
theorem coherent_withStatus_iff {docket : Docket} (hd : Coherent docket) (status : CaseStatus) :
    Coherent { docket with status := status } ↔
      { docket with status := status : Docket }.canonicalState = docket.canonicalState := by
  constructor
  · intro h
    have hstate : docket.state = some { docket with status := status : Docket }.canonicalState :=
      h.state
    rw [hd.state] at hstate
    exact (Option.some.inj hstate).symm
  · intro h
    exact ⟨by rw [h]; exact hd.state, hd.workbasket, hd.worklist⟩

theorem coherent_routed (req : RouteRequest) (docket : Docket) : Coherent (routed req docket) :=
  coherent_inWorkbasket rfl rfl rfl rfl

/-- A returned docket that can be saved has an owner, and so is coherent. -/
theorem coherent_returned {req : ReturnRequest} {docket : Docket}
    (h : (returned req docket).Savable) : Coherent (returned req docket) :=
  coherent_inProgress rfl (h.owner rfl) rfl rfl

/-- A docket moved to a user is coherent when it was in progress. -/
theorem coherent_moved_user_iff {actor : Actor} {userXID : String} {docket : Docket}
    (hd : Coherent docket) (hsavable : (moved actor (some userXID) docket).Savable) :
    Coherent (moved actor (some userXID) docket) ↔ docket.canonicalState = .IN_PROGRESS := by
  constructor
  · intro h
    have hstate : docket.state = some .IN_PROGRESS := h.state
    rw [hd.state] at hstate
    exact Option.some.inj hstate
  · intro h
    have hstate : docket.state = some .IN_PROGRESS := by rw [hd.state, h]
    have hqueue := (hd.worklist hstate).2
    exact coherent_inProgress hstate (hsavable.owner hqueue) hqueue rfl

/-- A docket moved to the workbasket is coherent when it was in one. A personal docket is not moved:
without an owner it is not savable. -/
theorem coherent_moved_workbasket_iff {actor : Actor} {docket : Docket} (hd : Coherent docket)
    (hsavable : (moved actor none docket).Savable) :
    Coherent (moved actor none docket) ↔ docket.canonicalState = .IN_WB := by
  -- The status `UNASSIGNED` leaves the canonical state to the queue.
  have hqueue : docket.queueType = .GLOBAL := by
    cases hq : docket.queueType with
    | GLOBAL => rfl
    | PERSONAL => exact absurd (hsavable.owner hq) (by simp [moved])
  have hcanonical : (moved actor none docket).canonicalState = .IN_WB := by
    simp only [Docket.canonicalState, Docket.view, moved, hqueue]
    rfl
  constructor
  · intro h
    have hstate : docket.state = some _ := h.state
    rw [hd.state, hcanonical] at hstate
    exact Option.some.inj hstate
  · intro h
    exact coherent_inWorkbasket (by rw [← h]; exact hd.state) rfl hqueue hcanonical

/-- The canonical state that a status fixes when it is written alone, for the three statuses that
the service writes. -/
def statusState : CaseStatus → DocketState
  | .PENDING => .PENDED
  | .RESOLVED => .RESOLVED
  | _ => .IN_PROGRESS

/-- The canonical state that `managerMoveDocket` moves a docket to. -/
def moveState (user : Option String) : DocketState := if user.isSome then .IN_PROGRESS else .IN_WB

/-- A moved docket is saved coherent when it was in the state that it is moved to. -/
theorem coherent_moved_iff {actor : Actor} {user : Option String} {docket : Docket}
    (hd : Coherent docket) (hsavable : (moved actor user docket).Savable) :
    Coherent (moved actor user docket).saved ↔ docket.canonicalState = moveState user := by
  have hstate : (moved actor user docket).state = some docket.canonicalState := hd.state
  rw [coherent_saved_iff hstate]
  cases user with
  | some userXID => exact coherent_moved_user_iff hd hsavable
  | none => exact coherent_moved_workbasket_iff hd hsavable

/-- The dockets on which an operation keeps coherence. An operation that writes the status alone
does so when the state was that of the status already; the conditions before that are the checks
that refuse it, the schema's among them. -/
def RoutingOperation.Keeps : RoutingOperation → Docket → Prop
  | .acceptRoutedDocket actor, docket =>
    isRoutedTeam actor docket = true → { docket with status := .IN_PROGRESS : Docket }.Savable →
      docket.canonicalState = .IN_PROGRESS
  | .transitionRoutedTeamStatus actor status, docket =>
    (status = .IN_PROGRESS ∨ status = .PENDING) → isRoutedTeam actor docket = true →
      { docket with status := status : Docket }.Savable →
      docket.canonicalState = statusState status
  | .resolveDocketWithTeamRestriction actor, docket =>
    docket.ownerTeamId = actor.teamId → docket.routedToTeamId = none →
      { docket with status := .RESOLVED : Docket }.Savable → docket.canonicalState = .RESOLVED
  | .managerMoveDocket teamUser actor target, docket =>
    actor.role = .MANAGER → docket.ownerTeamId = actor.teamId →
      ∀ user, target.user teamUser actor.teamId = some user →
        (moved actor user docket).Savable → docket.canonicalState = moveState user
  | _, _ => True

/-- A status that the service writes alone keeps a docket coherent when the state was its own. -/
theorem coherent_statusSaved_iff {docket : Docket} (hd : Coherent docket) {status : CaseStatus}
    (hstatus : status = .IN_PROGRESS ∨ status = .PENDING ∨ status = .RESOLVED) :
    Coherent { docket with status := status : Docket }.saved ↔
      docket.canonicalState = statusState status := by
  have hstate : { docket with status := status : Docket }.state = some docket.canonicalState :=
    hd.state
  have hcanonical :
      { docket with status := status : Docket }.canonicalState = statusState status := by
    rcases hstatus with rfl | rfl | rfl <;> rfl
  rw [coherent_saved_iff hstate, coherent_withStatus_iff hd, hcanonical, eq_comm]

/-- An operation that saves a status alone, behind its checks, keeps a docket coherent exactly when
the checks and the schema refuse it, or the state was that of the status. -/
theorem coherent_statusSave_iff {docket : Docket} (hd : Coherent docket) {status : CaseStatus}
    {r : Except Failure Docket} {checks : Prop}
    (hstatus : checks → status = .IN_PROGRESS ∨ status = .PENDING ∨ status = .RESOLVED)
    (hr : ∀ t, r = .ok t ↔ checks ∧ { docket with status := status : Docket }.save = .ok t) :
    (∀ t, r = .ok t → Coherent t) ↔
      (checks → { docket with status := status : Docket }.Savable →
        docket.canonicalState = statusState status) := by
  simp only [hr, Docket.save_eq_ok]
  constructor
  · intro h hchecks hsavable
    exact (coherent_statusSaved_iff hd (hstatus hchecks)).mp (h _ ⟨hchecks, hsavable, rfl⟩)
  · rintro h t ⟨hchecks, hsavable, rfl⟩
    exact (coherent_statusSaved_iff hd (hstatus hchecks)).mpr (h hchecks hsavable)

/-- One operation keeps a coherent docket coherent exactly on the dockets that `Keeps` says. -/
theorem RoutingOperation.coherent_apply_iff (op : RoutingOperation) (docket : Docket)
    (hd : Coherent docket) : Coherent (op.apply docket) ↔ op.Keeps docket := by
  simp only [RoutingOperation.apply, settle_iff hd]
  cases op with
  | routeDocket primaryTeam req =>
    refine iff_of_true (fun t h => ?_) trivial
    exact (coherent_routed req docket).save (routeDocket_ok h).2.2
  | returnRoutedDocket req =>
    refine iff_of_true (fun t h => ?_) trivial
    obtain ⟨-, -, -, -, hsave⟩ := returnRoutedDocket_eq_ok.mp h
    exact (coherent_returned (Docket.save_eq_ok.mp hsave).1).save hsave
  -- These three write the status and leave the state.
  | acceptRoutedDocket actor =>
    exact coherent_statusSave_iff hd (fun _ => .inl rfl) fun t => acceptRoutedDocket_eq_ok
  | transitionRoutedTeamStatus actor status =>
    have hr : ∀ t, Routing.transitionRoutedTeamStatus actor status docket = .ok t ↔
        ((status = .IN_PROGRESS ∨ status = .PENDING) ∧ isRoutedTeam actor docket = true) ∧
          { docket with status := status : Docket }.save = .ok t := by
      simp only [transitionRoutedTeamStatus_eq_ok, and_assoc, implies_true]
    have h := coherent_statusSave_iff hd (fun hchecks => hchecks.1.imp_right .inl) hr
    rw [and_imp] at h
    exact h
  | resolveDocketWithTeamRestriction actor =>
    have hr : ∀ t, Routing.resolveDocketWithTeamRestriction actor docket = .ok t ↔
        (docket.ownerTeamId = actor.teamId ∧ docket.routedToTeamId = none) ∧
          { docket with status := .RESOLVED : Docket }.save = .ok t := by
      simp only [resolveDocketWithTeamRestriction_eq_ok, and_assoc, implies_true]
    have h := coherent_statusSave_iff hd (fun _ => .inr (.inr rfl)) hr
    rw [and_imp] at h
    exact h
  | managerMoveDocket teamUser actor target =>
    simp only [RoutingOperation.result, managerMoveDocket_eq_ok, Docket.save_eq_ok,
      RoutingOperation.Keeps]
    constructor
    · intro h hrole howner user huser hsavable
      exact (coherent_moved_iff hd hsavable).mp (h _ ⟨hrole, howner, user, huser, hsavable, rfl⟩)
    · rintro h t ⟨hrole, howner, user, huser, hsavable, rfl⟩
      exact (coherent_moved_iff hd hsavable).mpr (h hrole howner user huser hsavable)

/-- A run keeps a coherent docket coherent throughout exactly when each of its operations does. -/
theorem routing_coherent_iff (docket : Docket) (hd : Coherent docket)
    (ops : List RoutingOperation) :
    (∀ t ∈ Runs.states RoutingOperation.apply ops docket, Coherent t) ↔
      Runs.Admits RoutingOperation.apply RoutingOperation.Keeps ops docket :=
  Runs.states_invariant_iff RoutingOperation.coherent_apply_iff ops docket hd

/-- A docket that waits in the workbasket of the team it is routed to. -/
def routedDocket : Docket where
  status := .ROUTED
  state := some .IN_WB
  ownerTeamId := some ⟨"b1"⟩
  routedToTeamId := some ⟨"b1"⟩

/-- A routed docket that a user of the team has pulled. -/
def pulledDocket : Docket where
  status := .ROUTED_ASSIGNED
  state := some .IN_PROGRESS
  queueType := .PERSONAL
  assignedToXID := some "X000002"
  ownerTeamId := some ⟨"b1"⟩
  routedToTeamId := some ⟨"b1"⟩
  routeOriginatorUserXID := some "X000001"

/-- Accepting a docket that is in progress, and returning it, keep it coherent. -/
theorem routing_coherent_pulled :
    Coherent pulledDocket ∧
      ∀ t ∈ Runs.states RoutingOperation.apply
        [.acceptRoutedDocket { xID := some "X000002", teamId := some ⟨"b1"⟩ },
          .returnRoutedDocket
            { now := 1, actor := { xID := some "X000002", teamId := some ⟨"b1"⟩ }, note := "Done" }]
        pulledDocket, Coherent t :=
  ⟨by decide, (routing_coherent_iff pulledDocket (by decide) _).mpr
    ⟨fun _ _ => by decide, trivial, trivial⟩⟩

/-- A docket in a workbasket that the routed team accepts does not stay coherent: its status is
then `IN_PROGRESS`, and its state still `IN_WB`. -/
theorem routing_coherence_fails :
    Coherent routedDocket ∧
      ¬∀ t ∈ Runs.states RoutingOperation.apply
        [.acceptRoutedDocket { xID := some "X000002", teamId := some ⟨"b1"⟩ }] routedDocket,
        Coherent t := by
  decide

end Docketra
