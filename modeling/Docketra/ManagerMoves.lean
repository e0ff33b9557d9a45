import Docketra.Lib.Effects
import Docketra.Terminal

/-!
# The moves of a manager

`managerMoveDocket` notifies the new owner and writes its history entry, and saves the docket after
that. The save refuses a docket without an owner in a personal queue, and the move to the workbasket
takes the owner and leaves the queue. So no docket of a member's worklist is moved back, and a
refused move leaves an entry of a move that did not happen. A move is whole exactly when the docket
can be saved, and, for the workbasket, was there already (`movesWhole_iff`).
-/

namespace Docketra.Routing

open Checked Effects

/-! ## The run of a move -/

/-- What `managerMoveDocket` does apart from the docket. -/
inductive MoveEffect where
  | notification (firmId recipientXID type docketId message : String)
  /-- An entry of `logCaseHistory`. -/
  | history (docketId firmId actionType actionLabel description : String)
  deriving DecidableEq, Repr

def MoveEffect.isHistory : MoveEffect → Bool
  | .notification .. => false
  | .history .. => true

/-- The former owner and the manager, as the entries name them. -/
def prevAssignee (docket : Docket) : String :=
  (orElse docket.assignedToXID (some "unassigned")).getD ""

def managerName (actor : Actor) : String := actor.xID.getD "undefined"

/-- `managerMoveDocket` with its entries. `conflict` tells whether another request saves the docket
meanwhile. -/
def managerMoveRun (teamUser : String → Option ObjectId → Bool) (firmId : String)
    (conflict : Bool) (actor : Actor) (target : MoveTarget) (docket : Docket) :
    Run Failure MoveEffect Docket := do
  .checked (throwIf (actor.role ≠ .MANAGER) (makeError "Manager role required" 403))
  .checked (throwIf (docket.ownerTeamId ≠ actor.teamId)
    (makeError "Cross-team movement is forbidden" 403))
  match target with
  | .WL userXID => do
    let targetUserXid := toUpperCase userXID
    .checked (throwIf (¬teamUser targetUserXid actor.teamId)
      (makeError "Target user must be in manager team" 400))
    .emit (.notification firmId targetUserXid "DOCKET_ASSIGNED" docket.caseId
      s!"Docket {docket.caseId} has been assigned to you.")
    .emit (.history docket.caseId firmId "CASE_ASSIGNED" "Docket reassigned by manager"
      (s!"Docket reassigned from {prevAssignee docket} to {targetUserXid} " ++
        s!"by manager {managerName actor}"))
    -- The first step that may still fail.
    .checked ((moved actor (some targetUserXid) docket).saveUnless conflict)
  | .WB => do
    .emit (.history docket.caseId firmId "CASE_UNASSIGNED" "Docket unassigned by manager"
      s!"Docket moved back to workbasket from {prevAssignee docket} by manager {managerName actor}")
    .checked ((moved actor none docket).saveUnless conflict)
  | .invalid => .checked (throw (makeError "Invalid target type. Use WL or WB" 400))

/-- The move of the model is the result of the run. -/
theorem result_managerMoveRun (teamUser : String → Option ObjectId → Bool)
    (firmId : String) (actor : Actor) (target : MoveTarget) (docket : Docket) :
    (managerMoveRun teamUser firmId false actor target docket).result =
      managerMoveDocket teamUser actor target docket := by
  unfold managerMoveRun managerMoveDocket
  simp only [Run.result_checked_bind]
  congr 1
  funext _
  congr 1
  funext _
  cases target with
  | WL userXID =>
    simp only [Run.result_checked_bind, Run.result_emit_bind, Run.result_checked,
      Docket.saveUnless_false]
  | WB => rw [Run.result_emit_bind, Run.result_checked, Docket.saveUnless_false]
  | invalid => rfl

/-! ## Moves as a whole -/

/-- A docket as a target leaves it. -/
def Placed : MoveTarget → Docket → Prop
  | .WL userXID, t => t.assignedToXID = some (castXID (toUpperCase userXID))
  | .WB, t => t.assignedToXID = none ∧ t.queueType = .GLOBAL ∧ t.state = some .IN_WB
  | .invalid, _ => False

variable (teamUser : String → Option ObjectId → Bool) (firmId : String) (conflict : Bool)
  (actor : Actor) (docket : Docket)

/-- A move is made with one entry or not at all, and a docket that is not closed can be moved from a
member's worklist to the workbasket. -/
structure MovesWhole (target : MoveTarget) : Prop where
  stored : ∀ t, (managerMoveRun teamUser firmId conflict actor target docket).result =
    .ok t → Placed target t ∧
      (managerMoveRun teamUser firmId conflict actor target docket).effects.countP
        MoveEffect.isHistory = 1
  unchanged : ∀ e, (managerMoveRun teamUser firmId conflict actor target docket).result =
    .error e →
      (managerMoveRun teamUser firmId conflict actor target docket).effects = [] ∧
      settle (managerMoveRun teamUser firmId conflict actor target docket).result docket =
        docket
  returnable : target = .WB → terminal docket.status = false → docket.queueType = .PERSONAL →
    conflict = false →
      ∃ t, (managerMoveRun teamUser firmId conflict actor target docket).result = .ok t

/-- The condition on a target: the docket can be saved with the new owner, or is a docket of the
workbasket as it is. -/
def Movable : MoveTarget → Prop
  | .WL userXID => teamUser (toUpperCase userXID) actor.teamId = true →
    docket.Storable conflict (some (castXID (toUpperCase userXID)))
  | .WB => docket.queueType = .GLOBAL ∧ docket.Storable conflict none ∧
    (docket.state = none ∨ docket.state = some .IN_WB)
  | .invalid => True

variable {teamUser firmId conflict actor docket}

/-- A move with an entry is whole when it is made. -/
theorem movesWhole_of_entry {target : MoveTarget}
    (hentry : (managerMoveRun teamUser firmId conflict actor target docket).effects.countP
      MoveEffect.isHistory = 1) :
    MovesWhole teamUser firmId conflict actor docket target ↔
      ∃ t, (managerMoveRun teamUser firmId conflict actor target docket).result = .ok t ∧
        Placed target t := by
  constructor
  · intro h
    cases hresult : (managerMoveRun teamUser firmId conflict actor target docket).result with
    | error e =>
      rw [(h.unchanged e hresult).1] at hentry
      exact absurd hentry (by decide)
    | ok t => exact ⟨t, rfl, (h.stored t hresult).1⟩
  · rintro ⟨t, hresult, hplaced⟩
    refine ⟨fun t' ht' => ?_, fun e he => ?_, fun _ _ _ _ => ⟨t, hresult⟩⟩
    · rw [hresult] at ht'
      exact ⟨Except.ok.inj ht' ▸ hplaced, hentry⟩
    · rw [hresult] at he
      exact nomatch he

/-- A move that is refused for its target has no entry. -/
theorem movesWhole_of_refused {target : MoveTarget} {e : Failure} (htarget : target ≠ .WB)
    (hrun : managerMoveRun teamUser firmId conflict actor target docket =
      ⟨.error e, []⟩) :
    MovesWhole teamUser firmId conflict actor docket target := by
  refine ⟨fun t ht => ?_, fun e' _ => ?_, fun h => absurd h htarget⟩
  · rw [hrun] at ht
    exact nomatch ht
  · rw [hrun]
    exact ⟨rfl, rfl⟩

section Manager

variable (hrole : actor.role = .MANAGER) (hteam : docket.ownerTeamId = actor.teamId)

include hrole hteam

/-- The checks of the manager pass, and the target decides. -/
theorem managerMoveRun_worklist {userXID : String}
    (huser : teamUser (toUpperCase userXID) actor.teamId = true) :
    (managerMoveRun teamUser firmId conflict actor (.WL userXID) docket).result =
        (moved actor (some (toUpperCase userXID)) docket).saveUnless conflict ∧
      (managerMoveRun teamUser firmId conflict actor (.WL userXID) docket).effects.countP
        MoveEffect.isHistory = 1 := by
  dsimp only [managerMoveRun]
  rw [throwIf_neg (not_not.mpr hrole), Run.checked_ok_bind, throwIf_neg (not_not.mpr hteam),
    Run.checked_ok_bind, throwIf_neg (not_not.mpr huser), Run.checked_ok_bind]
  exact ⟨rfl, rfl⟩

theorem managerMoveRun_workbasket :
    (managerMoveRun teamUser firmId conflict actor .WB docket).result =
        (moved actor none docket).saveUnless conflict ∧
      (managerMoveRun teamUser firmId conflict actor .WB docket).effects.countP
        MoveEffect.isHistory = 1 := by
  dsimp only [managerMoveRun]
  rw [throwIf_neg (not_not.mpr hrole), Run.checked_ok_bind, throwIf_neg (not_not.mpr hteam),
    Run.checked_ok_bind]
  exact ⟨rfl, rfl⟩

/-- To a worklist, the new owner is stored when the docket can be saved. -/
theorem movesWhole_worklist_iff {userXID : String}
    (huser : teamUser (toUpperCase userXID) actor.teamId = true) :
    MovesWhole teamUser firmId conflict actor docket (.WL userXID) ↔
      docket.Storable conflict (some (castXID (toUpperCase userXID))) := by
  obtain ⟨hresult, hentry⟩ := managerMoveRun_worklist hrole hteam huser
  have hstorable : (∃ t, (moved actor (some (toUpperCase userXID)) docket).saveUnless conflict =
      .ok t) ↔ docket.Storable conflict (some (castXID (toUpperCase userXID))) :=
    (Docket.exists_saveUnless_iff (by decide : CaseStatus.IN_PROGRESS ≠ .PENDING)).trans
      ⟨fun h => ⟨h.owner, h.reason, h.conflict⟩, fun h => ⟨h.owner, h.reason, h.conflict⟩⟩
  rw [movesWhole_of_entry hentry, hresult, ← hstorable]
  refine ⟨fun ⟨t, ht, _⟩ => ⟨t, ht⟩, fun ⟨t, ht⟩ => ⟨t, ht, ?_⟩⟩
  rw [(Docket.saveUnless_eq_ok.mp ht).2.2]
  rfl

/-- To the workbasket, a docket is stored when it is in the global queue, and its state stays. -/
theorem movesWhole_workbasket_iff :
    MovesWhole teamUser firmId conflict actor docket .WB ↔
      docket.queueType = .GLOBAL ∧ docket.Storable conflict none ∧
        (docket.state = none ∨ docket.state = some .IN_WB) := by
  obtain ⟨hresult, hentry⟩ := managerMoveRun_workbasket hrole hteam
  rw [movesWhole_of_entry hentry, hresult]
  constructor
  · rintro ⟨t, ht, -, hqueue, hstate⟩
    have hstored := (Docket.exists_saveUnless_iff (by decide : CaseStatus.UNASSIGNED ≠ .PENDING)).mp
      ⟨t, ht⟩
    obtain ⟨-, -, rfl⟩ := Docket.saveUnless_eq_ok.mp ht
    refine ⟨hqueue, ⟨hstored.owner, hstored.reason, hstored.conflict⟩, ?_⟩
    cases hbefore : docket.state with
    | none => exact Or.inl rfl
    | some state =>
      rw [Docket.saved_state, moved, hbefore] at hstate
      exact Or.inr hstate
  · rintro ⟨hqueue, hstorable, hstate⟩
    have hmoved : (moved actor none docket).Storable conflict none :=
      ⟨hstorable.owner, hstorable.reason, hstorable.conflict⟩
    obtain ⟨t, ht⟩ :=
      (Docket.exists_saveUnless_iff (by decide : CaseStatus.UNASSIGNED ≠ .PENDING)).mpr hmoved
    obtain ⟨-, -, rfl⟩ := Docket.saveUnless_eq_ok.mp ht
    refine ⟨_, ht, rfl, hqueue, ?_⟩
    obtain hbefore | hbefore := hstate
    · -- A missing state is filled in from the owner and the queue.
      rw [Docket.saved_state, Docket.canonicalState, Docket.view, moved, hbefore, hqueue]
      rfl
    · rw [Docket.saved_state, moved, hbefore]
      rfl

/-- A manager's move of a docket of the team is whole exactly when it meets the condition on its
target. -/
theorem movesWhole_iff (target : MoveTarget) :
    MovesWhole teamUser firmId conflict actor docket target ↔
      Movable teamUser conflict actor docket target := by
  cases target with
  | WL userXID =>
    by_cases huser : teamUser (toUpperCase userXID) actor.teamId = true
    · rw [movesWhole_worklist_iff hrole hteam huser]
      exact ⟨fun h _ => h, fun h => h huser⟩
    · refine iff_of_true (movesWhole_of_refused (by simp : MoveTarget.WL userXID ≠ .WB)
        (e := makeError "Target user must be in manager team" 400) ?_) fun h =>
        absurd h huser
      dsimp only [managerMoveRun]
      rw [throwIf_neg (not_not.mpr hrole), Run.checked_ok_bind, throwIf_neg (not_not.mpr hteam),
        Run.checked_ok_bind, throwIf, if_pos huser, Run.checked_error_bind]
  | WB => exact movesWhole_workbasket_iff hrole hteam
  | invalid =>
    refine iff_of_true (movesWhole_of_refused (by simp : MoveTarget.invalid ≠ .WB)
      (e := makeError "Invalid target type. Use WL or WB" 400) ?_) trivial
    dsimp only [managerMoveRun]
    rw [throwIf_neg (not_not.mpr hrole), Run.checked_ok_bind, throwIf_neg (not_not.mpr hteam),
      Run.checked_ok_bind]
    rfl

end Manager

/-- A manager of the team that owns a docket, and the docket, in the worklist of a member. -/
def teamManager : Actor where
  xID := some "X000009"
  role := .MANAGER
  teamId := some ⟨"t1"⟩

def worklistDocket : Docket where
  caseId := "DCK-1"
  ownerTeamId := some ⟨"t1"⟩
  assignedToXID := some "X000001"
  queueType := .PERSONAL
  status := .IN_PROGRESS
  state := some .IN_PROGRESS

theorem movesWhole_worklistDocket :
    MovesWhole (fun _ _ => true) "F1" false teamManager worklistDocket (.WL "X000002") :=
  (movesWhole_iff rfl rfl (.WL "X000002")).mpr fun _ => ⟨fun _ => by decide, rfl, rfl⟩

/-- The docket is not moved to the workbasket, and has an entry of the move. -/
theorem movesWhole_fails :
    teamManager.role = .MANAGER ∧ worklistDocket.ownerTeamId = teamManager.teamId ∧
      ¬MovesWhole (fun _ _ => true) "F1" false teamManager worklistDocket .WB := by
  refine ⟨rfl, rfl, fun h => ?_⟩
  obtain ⟨t, ht⟩ := h.returnable rfl rfl rfl rfl
  exact nomatch ht

end Docketra.Routing
