import Docketra.Operations
import Docketra.WorkflowSpec

/-!
# Closed dockets

A docket is closed when it is resolved or filed. Most operations leave a closed docket closed: their
query does not select it, or a check refuses it, or they do not touch the status. The others look
at something else than the status. `Operation.LeavesClosed` says on which dockets each of them does
not reopen, and a run leaves a closed docket closed throughout exactly when each of its operations
does (`closed_iff`).
-/

namespace Docketra

open Checked Workflow Routing

/-- The terminal statuses. -/
def terminal (status : CaseStatus) : Bool := status = .RESOLVED || status = .FILED

/-- The terminal canonical states. -/
def terminalState (state : DocketState) : Bool := state = .RESOLVED || state = .FILED

/-- A docket is closed when its status and its canonical state are terminal. -/
structure Closed (docket : Docket) : Prop where
  status : terminal docket.status = true
  state : terminalState docket.canonicalState = true

/-- The canonical state of a terminal status is terminal, whatever else the docket stores. -/
theorem closed_iff_status {docket : Docket} : Closed docket ↔ terminal docket.status = true := by
  refine ⟨fun h => h.status, fun h => ⟨h, ?_⟩⟩
  rcases (by simpa [terminal] using h : docket.status = .RESOLVED ∨ docket.status = .FILED) with h | h
  all_goals
    rw [Docket.canonicalState, Docket.view, h]
    rfl

instance (docket : Docket) : Decidable (Closed docket) :=
  decidable_of_iff _ closed_iff_status.symm

/-- No ownership makes a canonical state terminal. -/
theorem terminalState_ownershipState (docket : DocketView) :
    terminalState (ownershipState docket) = false := by
  unfold ownershipState
  split_ifs <;> rfl

/-- A docket status whose canonical state is terminal is terminal itself, as it is stored. -/
theorem terminal_of_terminalState {docket : Docket} {status : CaseStatus}
    (h : terminalState (canonicalStateWith docket (toDocketState status)) = true) :
    terminal (toPersistenceState (toDocketState status)) = true := by
  cases status <;>
    simp_all [canonicalStateWith, getCanonicalDocketState, toDocketState, toPersistenceState,
      CaseStatus.normalize, terminalState_ownershipState, terminal]
  all_goals exact absurd h (by decide)

/-- A move between canonical states does not leave a terminal one. -/
theorem terminalState_target {src tgt : DocketState} :
    terminalState src = true → (src ≠ tgt → canTransition src tgt = true) →
      terminalState tgt = true := by
  cases src <;> cases tgt <;> decide

/-! ## The workflow operations -/

/-- The ownership rules and a save leave the status. -/
theorem status_of_enforce_save {d₁ d₂ t : Docket} (henforce : enforceOwnershipRules d₁ = .ok d₂)
    (hsave : d₂.save = .ok t) : t.status = d₁.status := by
  obtain ⟨-, rfl⟩ := Docket.save_eq_ok.mp hsave
  exact (enforceOwnershipRules_frame henforce).1

/-- `transition` checks its target against the canonical state, and leaves a closed docket closed. -/
theorem closed_transition {env : Lookups} {req : TransitionRequest} {docket t : Docket}
    (hd : Closed docket) (h : transition env req docket = .ok t) : Closed t := by
  obtain ⟨target, moved, d₂, htarget, -, hcheck, hmoved, henforce, hsave⟩ := transition_ok h
  obtain ⟨toState, -, rfl⟩ := Option.map_eq_some_iff.mp htarget
  -- The check lets a move out of a terminal state through when it goes to the same state only.
  simp only [checkTarget, bind_eq_ok, throwIf_eq_ok, exists_const, not_and, not_not] at hcheck
  have hstate := terminalState_target hd.state hcheck.2.1
  rw [closed_iff_status, status_of_enforce_save henforce hsave, (hmoved.entered env req).status]
  exact terminal_of_terminalState hstate

/-- `qcDecision` refuses a closed docket, which is not in quality check. -/
theorem closed_qcDecision {req : QcDecisionRequest} {docket t : Docket} (hd : Closed docket)
    (h : qcDecision req docket = .ok t) : Closed t := by
  obtain ⟨-, -, -, -, hqc, -⟩ := qcDecision_ok h
  have hstate := hd.state
  rw [hqc] at hstate
  cases hstate

/-- `reassign` leaves the status. -/
theorem closed_reassign {req : ReassignRequest} {docket t : Docket} (hd : Closed docket)
    (h : reassign req docket = .ok t) : Closed t := by
  obtain ⟨-, -, -, hsave⟩ := reassign_eq_ok.mp h
  obtain ⟨-, rfl⟩ := Docket.save_eq_ok.mp hsave
  exact closed_iff_status.mpr hd.status

/-- A docket whose status is not terminal is not closed. -/
theorem not_closed {docket : Docket} (h : terminal docket.status = false) : ¬Closed docket := by
  rw [closed_iff_status, h]
  exact Bool.false_ne_true

/-- A closed docket's status is one of two. -/
theorem Closed.cases {docket : Docket} (h : Closed docket) :
    docket.status = .RESOLVED ∨ docket.status = .FILED := by
  simpa [terminal] using h.status

theorem closed_activateOnOpen_iff {now : Date} {actor : Actor} {docket : Docket}
    (hd : Closed docket) :
    Closed (settle (activateOnOpen now actor docket) docket) ↔
      ¬(normalizeLifecycle docket.lifecycle = .WL ∧ truthy docket.assignedToXID = true ∧
        docket.pendingReasonListed = true) := by
  rw [settle_iff hd]
  by_cases hwl : normalizeLifecycle docket.lifecycle = .WL
  · simp only [activateOnOpen_eq_ok hwl, hwl, true_and]
    constructor
    · rintro h ⟨howner, hlisted⟩
      exact not_closed rfl (h _ ⟨howner, hlisted, rfl⟩)
    · rintro h t ⟨howner, hlisted, -⟩
      exact absurd ⟨howner, hlisted⟩ h
  · rw [activateOnOpen_of_ne hwl]
    refine iff_of_true ?_ fun h => hwl h.1
    rintro t h
    obtain rfl := Except.ok.inj h
    exact hd

/-! ## The dockets that an operation does not reopen -/

/-- A call that stores a docket that is not closed leaves a closed docket closed exactly when it is
refused. -/
theorem closed_settle_iff {docket : Docket} {r : Except Failure Docket} {accepted : Prop}
    (hd : Closed docket) (hr : (∃ t, r = .ok t) ↔ accepted)
    (hreopened : ∀ t, r = .ok t → terminal t.status = false) :
    Closed (settle r docket) ↔ ¬accepted := by
  rw [settle_iff hd, ← hr]
  constructor
  · rintro h ⟨t, ht⟩
    exact not_closed (hreopened t ht) (h t ht)
  · intro h t ht
    exact absurd ⟨t, ht⟩ h

/-- The dockets that an operation does not reopen. An operation that is not listed reopens none.
The others are refused by their own checks, of which that of `unassignDocket` alone looks at the
status, or `transitionDocket` goes to a terminal status. -/
def Operation.LeavesClosed : Operation → Docket → Prop
  | .workflow (.activateOnOpen _ _), docket =>
    ¬(normalizeLifecycle docket.lifecycle = .WL ∧ truthy docket.assignedToXID = true ∧
      docket.pendingReasonListed = true)
  | .workflow .unassignDocket, docket => docket.status = .FILED
  | .routing (.acceptRoutedDocket actor), docket =>
    ¬(isRoutedTeam actor docket = true ∧ { docket with status := .IN_PROGRESS : Docket }.Savable)
  | .routing (.returnRoutedDocket req), docket =>
    ¬(isBlank req.note = false ∧ isRoutedTeam req.actor docket = true ∧
      toUpperCase (docket.assignedToXID.getD "") = toUpperCase (req.actor.xID.getD "") ∧
      originatorXID docket ≠ "" ∧ (returned req docket).Savable)
  | .routing (.transitionRoutedTeamStatus actor status), docket =>
    ¬((status = .IN_PROGRESS ∨ status = .PENDING) ∧ isRoutedTeam actor docket = true ∧
      { docket with status := status : Docket }.Savable)
  | .routing (.managerMoveDocket teamUser actor target), docket =>
    ¬(actor.role = .MANAGER ∧ docket.ownerTeamId = actor.teamId ∧
      ∃ user, target.user teamUser actor.teamId = some user ∧ (moved actor user docket).Savable)
  | .transitionDocket opts, docket =>
    StatusUpdate.Accepts opts docket →
      StatusUpdate.versionFilter (StatusUpdate.expected opts docket) docket = true →
      terminal (toDocketState opts.newState) = true
  | _, _ => True

/-- An operation of the routing service that stores a docket out of the terminal statuses. -/
theorem closed_saved_iff {docket written : Docket} {r : Except Failure Docket} {guard : Prop}
    (hd : Closed docket) (hr : ∀ t, r = .ok t ↔ guard ∧ written.save = .ok t)
    (hwritten : terminal written.status = false) :
    Closed (settle r docket) ↔ ¬(guard ∧ written.Savable) := by
  refine closed_settle_iff hd ?_ ?_
  · simp only [hr, Docket.save_eq_ok, exists_and_left, exists_eq, and_true]
  · intro t ht
    obtain ⟨-, rfl⟩ := Docket.save_eq_ok.mp ((hr t).mp ht).2
    exact hwritten

theorem closed_managerMoveDocket_iff {teamUser : String → Option ObjectId → Bool} {actor : Actor}
    {target : MoveTarget} {docket : Docket} (hd : Closed docket) :
    Closed (settle (managerMoveDocket teamUser actor target docket) docket) ↔
      (Operation.routing (.managerMoveDocket teamUser actor target)).LeavesClosed docket := by
  refine closed_settle_iff hd ?_ ?_
  · simp only [managerMoveDocket_eq_ok, Docket.save_eq_ok]
    grind
  · intro t ht
    obtain ⟨-, -, user, -, hsave⟩ := managerMoveDocket_eq_ok.mp ht
    obtain ⟨-, rfl⟩ := Docket.save_eq_ok.mp hsave
    cases user <;> rfl

/-- A conditional update leaves a closed docket when its filter does not match one. -/
theorem closed_updated {docket : Docket} {r : Except Failure (Option Docket)} (hd : Closed docket)
    (hr : ∀ t, r ≠ .ok (some t)) : Closed (updated r docket) :=
  updated_induction hd fun t ht => absurd ht (hr t)

/-- The filters of the pulls and the assignments match no closed docket. -/
theorem Closed.not_unowned {docket : Docket} (hd : Closed docket) :
    Assignment.unownedFilter docket = false ∧ Assignment.assignDocketFilter docket = false ∧
      pullFilter docket = false := by
  rcases hd.cases with h | h <;>
    simp [Assignment.unownedFilter, Assignment.assignDocketFilter, pullFilter, h,
      toPersistenceState]

/-- The background jobs select no closed docket. -/
theorem Closed.not_selected {docket : Docket} (hd : Closed docket) (now : Date)
    (userXID : String) :
    reopenDuePendingSelects now docket = false ∧ docket.status ≠ toPersistenceState .PENDING ∧
      handleUserDeactivationSelects userXID docket = false := by
  rcases hd.cases with h | h <;>
    simp [reopenDuePendingSelects, handleUserDeactivationSelects, h, toPersistenceState]

/-- `unassignDocket` passes over filed dockets only. -/
theorem closed_unassignDocket_iff {docket : Docket} (hd : Closed docket) :
    Closed ((Assignment.unassignDocket docket).getD docket) ↔ docket.status = .FILED := by
  unfold Assignment.unassignDocket
  by_cases hfiled : docket.status = .FILED
  · simpa [hfiled] using hd
  · have hstatus : terminal (Assignment.unassignUpdate docket).status = false := by
      simp only [Assignment.unassignUpdate]
      split_ifs <;> rfl
    simpa [hfiled] using not_closed hstatus

/-- `reassignCase` leaves the status. -/
theorem closed_reassignCase {now : Date} {newUserXID : String} {performedBy : Actor}
    {docket t : Docket} (hd : Closed docket)
    (h : Assignment.reassignCase now newUserXID performedBy docket = .ok t) : Closed t := by
  rw [closed_iff_status, (Assignment.reassignCase_ok h).1]
  exact hd.status

/-- A status is stored terminal when it is. -/
theorem terminal_toPersistenceState (status : CaseStatus) :
    terminal (toPersistenceState status) = terminal status := by
  cases status <;> rfl

/-- `transitionDocket` leaves a closed docket closed when it goes to a terminal status. -/
theorem closed_transitionDocket_iff {opts : StatusUpdate.TransitionOptions} {docket : Docket}
    (hd : Closed docket) :
    Closed (settle (StatusUpdate.transitionDocket opts docket) docket) ↔
      (Operation.transitionDocket opts).LeavesClosed docket := by
  simp only [settle_iff hd, StatusUpdate.transitionDocket,
    StatusUpdate.transitionDocketBetween_eq_ok, Operation.LeavesClosed,
    ← terminal_toPersistenceState (toDocketState opts.newState)]
  constructor
  · rintro h haccepts hversion
    exact (h _ ⟨haccepts, hversion, rfl⟩).status
  · rintro h t ⟨haccepts, hversion, rfl⟩
    exact closed_iff_status.mpr (h haccepts hversion)

/-- One operation of the workflow or of the assignment service leaves a closed docket closed exactly
on the dockets that `LeavesClosed` says. -/
theorem WorkflowOperation.closed_apply_iff (op : WorkflowOperation) (docket : Docket)
    (hd : Closed docket) : Closed (op.apply docket) ↔ (Operation.workflow op).LeavesClosed docket := by
  obtain ⟨hunowned, hassign, hpull⟩ := hd.not_unowned
  cases op with
  | pullFromWorkbench req =>
    refine iff_of_true (settle_induction hd fun t h => ?_) trivial
    simp [Workflow.pullFromWorkbench, hpull] at h
  | transition env req =>
    exact iff_of_true (settle_induction hd fun _ => closed_transition hd) trivial
  | qcDecision req =>
    exact iff_of_true (settle_induction hd fun _ => closed_qcDecision hd) trivial
  | reassign req => exact iff_of_true (settle_induction hd fun _ => closed_reassign hd) trivial
  | activateOnOpen now actor => exact closed_activateOnOpen_iff hd
  | handleUserDeactivation env userXID =>
    refine iff_of_true ?_ trivial
    simpa [WorkflowOperation.apply, Workflow.handleUserDeactivation,
      (hd.not_selected 0 userXID).2.2] using hd
  | reopenDuePending now =>
    refine iff_of_true ?_ trivial
    simpa [WorkflowOperation.apply, Workflow.reopenDuePending,
      (hd.not_selected now "").1] using hd
  | reopenDocketFromClientEmail now =>
    refine iff_of_true ?_ trivial
    simpa [WorkflowOperation.apply, Workflow.reopenDocketFromClientEmail,
      (hd.not_selected now "").2.1] using hd
  | pullCaseFromWorkbasket req =>
    refine iff_of_true (closed_updated hd fun t h => ?_) trivial
    simp [Assignment.pullCaseFromWorkbasket_eq_some, hunowned] at h
  | bulkAssignCasesToUser req =>
    refine iff_of_true (closed_updated hd fun t h => ?_) trivial
    simp [Assignment.bulkAssignCasesToUser_eq_some, hunowned] at h
  | assignDocket req =>
    refine iff_of_true (closed_updated hd fun t h => ?_) trivial
    simp [Assignment.assignDocket_eq_some, hassign] at h
  | unassignDocket => exact closed_unassignDocket_iff hd

/-- One operation of the routing service leaves a closed docket closed exactly on the dockets that
`LeavesClosed` says. -/
theorem RoutingOperation.closed_apply_iff (op : RoutingOperation) (docket : Docket)
    (hd : Closed docket) : Closed (op.apply docket) ↔ (Operation.routing op).LeavesClosed docket := by
  cases op with
  -- The only function of the service that refuses a closed docket.
  | routeDocket primaryTeam req =>
    refine iff_of_true (settle_induction hd fun t h => ?_) trivial
    obtain ⟨hresolved, hfiled, -⟩ := routeDocket_ok h
    exact absurd hd.state (by simp [terminalState, hresolved, hfiled])
  | acceptRoutedDocket actor =>
    exact closed_saved_iff hd (fun t => acceptRoutedDocket_eq_ok) rfl
  | returnRoutedDocket req =>
    have hr : ∀ t, Routing.returnRoutedDocket req docket = .ok t ↔
        (isBlank req.note = false ∧ isRoutedTeam req.actor docket = true ∧
          toUpperCase (docket.assignedToXID.getD "") = toUpperCase (req.actor.xID.getD "") ∧
          originatorXID docket ≠ "") ∧ (returned req docket).save = .ok t := by
      simp only [returnRoutedDocket_eq_ok, and_assoc, implies_true]
    have h := closed_saved_iff hd hr rfl
    simp only [and_assoc] at h
    exact h
  | transitionRoutedTeamStatus actor status =>
    refine closed_settle_iff hd ?_ ?_
    · simp only [RoutingOperation.result, transitionRoutedTeamStatus_eq_ok, Docket.save_eq_ok,
        exists_and_left, exists_eq, and_true]
    · intro t ht
      obtain ⟨hstatus, -, hsave⟩ := transitionRoutedTeamStatus_eq_ok.mp ht
      obtain ⟨-, rfl⟩ := Docket.save_eq_ok.mp hsave
      rcases hstatus with rfl | rfl <;> rfl
  | resolveDocketWithTeamRestriction actor =>
    refine iff_of_true (settle_induction hd fun t h => ?_) trivial
    obtain ⟨-, -, hsave⟩ := resolveDocketWithTeamRestriction_eq_ok.mp h
    obtain ⟨-, rfl⟩ := Docket.save_eq_ok.mp hsave
    exact closed_iff_status.mpr rfl
  | managerMoveDocket teamUser actor target => exact closed_managerMoveDocket_iff hd

/-- One operation leaves a closed docket closed exactly on the dockets that `LeavesClosed` says. -/
theorem Operation.closed_apply_iff (op : Operation) (docket : Docket) (hd : Closed docket) :
    Closed (op.apply docket) ↔ op.LeavesClosed docket := by
  cases op with
  | workflow op => exact op.closed_apply_iff docket hd
  | routing op => exact op.closed_apply_iff docket hd
  | reassignCase now newUserXID performedBy =>
    exact iff_of_true (settle_induction hd fun _ => closed_reassignCase hd) trivial
  | transitionDocket opts => exact closed_transitionDocket_iff hd

/-- A filed docket, with its owner and its team. -/
def filedDocket : Docket where
  status := .FILED
  state := some .FILED
  lifecycle := .state .DONE
  queueType := .PERSONAL
  assignedToXID := some "X000001"
  ownerTeamId := some ⟨"b1"⟩

end Docketra
