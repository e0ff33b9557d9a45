import Docketra.CaseAction

/-!
# The gates of the case actions

Pending, resolving, and filing pass two gates: the checks of the case action itself, which look at
the status and the canonical state, and the gate of `transitionDocket`, which looks at the
lifecycle alone. When the first lets an action through, the second rejects it exactly when the
lifecycle is not one that the action may start from (`gates_agree_iff`).
-/

namespace Docketra.CaseAction

open Checked
open StatusUpdate

/-- The actions of the service on a docket at work. -/
inductive Action where
  | pend (pendingUntil : Date)
  | resolve
  | file
  deriving DecidableEq, Repr

namespace Action

/-- The status that an action moves a docket to. -/
def target : Action → CaseStatus
  | pend _ => .PENDING
  | resolve => .RESOLVED
  | file => .FILED

/-- The checks that an action makes on the docket that it has read. -/
def ownChecks : Action → Role → Docket → Except Failure Unit
  | pend _, role, caseData => pendChecks role caseData
  | resolve, role, caseData => resolveChecks role caseData
  | file, _, caseData => fileChecks caseData

/-- The context of the status update that an action makes. -/
def context : Action → ActionRequest → StatusContext
  | pend pendingUntil, req => pendContext pendingUntil req
  | resolve, req => resolveContext req
  | file, req => fileContext req

/-- The action. -/
def perform : Action → ActionRequest → Docket → Except Failure Docket
  | pend pendingUntil, req, docket => pendCase pendingUntil req docket
  | resolve, req, docket => resolveCase req docket
  | file, req, docket => fileCase req docket

/-- The lifecycles that an action may start from. -/
def startsFrom : Action → List Lifecycle
  | pend _ => [.WL, .ACTIVE]
  | resolve => [.ACTIVE]
  | file => [.ACTIVE]

/-- The action is rejected by the lifecycle gate of `transitionDocket`. -/
def RejectedByGate (action : Action) (req : ActionRequest) (docket : Docket) : Prop :=
  action.perform req docket = .error (invalidTransition (normalizeLifecycle docket.lifecycle)
    (toLifecycleFromStatus action.target))

/-- An action whose own checks pass is its status update. -/
theorem perform_eq {action : Action} {req : ActionRequest} {docket caseData : Docket}
    (hcomment : isBlank req.comment = false)
    (hfound : CaseRepository.findByCaseId req.user.role docket = .ok caseData)
    (hchecks : action.ownChecks req.user.role caseData = .ok ()) :
    action.perform req docket = updateStatus action.target (action.context req) docket := by
  have hvalid : validateComment req.comment = .ok () := by simp [validateComment, hcomment]
  cases action <;> simp_all [perform, ownChecks, target, context, pendCase, resolveCase, fileCase]

/-- The lifecycle gate admits an action from the lifecycles that it may start from. -/
theorem gate_iff (action : Action) (l : Lifecycle) :
    isValidTransition l (toLifecycleFromStatus action.target) = true ↔ l ∈ action.startsFrom := by
  cases action <;> cases l <;>
    simp [target, startsFrom, isValidTransition, toLifecycleFromStatus, CaseStatus.normalize,
      Lifecycle.transitions]

/-- The update that an action makes names its reason or its notes, so that of the checks of
`transitionDocket` only the gate remains. -/
theorem transitionChecks_eq {action : Action} {req : ActionRequest} {read docket : Docket}
    (hcomment : isBlank req.comment = false) :
    transitionChecks ((action.context req).options action.target read) docket =
      lifecycleGate action.target docket := by
  have htruthy : truthy (some req.comment) = true :=
    truthy_of_hasText (by simp [hasText, hcomment])
  have hreason : ¬(toDocketState action.target = .PENDING ∧
      ¬truthy ((action.context req).options action.target read).reason) := by
    rintro ⟨htarget, hreason⟩
    cases action with
    | pend pendingUntil => exact hreason (truthy_orElse htruthy)
    | resolve => cases htarget
    | file => cases htarget
  have hnotes : ¬(toDocketState action.target = .RESOLVED ∧
      ¬truthy ((action.context req).options action.target read).notes) := by
    rintro ⟨htarget, hnotes⟩
    cases action with
    | resolve => exact hnotes (truthy_orElse htruthy)
    | pend pendingUntil => cases htarget
    | file => cases htarget
  have hnewState : ((action.context req).options action.target read).newState = action.target := rfl
  simp only [transitionChecks, hnewState, throwIf_neg hreason, throwIf_neg hnotes, ok_bind]

/-- An action whose own checks pass is not rejected by the lifecycle gate exactly when the docket's
lifecycle is one that the action may start from, or the request has no transaction and fails
before. -/
theorem gates_agree_iff (action : Action) (req : ActionRequest) (docket caseData : Docket)
    (hcomment : isBlank req.comment = false)
    (hfound : CaseRepository.findByCaseId req.user.role docket = .ok caseData)
    (hchecks : action.ownChecks req.user.role caseData = .ok ()) :
    ¬action.RejectedByGate req docket ↔
      (req.session = true → normalizeLifecycle docket.lifecycle ∈ action.startsFrom) := by
  rw [RejectedByGate, perform_eq hcomment hfound hchecks]
  cases hsession : req.session with
  -- The update fails for want of a transaction, which is another failure than the gate's.
  | false =>
    have hctx : (action.context req).session = false := by cases action <;> exact hsession
    rw [updateStatus_sessionless docket hctx]
    refine iff_of_true (fun h => ?_) fun h => nomatch h
    exact sessionRequired_ne _ _ (Except.error.inj h)
  | true =>
    have hctx : (action.context req).session = true := by cases action <;> exact hsession
    have hrole : (action.context req).role ≠ .SUPER_ADMIN := by
      cases action <;> exact (CaseRepository.findByCaseId_eq_ok.mp hfound).1
    have hversion : (action.context req).expectedVersion = none := by cases action <;> rfl
    have hnormal : normalizeStatus action.target = action.target := by cases action <;> rfl
    have hstored : toPersistenceState (toDocketState action.target) = action.target := by
      cases action <;> rfl
    -- Nothing but the gate is left of the update's checks.
    rw [updateStatus_eq docket hnormal hstored hctx hrole hversion, transitionChecks_eq hcomment,
      ← gate_iff]
    by_cases hgate : isValidTransition (normalizeLifecycle docket.lifecycle)
        (toLifecycleFromStatus action.target) = true
    · simp [lifecycleGate, throwIf, hgate]
    · simp [lifecycleGate, throwIf, hgate]

end Action

/-- A docket as a pull leaves it: it has its owner, and its lifecycle is that of a worklist. -/
def assignedDocket : Docket where
  status := .ASSIGNED
  state := some .IN_PROGRESS
  lifecycle := .state .WL
  queueType := .PERSONAL
  assignedToXID := some "X000001"

/-- The owner's action, in a transaction. -/
def ownerRequest : ActionRequest where
  now := 0
  user := { xID := some "X000001" }
  comment := "Return filed"

theorem gates_agree_pend : ¬(Action.pend 1).RejectedByGate ownerRequest assignedDocket :=
  (Action.gates_agree_iff (.pend 1) ownerRequest assignedDocket
    (CaseRepository.decryptCaseDoc assignedDocket) (by decide) rfl rfl).mpr fun _ => by decide

/-- The owner of a pulled docket resolves it: the action's own checks pass, and the lifecycle gate
rejects it. -/
theorem gates_agree_fails :
    isBlank ownerRequest.comment = false ∧
      CaseRepository.findByCaseId ownerRequest.user.role assignedDocket =
        .ok (CaseRepository.decryptCaseDoc assignedDocket) ∧
      Action.resolve.ownChecks ownerRequest.user.role
        (CaseRepository.decryptCaseDoc assignedDocket) = .ok () ∧
      Action.resolve.RejectedByGate ownerRequest assignedDocket :=
  ⟨by decide, rfl, rfl, rfl⟩

end Docketra.CaseAction
