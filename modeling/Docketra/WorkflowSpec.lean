import Docketra.Workflow

/-!
# What the workflow operations do

For each function of the workflow service, what follows from its success: the checks that it has
passed, and the fields of the docket that it stores. The modules that follow use these lemmas and
do not unfold the functions.
-/

namespace Docketra.Workflow

open Checked

/-! ## The shared checks -/

/-- The comment is checked for white space only. -/
@[simp] theorem requireComment_eq_ok {comment context : String} {u : Unit} :
    requireComment comment context = .ok u ↔ isBlank comment = false := by
  simp [requireComment]

/-- The ownership rules move a workbasket docket out of any ownership and a worklist docket into
the personal queue, and leave every other docket as it is. -/
theorem enforceOwnershipRules_eq_ok {docket t : Docket} :
    enforceOwnershipRules docket = .ok t ↔
      (docket.state = some .IN_WB ∧
        t = { docket with assignedToXID := none, assignedTo := none, queueType := .GLOBAL }) ∨
      (docket.state = some .IN_PROGRESS ∧ truthy docket.assignedToXID = true ∧
        t = { docket with queueType := .PERSONAL }) ∨
      (docket.state ≠ some .IN_WB ∧ docket.state ≠ some .IN_PROGRESS ∧ t = docket) := by
  simp only [enforceOwnershipRules, validateOwnershipRules, bind_eq_ok, throwIf_eq_ok, pure_eq,
    Except.ok.injEq, exists_const]
  by_cases hwb : docket.state = some .IN_WB
  · simp [hwb, eq_comm (b := t)]
  · by_cases hwl : docket.state = some .IN_PROGRESS
    · simp [hwl, eq_comm (b := t)]
    · simp [hwb, hwl, eq_comm (b := t)]

/-- The ownership rules touch the owner and the queue only. -/
theorem enforceOwnershipRules_frame {docket t : Docket} (h : enforceOwnershipRules docket = .ok t) :
    t.status = docket.status ∧ t.state = docket.state ∧ t.lifecycle = docket.lifecycle ∧
      t.version = docket.version := by
  rcases enforceOwnershipRules_eq_ok.mp h with ⟨-, rfl⟩ | ⟨-, -, rfl⟩ | ⟨-, -, rfl⟩
  all_goals exact ⟨rfl, rfl, rfl, rfl⟩

/-- A lifecycle move sets the lifecycle. -/
theorem transitionLifecycle_ok {docket t : Docket} {l : Lifecycle}
    (h : transitionLifecycle docket l = .ok t) : t = setLifecycle l docket := by
  simp only [transitionLifecycle, bind_eq_ok, pure_eq, Except.ok.injEq] at h
  obtain ⟨-, -, -, -, h⟩ := h
  exact h.symm

/-- The reopening dates are all that `setReopenAt` sets. -/
theorem setReopenAt_ok {req : TransitionRequest} {target : CaseStatus} {docket t : Docket}
    (h : setReopenAt req target docket = .ok t) :
    ∃ date, t = setDates date docket := by
  unfold setReopenAt at h
  split at h
  · split at h
    · exact ⟨none, (Except.ok.inj h).symm⟩
    · exact ⟨some _, (Except.ok.inj h).symm⟩
    · cases h
  · exact ⟨none, (Except.ok.inj h).symm⟩

/-! ## `transition` -/

/-- What `transition` has set on a docket that it moves to a target: the target's status and
lifecycle, and the canonical state. The version stays as it is. -/
structure MovedTo (target : CaseStatus) (src docket : Docket) : Prop where
  status : docket.status = toPersistenceState target
  state : docket.state = some docket.canonicalState
  lifecycle : docket.lifecycle = .state (toLifecycleFromStatus target)
  version : docket.version = src.version

/-- What a quality check needs changes neither status nor lifecycle, and the state is its own. -/
theorem MovedTo.entered {target : CaseStatus} {src docket : Docket} (h : MovedTo target src docket)
    (env : Lookups) (req : TransitionRequest) :
    MovedTo target src (entered env req target docket) := by
  unfold Workflow.entered
  split_ifs with hqc
  · subst hqc
    have hstatus : (enterQc env req docket).status = .QC_PENDING := h.status
    refine ⟨hstatus, ?_, h.lifecycle, h.version⟩
    rw [Docket.canonicalState, Docket.view, hstatus]
    rfl
  · exact h

/-- What a successful `transition` has checked, and what it stores, under the ownership rules. -/
theorem transition_ok {env : Lookups} {req : TransitionRequest} {docket t : Docket}
    (h : transition env req docket = .ok t) :
    ∃ target moved d₂, req.toState.map toDocketState = some target ∧ target ≠ .RESOLVED ∧
      checkTarget req.actor docket target (toDocketState docket.status) docket.canonicalState
        (canonicalStateWith docket target) = .ok () ∧
      MovedTo target docket moved ∧ enforceOwnershipRules (entered env req target moved) = .ok d₂ ∧
      d₂.save = .ok t := by
  unfold transition at h
  split at h
  · cases h
  case h_2 toState htoState =>
    simp only [bind_eq_ok] at h
    obtain ⟨_, -, ⟨target, routed⟩, htarget, h⟩ := h
    unfold finalTarget at htarget
    split at htarget
    · cases htarget
    -- A target of `RESOLVED` has thrown, so the target is the one asked for.
    case isFalse hne =>
      obtain ⟨rfl, rfl⟩ : toDocketState toState = target ∧ docket = routed := by
        simpa using htarget
      simp only [moveTo, bind_eq_ok] at h
      obtain ⟨_, hcheck, d₀, hlifecycle, d₁, hreopen, d₂, henforce, hsave⟩ := h
      obtain ⟨date, rfl⟩ := setReopenAt_ok hreopen
      obtain rfl := transitionLifecycle_ok hlifecycle
      refine ⟨_, _, d₂, by rw [htoState]; rfl, hne, hcheck, ?_, henforce, hsave⟩
      exact ⟨rfl, rfl, rfl, rfl⟩

/-- A docket that `transition` has stored in quality check has what a quality check needs. -/
theorem transition_enters_qc {env : Lookups} {req : TransitionRequest} {docket t : Docket}
    (h : transition env req docket = .ok t) (hqc : t.status = .QC_PENDING) :
    ∃ moved, MovedTo .QC_PENDING docket moved ∧ moved.pendingReasonListed = true ∧
      t = (enterQc env req moved).saved := by
  obtain ⟨target, moved, d₂, htarget, -, -, hmoved, henforce, hsave⟩ := transition_ok h
  obtain ⟨hsavable, rfl⟩ := Docket.save_eq_ok.mp hsave
  have hstatus : toPersistenceState target = .QC_PENDING := by
    rw [← (hmoved.entered env req).status, ← (enforceOwnershipRules_frame henforce).1]
    exact hqc
  obtain rfl : target = .QC_PENDING := by
    cases target <;> first | rfl | cases hstatus
  rcases enforceOwnershipRules_eq_ok.mp henforce with ⟨h, -⟩ | ⟨h, -⟩ | ⟨-, -, rfl⟩
  · cases h
  · cases h
  · exact ⟨moved, hmoved, hsavable.reason.listed, rfl⟩

/-! ## `qcDecision` -/

/-- What a successful `qcDecision` stores: the decision's status and lifecycle, and the canonical
state, under the ownership rules. -/
theorem qcDecision_ok {req : QcDecisionRequest} {docket t : Docket}
    (h : qcDecision req docket = .ok t) :
    ∃ decision d₁ d₂, req.decision = some decision ∧ docket.canonicalState = .IN_QC ∧
      validateLifecycleAccess req.actor (normalizeLifecycle docket.lifecycle)
        (toLifecycleFromStatus (qcDecisionStatus decision)) (toDocketState docket.status) = .ok () ∧
      d₁.status = qcDecisionStatus decision ∧ d₁.state = some d₁.canonicalState ∧
      enforceOwnershipRules d₁ = .ok d₂ ∧ d₂.save = .ok t := by
  simp only [qcDecision, bind_eq_ok] at h
  obtain ⟨_, -, h⟩ := h
  split at h
  · cases h
  case h_2 decision hdecision =>
    simp only [applyDecision, bind_eq_ok, throwIf_eq_ok, not_not] at h
    obtain ⟨_, hqc, _, -, _, haccess, d₀, hlifecycle, d₂, henforce, hsave⟩ := h
    obtain rfl := transitionLifecycle_ok hlifecycle
    refine ⟨decision, _, d₂, hdecision, hqc, ?_, ?_, rfl, henforce, hsave⟩
    · cases decision <;> exact haccess
    · cases decision <;> rfl

/-! ## `pullFromWorkbench`, `reassign` and `activateOnOpen` -/

/-- When a pull succeeds, and what it stores. -/
theorem pullFromWorkbench_eq_ok {req : PullRequest} {docket t : Docket} :
    pullFromWorkbench req docket = .ok t ↔
      req.assigneeXID ≠ "" ∧ pullFilter docket = true ∧ t = pullUpdate req docket := by
  simp only [pullFromWorkbench, bind_eq_ok, throwIf_eq_ok, pure_eq, Except.ok.injEq, exists_const,
    not_not, eq_comm (b := t), ne_eq]

/-- What a successful `reassign` has checked, and what it stores. -/
theorem reassign_eq_ok {req : ReassignRequest} {docket t : Docket} :
    reassign req docket = .ok t ↔
      isBlank req.comment = false ∧
        lockedByAnotherActiveUser req.now docket req.actor = false ∧
        isBlank req.toUserXID = false ∧ (reassigned req docket).save = .ok t := by
  -- The ownership rules see a docket in progress, which needs an owner and is in its queue already.
  have howner : enforceOwnershipRules (reassigned req docket) =
      if isBlank req.toUserXID = false then .ok (reassigned req docket)
      else .error (makeError "IN_PROGRESS docket must have an owner") := by
    split_ifs with hblank
    · exact enforceOwnershipRules_eq_ok.mpr (.inr (.inl ⟨rfl, (truthy_castXID _).mpr hblank, rfl⟩))
    · rw [← truthy_castXID] at hblank
      simp [enforceOwnershipRules, reassigned, throwIf, hblank]
  simp only [reassign, howner, assertNotLockedByAnotherActiveUser, bind_eq_ok, throwIf_eq_ok,
    requireComment_eq_ok, castXID_eq_empty, exists_const, Bool.not_eq_true]
  by_cases hblank : isBlank req.toUserXID = false
  · simp [hblank]
  · simp [hblank]

/-- When `activateOnOpen` changes a docket that waits in a worklist: when it has an owner, and the
schema admits it. -/
theorem activateOnOpen_eq_ok {now : Date} {actor : Actor} {docket t : Docket}
    (hwl : normalizeLifecycle docket.lifecycle = .WL) :
    activateOnOpen now actor docket = .ok t ↔
      truthy docket.assignedToXID = true ∧ docket.pendingReasonListed = true ∧
        t = { activated now actor (setLifecycle .ACTIVE docket) with
          queueType := .PERSONAL : Docket }.saved := by
  have hlifecycle : transitionLifecycle docket .ACTIVE = .ok (setLifecycle .ACTIVE docket) := by
    simp [transitionLifecycle, assertValidLifecycleTransition, hwl, isValidTransition,
      Lifecycle.transitions, throwIf]
  simp only [activateOnOpen, hwl, if_true, hlifecycle, ok_bind, bind_eq_ok, Docket.save_eq_ok]
  constructor
  · rintro ⟨d, henforce, hsavable, rfl⟩
    rcases enforceOwnershipRules_eq_ok.mp henforce with ⟨h, -⟩ | ⟨-, howner, rfl⟩ | ⟨-, h, -⟩
    · cases h
    · exact ⟨howner, hsavable.reason.listed, rfl⟩
    · exact absurd rfl h
  · rintro ⟨howner, hlisted, rfl⟩
    exact ⟨_, enforceOwnershipRules_eq_ok.mpr (.inr (.inl ⟨rfl, howner, rfl⟩)),
      ⟨fun _ => howner, fun h => (nomatch h), hlisted⟩, rfl⟩

/-- `activateOnOpen` leaves a docket that does not wait in a worklist. -/
theorem activateOnOpen_of_ne {now : Date} {actor : Actor} {docket : Docket}
    (hwl : normalizeLifecycle docket.lifecycle ≠ .WL) :
    activateOnOpen now actor docket = .ok docket :=
  if_neg hwl

end Docketra.Workflow
