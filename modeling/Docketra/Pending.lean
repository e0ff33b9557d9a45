import Docketra.CaseAction

/-!
# Pending and reopening

`pendCase` leaves a docket with an owner in the lifecycle `WAITING`, and one without in `WL`. Both
ways out go to a status that follows from the ownership: a docket with an owner to `ASSIGNED`, whose
lifecycle is `WL`, and which the lifecycle table does not admit from `WAITING`. Only a docket
without an owner is reopened (`reopens_iff`).
-/

namespace Docketra.CaseAction

open Checked
open CaseRepository (decryptCaseDoc)
open StatusUpdate

/-- A docket as `pendCase` stores it. -/
structure Pended (docket : Docket) : Prop where
  status : docket.status = .PENDING
  lifecycle : docket.lifecycle =
    .state (if truthy docket.assignedToXID then .WAITING else .WL)

/-- A pended docket is one whose lifecycle let it be pended. -/
theorem pended_of_pendCase {pendingUntil : Date} {req : ActionRequest} {docket t : Docket}
    (h : pendCase pendingUntil req docket = .ok t) : Pended t := by
  simp only [pendCase, bind_eq_ok, CaseRepository.findByCaseId_eq_ok] at h
  obtain ⟨_, -, caseData, ⟨hrole, rfl⟩, _, -, h⟩ := h
  cases hsession : req.session with
  | false =>
    rw [updateStatus_sessionless docket hsession] at h
    cases h
  | true =>
    rw [updateStatus_eq docket rfl rfl hsession hrole rfl] at h
    simp only [bind_eq_ok, transitionChecks_eq_ok, Except.ok.injEq] at h
    obtain ⟨_, haccepts, rfl⟩ := h
    refine ⟨rfl, ?_⟩
    -- The gate lets no docket through that is done, so the lifecycle follows the ownership.
    have hdone : normalizeLifecycle docket.lifecycle ≠ .DONE := by
      intro hdone
      have hgate := haccepts.gate
      rw [hdone] at hgate
      cases hgate
    have hlifecycle : (updated .PENDING (pendContext pendingUntil req) docket).lifecycle =
        .state (inferLifecycleAfterStatusChange (decryptCaseDoc docket) .PENDING {}) := rfl
    have howner : (updated .PENDING (pendContext pendingUntil req) docket).assignedToXID =
        docket.assignedToXID := rfl
    rw [hlifecycle, howner]
    by_cases hassigned : truthy docket.assignedToXID = true <;>
      simp [inferLifecycleAfterStatusChange, coerceLifecycleToDocket, hdone, hassigned]

/-- The docket is stored again, out of `PENDING`, in the state of its ownership. -/
def Reopened (r : Except Failure Docket) : Prop :=
  ∃ t, r = .ok t ∧ t.status ≠ .PENDING ∧
    t.canonicalState = if hasText t.assignedToXID then .IN_PROGRESS else .IN_WB

/-- What a status update may not touch for the ownership to stay as it is. -/
structure LeavesOwnership (ctx : StatusContext) : Prop where
  version : ctx.expectedVersion = none
  owner : ctx.statusPatch.assignedToXID = none
  queue : ctx.statusPatch.queueType = none

/-- The gate of `transitionDocket` on the way out of `PENDING`: the lifecycle `WL` of `ASSIGNED` is
not admitted, and the lifecycle `ACTIVE` of the other targets is. -/
theorem gate_reopenTarget_iff {docket : Docket} (hd : Pended docket) :
    isValidTransition (normalizeLifecycle docket.lifecycle)
        (toLifecycleFromStatus (reopenTarget docket)) = true ↔
      hasText docket.assignedToXID = false := by
  rw [hd.lifecycle, normalizeLifecycle_state]
  by_cases howner : hasText docket.assignedToXID = true
  -- With an owner: from `WAITING` to `WL`, which is no move of the table.
  · simp [reopenTarget, howner, truthy_of_hasText howner, isValidTransition, toLifecycleFromStatus,
      CaseStatus.normalize, Lifecycle.transitions]
  -- Without one: from `WL`, or `WAITING` for an owner of white space, to `ACTIVE`.
  · have htarget : toLifecycleFromStatus (reopenTarget docket) = .ACTIVE := by
      unfold reopenTarget
      split_ifs <;> rfl
    rw [htarget]
    by_cases htruthy : truthy docket.assignedToXID = true <;>
      simp [howner, htruthy, isValidTransition, Lifecycle.transitions]

/-- No other check of `transitionDocket` stands in the way out of `PENDING`. -/
theorem accepts_reopenTarget_iff {ctx : StatusContext} {read docket : Docket}
    (hd : Pended docket) :
    Accepts (ctx.options (reopenTarget docket) read) docket ↔
      hasText docket.assignedToXID = false := by
  rw [← gate_reopenTarget_iff hd]
  refine ⟨fun h => h.gate, fun hgate => ⟨fun h => ?_, fun h => ?_, hgate⟩⟩
  all_goals
    simp only [StatusContext.options, reopenTarget] at h
    split_ifs at h <;> cases h

/-- An update that leaves the ownership stores the owner and the queue as they were. -/
theorem LeavesOwnership.updated {ctx : StatusContext} (hctx : LeavesOwnership ctx)
    (status : CaseStatus) (docket : Docket) :
    (StatusUpdate.updated status ctx docket).assignedToXID = docket.assignedToXID ∧
      (StatusUpdate.updated status ctx docket).queueType = docket.queueType := by
  constructor
  · show (ctx.statusPatch.assignedToXID.map (·.map castXID)).getD docket.assignedToXID = _
    rw [hctx.owner]
    rfl
  · show ctx.statusPatch.queueType.getD docket.queueType = _
    rw [hctx.queue]
    rfl

/-- The canonical state of a docket without an owner that is reopened: `IN_WB`, unless the docket
is left `UNASSIGNED` in the personal queue. -/
theorem canonicalState_updated_iff {ctx : StatusContext} {docket : Docket}
    (hctx : LeavesOwnership ctx) (howner : hasText docket.assignedToXID = false) :
    (updated (reopenTarget docket) ctx docket).canonicalState = .IN_WB ↔
      docket.routedToTeamId.isSome = true ∨ docket.queueType = .GLOBAL := by
  obtain ⟨howner', hqueue'⟩ := hctx.updated (reopenTarget docket) docket
  have hstatus : (updated (reopenTarget docket) ctx docket).status =
      if docket.routedToTeamId.isSome then .ROUTED else .UNASSIGNED := by
    show reopenTarget docket = _
    simp [reopenTarget, howner]
  simp only [Docket.canonicalState, Docket.view, howner', hqueue', hstatus]
  by_cases hrouted : docket.routedToTeamId.isSome = true
  · simp [hrouted, getCanonicalDocketState, CaseStatus.normalize]
  · cases hqueue : docket.queueType <;>
      simp [hrouted, getCanonicalDocketState, CaseStatus.normalize, ownershipState, howner]

/-- The status update by which a pended docket is reopened succeeds, and leaves it in the state of
its ownership, exactly when the docket has no owner, and is routed or in the global queue. -/
theorem reopened_updateStatus_iff {ctx : StatusContext} {docket : Docket} (hd : Pended docket)
    (hctx : LeavesOwnership ctx) (hsession : ctx.session = true) (hrole : ctx.role ≠ .SUPER_ADMIN) :
    Reopened (updateStatus (reopenTarget docket) ctx docket) ↔
      hasText docket.assignedToXID = false ∧
        (docket.routedToTeamId.isSome = true ∨ docket.queueType = .GLOBAL) := by
  have hnormal : normalizeStatus (reopenTarget docket) = reopenTarget docket := by
    unfold reopenTarget
    split_ifs <;> rfl
  have hstored : toPersistenceState (toDocketState (reopenTarget docket)) = reopenTarget docket := by
    unfold reopenTarget
    split_ifs <;> rfl
  have hpending : reopenTarget docket ≠ .PENDING := by
    unfold reopenTarget
    split_ifs <;> decide
  have hupdated := (hctx.updated (reopenTarget docket) docket).1
  simp only [Reopened, updateStatus_eq docket hnormal hstored hsession hrole hctx.version,
    bind_eq_ok, transitionChecks_eq_ok, accepts_reopenTarget_iff hd, Except.ok.injEq, exists_const]
  constructor
  · rintro ⟨t, ⟨howner, rfl⟩, -, hstate⟩
    rw [hupdated, if_neg (by simp [howner]), canonicalState_updated_iff hctx howner] at hstate
    exact ⟨howner, hstate⟩
  · rintro ⟨howner, hplace⟩
    refine ⟨_, ⟨howner, rfl⟩, hpending, ?_⟩
    rw [hupdated, if_neg (by simp [howner]), canonicalState_updated_iff hctx howner]
    exact hplace

/-- A user's request to reopen a docket is its status update: the service's own checks let every
firm user out of `PENDING`. -/
theorem unpendCase_eq {req : ActionRequest} {docket : Docket} (hd : Pended docket)
    (hrole : req.user.role ≠ .SUPER_ADMIN) (hcomment : isBlank req.comment = false) :
    unpendCase req docket = updateStatus (reopenTarget docket) (unpendContext req) docket := by
  have hfind : CaseRepository.findByCaseId req.user.role docket = .ok (decryptCaseDoc docket) :=
    CaseRepository.findByCaseId_eq_ok.mpr ⟨hrole, rfl⟩
  have hcomment : validateComment req.comment = .ok () := by simp [validateComment, hcomment]
  have htarget : reopenTarget (decryptCaseDoc docket) = reopenTarget docket := rfl
  have hallowed : assertLifecycleTransitionAllowed docket.status (reopenTarget docket)
      req.user.role = .ok () := by
    have hlisted : (reopenTarget docket).normalize ∈ lifecycleTransitions .PENDING := by
      unfold reopenTarget
      split_ifs <;> decide
    have hcurrent : CaseStatus.PENDING.normalize = .PENDING := rfl
    simp [assertLifecycleTransitionAllowed, hd.status, hcurrent, hlisted]
  simp only [unpendCase, hcomment, hfind, ok_bind, htarget, CaseRepository.decryptCaseDoc_status,
    hallowed]

/-- A docket that was pended is reopened, by its user and by the background job, exactly when it has
no owner, and is routed or in the global queue. The user's request needs a transaction, which the
job opens itself. -/
theorem reopens_iff {pendingUntil : Date} {pending : ActionRequest} {docket₀ docket : Docket}
    (hpended : pendCase pendingUntil pending docket₀ = .ok docket) (req : ActionRequest)
    (hrole : req.user.role ≠ .SUPER_ADMIN) (hcomment : isBlank req.comment = false) (now : Date) :
    (Reopened (unpendCase req docket) ∧ Reopened (performAutoReopen now docket)) ↔
      req.session = true ∧ hasText docket.assignedToXID = false ∧
        (docket.routedToTeamId.isSome = true ∨ docket.queueType = .GLOBAL) := by
  have hd := pended_of_pendCase hpended
  have hauto : Reopened (performAutoReopen now docket) ↔ hasText docket.assignedToXID = false ∧
      (docket.routedToTeamId.isSome = true ∨ docket.queueType = .GLOBAL) :=
    reopened_updateStatus_iff hd ⟨rfl, rfl, rfl⟩ rfl (show Role.ADMIN ≠ .SUPER_ADMIN by decide)
  rw [unpendCase_eq hd hrole hcomment, hauto]
  cases hsession : req.session with
  | false =>
    have hrefused : ¬Reopened (updateStatus (reopenTarget docket) (unpendContext req) docket) := by
      rw [updateStatus_sessionless docket hsession]
      rintro ⟨t, ht, -⟩
      cases ht
    simp [hrefused]
  | true =>
    rw [reopened_updateStatus_iff hd ⟨rfl, rfl, rfl⟩ hsession hrole]
    simp

/-- A docket at work, with its owner. -/
def workedDocket : Docket where
  status := .IN_PROGRESS
  state := some .IN_PROGRESS
  lifecycle := .state .ACTIVE
  queueType := .PERSONAL
  assignedToXID := some "X000001"

/-- A docket that is routed to a team, and that no one has pulled. -/
def unownedDocket : Docket where
  status := .OPEN
  state := some .IN_WB
  routedToTeamId := some ⟨"b1"⟩

/-- A user's request, in a transaction. -/
def userRequest : ActionRequest where
  now := 0
  user := { xID := some "X000001" }
  comment := "waiting_client"

/-- What a request to pend a docket stores. -/
def pendedFrom (docket : Docket) : Docket := settle (pendCase 10 userRequest docket) docket

theorem reopens_unowned :
    Reopened (unpendCase userRequest (pendedFrom unownedDocket)) ∧
      Reopened (performAutoReopen 11 (pendedFrom unownedDocket)) :=
  (reopens_iff (show pendCase 10 userRequest unownedDocket = .ok (pendedFrom unownedDocket) from rfl)
    userRequest (by decide) (by decide) 11).mpr ⟨rfl, by decide, .inl rfl⟩

/-- A docket that its owner has pended is not reopened, neither by the owner nor by the job. -/
theorem reopening_fails :
    pendCase 10 userRequest workedDocket = .ok (pendedFrom workedDocket) ∧
      (pendedFrom workedDocket).lifecycle = .state .WAITING ∧
      ¬Reopened (unpendCase userRequest (pendedFrom workedDocket)) ∧
      ¬Reopened (performAutoReopen 11 (pendedFrom workedDocket)) := by
  refine ⟨rfl, rfl, ?_, ?_⟩
  all_goals
    rintro ⟨t, ht, -⟩
    cases ht

end Docketra.CaseAction
