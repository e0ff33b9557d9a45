import Docketra.Lib.Effects
import Docketra.QualityCheck

/-!
# Decisions that are rejected

`qcDecision` checks as it goes. A failed check returns the docket to its submitter, and the event and
the notification of it are out before the permission of the actor, the lifecycle, the owner, and the
schema are looked at. For every other decision the notification of the new lifecycle is out before
the save. So a decision that is rejected has had an effect exactly when it fails behind the first of
them (`rejected_without_effect_iff`).

`Workflow.qcDecision` is the result of this run, when nobody else saves the docket meanwhile
(`result_qcDecisionRun`).
-/

namespace Docketra.Workflow

open Checked Effects

/-! ## The run of a decision -/

/-- What `qcDecision` does apart from the docket. -/
inductive WorkflowEffect where
  /-- The event `docket.qc_failure`. -/
  | qcFailure (docketId firmId : String) (requestedBy handledBy : Option String)
  | notification (firmId userId type docketId : String)
  deriving DecidableEq, Repr

/-- `createDocketNotification`, under the condition of its caller. -/
def createDocketNotification (asked : Prop) [Decidable asked] (firmId : String)
    (userId : Option String) (type docketId : String) : Run Failure WorkflowEffect Unit :=
  .emitIf (asked ∧ truthy userId) (.notification firmId (toUpperCase (userId.getD "")) type docketId)

/-- `qcDecision` from its decision on, with its notification. -/
def applyDecisionRun (firmId : String) (conflict : Bool) (req : QcDecisionRequest) (src : Docket)
    (toState : CaseStatus) (docket : Docket) : Run Failure WorkflowEffect Docket := do
  let targetCanonicalState := canonicalStateWith docket toState
  .checked (checkQcTarget src.canonicalState targetCanonicalState)
  let fromLifecycle := normalizeLifecycle docket.lifecycle
  let targetLifecycle := toLifecycleFromStatus toState
  .checked (validateLifecycleAccess req.actor fromLifecycle targetLifecycle
    (toDocketState src.status))
  let docket ← .checked (transitionLifecycle (setDecision req toState targetCanonicalState docket)
    targetLifecycle)
  createDocketNotification (fromLifecycle ≠ targetLifecycle ∧ firmId ≠ "" ∧ docket.caseId ≠ "")
    firmId (orElse docket.assignedToXID req.actor.xID) "STATUS_CHANGED" docket.caseId
  let docket ← .checked (enforceOwnershipRules (recordAction req.actor req.now docket))
  .checked (docket.saveUnless conflict)

/-- `qcDecision` about a docket in quality check. -/
def decideRun (firmId : String) (conflict : Bool) (req : QcDecisionRequest) (decision : QcDecision)
    (docket : Docket) : Run Failure WorkflowEffect Docket :=
  let recorded := recordQcDecision req decision docket
  if getQcDecisionTransition decision = .IN_PROGRESS then do
    -- The docket is not saved yet, and may never be.
    .emit (.qcFailure docket.caseId firmId docket.qc.requestedBy req.actor.xID)
    createDocketNotification True firmId recorded.assignedToXID "QC_RETURNED" docket.caseId
    applyDecisionRun firmId conflict req docket (qcDecisionStatus decision) recorded
  else applyDecisionRun firmId conflict req docket (qcDecisionStatus decision) recorded

/-- `qcDecision` up to the end of its save. `conflict` tells whether another request saves the
docket meanwhile. -/
def qcDecisionRun (firmId : String) (conflict : Bool) (req : QcDecisionRequest) (docket : Docket) :
    Run Failure WorkflowEffect Docket := do
  .checked (requireComment req.comment "QC action")
  match req.decision with
  | none => .checked (throw (makeError "Invalid QC decision"))
  | some decision => do
    .checked (throwIf (docket.canonicalState ≠ .IN_QC)
      (makeError "QC can only be performed when docket is in QC state"))
    decideRun firmId conflict req decision docket

theorem result_applyDecisionRun (firmId : String) (req : QcDecisionRequest) (src docket : Docket)
    (toState : CaseStatus) : (applyDecisionRun firmId false req src toState docket).result =
      applyDecision req src toState docket := by
  simp only [applyDecisionRun, applyDecision, createDocketNotification, Run.result_checked_bind,
    Run.result_emitIf_bind, Run.result_checked, Docket.saveUnless_false]

/-- The decision of the model is the result of the run. -/
theorem result_qcDecisionRun (firmId : String) (req : QcDecisionRequest) (docket : Docket) :
    (qcDecisionRun firmId false req docket).result = qcDecision req docket := by
  unfold qcDecisionRun qcDecision
  rw [Run.result_checked_bind]
  cases req.decision with
  | none => rfl
  | some decision =>
    dsimp only
    simp only [Run.result_checked_bind]
    congr 1
    funext u
    congr 1
    funext v
    unfold decideRun
    split
    · rw [Run.result_emit_bind, createDocketNotification, Run.result_emitIf_bind,
        result_applyDecisionRun]
    · rw [result_applyDecisionRun]

/-! ## Decisions without an effect -/

/-- A decision that is rejected before its save is over has no effect, and leaves the docket. -/
def RejectedWithoutEffect (firmId : String) (conflict : Bool) (req : QcDecisionRequest)
    (docket : Docket) : Prop :=
  ∀ e, (qcDecisionRun firmId conflict req docket).result = .error e →
    (qcDecisionRun firmId conflict req docket).effects = [] ∧
      settle (qcDecisionRun firmId conflict req docket).result docket = docket

/-- The user that a failed check gives the docket back to. -/
def returnee (docket : Docket) : Option String :=
  (orElse docket.qcSubmittedByXID (orElse docket.qc.originalAssigneeXID docket.assignedToXID)).map
    castXID

/-- The actor may decide, and the lifecycle may go on to another one. -/
structure Admitted (req : QcDecisionRequest) (docket : Docket) (target : Lifecycle) : Prop where
  role : normalizeActorRole req.actor.role ≠ .USER
  lifecycle : isValidTransition (normalizeLifecycle docket.lifecycle) target = true

/-- Somebody is told of the new lifecycle. -/
structure Told (firmId : String) (req : QcDecisionRequest) (docket : Docket) : Prop where
  firm : firmId ≠ ""
  docketId : docket.caseId ≠ ""
  user : truthy (orElse docket.assignedToXID req.actor.xID) = true

/-- The condition on a decision about a docket in quality check: a failed check completes, and any
other decision is refused before somebody is told of it, or completes. -/
def Quiet (firmId : String) (conflict : Bool) (req : QcDecisionRequest) (docket : Docket) :
    QcDecision → Prop
  | .FAILED => Admitted req docket .ACTIVE ∧ truthy (returnee docket) = true ∧
      docket.Storable conflict (returnee docket)
  | _ => Admitted req docket .DONE → Told firmId req docket →
      docket.Storable conflict docket.assignedToXID

/-! ## The checks of a decision -/

/-- The dockets in quality check are those of the status `QC_PENDING`. -/
theorem canonicalState_eq_inQc {docket : Docket} :
    docket.canonicalState = .IN_QC ↔ docket.status = .QC_PENDING := by
  have hown : ownershipState docket.view ≠ .IN_QC := by
    unfold ownershipState
    split_ifs <;> decide
  unfold Docket.canonicalState getCanonicalDocketState
  have hview : docket.view.status = some docket.status := rfl
  rw [hview]
  cases hstatus : docket.status <;> simp only [CaseStatus.normalize] <;>
    first
    | exact iff_of_false hown (by decide)
    | (split <;> exact iff_of_false (by decide) (by decide))
    | decide

theorem validateLifecycleAccess_eq_ok {actor : Actor} {src tgt : Lifecycle} {u : Unit} :
    validateLifecycleAccess actor src tgt (toDocketState .QC_PENDING) = .ok u ↔
      normalizeActorRole actor.role ≠ .USER ∧ isValidTransition src tgt = true := by
  have hqc : getCanonicalDocketState { status := some (toDocketState .QC_PENDING) } = .IN_QC := rfl
  simp only [validateLifecycleAccess, hqc, and_true, bind_eq_ok, throwIf_eq_ok, exists_const,
    not_not]

/-- A lifecycle goes to another one. -/
theorem ne_of_isValidTransition {src tgt : Lifecycle} (h : isValidTransition src tgt = true) :
    src ≠ tgt := by
  cases src <;> cases tgt <;> first | decide | exact nomatch h

theorem transitionLifecycle_eq {docket : Docket} {target : Lifecycle}
    (h : isValidTransition (normalizeLifecycle docket.lifecycle) target = true)
    (htarget : target ≠ .WL) :
    transitionLifecycle docket target = .ok (setLifecycle target docket) := by
  have hvalid : ¬(normalizeLifecycle docket.lifecycle ≠ target ∧
      ¬isValidTransition (normalizeLifecycle docket.lifecycle) target = true) :=
    fun hbad => hbad.2 h
  have howner : ¬(target = .WL ∧ ¬hasText docket.assignedToXID = true) := fun hbad => htarget hbad.1
  rw [transitionLifecycle, assertValidLifecycleTransition, throwIf_neg hvalid, ok_bind,
    throwIf_neg howner, ok_bind, pure_eq]

/-! ## A failed check -/

/-- A failed check gives the docket back when the actor may decide, the lifecycle may become
`ACTIVE`, there is somebody to give it back to, and the docket can be saved. -/
theorem applyDecisionRun_failed {firmId : String} {conflict : Bool} {req : QcDecisionRequest}
    {docket : Docket} (hstatus : docket.status = .QC_PENDING) :
    (∃ t, (applyDecisionRun firmId conflict req docket .IN_PROGRESS
      (recordQcDecision req .FAILED docket)).result = .ok t) ↔
      Quiet firmId conflict req docket .FAILED := by
  have hmove : checkQcTarget docket.canonicalState
      (canonicalStateWith (recordQcDecision req .FAILED docket) .IN_PROGRESS) = .ok () := by
    rw [canonicalState_eq_inQc.mpr hstatus]
    rfl
  simp only [applyDecisionRun, createDocketNotification, Run.result_checked_bind,
    Run.result_emitIf_bind, Run.result_checked, hmove, ok_bind, bind_eq_ok, hstatus,
    validateLifecycleAccess_eq_ok, Docket.saveUnless_eq_ok, Quiet]
  constructor
  · rintro ⟨t, -, ⟨hrole, hvalid⟩, d, hd, d', henforce, hsavable, hconflict, -⟩
    obtain rfl := transitionLifecycle_ok hd
    obtain ⟨h, -⟩ | ⟨-, howner, rfl⟩ | ⟨-, h, -⟩ := enforceOwnershipRules_eq_ok.mp henforce
    · exact absurd h (by decide : some DocketState.IN_PROGRESS ≠ some .IN_WB)
    · exact ⟨⟨hrole, hvalid⟩, howner, fun _ => howner, hsavable.reason.listed, hconflict⟩
    · exact absurd rfl h
  · rintro ⟨⟨hrole, hvalid⟩, howner, hstored⟩
    refine ⟨_, (), ⟨hrole, hvalid⟩, _, transitionLifecycle_eq hvalid (by decide), _,
      enforceOwnershipRules_eq_ok.mpr (Or.inr (Or.inl ⟨rfl, howner, rfl⟩)), ⟨?_, ?_⟩,
      hstored.conflict, rfl⟩
    · exact fun _ => howner
    · exact ⟨fun h : CaseStatus.IN_PROGRESS = .PENDING => absurd h (by decide), hstored.reason⟩

/-! ## The other decisions -/

/-- Any other decision leaves the owner, the queue, the lifecycle, and the reason for pending. -/
theorem recordQcDecision_frame {req : QcDecisionRequest} {decision : QcDecision} {docket : Docket}
    (h : decision ≠ .FAILED) :
    (recordQcDecision req decision docket).assignedToXID = docket.assignedToXID ∧
      (recordQcDecision req decision docket).queueType = docket.queueType ∧
      (recordQcDecision req decision docket).lifecycle = docket.lifecycle ∧
      (recordQcDecision req decision docket).caseId = docket.caseId ∧
      (recordQcDecision req decision docket).pendingReason = docket.pendingReason := by
  cases decision with
  | FAILED => exact absurd rfl h
  | APPROVED => exact ⟨rfl, rfl, rfl, rfl, rfl⟩
  | PASSED => exact ⟨rfl, rfl, rfl, rfl, rfl⟩
  | CORRECTED => exact ⟨rfl, rfl, rfl, rfl, rfl⟩

/-- A docket that is resolved is stored as it is, when it can be. -/
theorem saved_resolved {conflict : Bool} {docket : Docket} (hstate : docket.state = some .RESOLVED)
    (hstatus : docket.status = .RESOLVED) :
    (∃ t, (enforceOwnershipRules docket >>= Docket.saveUnless conflict) = .ok t) ↔
      docket.Storable conflict docket.assignedToXID := by
  have henforce : enforceOwnershipRules docket = .ok docket :=
    enforceOwnershipRules_eq_ok.mpr (Or.inr (Or.inr ⟨by rw [hstate]; decide, by rw [hstate]; decide,
      rfl⟩))
  rw [henforce, ok_bind]
  exact Docket.exists_saveUnless_iff (by rw [hstatus]; decide)

/-- Once somebody is told, the docket has to be stored. -/
theorem allOrNothing_notify {asked : Prop} [Decidable asked] {firmId type docketId : String}
    {userId : Option String} {conflict : Bool} {docket : Docket} :
    (do createDocketNotification asked firmId userId type docketId
        let docket ← .checked (enforceOwnershipRules docket)
        Run.checked (docket.saveUnless conflict)).AllOrNothing ↔
      (asked ∧ truthy userId = true →
        ∃ t, (enforceOwnershipRules docket >>= Docket.saveUnless conflict) = .ok t) := by
  have hquiet : (do
      let docket ← Run.checked (ω := WorkflowEffect) (enforceOwnershipRules docket)
      Run.checked (docket.saveUnless conflict)).AllOrNothing :=
    Run.allOrNothing_checked_bind.mpr fun _ _ => Run.allOrNothing_checked
  rw [createDocketNotification, Run.allOrNothing_emitIf_bind, Run.result_checked_bind]
  simp only [Run.result_checked]
  split
  · next htold => exact ⟨fun h _ => h, fun h => h htold⟩
  · next htold => exact ⟨fun _ h => absurd h htold, fun _ => hquiet⟩

/-- The docket as it comes to the save of a decision other than `FAILED`. -/
def completed (req : QcDecisionRequest) (decision : QcDecision) (docket : Docket) : Docket :=
  setLifecycle .DONE (setDecision req .RESOLVED .RESOLVED (recordQcDecision req decision docket))

/-- It has the owner, the queue, and the reason of before, so that the save depends on these. -/
theorem saved_completed_iff {conflict : Bool} {req : QcDecisionRequest} {decision : QcDecision}
    {docket : Docket} (hdecision : decision ≠ .FAILED) :
    (∃ t, (enforceOwnershipRules (recordAction req.actor req.now (completed req decision docket)) >>=
      Docket.saveUnless conflict) = .ok t) ↔ docket.Storable conflict docket.assignedToXID := by
  obtain ⟨hassigned, hqueue, -, -, hpending⟩ :
      _ ∧ _ ∧ _ ∧ _ ∧ (recordQcDecision req decision docket).pendingReason = _ :=
    recordQcDecision_frame hdecision
  have hlist : (recordAction req.actor req.now (completed req decision docket)).pendingReasonListed =
      docket.pendingReasonListed := by
    unfold Docket.pendingReasonListed
    rw [← hpending]
    rfl
  rw [saved_resolved rfl rfl]
  change Docket.Storable _ conflict (recordQcDecision req decision docket).assignedToXID ↔ _
  rw [hassigned]
  constructor
  · exact fun h => ⟨fun hp => h.owner (hqueue.trans hp), hlist ▸ h.reason, h.conflict⟩
  · exact fun h => ⟨fun hp => h.owner (hqueue.symm.trans hp), hlist ▸ h.reason, h.conflict⟩

/-- A docket that may be completed is. -/
theorem transitionLifecycle_completed (req : QcDecisionRequest) {decision : QcDecision}
    {docket d : Docket} (hdecision : decision ≠ .FAILED)
    (hvalid : isValidTransition (normalizeLifecycle docket.lifecycle) .DONE = true) :
    transitionLifecycle (setDecision req .RESOLVED .RESOLVED (recordQcDecision req decision docket))
      .DONE = .ok d ↔ d = completed req decision docket := by
  obtain ⟨-, -, hlifecycle, -, -⟩ :
      _ ∧ _ ∧ _ ∧ _ ∧ (recordQcDecision req decision docket).pendingReason = _ :=
    recordQcDecision_frame hdecision
  refine ⟨transitionLifecycle_ok, fun hd => hd ▸ transitionLifecycle_eq ?_ (by decide)⟩
  change isValidTransition (normalizeLifecycle
    (recordQcDecision req decision docket).lifecycle) .DONE = true
  rw [hlifecycle]
  exact hvalid

/-- Somebody is told of a decision that completes the docket when there is somebody to tell. -/
theorem told_completed_iff {firmId : String} {req : QcDecisionRequest} {decision : QcDecision}
    {docket : Docket} (hdecision : decision ≠ .FAILED)
    (hvalid : isValidTransition (normalizeLifecycle docket.lifecycle) .DONE = true) :
    ((normalizeLifecycle docket.lifecycle ≠ .DONE ∧ firmId ≠ "" ∧
        (completed req decision docket).caseId ≠ "") ∧
      truthy (orElse (completed req decision docket).assignedToXID req.actor.xID) = true) ↔
        Told firmId req docket := by
  obtain ⟨hassigned, -, -, hcase, -⟩ :
      _ ∧ _ ∧ _ ∧ _ ∧ (recordQcDecision req decision docket).pendingReason = _ :=
    recordQcDecision_frame hdecision
  change (_ ∧ _ ∧ (recordQcDecision req decision docket).caseId ≠ "") ∧ truthy (orElse
    (recordQcDecision req decision docket).assignedToXID req.actor.xID) = true ↔ _
  rw [hassigned, hcase]
  exact ⟨fun ⟨⟨_, hfirm, hid⟩, huser⟩ => ⟨hfirm, hid, huser⟩,
    fun ⟨hfirm, hid, huser⟩ => ⟨⟨ne_of_isValidTransition hvalid, hfirm, hid⟩, huser⟩⟩

/-- Of any other decision, somebody is told before the docket is saved. -/
theorem applyDecisionRun_resolved {firmId : String} {conflict : Bool} {req : QcDecisionRequest}
    {decision : QcDecision} {docket : Docket} (hdecision : decision ≠ .FAILED)
    (hstatus : docket.status = .QC_PENDING) :
    (applyDecisionRun firmId conflict req docket .RESOLVED
      (recordQcDecision req decision docket)).AllOrNothing ↔
      (Admitted req docket .DONE → Told firmId req docket →
        docket.Storable conflict docket.assignedToXID) := by
  obtain ⟨-, -, hlifecycle, -, -⟩ :
      _ ∧ _ ∧ _ ∧ _ ∧ (recordQcDecision req decision docket).pendingReason = _ :=
    recordQcDecision_frame hdecision
  have hmove : checkQcTarget docket.canonicalState .RESOLVED = .ok () := by
    rw [canonicalState_eq_inQc.mpr hstatus]
    rfl
  have hdone : toLifecycleFromStatus .RESOLVED = .DONE := rfl
  have hcanonical : canonicalStateWith (recordQcDecision req decision docket) .RESOLVED =
      .RESOLVED := rfl
  simp only [applyDecisionRun, hmove, Run.checked_ok_bind, hstatus, hdone, hcanonical, hlifecycle,
    Run.allOrNothing_checked_bind, validateLifecycleAccess_eq_ok, allOrNothing_notify]
  constructor
  · intro h ⟨hrole, hvalid⟩ hasked
    -- Once told, the docket has to be saved.
    have hd := (transitionLifecycle_completed req hdecision hvalid).mpr rfl
    exact (saved_completed_iff hdecision).mp (h () ⟨hrole, hvalid⟩ _ hd
      ((told_completed_iff hdecision hvalid).mpr hasked))
  · intro h _ ⟨hrole, hvalid⟩ d hd hasked
    obtain rfl := (transitionLifecycle_completed req hdecision hvalid).mp hd
    exact (saved_completed_iff hdecision).mpr
      (h ⟨hrole, hvalid⟩ ((told_completed_iff hdecision hvalid).mp hasked))

/-- About a docket in quality check, a decision completes or has no effect exactly when it meets the
condition. -/
theorem decideRun_allOrNothing {firmId : String} {conflict : Bool} {req : QcDecisionRequest}
    {decision : QcDecision} {docket : Docket} (hstatus : docket.status = .QC_PENDING) :
    (decideRun firmId conflict req decision docket).AllOrNothing ↔
      Quiet firmId conflict req docket decision := by
  cases decision with
  | FAILED =>
    have hbranch : getQcDecisionTransition .FAILED = .IN_PROGRESS := rfl
    -- The event is out, so the rest has to complete.
    rw [decideRun, if_pos hbranch, Run.allOrNothing_emit_bind, createDocketNotification,
      Run.result_emitIf_bind]
    exact applyDecisionRun_failed hstatus
  | APPROVED => exact applyDecisionRun_resolved (by decide) hstatus
  | PASSED => exact applyDecisionRun_resolved (by decide) hstatus
  | CORRECTED => exact applyDecisionRun_resolved (by decide) hstatus

/-- A rejected decision has no effect exactly when the run is all or nothing. -/
theorem rejectedWithoutEffect_iff {firmId : String} {conflict : Bool} {req : QcDecisionRequest}
    {docket : Docket} : RejectedWithoutEffect firmId conflict req docket ↔
      (qcDecisionRun firmId conflict req docket).AllOrNothing := by
  unfold RejectedWithoutEffect Run.AllOrNothing
  cases (qcDecisionRun firmId conflict req docket).result with
  | ok t => exact ⟨fun _ => Or.inl ⟨t, rfl⟩, fun _ e h => nomatch h⟩
  | error e =>
    have hfails : ¬∃ t, (Except.error e : Except Failure Docket) = .ok t := fun ⟨_, ht⟩ => nomatch ht
    exact ⟨fun h => Or.inr (h e rfl).1, fun h _ _ => ⟨h.resolve_left hfails, rfl⟩⟩

/-- A decision that is rejected has no effect exactly when it is refused by its first checks, or
meets the condition. -/
theorem rejected_without_effect_iff (firmId : String) (conflict : Bool) (req : QcDecisionRequest)
    (docket : Docket) :
    RejectedWithoutEffect firmId conflict req docket ↔
      (isBlank req.comment = false → docket.status = .QC_PENDING →
        ∀ decision ∈ req.decision, Quiet firmId conflict req docket decision) := by
  rw [rejectedWithoutEffect_iff, qcDecisionRun, Run.allOrNothing_checked_bind]
  simp only [requireComment_eq_ok]
  cases hdecision : req.decision with
  | none => exact ⟨fun _ _ _ _ h => (nomatch h), fun _ _ _ => Run.allOrNothing_checked⟩
  | some decision =>
    dsimp only
    simp only [Run.allOrNothing_checked_bind, throwIf_eq_ok, not_not, canonicalState_eq_inQc]
    constructor
    · intro h hcomment hstatus d hd
      obtain rfl := Option.some.inj hd
      exact (decideRun_allOrNothing hstatus).mp (h () hcomment () hstatus)
    · exact fun h _ hcomment _ hstatus =>
        (decideRun_allOrNothing hstatus).mpr (h hcomment hstatus _ rfl)

/-- Somebody who may not decide fails the check of a docket. The event and the notification are out
before the request is refused. -/
theorem rejected_with_effect :
    ¬RejectedWithoutEffect "F1" false
      { decisionRequest .FAILED with actor := { xID := some "X000009" } } submittedDocket := by
  intro h
  have hquiet : (qcDecisionRun "F1" false
      { decisionRequest .FAILED with actor := { xID := some "X000009" } } submittedDocket).effects =
        [] := (h _ rfl).1
  exact absurd hquiet (by decide)

end Docketra.Workflow
