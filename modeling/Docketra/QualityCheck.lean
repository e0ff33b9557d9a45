import Docketra.WorkflowSpec

/-!
# Quality check

Into a quality check and out of it. A request to resolve a docket never gets as far as the routing
decision (`not_routesResolution`). A docket that was sent to quality check directly can leave it by
a failed check only: its lifecycle is `WAITING`, which the lifecycle table does not let go to
`DONE` (`qc_round_trip_iff`).
-/

namespace Docketra

open Checked Workflow

/-! ## Resolution -/

/-- The routing decision for a docket that is to be resolved: by its category, the subcategory that
`findDocketSubcategory` selects, and its resolver. -/
def routingDecision (env : Lookups) (req : TransitionRequest) (docket : Docket) : QcRouting :=
  let category := env.category docket.categoryId
    (if truthy docket.category then docket.category else none)
  let resolverXID := orElse docket.assignedToXID req.actor.xID
  let resolverUser := if truthy resolverXID then env.user (resolverXID.getD "") else none
  resolveQcRoutingDecision env docket category (findDocketSubcategory category docket) req.sendToQC
    resolverUser

/-- The status that the routing decision asks for. -/
def routedStatus (decision : QcRouting) : CaseStatus :=
  if decision.routeToQc then .QC_PENDING else .RESOLVED

/-- The transition completes, and stores the status that the routing decision asks for. -/
def RoutesResolution (env : Lookups) (req : TransitionRequest) (docket : Docket) : Prop :=
  ∃ t, transition env req docket = .ok t ∧ t.status = routedStatus (routingDecision env req docket)

/-- A request to resolve a docket, with its comment, fails on a name that no scope binds. -/
theorem transition_resolved_eq {env : Lookups} {req : TransitionRequest} {docket : Docket}
    (htarget : req.toState = some .RESOLVED) (hcomment : isBlank req.comment = false) :
    transition env req docket = .error (referenceError "subcategory") := by
  have hcheck : requireTargetComment req .RESOLVED = .ok () := by
    simp [requireTargetComment, hcomment]
  simp only [transition, htarget, toDocketState, hcheck, ok_bind]
  rfl

/-- The passed checks of a transition to `RESOLVED`, for the target that the routing decision asks
for. -/
def PassesChecks (env : Lookups) (req : TransitionRequest) (docket : Docket) : Prop :=
  isBlank req.comment = false ∧
    checkTarget req.actor docket (routedStatus (routingDecision env req docket))
      (toDocketState docket.status) docket.canonicalState
      (canonicalStateWith docket (routedStatus (routingDecision env req docket))) = .ok ()

/-- A transition that fails routes no resolution. -/
theorem not_routes_of_error {env : Lookups} {req : TransitionRequest} {docket : Docket}
    {e : Failure} (h : transition env req docket = .error e) : ¬RoutesResolution env req docket := by
  rintro ⟨t, ht, -⟩
  rw [h] at ht
  cases ht

/-- No resolution is routed: whatever the docket and the lookups, a request with a comment fails on
the name of the subcategory. -/
theorem not_routesResolution (env : Lookups) (req : TransitionRequest) (docket : Docket)
    (htarget : req.toState = some .RESOLVED) :
    (isBlank req.comment = false →
      transition env req docket = .error (referenceError "subcategory")) ∧
      ¬RoutesResolution env req docket := by
  refine ⟨transition_resolved_eq htarget, ?_⟩
  by_cases hcomment : isBlank req.comment = false
  · exact not_routes_of_error (transition_resolved_eq htarget hcomment)
  -- Without a comment the request fails before it comes to the name.
  · have hcheck : requireTargetComment req .RESOLVED =
        .error (makeErrorWith "RESOLVED requires comment" 400 "COMMENT_REQUIRED") := by
      simp [requireTargetComment, requireComment, throwIf, hcomment, CaseStatus.value]
    refine not_routes_of_error
      (e := makeErrorWith "RESOLVED requires comment" 400 "COMMENT_REQUIRED") ?_
    simp only [transition, htarget, toDocketState, hcheck, error_bind]

/-- A docket at work, which is marked for a quality check. -/
def activeDocket : Docket where
  status := .IN_PROGRESS
  state := some .IN_PROGRESS
  lifecycle := .state .ACTIVE
  queueType := .PERSONAL
  assignedToXID := some "X000001"
  forceQc := true

/-- Its owner's request to resolve it. -/
def resolveRequest : TransitionRequest where
  now := 0
  actor := { xID := some "X000001" }
  toState := some .RESOLVED
  comment := "Return filed"

theorem not_routesResolution_active : ¬RoutesResolution {} resolveRequest activeDocket :=
  (not_routesResolution {} resolveRequest activeDocket rfl).2

/-- The request passes every check, and should send the docket to quality check. It fails. -/
theorem routing_fails :
    PassesChecks {} resolveRequest activeDocket ∧
      (routingDecision {} resolveRequest activeDocket).routeToQc = true ∧
      ¬RoutesResolution {} resolveRequest activeDocket :=
  ⟨⟨by decide, rfl⟩, rfl, not_routes_of_error (transition_resolved_eq rfl (by decide))⟩

/-! ## Out of a quality check -/

/-- The arguments of a decision on a docket in quality check, and what the decision is to store: a
failed check gives the docket back to its submitter, and any other resolves it. -/
def Decided : QcDecision → Docket → Docket → Prop
  | .FAILED, docket, t => t.status = .IN_PROGRESS ∧ t.assignedToXID = docket.qcSubmittedByXID
  | _, _, t => t.status = .RESOLVED ∧ t.lifecycle = .state .DONE

/-- The decision completes, and stores what it is to store. -/
def RoundTrips (req : QcDecisionRequest) (decision : QcDecision) (docket : Docket) : Prop :=
  ∃ t, qcDecision req docket = .ok t ∧ Decided decision docket t

/-- A docket in quality check, as `transition` stores it: its lifecycle is `WAITING`, it has no
owner, and its submitter is on record. -/
structure InQualityCheck (docket : Docket) : Prop where
  status : docket.status = .QC_PENDING
  lifecycle : docket.lifecycle = .state .WAITING
  owner : docket.assignedToXID = none
  submitter : docket.qc.originalAssigneeXID = docket.qcSubmittedByXID
  cast : docket.qcSubmittedByXID.map castXID = docket.qcSubmittedByXID
  reason : docket.pendingReasonListed = true

theorem inQualityCheck_of_transition {env : Lookups} {req : TransitionRequest}
    {docket t : Docket} (h : transition env req docket = .ok t) (hqc : t.status = .QC_PENDING) :
    InQualityCheck t := by
  obtain ⟨moved, hmoved, hlisted, rfl⟩ := transition_enters_qc h hqc
  have hlifecycle : (enterQc env req moved).lifecycle = .state .WAITING := hmoved.lifecycle
  refine ⟨hqc, ?_, rfl, rfl, ?_, hlisted⟩
  · simp only [Docket.saved, hlifecycle, deriveLifecycle_state]
  · have hsubmitter : (enterQc env req moved).saved.qcSubmittedByXID =
        (orElse moved.assignedToXID req.actor.xID).map castXID := rfl
    rw [hsubmitter, Option.map_map]
    exact congrArg (Option.map · _) (funext castXID_castXID)

/-- No decision but a failed check takes a docket out of quality check: the others are to resolve
it, and the lifecycles admit no move from `WAITING` to `DONE`. -/
theorem decision_failed {req : QcDecisionRequest} {decision : QcDecision} {docket t : Docket}
    (hdocket : InQualityCheck docket) (hdecision : req.decision = some decision)
    (h : qcDecision req docket = .ok t) :
    decision = .FAILED ∧ normalizeActorRole req.actor.role ≠ .USER := by
  obtain ⟨decision', d₁, d₂, hdecision', -, haccess, -⟩ := qcDecision_ok h
  obtain rfl : decision = decision' := by simpa [hdecision] using hdecision'
  simp only [validateLifecycleAccess, hdocket.lifecycle, hdocket.status, bind_eq_ok,
    throwIf_eq_ok, exists_const, not_and, not_not] at haccess
  obtain ⟨hrole, hvalid⟩ := haccess
  refine ⟨?_, fun h => hrole h rfl⟩
  -- Every decision but a failed check asks for a move from `WAITING` to `DONE`.
  cases decision with
  | FAILED => rfl
  | APPROVED => cases hvalid
  | PASSED => cases hvalid
  | CORRECTED => cases hvalid

/-- The docket that a failed check gives back. -/
def givenBack (req : QcDecisionRequest) (docket : Docket) : Docket :=
  recordAction req.actor req.now (setLifecycle .ACTIVE
    (setDecision req .IN_PROGRESS .IN_PROGRESS (recordQcDecision req .FAILED docket)))

/-- The owner of a docket that is given back is its submitter. -/
theorem givenBack_assignedToXID {req : QcDecisionRequest} {docket : Docket}
    (hdocket : InQualityCheck docket) (hsubmitter : truthy docket.qcSubmittedByXID = true) :
    (givenBack req docket).assignedToXID = docket.qcSubmittedByXID := by
  have howner : (givenBack req docket).assignedToXID = (orElse docket.qcSubmittedByXID
      (orElse docket.qc.originalAssigneeXID docket.assignedToXID)).map castXID := rfl
  rw [howner, orElse, if_pos hsubmitter, hdocket.cast]

/-- A failed check needs a submitter to give the docket back to. -/
theorem truthy_of_givenBack {req : QcDecisionRequest} {docket : Docket}
    (hdocket : InQualityCheck docket)
    (howner : truthy (givenBack req docket).assignedToXID = true) :
    truthy docket.qcSubmittedByXID = true := by
  by_contra hsubmitter
  have hnone : (givenBack req docket).assignedToXID = (orElse docket.qcSubmittedByXID
      (orElse docket.qc.originalAssigneeXID docket.assignedToXID)).map castXID := rfl
  rw [hnone, hdocket.submitter, hdocket.owner] at howner
  simp [orElse, hsubmitter] at howner

/-- A failed check by an actor who may decide gives the docket back when it has a submitter. -/
theorem qcDecision_failed_eq {req : QcDecisionRequest} {docket : Docket}
    (hdocket : InQualityCheck docket) (hdecision : req.decision = some .FAILED)
    (hcomment : isBlank req.comment = false) (hrole : normalizeActorRole req.actor.role ≠ .USER) :
    qcDecision req docket =
      (enforceOwnershipRules (givenBack req docket) >>= Docket.save) := by
  have hqc : docket.canonicalState = .IN_QC := by
    rw [Docket.canonicalState, Docket.view, hdocket.status]
    rfl
  have hcomment : requireComment req.comment "QC action" = .ok () :=
    requireComment_eq_ok.mpr hcomment
  have haccess : validateLifecycleAccess req.actor .WAITING .ACTIVE (toDocketState .QC_PENDING) =
      .ok () := by
    simp [validateLifecycleAccess, hrole, isValidTransition, Lifecycle.transitions]
  have hwaiting : normalizeLifecycle (recordQcDecision req .FAILED docket).lifecycle = .WAITING := by
    show normalizeLifecycle docket.lifecycle = .WAITING
    rw [hdocket.lifecycle]
    rfl
  have hlifecycle : transitionLifecycle
      (setDecision req .IN_PROGRESS .IN_PROGRESS (recordQcDecision req .FAILED docket)) .ACTIVE =
      .ok (setLifecycle .ACTIVE
        (setDecision req .IN_PROGRESS .IN_PROGRESS (recordQcDecision req .FAILED docket))) := by
    have hsource : normalizeLifecycle (setDecision req .IN_PROGRESS .IN_PROGRESS
        (recordQcDecision req .FAILED docket)).lifecycle = .WAITING := hwaiting
    simp [transitionLifecycle, hsource, assertValidLifecycleTransition, isValidTransition,
      Lifecycle.transitions, throwIf]
  have htarget : canonicalStateWith (recordQcDecision req .FAILED docket) .IN_PROGRESS =
      .IN_PROGRESS := rfl
  have hmove : checkQcTarget .IN_QC .IN_PROGRESS = .ok () := rfl
  simp only [qcDecision, hcomment, ok_bind, hdecision, applyDecision, qcDecisionStatus,
    getQcDecisionTransition, if_true, htarget, hqc, hmove, hwaiting,
    hdocket.status, toLifecycleFromStatus, CaseStatus.normalize, haccess, hlifecycle]
  rfl

/-- A decision on a docket that `transition` has sent to quality check completes and stores what it
is to store exactly when the check has failed, the actor's role is not one that the service takes
for a user's, and the docket has a submitter. -/
theorem qc_round_trip_iff {env : Lookups} {entry : TransitionRequest} {docket₀ docket : Docket}
    (hentered : transition env entry docket₀ = .ok docket) (hqc : docket.status = .QC_PENDING)
    (req : QcDecisionRequest) (decision : QcDecision) (hdecision : req.decision = some decision)
    (hcomment : isBlank req.comment = false) :
    RoundTrips req decision docket ↔
      decision = .FAILED ∧ normalizeActorRole req.actor.role ≠ .USER ∧
        truthy docket.qcSubmittedByXID = true := by
  have hdocket := inQualityCheck_of_transition hentered hqc
  constructor
  -- The ownership rules refuse a docket in progress that has no owner, so there is a submitter.
  · rintro ⟨t, ht, -⟩
    obtain ⟨rfl, hrole⟩ := decision_failed hdocket hdecision ht
    refine ⟨rfl, hrole, ?_⟩
    rw [qcDecision_failed_eq hdocket hdecision hcomment hrole, bind_eq_ok] at ht
    obtain ⟨d, henforce, -⟩ := ht
    rcases enforceOwnershipRules_eq_ok.mp henforce with ⟨h, -⟩ | ⟨-, howner, -⟩ | ⟨-, h, -⟩
    · cases h
    · exact truthy_of_givenBack hdocket howner
    · exact absurd rfl h
  -- With one, the docket that is given back passes the ownership rules and the schema.
  · rintro ⟨rfl, hrole, hsubmitter⟩
    have howner : (givenBack req docket).assignedToXID = docket.qcSubmittedByXID :=
      givenBack_assignedToXID hdocket hsubmitter
    have htruthy : truthy (givenBack req docket).assignedToXID = true := by rw [howner, hsubmitter]
    refine ⟨(givenBack req docket).saved, ?_, rfl, howner⟩
    rw [qcDecision_failed_eq hdocket hdecision hcomment hrole, bind_eq_ok]
    refine ⟨_, enforceOwnershipRules_eq_ok.mpr (.inr (.inl ⟨rfl, htruthy, rfl⟩)), ?_⟩
    exact Docket.save_eq_ok.mpr ⟨⟨fun _ => htruthy, fun h => (nomatch h), hdocket.reason⟩, rfl⟩

/-- A request to send a docket to quality check. -/
def qcRequest : TransitionRequest where
  now := 0
  actor := { xID := some "X000001" }
  toState := some .QC_PENDING
  comment := "Please check"

/-- The docket that the request stores. -/
def submittedDocket : Docket := settle (transition {} qcRequest activeDocket) activeDocket

/-- A decision of an administrator. -/
def decisionRequest (decision : QcDecision) : QcDecisionRequest where
  now := 1
  actor := { xID := some "X000009", role := .ADMIN }
  decision := some decision
  comment := "Checked"

theorem qc_round_trip_failed : RoundTrips (decisionRequest .FAILED) .FAILED submittedDocket :=
  (qc_round_trip_iff (show transition {} qcRequest activeDocket = .ok submittedDocket from rfl) rfl
    (decisionRequest .FAILED) .FAILED rfl (by decide)).mpr ⟨rfl, by decide, by decide⟩

/-- An administrator who passes a docket that was sent to quality check is refused. -/
theorem qc_round_trip_fails :
    transition {} qcRequest activeDocket = .ok submittedDocket ∧
      submittedDocket.status = .QC_PENDING ∧
      ¬RoundTrips (decisionRequest .PASSED) .PASSED submittedDocket := by
  refine ⟨rfl, rfl, ?_⟩
  rintro ⟨t, ht, -⟩
  cases ht

end Docketra
