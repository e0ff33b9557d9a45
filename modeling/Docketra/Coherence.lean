import Docketra.Operations
import Docketra.WorkflowSpec

/-!
# Coherence of a docket

A docket is coherent when its stored state is its canonical state, and its owner and its queue are
those of the state. An operation that sets the state through `getCanonicalDocketState`, or sets
status, state, owner, and queue together, keeps a docket coherent. The other operations do so on
some dockets only: `WorkflowOperation.Keeps` says on which, and a run keeps a docket coherent
throughout exactly when each of its operations does (`workflow_coherent_iff`).
-/

namespace Docketra

open Checked Workflow

/-- The stored state is the canonical one, a docket in a workbasket has no owner and is in the
global queue, and a docket in progress has an owner and is in the personal queue. -/
structure Coherent (docket : Docket) : Prop where
  state : docket.state = some docket.canonicalState
  workbasket : docket.state = some .IN_WB →
    truthy docket.assignedToXID = false ∧ docket.queueType = .GLOBAL
  worklist : docket.state = some .IN_PROGRESS →
    truthy docket.assignedToXID = true ∧ docket.queueType = .PERSONAL

instance (docket : Docket) : Decidable (Coherent docket) :=
  decidable_of_iff
    (docket.state = some docket.canonicalState ∧
      (docket.state = some .IN_WB →
        truthy docket.assignedToXID = false ∧ docket.queueType = .GLOBAL) ∧
      (docket.state = some .IN_PROGRESS →
        truthy docket.assignedToXID = true ∧ docket.queueType = .PERSONAL))
    ⟨fun ⟨h₁, h₂, h₃⟩ => ⟨h₁, h₂, h₃⟩, fun ⟨h₁, h₂, h₃⟩ => ⟨h₁, h₂, h₃⟩⟩

/-! ## Canonical states and ownership -/

/-- A docket that belongs in a workbasket still does without an owner. -/
theorem canonicalState_released {docket : Docket} (h : docket.canonicalState = .IN_WB) :
    { docket with assignedToXID := none, assignedTo := none, queueType := .GLOBAL
      : Docket }.canonicalState = .IN_WB := by
  simp only [Docket.canonicalState, Docket.view, getCanonicalDocketState] at h ⊢
  generalize docket.status.normalize = status at h ⊢
  cases status <;> simp_all [ownershipState]

/-- A docket in progress still is in the personal queue. -/
theorem canonicalState_personal {docket : Docket} (h : docket.canonicalState = .IN_PROGRESS) :
    { docket with queueType := .PERSONAL : Docket }.canonicalState = .IN_PROGRESS := by
  simp only [Docket.canonicalState, Docket.view, getCanonicalDocketState] at h ⊢
  generalize docket.status.normalize = status at h ⊢
  cases status <;> first | exact h | simp [ownershipState]

/-- The statuses whose canonical state is another than `IN_PROGRESS`, whoever owns the docket. -/
def fixesState (status : CaseStatus) : Bool :=
  status.normalize ∈
    [CaseStatus.RESOLVED, .FILED, .QC_PENDING, .PENDING, .ROUTED]

/-- A docket with an owner in the personal queue is in progress, unless its status says otherwise. -/
theorem canonicalState_owned {docket : Docket} (howner : truthy docket.assignedToXID = true)
    (hqueue : docket.queueType = .PERSONAL) :
    docket.canonicalState = .IN_PROGRESS ↔ fixesState docket.status = false := by
  simp only [Docket.canonicalState, Docket.view, getCanonicalDocketState, fixesState]
  generalize docket.status.normalize = status
  cases status <;> simp [ownershipState, howner, hqueue]

/-! ## Writes that keep a docket coherent -/

/-- The hooks of `save` decide nothing about a docket that has a state. -/
theorem coherent_saved_iff {docket : Docket} {state : DocketState}
    (hstate : docket.state = some state) : Coherent docket.saved ↔ Coherent docket := by
  have hsaved : docket.saved.state = docket.state := by simp [hstate]
  constructor
  · rintro ⟨hs, hwb, hwl⟩
    rw [hsaved] at hs hwb hwl
    exact ⟨hs, hwb, hwl⟩
  · rintro ⟨hs, hwb, hwl⟩
    rw [← hsaved] at hs hwb hwl
    exact ⟨hs, hwb, hwl⟩

/-- Saving keeps a docket coherent. -/
theorem Coherent.save {docket t : Docket} (h : Coherent docket) (hsave : docket.save = .ok t) :
    Coherent t := by
  obtain ⟨-, rfl⟩ := Docket.save_eq_ok.mp hsave
  exact (coherent_saved_iff h.state).mpr h

/-- The ownership rules make a docket coherent whose state is its canonical one. -/
theorem coherent_of_enforce {docket t : Docket} (hstate : docket.state = some docket.canonicalState)
    (h : enforceOwnershipRules docket = .ok t) : Coherent t := by
  -- Giving up the owner, or the global queue, does not change the canonical state that asked for it.
  rcases enforceOwnershipRules_eq_ok.mp h with ⟨hwb, rfl⟩ | ⟨hwl, howner, rfl⟩ | ⟨hwb, hwl, rfl⟩
  · have hcanonical : docket.canonicalState = .IN_WB := by rw [hwb] at hstate; simp_all
    refine ⟨?_, fun _ => ⟨rfl, rfl⟩, fun hwl => by simp [hwb] at hwl⟩
    rw [canonicalState_released hcanonical]
    exact hwb
  · have hcanonical : docket.canonicalState = .IN_PROGRESS := by rw [hwl] at hstate; simp_all
    refine ⟨?_, fun hwb => by simp [hwl] at hwb, fun _ => ⟨howner, rfl⟩⟩
    rw [canonicalState_personal hcanonical]
    exact hwl
  · exact ⟨hstate, fun h => absurd h hwb, fun h => absurd h hwl⟩

/-- A docket in progress, with an owner in the personal queue, is coherent exactly when its status
fixes no other state. -/
theorem coherent_inProgress_iff {docket : Docket} (hstate : docket.state = some .IN_PROGRESS)
    (howner : truthy docket.assignedToXID = true) (hqueue : docket.queueType = .PERSONAL) :
    Coherent docket ↔ fixesState docket.status = false := by
  rw [← canonicalState_owned howner hqueue]
  constructor
  · intro h
    simpa [hstate, eq_comm] using h.state
  · intro h
    exact ⟨by rw [hstate, h], fun hwb => by simp [hstate] at hwb, fun _ => ⟨howner, hqueue⟩⟩

/-- A docket in progress, with an owner in the personal queue, and a status that fixes no other
state is coherent. -/
theorem coherent_inProgress {docket : Docket} (hstate : docket.state = some .IN_PROGRESS)
    (howner : truthy docket.assignedToXID = true) (hqueue : docket.queueType = .PERSONAL)
    (hstatus : fixesState docket.status = false) : Coherent docket :=
  (coherent_inProgress_iff hstate howner hqueue).mpr hstatus

/-- A docket in a workbasket, with no owner in the global queue, is coherent when its status says
so. -/
theorem coherent_inWorkbasket {docket : Docket} (hstate : docket.state = some .IN_WB)
    (howner : docket.assignedToXID = none) (hqueue : docket.queueType = .GLOBAL)
    (hcanonical : docket.canonicalState = .IN_WB) : Coherent docket :=
  ⟨by rw [hstate, hcanonical], fun _ => ⟨by rw [howner]; rfl, hqueue⟩,
    fun hwl => by simp [hstate] at hwl⟩

/-! ## The workflow operations -/

/-- A pull by an assignee whose xID is not blank makes a docket coherent. -/
theorem coherent_pullUpdate_iff (req : PullRequest) (docket : Docket) :
    Coherent (pullUpdate req docket) ↔ isBlank req.assigneeXID = false := by
  rw [← truthy_castXID]
  constructor
  · intro h
    exact (h.worklist rfl).1
  · intro h
    exact coherent_inProgress rfl h rfl rfl

theorem coherent_transition {env : Lookups} {req : TransitionRequest} {docket t : Docket}
    (h : transition env req docket = .ok t) : Coherent t := by
  obtain ⟨target, moved, d₂, -, -, -, hmoved, henforce, hsave⟩ := transition_ok h
  exact (coherent_of_enforce (hmoved.entered env req).state henforce).save hsave

theorem coherent_qcDecision {req : QcDecisionRequest} {docket t : Docket}
    (h : qcDecision req docket = .ok t) : Coherent t := by
  obtain ⟨-, d₁, d₂, -, -, -, -, hstate, henforce, hsave⟩ := qcDecision_ok h
  exact (coherent_of_enforce hstate henforce).save hsave

theorem coherent_activateOnOpen {now : Date} {actor : Actor} {docket t : Docket}
    (hd : Coherent docket) (h : activateOnOpen now actor docket = .ok t) : Coherent t := by
  by_cases hwl : normalizeLifecycle docket.lifecycle = .WL
  · obtain ⟨howner, -, rfl⟩ := (activateOnOpen_eq_ok hwl).mp h
    exact coherent_inProgress rfl howner rfl rfl
  · rw [activateOnOpen_of_ne hwl] at h
    obtain rfl := Except.ok.inj h
    exact hd

/-- A reassignment that the service accepts makes a docket coherent exactly when the status fixes
no other state: it moves the docket into progress, and leaves the status. -/
theorem coherent_reassigned_iff {req : ReassignRequest} {docket : Docket}
    (hblank : isBlank req.toUserXID = false) :
    Coherent (reassigned req docket).saved ↔ fixesState docket.status = false :=
  coherent_inProgress_iff rfl ((truthy_castXID _).mpr hblank) rfl

theorem coherent_handleUserDeactivation {env : Lookups} {userXID : String} {docket : Docket}
    (hd : Coherent docket) : Coherent (handleUserDeactivation env userXID docket) := by
  unfold handleUserDeactivation
  split_ifs
  · split
    · exact coherent_inWorkbasket rfl rfl rfl rfl
    · exact hd
  · exact hd

theorem coherent_reopenDuePending {now : Date} {docket : Docket} (hd : Coherent docket) :
    Coherent (reopenDuePending now docket) := by
  unfold reopenDuePending reopenDuePendingWrite
  by_cases hselects : reopenDuePendingSelects now docket = true
  · by_cases howner : hasText docket.assignedToXID = true
    · simp only [hselects, howner, if_true]
      exact coherent_inProgress rfl (truthy_of_hasText howner) rfl rfl
    · by_cases hrouted : docket.routedToTeamId.isSome = true
      · simp only [hselects, howner, hrouted, if_true]
        exact coherent_inWorkbasket rfl rfl rfl rfl
      · simp only [hselects, howner, hrouted, if_true]
        exact coherent_inWorkbasket rfl rfl rfl rfl
  · simp only [hselects]
    exact hd

theorem coherent_reopenDocketFromClientEmail {now : Date} {docket : Docket}
    (hd : Coherent docket) : Coherent (reopenDocketFromClientEmail now docket) := by
  unfold reopenDocketFromClientEmail reopenDocketFromClientEmailWrite
    processExpiredPendedDocketsWrite reopenedStatus
  by_cases hpending : docket.status = toPersistenceState .PENDING
  · by_cases howner : hasText docket.assignedToXID = true
    · simp only [hpending, howner, if_true]
      exact coherent_inProgress rfl (truthy_of_hasText howner) rfl rfl
    · simp only [hpending, howner, if_true]
      exact coherent_inWorkbasket rfl rfl rfl rfl
  · simp only [hpending]
    exact hd

/-- An assignment to an xID that is not empty makes a docket coherent. -/
theorem coherent_assignUpdate {now : Date} {xid : String} {assignedTo assignedBy : Option ObjectId}
    (docket : Docket) (hxid : xid ≠ "") :
    Coherent (Assignment.assignUpdate now xid assignedTo assignedBy docket) := by
  refine coherent_inProgress rfl ((truthy_some xid).mpr hxid) rfl ?_
  show fixesState (Assignment.assignedStatus docket) = false
  unfold Assignment.assignedStatus
  split_ifs <;> rfl

theorem coherent_bulkAssignUpdate {req : Assignment.BulkAssignRequest} (docket : Docket)
    (hxid : req.xID ≠ "") : Coherent (Assignment.bulkAssignUpdate req docket) := by
  have h : Coherent (Assignment.assignUpdate req.now (toUpperCase req.xID) req.userObjectId
      (req.assignerObjectId.orElse fun _ => req.userObjectId) docket) :=
    coherent_assignUpdate docket (by simpa using hxid)
  exact ⟨h.state, h.workbasket, h.worklist⟩

theorem coherent_unassignDocket {docket : Docket} (hd : Coherent docket) :
    Coherent ((Assignment.unassignDocket docket).getD docket) := by
  unfold Assignment.unassignDocket
  split_ifs
  · refine coherent_inWorkbasket rfl rfl rfl ?_
    simp only [Option.getD_some, Assignment.unassignUpdate, Docket.canonicalState, Docket.view]
    by_cases hrouted : docket.routedToTeamId.isSome = true
    · simp only [hrouted, if_true]; rfl
    · simp only [hrouted]; rfl
  · exact hd

/-- The dockets on which an operation keeps coherence. All but two operations do so on every
docket. A pull stores its assignee through the schema's setter, which leaves nothing of an xID of
white space. A reassignment leaves the status, so the status has to be one that says nothing
against a docket in progress; the conditions before that one are the checks that refuse it. -/
def WorkflowOperation.Keeps : WorkflowOperation → Docket → Prop
  -- `toUpperCase` leaves white space, and the setter trims it away.
  | .pullFromWorkbench req, docket =>
    pullFilter docket = true → isBlank req.assigneeXID = true → req.assigneeXID = ""
  | .reassign req, docket =>
    isBlank req.comment = false → lockedByAnotherActiveUser req.now docket req.actor = false →
      isBlank req.toUserXID = false → docket.ReasonGiven → fixesState docket.status = false
  | _, _ => True

/-- A reassigned docket is savable when its reason for pending is. -/
theorem savable_reassigned_iff {req : ReassignRequest} {docket : Docket}
    (hblank : isBlank req.toUserXID = false) :
    (reassigned req docket).Savable ↔ docket.ReasonGiven :=
  ⟨fun h => ⟨h.reason.pending, h.reason.listed⟩,
    fun h => ⟨fun _ => (truthy_castXID _).mpr hblank, ⟨h.pending, h.listed⟩⟩⟩

theorem coherent_pullFromWorkbench_iff {req : PullRequest} {docket : Docket}
    (hd : Coherent docket) :
    Coherent (settle (pullFromWorkbench req docket) docket) ↔
      (WorkflowOperation.pullFromWorkbench req).Keeps docket := by
  simp only [settle_iff hd, pullFromWorkbench_eq_ok, WorkflowOperation.Keeps]
  constructor
  · rintro h hfilter hblank
    by_contra hempty
    have hcoherent := h _ ⟨hempty, hfilter, rfl⟩
    rw [coherent_pullUpdate_iff, hblank] at hcoherent
    cases hcoherent
  · rintro h t ⟨hempty, hfilter, rfl⟩
    rw [coherent_pullUpdate_iff, ← Bool.not_eq_true]
    exact fun hblank => hempty (h hfilter hblank)

theorem coherent_reassign_iff {req : ReassignRequest} {docket : Docket} (hd : Coherent docket) :
    Coherent (settle (reassign req docket) docket) ↔
      (WorkflowOperation.reassign req).Keeps docket := by
  simp only [settle_iff hd, reassign_eq_ok, Docket.save_eq_ok, WorkflowOperation.Keeps]
  constructor
  · rintro h hcomment hlock hblank hreason
    rw [← coherent_reassigned_iff hblank]
    exact h _ ⟨hcomment, hlock, hblank, (savable_reassigned_iff hblank).mpr hreason, rfl⟩
  · rintro h t ⟨hcomment, hlock, hblank, hsavable, rfl⟩
    rw [coherent_reassigned_iff hblank]
    exact h hcomment hlock hblank ((savable_reassigned_iff hblank).mp hsavable)

/-- One operation keeps a coherent docket coherent exactly on the dockets that `Keeps` says. -/
theorem WorkflowOperation.coherent_apply_iff (op : WorkflowOperation) (docket : Docket)
    (hd : Coherent docket) : Coherent (op.apply docket) ↔ op.Keeps docket := by
  cases op with
  | pullFromWorkbench req => exact coherent_pullFromWorkbench_iff hd
  | reassign req => exact coherent_reassign_iff hd
  | transition env req =>
    exact iff_of_true (settle_induction hd fun _ => coherent_transition) trivial
  | qcDecision req => exact iff_of_true (settle_induction hd fun _ => coherent_qcDecision) trivial
  | activateOnOpen now actor =>
    exact iff_of_true (settle_induction hd fun _ => coherent_activateOnOpen hd) trivial
  | handleUserDeactivation env userXID =>
    exact iff_of_true (coherent_handleUserDeactivation hd) trivial
  | reopenDuePending now => exact iff_of_true (coherent_reopenDuePending hd) trivial
  | reopenDocketFromClientEmail now =>
    exact iff_of_true (coherent_reopenDocketFromClientEmail hd) trivial
  | pullCaseFromWorkbasket req =>
    refine iff_of_true (updated_induction hd fun t h => ?_) trivial
    obtain ⟨hxid, -, rfl⟩ := Assignment.pullCaseFromWorkbasket_eq_some.mp h
    exact coherent_assignUpdate docket (by simpa using hxid)
  | bulkAssignCasesToUser req =>
    refine iff_of_true (updated_induction hd fun t h => ?_) trivial
    obtain ⟨hxid, -, -, rfl⟩ := Assignment.bulkAssignCasesToUser_eq_some.mp h
    exact coherent_bulkAssignUpdate docket hxid
  | assignDocket req =>
    refine iff_of_true (updated_induction hd fun t h => ?_) trivial
    obtain ⟨hxid, -, rfl⟩ := Assignment.assignDocket_eq_some.mp h
    exact coherent_assignUpdate docket (by rw [ne_eq, castXID_eq_empty, hxid]; decide)
  | unassignDocket => exact iff_of_true (coherent_unassignDocket hd) trivial

/-- A run keeps a coherent docket coherent throughout exactly when each of its operations does. -/
theorem workflow_coherent_iff (docket : Docket) (hd : Coherent docket)
    (ops : List WorkflowOperation) :
    (∀ t ∈ Runs.states WorkflowOperation.apply ops docket, Coherent t) ↔
      Runs.Admits WorkflowOperation.apply WorkflowOperation.Keeps ops docket :=
  Runs.states_invariant_iff WorkflowOperation.coherent_apply_iff ops docket hd

/-- A docket that its owner has resolved. -/
def resolvedDocket : Docket where
  status := .RESOLVED
  state := some .RESOLVED
  lifecycle := .state .DONE
  queueType := .PERSONAL
  assignedToXID := some "X000001"

/-- A docket that waits in a workbasket. -/
def waitingDocket : Docket where
  status := .UNASSIGNED
  state := some .IN_WB

/-- A pull, and then a reassignment, keep a docket coherent. -/
theorem workflow_coherent_pulled :
    Coherent waitingDocket ∧
      ∀ t ∈ Runs.states WorkflowOperation.apply
        [.pullFromWorkbench { now := 0, userId := "x000001" },
          .reassign { now := 0, actor := {}, toUserXID := "x000002", comment := "On leave" }]
        waitingDocket, Coherent t :=
  ⟨by decide, (workflow_coherent_iff waitingDocket (by decide) _).mpr
    ⟨fun _ hblank => absurd hblank (by decide), fun _ _ _ _ => by decide, trivial⟩⟩

/-- A resolved docket does not stay coherent when it is reassigned: its state is then
`IN_PROGRESS`, and its status still `RESOLVED`. -/
theorem workflow_coherence_fails :
    Coherent resolvedDocket ∧
      ¬∀ t ∈ Runs.states WorkflowOperation.apply
        [.reassign { now := 0, actor := {}, toUserXID := "X000002", comment := "On leave" }]
        resolvedDocket, Coherent t := by
  decide

end Docketra
