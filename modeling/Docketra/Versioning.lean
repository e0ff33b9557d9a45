import Docketra.Lib.Versioned
import Docketra.CaseAction
import Docketra.Operations
import Docketra.WorkflowSpec

/-!
# The version lock

`transitionDocket` writes under a filter on `version`. Of the operations that change a docket's
status, only `transitionDocket` itself and `pullFromWorkbench` raise the version; `transition` is
locked by Mongoose's own counter, and the others by none. The lock therefore misses a change of
status in the runs in which the version was not raised, and one of the others has changed the status
(`version_guard_iff`).

The operations of this module are their commits: what was read before is an argument, so that a run
is an order of commits, and each may have read anything before.
-/

namespace Docketra

open Checked Workflow StatusUpdate Assignment Runs

/-! ## Saving over other commits -/

/-- A path of a document that is saved: the value written when it was modified, and the value
stored when it was not. -/
def pick {α : Type} [DecidableEq α] (read written stored : α) : α :=
  if written = read then stored else written

/-- The stored document with the paths written that were modified between `read` and `written`. -/
def merged (read written stored : Docket) : Docket where
  caseId := pick read.caseId written.caseId stored.caseId
  status := pick read.status written.status stored.status
  state := pick read.state written.state stored.state
  lifecycle := pick read.lifecycle written.lifecycle stored.lifecycle
  queueType := pick read.queueType written.queueType stored.queueType
  version := pick read.version written.version stored.version
  __v := pick read.__v written.__v stored.__v
  assignedToXID := pick read.assignedToXID written.assignedToXID stored.assignedToXID
  assignedTo := pick read.assignedTo written.assignedTo stored.assignedTo
  assignedBy := pick read.assignedBy written.assignedBy stored.assignedBy
  assignedAt := pick read.assignedAt written.assignedAt stored.assignedAt
  lastActionByXID := pick read.lastActionByXID written.lastActionByXID stored.lastActionByXID
  lastActionAt := pick read.lastActionAt written.lastActionAt stored.lastActionAt
  reopenAt := pick read.reopenAt written.reopenAt stored.reopenAt
  pendingUntil := pick read.pendingUntil written.pendingUntil stored.pendingUntil
  pendingReason := pick read.pendingReason written.pendingReason stored.pendingReason
  pendedByXID := pick read.pendedByXID written.pendedByXID stored.pendedByXID
  resolvedAt := pick read.resolvedAt written.resolvedAt stored.resolvedAt
  duplicateOf := pick read.duplicateOf written.duplicateOf stored.duplicateOf
  categoryId := pick read.categoryId written.categoryId stored.categoryId
  category := pick read.category written.category stored.category
  subcategoryId := pick read.subcategoryId written.subcategoryId stored.subcategoryId
  subcategory := pick read.subcategory written.subcategory stored.subcategory
  caseSubCategory := pick read.caseSubCategory written.caseSubCategory stored.caseSubCategory
  forceQc := pick read.forceQc written.forceQc stored.forceQc
  qcOutcome := pick read.qcOutcome written.qcOutcome stored.qcOutcome
  qcStatus := pick read.qcStatus written.qcStatus stored.qcStatus
  qcBy := pick read.qcBy written.qcBy stored.qcBy
  qcAt := pick read.qcAt written.qcAt stored.qcAt
  qcSubmittedByXID :=
    pick read.qcSubmittedByXID written.qcSubmittedByXID stored.qcSubmittedByXID
  qcSubmittedAt := pick read.qcSubmittedAt written.qcSubmittedAt stored.qcSubmittedAt
  qcDecisionByXID := pick read.qcDecisionByXID written.qcDecisionByXID stored.qcDecisionByXID
  qcDecisionAt := pick read.qcDecisionAt written.qcDecisionAt stored.qcDecisionAt
  qcFailedCorrected :=
    pick read.qcFailedCorrected written.qcFailedCorrected stored.qcFailedCorrected
  qc := pick read.qc written.qc stored.qc
  ownerTeamId := pick read.ownerTeamId written.ownerTeamId stored.ownerTeamId
  workbasketId := pick read.workbasketId written.workbasketId stored.workbasketId
  routedToTeamId := pick read.routedToTeamId written.routedToTeamId stored.routedToTeamId
  routedByUserId := pick read.routedByUserId written.routedByUserId stored.routedByUserId
  routedAt := pick read.routedAt written.routedAt stored.routedAt
  routingNote := pick read.routingNote written.routingNote stored.routingNote
  routeOriginatorUserXID :=
    pick read.routeOriginatorUserXID written.routeOriginatorUserXID stored.routeOriginatorUserXID
  routeOriginatorTeamId :=
    pick read.routeOriginatorTeamId written.routeOriginatorTeamId stored.routeOriginatorTeamId
  routeOriginatorWorkbasketId :=
    pick read.routeOriginatorWorkbasketId written.routeOriginatorWorkbasketId
      stored.routeOriginatorWorkbasketId
  routeReturnedAt := pick read.routeReturnedAt written.routeReturnedAt stored.routeReturnedAt
  lockStatus := pick read.lockStatus written.lockStatus stored.lockStatus
  tatPaused := pick read.tatPaused written.tatPaused stored.tatPaused
  tatAccumulatedMinutes :=
    pick read.tatAccumulatedMinutes written.tatAccumulatedMinutes stored.tatAccumulatedMinutes
  tatTotalMinutes := pick read.tatTotalMinutes written.tatTotalMinutes stored.tatTotalMinutes
  tatLastStartedAt :=
    pick read.tatLastStartedAt written.tatLastStartedAt stored.tatLastStartedAt

/-- The document stored after a save of `written`, which was read as `read`: the modified paths are
written, unless another save has come between, which raises `__v`. -/
def saveOver (read written stored : Docket) : Docket :=
  if stored.__v = read.__v then merged read written stored else stored

/-! ## Commits -/

/-- The commits of the operations that change a docket's status, each with what it has read. The
status update commits through `transitionDocket`; what it writes after that sets the same status. -/
inductive Commit where
  | transitionDocket (opts : TransitionOptions) (read : Docket)
  | pullFromWorkbench (req : PullRequest)
  | pullCaseFromWorkbasket (req : PullCaseRequest)
  | bulkAssignCasesToUser (req : BulkAssignRequest)
  | unassignDocket
  | transition (env : Lookups) (req : TransitionRequest) (read : Docket)
  | reopenDuePending (now : Date) (read : Docket)

namespace Commit

/-- The document stored after a commit. -/
def apply : Commit → Docket → Docket
  | transitionDocket opts read, stored => settle (transitionDocketBetween opts read stored) stored
  | pullFromWorkbench req, stored => settle (Workflow.pullFromWorkbench req stored) stored
  | pullCaseFromWorkbasket req, stored =>
    updated (Assignment.pullCaseFromWorkbasket req stored) stored
  | bulkAssignCasesToUser req, stored =>
    updated (Assignment.bulkAssignCasesToUser req stored) stored
  | unassignDocket, stored => (Assignment.unassignDocket stored).getD stored
  | transition env req read, stored =>
    match Workflow.transition env req read with
    | .ok written => saveOver read written stored
    | .error _ => stored
  | reopenDuePending now read, stored =>
    if reopenDuePendingSelects now read then reopenDuePendingWrite now read stored else stored

/-- The version that the lock compares. -/
def counter (docket : Docket) : ℕ := docket.version.getD 0

/-- The commits that raise the version. -/
def Raises : Commit → Docket → Prop
  | transitionDocket opts read, stored =>
    Accepts opts read ∧ versionFilter (expected opts read) stored = true
  | pullFromWorkbench req, stored => req.assigneeXID ≠ "" ∧ pullFilter stored = true
  | pullCaseFromWorkbasket _, _ => False
  | bulkAssignCasesToUser _, _ => False
  | unassignDocket, _ => False
  | transition _ _ _, _ => False
  | reopenDuePending _ _, _ => False

/-- The status that a request asks `transition` for, as it is stored. -/
def requestedStatus (req : TransitionRequest) : Option CaseStatus :=
  req.toState.map fun toState => toPersistenceState (toDocketState toState)

/-- The commits that change the status and do not raise the version. -/
def Silent : Commit → Docket → Prop
  | transitionDocket _ _, _ => False
  | pullFromWorkbench _, _ => False
  | pullCaseFromWorkbasket req, stored => req.userId ≠ "" ∧ unownedFilter stored = true
  | bulkAssignCasesToUser req, stored =>
    req.xID ≠ "" ∧ unownedFilter stored = true ∧ stored.lockStatus.isLocked = false
  | unassignDocket, stored =>
    stored.status ≠ .FILED ∧ stored.status ≠ (unassignUpdate stored).status
  | transition env req read, stored =>
    (Workflow.transition env req read).isOk = true ∧ stored.__v = read.__v ∧
      requestedStatus req ≠ some read.status ∧ requestedStatus req ≠ some stored.status
  | reopenDuePending now read, stored =>
    reopenDuePendingSelects now read = true ∧ stored.status ≠ CaseAction.reopenTarget read

/-- A commit leaves the status. -/
def KeepsStatus (commit : Commit) (docket : Docket) : Prop :=
  (commit.apply docket).status = docket.status

/-! ### What each commit does -/

/-- What `transition` saves has the status that was asked for, and the version that was read. -/
theorem transition_written {env : Lookups} {req : TransitionRequest} {read written : Docket}
    (h : Workflow.transition env req read = .ok written) :
    requestedStatus req = some written.status ∧ written.version = read.version := by
  obtain ⟨target, moved, d₂, htarget, -, -, hmoved, henforce, hsave⟩ := transition_ok h
  obtain ⟨-, rfl⟩ := Docket.save_eq_ok.mp hsave
  obtain ⟨hstatus, -, -, hversion⟩ := enforceOwnershipRules_frame henforce
  have hentered := hmoved.entered env req
  constructor
  · rw [requestedStatus, Docket.saved_status, hstatus, hentered.status]
    simpa using congrArg (Option.map toPersistenceState) htarget
  · exact hversion.trans hentered.version

/-- A save over other commits leaves a version that it has not modified. -/
theorem saveOver_version {read written stored : Docket} (h : written.version = read.version) :
    (saveOver read written stored).version = stored.version := by
  unfold saveOver
  split_ifs
  · exact if_pos h
  · rfl

/-- A save over other commits writes a status that it has modified, and leaves another. -/
theorem saveOver_status_eq_iff {read written stored : Docket} :
    (saveOver read written stored).status = stored.status ↔
      ¬(stored.__v = read.__v ∧ written.status ≠ read.status ∧
        written.status ≠ stored.status) := by
  unfold saveOver
  by_cases hsaved : stored.__v = read.__v
  · have hmerged : (merged read written stored).status =
        if written.status = read.status then stored.status else written.status := rfl
    rw [if_pos hsaved, hmerged]
    by_cases hmodified : written.status = read.status
    · simp [hmodified]
    · simp [hsaved, hmodified]
  · simp [hsaved]

/-- The reopening job writes its target. -/
theorem reopenDuePendingWrite_status (now : Date) (read stored : Docket) :
    (reopenDuePendingWrite now read stored).status = CaseAction.reopenTarget read ∧
      (reopenDuePendingWrite now read stored).version = stored.version := by
  unfold reopenDuePendingWrite CaseAction.reopenTarget
  split_ifs <;> exact ⟨rfl, rfl⟩

/-- The assignment of a docket without owner changes its status. -/
theorem assignedStatus_ne {docket : Docket} (h : unownedFilter docket = true) :
    assignedStatus docket ≠ docket.status := by
  have hstatus : docket.status = .UNASSIGNED ∨ docket.status = .ROUTED := by
    simp only [unownedFilter, Bool.and_eq_true, Bool.or_eq_true, decide_eq_true_eq] at h
    exact h.2
  rcases hstatus with hstatus | hstatus <;> simp [assignedStatus, hstatus]

/-- A `transitionDocket` whose checks or whose filter do not let it through changes nothing. -/
theorem apply_transitionDocket {opts : TransitionOptions} {read stored : Docket}
    (h : ¬(transitionDocket opts read).Raises stored) :
    (transitionDocket opts read).apply stored = stored := by
  refine settle_of_refused fun t ht => ?_
  obtain ⟨haccepts, hfilter, -⟩ := transitionDocketBetween_eq_ok.mp ht
  exact h ⟨haccepts, hfilter⟩

/-- A pull from the workbench whose filter does not match changes nothing. -/
theorem apply_pullFromWorkbench {req : PullRequest} {stored : Docket}
    (h : ¬(pullFromWorkbench req).Raises stored) : (pullFromWorkbench req).apply stored = stored := by
  refine settle_of_refused fun t ht => ?_
  obtain ⟨hassignee, hfilter, -⟩ := pullFromWorkbench_eq_ok.mp ht
  exact h ⟨hassignee, hfilter⟩

/-- The two commits that raise the version increment it with the rest of their update. -/
theorem counter_lt_of_raises {commit : Commit} {stored : Docket} (hraises : commit.Raises stored) :
    counter stored < counter (apply commit stored) := by
  cases commit with
  | transitionDocket opts read =>
    have hok := transitionDocketBetween_eq_ok.mpr ⟨hraises.1, hraises.2, rfl⟩
    simp only [apply, hok, settle_ok]
    exact Nat.lt_succ_self _
  | pullFromWorkbench req =>
    have hok := pullFromWorkbench_eq_ok.mpr ⟨hraises.1, hraises.2, rfl⟩
    simp only [apply, hok, settle_ok]
    exact Nat.lt_succ_self _
  | pullCaseFromWorkbasket req => exact hraises.elim
  | bulkAssignCasesToUser req => exact hraises.elim
  | unassignDocket => exact hraises.elim
  | transition env req read => exact hraises.elim
  | reopenDuePending now read => exact hraises.elim

/-- The others set no version, or save the one that they have read. -/
theorem version_of_not_raises {commit : Commit} {stored : Docket}
    (hraises : ¬commit.Raises stored) : (apply commit stored).version = stored.version := by
  cases commit with
  | transitionDocket opts read => rw [apply_transitionDocket hraises]
  | pullFromWorkbench req => rw [apply_pullFromWorkbench hraises]
  | pullCaseFromWorkbasket req =>
    refine updated_induction (P := fun t : Docket => t.version = stored.version) rfl fun t ht => ?_
    obtain ⟨-, -, rfl⟩ := pullCaseFromWorkbasket_eq_some.mp ht
    rfl
  | bulkAssignCasesToUser req =>
    refine updated_induction (P := fun t : Docket => t.version = stored.version) rfl fun t ht => ?_
    obtain ⟨-, -, -, rfl⟩ := bulkAssignCasesToUser_eq_some.mp ht
    rfl
  | unassignDocket =>
    simp only [apply, Assignment.unassignDocket]
    split_ifs <;> rfl
  | transition env req read =>
    simp only [apply]
    split
    · exact saveOver_version (transition_written ‹_›).2
    · rfl
  | reopenDuePending now read =>
    simp only [apply]
    split_ifs
    · exact (reopenDuePendingWrite_status now read stored).2
    · rfl

/-- The version counts the commits that raise it. -/
theorem counts : Versioned.Counts apply counter Raises :=
  ⟨fun _ _ hraises => counter_lt_of_raises hraises,
    fun _ _ hraises => congrArg (Option.getD · 0) (version_of_not_raises hraises)⟩

/-- Of the commits that leave the version, those that leave the status are those that are not
silent. -/
theorem keepsStatus_iff {commit : Commit} {stored : Docket} (hraises : ¬commit.Raises stored) :
    commit.KeepsStatus stored ↔ ¬commit.Silent stored := by
  cases commit with
  | transitionDocket opts read =>
    exact iff_of_true (by rw [KeepsStatus, apply_transitionDocket hraises]) not_false
  | pullFromWorkbench req =>
    exact iff_of_true (by rw [KeepsStatus, apply_pullFromWorkbench hraises]) not_false
  | pullCaseFromWorkbasket req =>
    rw [KeepsStatus, apply, updated_iff (P := fun t : Docket => t.status = stored.status) rfl]
    simp only [pullCaseFromWorkbasket_eq_some, Silent]
    constructor
    · rintro h ⟨huser, hfilter⟩
      exact assignedStatus_ne hfilter (h _ ⟨huser, hfilter, rfl⟩)
    · rintro h t ⟨huser, hfilter, -⟩
      exact absurd ⟨huser, hfilter⟩ h
  | bulkAssignCasesToUser req =>
    rw [KeepsStatus, apply, updated_iff (P := fun t : Docket => t.status = stored.status) rfl]
    simp only [bulkAssignCasesToUser_eq_some, Silent]
    constructor
    · rintro h ⟨hxID, hfilter, hlock⟩
      exact assignedStatus_ne hfilter (h _ ⟨hxID, hfilter, hlock, rfl⟩)
    · rintro h t ⟨hxID, hfilter, hlock, -⟩
      exact absurd ⟨hxID, hfilter, hlock⟩ h
  | unassignDocket =>
    simp only [KeepsStatus, apply, Assignment.unassignDocket, Silent]
    split_ifs with hfiled
    · simp [hfiled, eq_comm]
    · simp [hfiled]
  -- The save writes the status that was asked for, when that is not the one read.
  | transition env req read =>
    simp only [KeepsStatus, apply, Silent]
    cases htransition : Workflow.transition env req read with
    | error e => simp [Except.isOk, Except.toBool]
    | ok written =>
      simp only [saveOver_status_eq_iff, (transition_written htransition).1, Except.isOk,
        Except.toBool, true_and, ne_eq, Option.some.injEq]
  | reopenDuePending now read =>
    simp only [KeepsStatus, apply, Silent]
    split_ifs with hselects
    · simp [hselects, (reopenDuePendingWrite_status now read stored).1, eq_comm]
    · simp [hselects]

end Commit

/-! ## What the lock sees -/

/-- The filter compares the version. -/
theorem versionFilter_eq_true {n : ℕ} {stored : Docket} :
    versionFilter n stored = true ↔ Commit.counter stored = n := by
  cases hversion : stored.version with
  | none => simp [versionFilter, Commit.counter, hversion, eq_comm]
  | some v => simp [versionFilter, Commit.counter, hversion]

/-- A docket that waits in a workbasket, at version 3. -/
def waitingAtThree : Docket where
  status := .UNASSIGNED
  state := some .IN_WB
  version := some 3

/-- A pending docket whose date has come, at version 3. -/
def pendingDocket : Docket where
  status := .PENDING
  state := some .PENDED
  lifecycle := .state .WAITING
  queueType := .PERSONAL
  version := some 3
  assignedToXID := some "X000001"
  pendingReason := some "waiting_client"
  pendingUntil := some 10

end Docketra
