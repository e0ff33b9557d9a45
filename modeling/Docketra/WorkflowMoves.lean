import Docketra.WorkflowSpec

/-!
# Pending, filing, and reopening through the workflow service

`transition` lets a docket be pended or filed by its owner, and `reopenPendingDocket` of
`controllers/docketWorkflow.controller.js` asks it to move a pended docket back to `IN_PROGRESS`.
Each of the three moves has to pass checks that were written apart, and one of them refuses it, on
every docket at work (`moves_never_complete`):

- the validator of the status asks for a reason for pending, and `transition` sets none;
- the table of the canonical states has no move to `FILED`;
- no target whose canonical state is `IN_PROGRESS` is let through.
-/

namespace Docketra.Workflow

open Checked

/-- `reopenPendingDocket`. -/
def reopenPendingDocket (env : Lookups) (now : Date) (actor : Actor) (comment : String)
    (docket : Docket) : Except Failure Docket :=
  transition env
    { now := now
      actor := actor
      toState := some .IN_PROGRESS
      comment := if comment = "" then "Manually reopened" else comment }
    docket

/-- A docket at work: its owner has it in progress, and it has no reason for pending. -/
structure AtWork (docket : Docket) : Prop where
  state : docket.canonicalState = .IN_PROGRESS
  owner : hasText docket.assignedToXID = true
  lifecycle : docket.lifecycle = .state .ACTIVE
  reason : truthy docket.pendingReason = false

/-- The call stores the docket with a status, a canonical state, and a lifecycle. -/
def Stores (r : Except Failure Docket) (status : CaseStatus) (state : DocketState)
    (lifecycle : Lifecycle) : Prop :=
  ∃ t, r = .ok t ∧ t.status = status ∧ t.state = some state ∧ t.lifecycle = .state lifecycle

/-- The request to pend a docket, until a date that may be given. -/
def pendRequest (now : Date) (actor : Actor) (comment : String) (reopenAt : Option Date) :
    TransitionRequest where
  now := now
  actor := actor
  toState := some .PENDING
  comment := comment
  reopenAt := (reopenAt.map .date).getD .absent

/-- The request to file a docket. -/
def fileRequest (now : Date) (actor : Actor) (comment : String) : TransitionRequest where
  now := now
  actor := actor
  toState := some .FILED
  comment := comment

/-- The three moves work for a docket. -/
structure Moves (env : Lookups) (now : Date) (actor : Actor) (comment : String)
    (docket : Docket) : Prop where
  pending : ∀ reopenAt, Stores (transition env (pendRequest now actor comment reopenAt) docket)
    .PENDING .PENDED .WAITING
  filing : Stores (transition env (fileRequest now actor comment) docket) .FILED .FILED .DONE
  reopening : ∀ reopenAt pended,
    transition env (pendRequest now actor comment reopenAt) docket = .ok pended →
      ∀ later actor' comment', ∃ t, reopenPendingDocket env later actor' comment' pended = .ok t

/-! ## What stands in the way -/

/-- `transition` neither gives a reason for pending nor takes one away. -/
theorem transition_pendingReason {env : Lookups} {req : TransitionRequest} {docket t : Docket}
    (h : transition env req docket = .ok t) : t.pendingReason = docket.pendingReason := by
  unfold transition at h
  split at h
  · cases h
  case h_2 toState htoState =>
    simp only [bind_eq_ok] at h
    obtain ⟨_, -, ⟨target, routed⟩, htarget, h⟩ := h
    have hrouted : routed = docket := by
      unfold finalTarget at htarget
      split at htarget
      · cases htarget
      · exact (Prod.mk.inj (Except.ok.inj htarget)).2.symm
    subst hrouted
    simp only [moveTo, bind_eq_ok] at h
    obtain ⟨_, -, d₀, hlifecycle, d₁, hreopen, d₂, henforce, hsave⟩ := h
    obtain rfl := transitionLifecycle_ok hlifecycle
    obtain ⟨date, rfl⟩ := setReopenAt_ok hreopen
    obtain ⟨-, rfl⟩ := Docket.save_eq_ok.mp hsave
    have hentered : ∀ d, (entered env req target d).pendingReason = d.pendingReason := by
      intro d
      unfold entered
      split_ifs <;> rfl
    -- The ownership rules touch the owner and the queue only.
    have howner : d₂.pendingReason = routed.pendingReason := by
      rcases enforceOwnershipRules_eq_ok.mp henforce with ⟨-, rfl⟩ | ⟨-, -, rfl⟩ | ⟨-, -, rfl⟩
      all_goals exact hentered _
    exact howner

/-- Without a reason for pending no docket is pended: the validator of the status refuses it. -/
theorem transition_pending_refused {env : Lookups} {req : TransitionRequest} {docket t : Docket}
    (htarget : req.toState = some .PENDING) (hreason : truthy docket.pendingReason = false) :
    transition env req docket ≠ .ok t := by
  intro h
  have hsame := transition_pendingReason h
  obtain ⟨target, moved, d₂, htarget', -, -, hmoved, henforce, hsave⟩ := transition_ok h
  obtain ⟨hsavable, rfl⟩ := Docket.save_eq_ok.mp hsave
  obtain rfl : CaseStatus.PENDING = target := by
    rw [htarget] at htarget'
    exact Option.some.inj htarget'
  have hstatus : d₂.status = .PENDING := by
    rw [(enforceOwnershipRules_frame henforce).1, (hmoved.entered env req).status]
    rfl
  have hgiven := hsavable.reason.pending hstatus
  have hd₂ : d₂.pendingReason = docket.pendingReason := hsame
  rw [hd₂, hreason] at hgiven
  cases hgiven

/-- A docket in progress is not filed: the table of the canonical states has no such move. -/
theorem transition_filed_refused {env : Lookups} {req : TransitionRequest} {docket t : Docket}
    (htarget : req.toState = some .FILED) (hstate : docket.canonicalState = .IN_PROGRESS) :
    transition env req docket ≠ .ok t := by
  intro h
  obtain ⟨target, -, -, htarget', -, hcheck, -⟩ := transition_ok h
  obtain rfl : CaseStatus.FILED = target := by
    rw [htarget] at htarget'
    exact Option.some.inj htarget'
  have hcanonical : canonicalStateWith docket .FILED = .FILED := rfl
  rw [hstate, hcanonical] at hcheck
  simp only [checkTarget, bind_eq_ok, throwIf_eq_ok] at hcheck
  obtain ⟨_, -, _, hmove, -⟩ := hcheck
  exact hmove (by decide)

/-- No docket is moved to `IN_PROGRESS`, so none is reopened. -/
theorem reopenPendingDocket_refused {env : Lookups} {now : Date} {actor : Actor}
    {comment : String} {docket t : Docket} :
    reopenPendingDocket env now actor comment docket ≠ .ok t := by
  intro h
  obtain ⟨target, -, -, htarget, -, hcheck, -⟩ := transition_ok h
  obtain rfl : CaseStatus.IN_PROGRESS = target := Option.some.inj htarget
  have hcanonical : canonicalStateWith docket .IN_PROGRESS = .IN_PROGRESS := rfl
  rw [hcanonical] at hcheck
  simp only [checkTarget, bind_eq_ok, throwIf_eq_ok] at hcheck
  obtain ⟨_, hprogress, -⟩ := hcheck
  exact hprogress trivial

/-! ## The moves -/

/-- For no docket at work do the moves work: it is neither pended nor filed, by any actor with any
comment, and no pended docket is reopened. -/
theorem moves_never_complete {docket : Docket} (hd : AtWork docket) (env : Lookups) (now : Date)
    (actor : Actor) (comment : String) :
    ¬Moves env now actor comment docket ∧
      (∀ reopenAt t, transition env (pendRequest now actor comment reopenAt) docket ≠ .ok t) ∧
      (∀ t, transition env (fileRequest now actor comment) docket ≠ .ok t) ∧
      ∀ pended later actor' comment' t,
        reopenPendingDocket env later actor' comment' pended ≠ .ok t := by
  have hpending : ∀ reopenAt t,
      transition env (pendRequest now actor comment reopenAt) docket ≠ .ok t :=
    fun _ _ => transition_pending_refused rfl hd.reason
  have hfiling : ∀ t, transition env (fileRequest now actor comment) docket ≠ .ok t :=
    fun _ => transition_filed_refused rfl hd.state
  refine ⟨?_, hpending, hfiling, fun _ _ _ _ _ => reopenPendingDocket_refused⟩
  intro hmoves
  obtain ⟨t, ht, -⟩ := hmoves.filing
  exact hfiling t ht

/-- A docket that its owner works on. -/
def ownedDocket : Docket where
  status := .IN_PROGRESS
  state := some .IN_PROGRESS
  lifecycle := .state .ACTIVE
  queueType := .PERSONAL
  assignedToXID := some "X000001"

theorem moves_never_complete_owned :
    ¬Moves {} 0 { xID := some "X000001" } "Waiting for the client" ownedDocket :=
  (moves_never_complete (show AtWork ownedDocket from ⟨rfl, rfl, rfl, rfl⟩) {} 0
    { xID := some "X000001" } "Waiting for the client").1

/-- The owner's request to pend the docket fails at the validator, and the request to file it at the
table of the canonical states. -/
theorem moves_fail :
    AtWork ownedDocket ∧
      transition {} (pendRequest 0 { xID := some "X000001" } "Waiting for the client" (some 10))
          ownedDocket =
        .error (validationError "status" "pendingReason is required when status is PENDING") ∧
      transition {} (fileRequest 0 { xID := some "X000001" } "A duplicate") ownedDocket =
        .error (invalidStateTransition .IN_PROGRESS .FILED) ∧
      ¬Moves {} 0 { xID := some "X000001" } "Waiting for the client" ownedDocket := by
  refine ⟨⟨rfl, rfl, rfl, rfl⟩, rfl, rfl, ?_⟩
  rintro ⟨-, ⟨t, ht, -⟩, -⟩
  cases ht

end Docketra.Workflow
