import Docketra.DocketLock

/-!
# Sending a docket back

`unassignCase` of `services/caseUpdate.service.js` is to take a docket from its owner and put it
into the workbasket again. It never does: the audit entry, which it validates first, reads
`CASE_ACTION_TYPES`, and the same block declares that name further down, so that each request fails
with the answer 500 and leaves the docket as it is (`unassignCase_never`).

With the name at hand, the request would meet the lifecycle gate of `transitionDocket`, which takes
both target statuses for `ACTIVE`, and lets nothing go from `ACTIVE` to `ACTIVE`
(`unassignCaseWith_iff`).
-/

namespace Docketra.DocketLock

open Checked

/-- The answer to a request: the docket is in the workbasket, without an owner. -/
structure SentBack (docket sent : Docket) : Prop where
  owner : sent.assignedToXID = none
  queue : sent.queueType = .GLOBAL
  status : sent.status = targetUnassignedStatus docket
  state : sent.state = some .IN_WB

/-- When a request succeeds, and what it stores. -/
theorem unassignCaseWith_eq_ok {actionType : Except Failure String} {now : Date} {session : Bool}
    {user : User} {docket sent : Docket} :
    unassignCaseWith actionType now session user docket = .ok sent ↔
      user.role ≠ .SUPER_ADMIN ∧ unassignCaseDenies now user docket.lockStatus = false ∧
        (∃ word, actionType = .ok word) ∧ docket.caseId ≠ "" ∧
        StatusUpdate.updateStatus (targetUnassignedStatus docket)
          (unassignContext now session user) docket = .ok sent := by
  simp only [unassignCaseWith, findCase, validateAuditEntry, bind_eq_ok, mapError_eq_ok,
    CaseRepository.findByCaseId_eq_ok, throwIf_eq_ok, exists_const, Bool.not_eq_true]
  constructor
  · rintro ⟨caseData, ⟨hrole, rfl⟩, hlock, word, hword, hcase, hupdate⟩
    exact ⟨hrole, hlock, ⟨word, hword⟩, hcase, hupdate⟩
  · rintro ⟨hrole, hlock, ⟨word, hword⟩, hcase, hupdate⟩
    exact ⟨_, ⟨hrole, rfl⟩, hlock, word, hword, hcase, hupdate⟩

/-- No docket is ever sent back. -/
theorem unassignCase_never (now : Date) (session : Bool) (user : User) (docket : Docket) :
    ¬∃ sent, unassignCase now session user docket = .ok sent ∧ SentBack docket sent := by
  rintro ⟨sent, hsent, -⟩
  obtain ⟨-, -, ⟨word, hword⟩, -⟩ := unassignCaseWith_eq_ok.mp hsent
  exact nomatch hword

/-- An administrator. -/
def admin : User where
  xID := "X000003"
  email := "admin@firm.example"
  role := .ADMIN
  xID_given := by decide
  email_given := by decide

/-- A docket in the worklist of another user, whom nothing keeps at it. -/
def assignedDocket : Docket where
  caseId := "CASE-20260105-00001"
  status := .OPEN
  state := some .IN_PROGRESS
  lifecycle := .state .WL
  queueType := .PERSONAL
  assignedToXID := some "X000002"

theorem unassignCase_fails :
    unassignCaseDenies 0 admin assignedDocket.lockStatus = false ∧
      unassignCase 0 true admin assignedDocket =
        .error { statusCode := 500, message := "Error moving case to global worklist" } := by
  decide

/-! ## Behind the audit entry -/

/-- The two statuses are stored as they are, and `transitionDocket` takes them for `ACTIVE`. -/
theorem targetUnassignedStatus_spec (docket : Docket) :
    normalizeStatus (targetUnassignedStatus docket) = targetUnassignedStatus docket ∧
      toPersistenceState (toDocketState (targetUnassignedStatus docket)) =
        targetUnassignedStatus docket ∧
      toLifecycleFromStatus (targetUnassignedStatus docket) = .ACTIVE ∧
      toDocketState (targetUnassignedStatus docket) ≠ .PENDING ∧
      toDocketState (targetUnassignedStatus docket) ≠ .RESOLVED := by
  unfold targetUnassignedStatus
  split <;> decide

/-- What the status update stores is what is asked for. -/
theorem sentBack_updated (now : Date) (session : Bool) (user : User) (docket : Docket) :
    SentBack docket (StatusUpdate.updated (targetUnassignedStatus docket)
      (unassignContext now session user) docket) := by
  refine ⟨rfl, rfl, rfl, ?_⟩
  have hstate : (StatusUpdate.updated (targetUnassignedStatus docket)
      (unassignContext now session user) docket).state =
      some (getCanonicalDocketState { status := some (targetUnassignedStatus docket)
                                      queueType := some .GLOBAL }) := rfl
  rw [hstate]
  unfold targetUnassignedStatus
  split <;> rfl

/-- With the type of its entry, a request on a docket that is not locked by another user would
succeed on the lifecycles `WL` and `WAITING` only. -/
theorem unassignCaseWith_iff {actionType : String} {now : Date} {user : User} {docket : Docket}
    (hrole : user.role ≠ .SUPER_ADMIN) (hcase : docket.caseId ≠ "")
    (hlock : unassignCaseDenies now user docket.lockStatus = false) :
    (∃ sent, unassignCaseWith (.ok actionType) now true user docket = .ok sent ∧
      SentBack docket sent) ↔
      normalizeLifecycle docket.lifecycle = .WL ∨ normalizeLifecycle docket.lifecycle = .WAITING := by
  obtain ⟨hnormal, hstored, hactive, hpending, hresolved⟩ := targetUnassignedStatus_spec docket
  have hgate : isValidTransition (normalizeLifecycle docket.lifecycle) .ACTIVE = true ↔
      normalizeLifecycle docket.lifecycle = .WL ∨
        normalizeLifecycle docket.lifecycle = .WAITING := by
    cases normalizeLifecycle docket.lifecycle <;> decide
  rw [← hgate, ← hactive]
  constructor
  · rintro ⟨sent, hsent, -⟩
    obtain ⟨-, -, -, -, hupdate⟩ := unassignCaseWith_eq_ok.mp hsent
    rw [StatusUpdate.updateStatus_eq docket hnormal hstored rfl hrole rfl] at hupdate
    obtain ⟨u, hchecks, -⟩ := bind_eq_ok.mp hupdate
    exact (StatusUpdate.transitionChecks_eq_ok.mp hchecks).gate
  · intro hvalid
    refine ⟨_, unassignCaseWith_eq_ok.mpr ⟨hrole, hlock, ⟨actionType, rfl⟩, hcase, ?_⟩,
      sentBack_updated now true user docket⟩
    rw [StatusUpdate.updateStatus_eq docket hnormal hstored rfl hrole rfl]
    refine bind_eq_ok.mpr ⟨(), StatusUpdate.transitionChecks_eq_ok.mpr ⟨?_, ?_, hvalid⟩, rfl⟩
    · exact fun h => absurd h hpending
    · exact fun h => absurd h hresolved

end Docketra.DocketLock
