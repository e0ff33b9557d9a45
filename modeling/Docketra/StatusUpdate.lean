import Docketra.Repository

/-!
# The status update

`transitionDocket` of `services/docketTransition.service.js`, which moves a docket's status under a
version lock, and `updateStatus` of `services/case.service.js`, which calls it, and then writes
the fields that follow from the new status.

`transitionDocket` reads the document, checks it, and later writes under a filter, so it is given
as its checks on the document read, its filter, and its update of the document stored.
-/

namespace Docketra.StatusUpdate

open Checked
open CaseRepository (StatusPatch)

/-! ## `transitionDocket` -/

/-- The arguments of `transitionDocket` that its checks and its update read. -/
structure TransitionOptions where
  newState : CaseStatus
  reason : Option String := none
  notes : Option String := none
  expectedVersion : Option Int := none
  deriving DecidableEq, Repr

/-- The failure of a move that the lifecycles do not admit. -/
def invalidTransition (src tgt : Lifecycle) : Failure :=
  plainError ("Invalid transition from " ++ src.value ++ " to " ++ tgt.value)

/-- The lifecycle gate of `transitionDocket`. -/
def lifecycleGate (newState : CaseStatus) (docket : Docket) : Except Failure Unit :=
  throwIf (¬isValidTransition (normalizeLifecycle docket.lifecycle) (toLifecycleFromStatus newState))
    (invalidTransition (normalizeLifecycle docket.lifecycle) (toLifecycleFromStatus newState))

/-- The checks that `transitionDocket` makes on the document that it has read. -/
def transitionChecks (opts : TransitionOptions) (read : Docket) : Except Failure Unit := do
  -- A reason of white space passes: only its absence is checked.
  throwIf (toDocketState opts.newState = .PENDING ∧ ¬truthy opts.reason)
    { message := "PENDING transition requires reason", statusCode := some 400 }
  throwIf (toDocketState opts.newState = .RESOLVED ∧ ¬truthy opts.notes)
    { message := "RESOLVED transition requires notes", statusCode := some 400 }
  lifecycleGate opts.newState read

/-- The version that the caller expects, or the one read. -/
def expected (opts : TransitionOptions) (read : Docket) : Int :=
  opts.expectedVersion.getD (read.version.getD 0)

/-- The filter of the update: the version, which a document may also lack when it is 0. -/
def versionFilter (expected : Int) (stored : Docket) : Bool :=
  stored.version.map Int.ofNat = some expected || (expected = 0 && stored.version = none)

/-- The update. -/
def transitionUpdate (newState : CaseStatus) (stored : Docket) : Docket :=
  { stored with
    status := toPersistenceState (toDocketState newState)
    pendingUntil := if toDocketState newState = .PENDING then stored.pendingUntil else none
    version := some (stored.version.getD 0 + 1) }

/-- The failure of an update that matches no document. -/
def versionMismatch : Failure :=
  makeErrorWith "Version mismatch: docket was updated by another request" 409
    "DOCKET_VERSION_CONFLICT"

/-- `transitionDocket`, on the document that it reads and the one that is stored when it writes. -/
def transitionDocketBetween (opts : TransitionOptions) (read stored : Docket) :
    Except Failure Docket := do
  transitionChecks opts read
  -- The status of the stored document is not in the filter.
  throwIf (¬versionFilter (expected opts read) stored) versionMismatch
  return transitionUpdate opts.newState stored

/-- `transitionDocket`, when nothing happens between its read and its write. -/
def transitionDocket (opts : TransitionOptions) (docket : Docket) : Except Failure Docket :=
  transitionDocketBetween opts docket docket

/-- What the checks of `transitionDocket` ask of the document read. -/
structure Accepts (opts : TransitionOptions) (read : Docket) : Prop where
  reason : toDocketState opts.newState = .PENDING → truthy opts.reason = true
  notes : toDocketState opts.newState = .RESOLVED → truthy opts.notes = true
  gate : isValidTransition (normalizeLifecycle read.lifecycle)
    (toLifecycleFromStatus opts.newState) = true

theorem transitionChecks_eq_ok {opts : TransitionOptions} {read : Docket} {u : Unit} :
    transitionChecks opts read = .ok u ↔ Accepts opts read := by
  simp only [transitionChecks, lifecycleGate, bind_eq_ok, throwIf_eq_ok, exists_const, not_and,
    not_not]
  constructor
  · rintro ⟨hreason, hnotes, hgate⟩
    exact ⟨hreason, hnotes, hgate⟩
  · intro h
    exact ⟨h.reason, h.notes, h.gate⟩

/-- When `transitionDocket` succeeds, and what it stores. -/
theorem transitionDocketBetween_eq_ok {opts : TransitionOptions} {read stored t : Docket} :
    transitionDocketBetween opts read stored = .ok t ↔
      Accepts opts read ∧ versionFilter (expected opts read) stored = true ∧
        t = transitionUpdate opts.newState stored := by
  simp only [transitionDocketBetween, bind_eq_ok, transitionChecks_eq_ok, throwIf_eq_ok, pure_eq,
    Except.ok.injEq, exists_const, not_not, eq_comm (b := t)]

/-! ## The turn-around clock -/

/-- `computeElapsedMinutes`. -/
def computeElapsedMinutes (startedAt : Option Date) (now : Date) : Nat :=
  match startedAt with
  | none => 0
  | some startedAt => ((now - startedAt) / 60000).toNat

/-- The patch of `handleStatusTransition` of `services/caseSla.service.js`. -/
def handleStatusTransition (docket : Docket) (newStatus : CaseStatus) (now : Date) :
    StatusPatch :=
  let previousTat := docket.tatAccumulatedMinutes
  -- A docket that is paused already is not paused again, and its minutes stay.
  let toStatus := normalizeStatus newStatus
  if toStatus = .PENDING ∧ docket.tatPaused = false then
    let newTat := previousTat + computeElapsedMinutes docket.tatLastStartedAt now
    { tatAccumulatedMinutes := some newTat
      tatTotalMinutes := some newTat
      tatPaused := some true
      tatLastStartedAt := some none }
  else if toStatus = .OPEN then
    if normalizeStatus docket.status = .PENDING ∨ docket.tatPaused then
      { tatPaused := some false, tatLastStartedAt := some (some now) }
    else {}
  else if toStatus = .RESOLVED then
    let newTat := previousTat +
      if docket.tatPaused then 0 else computeElapsedMinutes docket.tatLastStartedAt now
    { tatAccumulatedMinutes := some newTat
      tatTotalMinutes := some newTat
      tatPaused := some true
      tatLastStartedAt := some none }
  else {}

/-! ## `updateStatus` -/

/-- `inferLifecycleAfterStatusChange`. -/
def inferLifecycleAfterStatusChange (existingCase : Docket) (ns : CaseStatus)
    (patch : StatusPatch) : Lifecycle :=
  let assigned := patch.assignedToXID.getD existingCase.assignedToXID
  match patch.lifecycle with
  | some explicit => deriveLifecycle (.state explicit) assigned ns
  | none =>
    -- The order matters: a docket that is done stays done, whatever the new status.
    if ns = .RESOLVED ∨ ns = .CLOSED ∨ ns = .FILED then .DONE
    else if coerceLifecycleToDocket existingCase.lifecycle = some .DONE then .DONE
    else if ¬truthy assigned then .WL
    else if ns = .ASSIGNED ∨ ns = .ROUTED_ASSIGNED then .WL
    else if ns = .PENDING ∨ ns = .QC_PENDING then .WAITING
    else if ns = .IN_PROGRESS ∨ ns = .OPEN ∨ ns = .QC_FAILED ∨ ns = .QC_CORRECTED then .ACTIVE
    else deriveLifecycle existingCase.lifecycle assigned ns

/-- The `context` of `updateStatus`. `session` tells whether the request has a transaction. -/
structure StatusContext where
  now : Date
  session : Bool
  role : Role
  expectedVersion : Option Int := none
  reason : Option String := none
  notes : Option String := none
  auditReason : Option String := none
  auditNotes : Option String := none
  statusPatch : StatusPatch := {}
  deriving DecidableEq, Repr

/-- The options that `updateStatus` calls `transitionDocket` with. -/
def StatusContext.options (ctx : StatusContext) (status : CaseStatus) (existingCase : Docket) :
    TransitionOptions where
  newState := status
  reason := orElse ctx.reason ctx.auditReason
  notes := orElse ctx.notes ctx.auditNotes
  expectedVersion := ctx.expectedVersion.or (existingCase.version.map Int.ofNat)

/-- What `updateStatus` patches. The object that `getCanonicalDocketState` is given spreads the
Mongoose document `existingCase`, which has none of the schema's fields of its own: the function
sees the owner and the queue of the patch only. -/
def StatusContext.mergedPatch (ctx : StatusContext) (status : CaseStatus) (existingCase : Docket) :
    StatusPatch :=
  let sla := handleStatusTransition existingCase status ctx.now
  let patch := { ctx.statusPatch with
    tatAccumulatedMinutes := sla.tatAccumulatedMinutes.or ctx.statusPatch.tatAccumulatedMinutes
    tatTotalMinutes := sla.tatTotalMinutes.or ctx.statusPatch.tatTotalMinutes
    tatPaused := sla.tatPaused.or ctx.statusPatch.tatPaused
    tatLastStartedAt := sla.tatLastStartedAt.or ctx.statusPatch.tatLastStartedAt }
  { patch with
    lifecycle := some (inferLifecycleAfterStatusChange existingCase status patch)
    state := some (getCanonicalDocketState
      { status := some status
        assignedToXID := patch.assignedToXID.join
        queueType := patch.queueType })
    qcOutcome := patch.qcOutcome.or (some existingCase.qcOutcome) }

/-- The failure of a status update outside a transaction. -/
def sessionRequired : Failure :=
  plainError "Transaction session required for status transition"

/-- `updateStatus`, when nothing else happens to the docket meanwhile. -/
def updateStatus (newStatus : CaseStatus) (ctx : StatusContext) (docket : Docket) :
    Except Failure Docket := do
  let normalizedNewStatus := normalizeStatus newStatus
  throwIf (ctx.session = false) sessionRequired
  -- Both writes are in one transaction, so that the second sees what the first has stored.
  let existingCase ← CaseRepository.findByCaseId ctx.role docket
  let moved ← transitionDocket (ctx.options normalizedNewStatus existingCase) docket
  CaseRepository.updateStatus normalizedNewStatus (ctx.mergedPatch normalizedNewStatus existingCase)
    normalizedNewStatus moved

/-! ## What a status update does -/

/-- A document passes the filter for the version that was read from it. -/
theorem versionFilter_self (docket : Docket) :
    versionFilter ((docket.version.map Int.ofNat).getD 0) docket = true := by
  cases h : docket.version <;> simp [versionFilter, h]

/-- The version that `updateStatus` expects, when its caller names none, is the one that it has
read. -/
theorem expected_options {ctx : StatusContext} (hctx : ctx.expectedVersion = none)
    (status : CaseStatus) (docket : Docket) :
    expected (ctx.options status (CaseRepository.decryptCaseDoc docket)) docket =
      (docket.version.map Int.ofNat).getD 0 := by
  cases h : docket.version <;> simp [expected, StatusContext.options, hctx, h]

/-- The document that `updateStatus` stores. -/
def updated (status : CaseStatus) (ctx : StatusContext) (docket : Docket) : Docket :=
  (ctx.mergedPatch status (CaseRepository.decryptCaseDoc docket)).set status
    (transitionUpdate status docket)

/-- A status update by a caller who names no version, to a status that is stored as it is,
succeeds when `transitionDocket` accepts it, and fails as `transitionDocket` does. -/
theorem updateStatus_eq {status : CaseStatus} {ctx : StatusContext} (docket : Docket)
    (hnormal : normalizeStatus status = status)
    (hstored : toPersistenceState (toDocketState status) = status)
    (hsession : ctx.session = true) (hrole : ctx.role ≠ .SUPER_ADMIN)
    (hversion : ctx.expectedVersion = none) :
    updateStatus status ctx docket =
      (transitionChecks (ctx.options status (CaseRepository.decryptCaseDoc docket)) docket >>=
        fun _ => .ok (updated status ctx docket)) := by
  have hfind : CaseRepository.findByCaseId ctx.role docket =
      .ok (CaseRepository.decryptCaseDoc docket) :=
    CaseRepository.findByCaseId_eq_ok.mpr ⟨hrole, rfl⟩
  have hfilter : versionFilter
      (expected (ctx.options status (CaseRepository.decryptCaseDoc docket)) docket) docket =
        true := by
    rw [expected_options hversion]
    exact versionFilter_self docket
  have hstatus : (transitionUpdate status docket).status = status := hstored
  have hpersist : CaseRepository.updateStatus status
      (ctx.mergedPatch status (CaseRepository.decryptCaseDoc docket)) status
      (transitionUpdate status docket) = .ok (updated status ctx docket) := by
    simp [CaseRepository.updateStatus, throwIf, hstatus, updated]
  have hopen : throwIf (ctx.session = false) sessionRequired = .ok () :=
    throwIf_neg (by simp [hsession])
  simp only [updateStatus, hnormal, hopen, hfind, ok_bind, transitionDocket,
    transitionDocketBetween]
  cases hchecks : transitionChecks (ctx.options status (CaseRepository.decryptCaseDoc docket))
      docket with
  | error e => rfl
  | ok u =>
    have hnewState : (ctx.options status (CaseRepository.decryptCaseDoc docket)).newState = status :=
      rfl
    simp only [ok_bind, throwIf_neg (not_not.mpr hfilter), pure_eq, hnewState, hpersist]

/-- A status update fails when the request has no transaction, and not as the gate does. -/
theorem updateStatus_sessionless {status : CaseStatus} {ctx : StatusContext} (docket : Docket)
    (hsession : ctx.session = false) :
    updateStatus status ctx docket = .error sessionRequired := by
  simp [updateStatus, hsession, throwIf]

/-- The failure without a transaction is not that of the lifecycle gate. -/
theorem sessionRequired_ne (src tgt : Lifecycle) : sessionRequired ≠ invalidTransition src tgt := by
  cases src <;> cases tgt <;> decide

end Docketra.StatusUpdate
