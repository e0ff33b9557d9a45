import Docketra.Docket

/-!
# The case repository

The part of `repositories/CaseRepository.js` that the services below go through: a read that
refuses a superadmin and normalizes the document, and the update of the status. The decryption of
the description is left out.
-/

namespace Docketra.CaseRepository

open Checked

/-- `_guardSuperadmin`, for a role that is given. -/
def guardSuperadmin (role : Role) : Except Failure Unit :=
  throwIf (role = .SUPER_ADMIN)
    { message := "Superadmin cannot access decrypted tenant data", statusCode := some 403 }

/-- `_decryptCaseDoc`: the lifecycle is normalized, and a missing state is filled in. -/
def decryptCaseDoc (docket : Docket) : Docket :=
  let docket := { docket with lifecycle := .state (normalizeLifecycle docket.lifecycle) }
  { docket with state := some (docket.state.getD docket.canonicalState) }

/-- `findByCaseId`, for an identifier that names the docket. -/
def findByCaseId (role : Role) (docket : Docket) : Except Failure Docket := do
  guardSuperadmin role
  return decryptCaseDoc docket

/-- The fields that a status update may set beside the status. A field that the caller leaves out
is `none`, and one that it clears is `some none`. -/
structure StatusPatch where
  lifecycle : Option Lifecycle := none
  state : Option DocketState := none
  qcOutcome : Option (Option QcOutcome) := none
  assignedToXID : Option (Option String) := none
  assignedTo : Option (Option ObjectId) := none
  assignedBy : Option (Option ObjectId) := none
  assignedAt : Option (Option Date) := none
  queueType : Option QueueType := none
  pendedByXID : Option (Option String) := none
  pendingReason : Option (Option String) := none
  pendingUntil : Option (Option Date) := none
  reopenAt : Option (Option Date) := none
  resolvedAt : Option (Option Date) := none
  lastActionByXID : Option (Option String) := none
  lastActionAt : Option (Option Date) := none
  tatAccumulatedMinutes : Option Nat := none
  tatTotalMinutes : Option Nat := none
  tatPaused : Option Bool := none
  tatLastStartedAt : Option (Option Date) := none
  deriving DecidableEq, Repr

/-- The document after `$set: { status, ...patch }`. -/
def StatusPatch.set (patch : StatusPatch) (status : CaseStatus) (docket : Docket) : Docket :=
  { docket with
    status := status
    lifecycle := (patch.lifecycle.map .state).getD docket.lifecycle
    state := patch.state.or docket.state
    qcOutcome := patch.qcOutcome.getD docket.qcOutcome
    assignedToXID := (patch.assignedToXID.map (·.map castXID)).getD docket.assignedToXID
    assignedTo := patch.assignedTo.getD docket.assignedTo
    assignedBy := patch.assignedBy.getD docket.assignedBy
    assignedAt := patch.assignedAt.getD docket.assignedAt
    queueType := patch.queueType.getD docket.queueType
    pendedByXID := (patch.pendedByXID.map (·.map castXID)).getD docket.pendedByXID
    pendingReason := patch.pendingReason.getD docket.pendingReason
    pendingUntil := patch.pendingUntil.getD docket.pendingUntil
    reopenAt := patch.reopenAt.getD docket.reopenAt
    resolvedAt := patch.resolvedAt.getD docket.resolvedAt
    lastActionByXID := (patch.lastActionByXID.map (·.map castXID)).getD docket.lastActionByXID
    lastActionAt := patch.lastActionAt.getD docket.lastActionAt
    tatAccumulatedMinutes := patch.tatAccumulatedMinutes.getD docket.tatAccumulatedMinutes
    tatTotalMinutes := patch.tatTotalMinutes.getD docket.tatTotalMinutes
    tatPaused := patch.tatPaused.getD docket.tatPaused
    tatLastStartedAt := patch.tatLastStartedAt.getD docket.tatLastStartedAt }

/-- `updateStatus`, with an expected current status. -/
def updateStatus (status : CaseStatus) (extraFields : StatusPatch)
    (expectedCurrentStatus : CaseStatus) (docket : Docket) : Except Failure Docket := do
  -- The status is part of the filter, and no validator runs.
  throwIf (docket.status ≠ expectedCurrentStatus) (plainError "Case state changed concurrently")
  return extraFields.set status docket

/-- A read succeeds for every role but the superadmin's. -/
theorem findByCaseId_eq_ok {role : Role} {docket found : Docket} :
    findByCaseId role docket = .ok found ↔ role ≠ .SUPER_ADMIN ∧ found = decryptCaseDoc docket := by
  simp only [findByCaseId, guardSuperadmin, bind_eq_ok, throwIf_eq_ok, pure_eq, Except.ok.injEq]
  grind

@[simp] theorem decryptCaseDoc_status (docket : Docket) :
    (decryptCaseDoc docket).status = docket.status := rfl

@[simp] theorem decryptCaseDoc_lifecycle (docket : Docket) :
    (decryptCaseDoc docket).lifecycle = .state (normalizeLifecycle docket.lifecycle) := rfl

@[simp] theorem decryptCaseDoc_assignedToXID (docket : Docket) :
    (decryptCaseDoc docket).assignedToXID = docket.assignedToXID := rfl

@[simp] theorem decryptCaseDoc_version (docket : Docket) :
    (decryptCaseDoc docket).version = docket.version := rfl

end Docketra.CaseRepository
