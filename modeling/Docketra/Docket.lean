import Docketra.Lib.Checked
import Docketra.Status

/-!
# The docket document

`Docket` is the part of a Case document (`models/Case.model.js`) that the docket services read or
write. `Docket.save` is Mongoose's `save()` on it: the schema's hooks and validators, then the
write. A raw update (`updateOne`, `findOneAndUpdate`) runs no validator and is modelled by the
fields that it sets.

The bookkeeping of Mongoose's `timestamps` option is left out, and so are the fields that none of
the services' functions in this development touch.
-/

namespace Docketra

open Checked

/-! ## Identifiers, dates, and failures -/

/-- A MongoDB object id, by its hexadecimal text. -/
structure ObjectId where
  hex : String
  deriving DecidableEq, Repr

/-- A point in time, in milliseconds since the epoch. -/
abbrev Date := Int

/-- An exception: its message, and the `statusCode` and `code` that `makeError` puts on it. -/
structure Failure where
  message : String
  statusCode : Option Nat := none
  code : Option String := none
  deriving DecidableEq, Repr

/-- `makeError` of `docketWorkflow.service.js`, with all its arguments. -/
def makeErrorWith (message : String) (statusCode : Nat) (code : String) : Failure :=
  ⟨message, some statusCode, some code⟩

/-- `makeError` of `docketWorkflow.service.js`, with the defaults of its last two arguments. -/
def makeError (message : String) : Failure := makeErrorWith message 400 "VALIDATION_ERROR"

/-- A plain `new Error(message)`. -/
def plainError (message : String) : Failure := { message := message }

/-- The exception of reading a name that no scope binds. -/
def referenceError (name : String) : Failure := plainError (name ++ " is not defined")

/-- The exception of a failed schema validation at one path. -/
def validationError (path message : String) : Failure :=
  plainError ("Case validation failed: " ++ path ++ ": " ++ message)

/-- The roles of the User model, and `SYSTEM`, the actor of the background jobs. -/
inductive Role where
  | SUPER_ADMIN | PRIMARY_ADMIN | ADMIN | MANAGER | USER | SYSTEM
  deriving DecidableEq, Repr

/-- The authenticated user that a service function acts for. -/
structure Actor where
  xID : Option String := none
  role : Role := .USER
  teamId : Option ObjectId := none
  deriving DecidableEq, Repr

/-! ## The document -/

/-- `qcOutcome`. -/
inductive QcOutcome where
  | PASSED | FAILED | CORRECTED
  deriving DecidableEq, Repr

/-- `qcStatus`, and the `status` of the `qc` record. -/
inductive QcStatus where
  | REQUESTED | APPROVED | FAILED | CORRECTED | REJECTED | SKIPPED
  deriving DecidableEq, Repr

/-- The `qc` record. The schema is strict, so the `source` and `samplingPercent` that `transition`
assigns to it are not stored. -/
structure QcRecord where
  requestedBy : Option String := none
  handledBy : Option String := none
  status : Option QcStatus := none
  attempts : Nat := 0
  comment : Option String := none
  requestedAt : Option Date := none
  handledAt : Option Date := none
  originalAssigneeXID : Option String := none
  deriving DecidableEq, Repr

/-- `lockStatus`. -/
structure LockStatus where
  isLocked : Bool := false
  activeUserEmail : Option String := none
  activeUserXID : Option String := none
  activeUserDisplayName : Option String := none
  lockedAt : Option Date := none
  lastActivityAt : Option Date := none
  deriving DecidableEq, Repr

/-- A Case document. A field of optional text is `none` when it is absent or `null`. The default
values are the schema's. -/
structure Docket where
  caseId : String := ""
  status : CaseStatus := .OPEN
  state : Option DocketState := none
  lifecycle : LifecycleWord := .state .WL
  queueType : QueueType := .GLOBAL
  /-- The counter that `docketTransition.service.js` locks on. A document without it counts as at
  version 0. -/
  version : Option Nat := none
  /-- Mongoose's own counter, which the schema's `optimisticConcurrency` locks `save()` on. -/
  __v : Nat := 0
  assignedToXID : Option String := none
  assignedTo : Option ObjectId := none
  assignedBy : Option ObjectId := none
  assignedAt : Option Date := none
  lastActionByXID : Option String := none
  lastActionAt : Option Date := none
  reopenAt : Option Date := none
  pendingUntil : Option Date := none
  pendingReason : Option String := none
  pendedByXID : Option String := none
  resolvedAt : Option Date := none
  duplicateOf : Option String := none
  categoryId : Option ObjectId := none
  category : Option String := none
  subcategoryId : Option String := none
  subcategory : Option String := none
  caseSubCategory : Option String := none
  forceQc : Bool := false
  qcOutcome : Option QcOutcome := none
  qcStatus : Option QcStatus := none
  qcBy : Option String := none
  qcAt : Option Date := none
  qcSubmittedByXID : Option String := none
  qcSubmittedAt : Option Date := none
  qcDecisionByXID : Option String := none
  qcDecisionAt : Option Date := none
  qcFailedCorrected : Bool := false
  qc : QcRecord := {}
  ownerTeamId : Option ObjectId := none
  workbasketId : Option ObjectId := none
  routedToTeamId : Option ObjectId := none
  routedByUserId : Option String := none
  routedAt : Option Date := none
  routingNote : Option String := none
  routeOriginatorUserXID : Option String := none
  routeOriginatorTeamId : Option ObjectId := none
  routeOriginatorWorkbasketId : Option ObjectId := none
  routeReturnedAt : Option Date := none
  lockStatus : LockStatus := {}
  tatPaused : Bool := false
  tatAccumulatedMinutes : Nat := 0
  tatTotalMinutes : Nat := 0
  tatLastStartedAt : Option Date := none
  deriving DecidableEq, Repr

namespace Docket

/-- The document as `getCanonicalDocketState` reads it. -/
def view (docket : Docket) : DocketView where
  status := some docket.status
  state := docket.state
  assignedToXID := docket.assignedToXID
  queueType := some docket.queueType

/-- `getCanonicalDocketState(docket)`. -/
def canonicalState (docket : Docket) : DocketState := getCanonicalDocketState docket.view

/-! ## Saving -/

/-- The values that the schema admits for `pendingReason`. -/
def pendingReasons : List String := ["waiting_client", "waiting_internal", "blocked", "other"]

/-- The enumeration check of `pendingReason`, which passes over an absent value. -/
def pendingReasonListed (docket : Docket) : Bool :=
  match docket.pendingReason with
  | none => true
  | some reason => reason ∈ pendingReasons

/-- The hooks before validation, and the validators. The lifecycle is derived again, and a missing
state is filled in. -/
def validate (docket : Docket) : Except Failure Docket := do
  throwIf (docket.queueType = .PERSONAL ∧ ¬truthy docket.assignedToXID)
    (validationError "assignedToXID" "PERSONAL docket must have assignedToXID")
  throwIf (docket.status = .PENDING ∧ ¬truthy docket.pendingReason)
    (validationError "status" "pendingReason is required when status is PENDING")
  throwIf (¬docket.pendingReasonListed)
    (validationError "pendingReason" "not a valid enum value for path pendingReason")
  return { docket with
    lifecycle := .state (deriveLifecycle docket.lifecycle docket.assignedToXID docket.status)
    state := some (docket.state.getD docket.canonicalState) }

/-- `save()` of a document that nobody else has saved since it was read. -/
def save (docket : Docket) : Except Failure Docket := do
  let docket ← docket.validate
  -- The hook before the save repeats a check of the validation.
  throwIf (docket.queueType = .PERSONAL ∧ ¬truthy docket.assignedToXID)
    (plainError "PERSONAL docket must have assignedToXID")
  return { docket with __v := docket.__v + 1 }

/-- What the validators ask of the reason for pending. -/
structure ReasonGiven (docket : Docket) : Prop where
  /-- A pending docket has a reason. -/
  pending : docket.status = .PENDING → truthy docket.pendingReason = true
  /-- The reason, if any, is one of the schema's. -/
  listed : docket.pendingReasonListed = true

/-- What the hooks and validators ask of a document. -/
structure Savable (docket : Docket) : Prop where
  /-- A docket in a personal queue has an owner. -/
  owner : docket.queueType = .PERSONAL → truthy docket.assignedToXID = true
  reason : docket.ReasonGiven

/-- The document that `save` writes. -/
def saved (docket : Docket) : Docket :=
  { docket with
    lifecycle := .state (deriveLifecycle docket.lifecycle docket.assignedToXID docket.status)
    state := some (docket.state.getD docket.canonicalState)
    __v := docket.__v + 1 }

/-- A document is saved exactly when it is savable. -/
theorem save_eq_ok {docket stored : Docket} :
    docket.save = .ok stored ↔ docket.Savable ∧ stored = docket.saved := by
  simp only [save, validate, bind_eq_ok, throwIf_eq_ok, pure_eq, Except.ok.injEq]
  constructor
  · rintro ⟨d, ⟨-, howner, -, hpending, -, hreason, rfl⟩, -, -, rfl⟩
    exact ⟨⟨by grind, ⟨by grind, by grind⟩⟩, rfl⟩
  · rintro ⟨⟨howner, hpending, hreason⟩, rfl⟩
    exact ⟨_, ⟨(), by grind, (), by grind, (), by grind, rfl⟩, (), by grind, rfl⟩

/-- The failure of a save against another one. -/
def versionError : Failure := plainError "No matching document found: the document was saved before"

/-- `save()`, which fails when the document has been saved by others since it was read. -/
def saveUnless (conflict : Bool) (docket : Docket) : Except Failure Docket := do
  let saved ← docket.save
  throwIf conflict versionError
  return saved

theorem saveUnless_false (docket : Docket) : docket.saveUnless false = docket.save := by
  unfold saveUnless
  cases docket.save with
  | error e => rfl
  | ok saved => rfl

theorem saveUnless_eq_ok {conflict : Bool} {docket stored : Docket} :
    docket.saveUnless conflict = .ok stored ↔
      docket.Savable ∧ conflict = false ∧ stored = docket.saved := by
  simp only [saveUnless, bind_eq_ok, save_eq_ok, throwIf_eq_ok, pure_eq, Except.ok.injEq,
    exists_const, Bool.not_eq_true]
  constructor
  · rintro ⟨d, ⟨hsavable, rfl⟩, hconflict, rfl⟩
    exact ⟨hsavable, hconflict, rfl⟩
  · rintro ⟨hsavable, hconflict, rfl⟩
    exact ⟨_, ⟨hsavable, rfl⟩, hconflict, rfl⟩

/-- The docket passes the schema with an owner, and nobody else saves it meanwhile. -/
structure Storable (docket : Docket) (conflict : Bool) (owner : Option String) : Prop where
  owner : docket.queueType = .PERSONAL → truthy owner = true
  reason : docket.pendingReasonListed = true
  conflict : conflict = false

/-- Out of a pending status, that is all that a save asks. -/
theorem exists_saveUnless_iff {conflict : Bool} {docket : Docket} (h : docket.status ≠ .PENDING) :
    (∃ t, docket.saveUnless conflict = .ok t) ↔ docket.Storable conflict docket.assignedToXID := by
  simp only [saveUnless_eq_ok]
  constructor
  · rintro ⟨t, hsavable, hconflict, -⟩
    exact ⟨hsavable.owner, hsavable.reason.listed, hconflict⟩
  · rintro ⟨howner, hreason, hconflict⟩
    exact ⟨_, ⟨howner, fun hpending => absurd hpending h, hreason⟩, hconflict, rfl⟩

instance (docket : Docket) : Decidable docket.ReasonGiven :=
  decidable_of_iff
    ((docket.status = .PENDING → truthy docket.pendingReason = true) ∧
      docket.pendingReasonListed = true)
    ⟨fun ⟨h₁, h₂⟩ => ⟨h₁, h₂⟩, fun ⟨h₁, h₂⟩ => ⟨h₁, h₂⟩⟩

instance (docket : Docket) : Decidable docket.Savable :=
  decidable_of_iff
    ((docket.queueType = .PERSONAL → truthy docket.assignedToXID = true) ∧ docket.ReasonGiven)
    ⟨fun ⟨h₁, h₂⟩ => ⟨h₁, h₂⟩, fun ⟨h₁, h₂⟩ => ⟨h₁, h₂⟩⟩

@[simp] theorem saved_status (docket : Docket) : docket.saved.status = docket.status := rfl

@[simp] theorem saved_state (docket : Docket) :
    docket.saved.state = some (docket.state.getD docket.canonicalState) := rfl

end Docket

end Docketra
