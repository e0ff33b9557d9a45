import Docketra.Lib.Runs
import Docketra.StatusUpdate
import Docketra.Workflow

/-!
# The docket lock

A docket's `lockStatus` says who works on it. `lockCaseEndpoint` and `unlockCaseEndpoint` of
`services/caseUpdate.service.js` write it, and four functions ask whether somebody else holds it:
`checkCaseLock` of `middleware/caseLock.middleware.js` by the email of the account,
`lockCaseEndpoint` by the email in the request's body, `unassignCase` by a stored xID, and
`assertNotLockedByAnotherActiveUser` of `Workflow` by the xID, which it takes for somebody else's
when it is missing. Their answers agree on the locks of `AgreedOn` only (`agree_iff_agreedOn`).

The email in the body is not compared with the account. A request that carries the email of a lock
takes the lock over, or releases it, whoever sends it (`keepsLockOf_iff`). The schema of the two
routes lets no body with a field through, so that no such request arrives over HTTP, and no other
either (`run_of_empty`).
-/

namespace Docketra.DocketLock

open Checked Runs
open Workflow (inactivityTimeoutMs lockedByAnotherActiveUser)

/-- An authenticated user, `req.user`. -/
structure User where
  xID : String
  email : String
  name : String := ""
  firstName : String := ""
  lastName : String := ""
  role : Role := .USER
  /-- `unassignCase` refuses a user without an xID. -/
  xID_given : isBlank xID = false
  /-- `checkCaseLock` refuses a user without an email. -/
  email_given : email ≠ ""

/-- What an answer repeats of the lock. -/
structure LockEcho where
  lockedBy : Option String := none
  lockedByXID : Option String := none
  lockedByDisplayName : Option String := none
  lockedAt : Option Date := none
  lastActivityAt : Option Date := none
  deriving DecidableEq, Repr

/-- An answer that is an error. -/
structure Refusal where
  statusCode : ℕ
  message : String
  code : Option String := none
  error : Option String := none
  lock : LockEcho := {}
  deriving DecidableEq, Repr

/-! ## Locks -/

/-- `lastActivityAt || lockedAt`. -/
def lastActivity (lock : LockStatus) : Option Date := lock.lastActivityAt.or lock.lockedAt

/-- The inactivity test of `checkCaseLock` and `lockCaseEndpoint`. -/
def isInactive (now : Date) (lock : LockStatus) : Bool :=
  match lastActivity lock with
  | none => false
  | some lastActivity => now - lastActivity > inactivityTimeoutMs

/-- The test of the time in `unassignCase` and `assertNotLockedByAnotherActiveUser`. -/
def isRecent (now : Date) (lock : LockStatus) : Bool :=
  let lockTs := (lastActivity lock).getD 0
  0 < lockTs && now - lockTs < inactivityTimeoutMs

/-- `String(xID || '').trim().toUpperCase()`. -/
def normalizeXID (xID : Option String) : String := toUpperCase (trim (xID.getD ""))

/-- A lock that is released. -/
def released : LockStatus where
  isLocked := false

/-- `maskEmail`. -/
def maskEmail (email : Option String) : Option String :=
  if truthy email then
    let domain := (((email.getD "").toList.dropWhile (· ≠ '@')).drop 1).takeWhile (· ≠ '@')
    some (if domain = [] then "***" else "***@" ++ String.ofList domain)
  else none

section endpoints

-- `String.prototype.toLowerCase`
variable (lowerCase : String → String)

/-! ## `checkCaseLock` -/

/-- The first condition of `checkCaseLock`: the lock names another email than the account's. -/
def emailLocked (user : User) (lock : LockStatus) : Bool :=
  lock.isLocked && truthy lock.activeUserEmail &&
    lock.activeUserEmail != some (lowerCase user.email)

/-- `checkCaseLock` answers 409. -/
def checkCaseLockDenies (now : Date) (user : User) (lock : LockStatus) : Bool :=
  emailLocked lowerCase user lock && !isInactive now lock

/-- `checkCaseLock`, on a docket that is found. It returns the docket that is stored when the next
handler is called. -/
def checkCaseLock (now : Date) (user : User) (docket : Docket) : Except Refusal Docket := do
  let failed (failure : Failure) : Refusal :=
    { statusCode := 500, message := "Error checking case lock status",
      error := some failure.message }
  let caseData ← (CaseRepository.findByCaseId user.role docket).mapError failed
  if emailLocked lowerCase user caseData.lockStatus then
    if isInactive now caseData.lockStatus then
      let unlocked := { caseData with lockStatus := released }
      unlocked.save.mapError failed
    else
      .error
        { statusCode := 409
          code := some "CASE_LOCKED"
          message := "This case is currently locked by another user."
          lock :=
            { lockedBy := maskEmail caseData.lockStatus.activeUserEmail
              lockedAt := caseData.lockStatus.lockedAt
              lastActivityAt := lastActivity caseData.lockStatus } }
  else return docket

/-! ## `lockCaseEndpoint` and `unlockCaseEndpoint` -/

/-- The `findCaseByIdentifierOrSendNotFound` of the service, for an identifier that names the
docket. -/
def findCase (role : Role) (docket : Docket) : Except Refusal Docket :=
  (CaseRepository.findByCaseId role docket).mapError fun _ =>
    { statusCode := 404, message := "Case not found" }

/-- The first condition of both endpoints: the lock names another email than the body's. -/
def bodyEmailLocked (userEmail : String) (lock : LockStatus) : Bool :=
  lock.isLocked && lock.activeUserEmail != some (lowerCase userEmail)

/-- `lockCaseEndpoint` answers 409. -/
def lockCaseDenies (now : Date) (userEmail : String) (lock : LockStatus) : Bool :=
  bodyEmailLocked lowerCase userEmail lock && !isInactive now lock

/-- The `lockerDisplay` of `lockCaseEndpoint`. -/
def lockerDisplay (lock : LockStatus) : String :=
  if truthy lock.activeUserDisplayName && truthy lock.activeUserXID then
    lock.activeUserDisplayName.getD "" ++ " (" ++ lock.activeUserXID.getD "" ++ ")"
  else lock.activeUserEmail.getD "undefined"

/-- The `lockerDisplayName` of `lockCaseEndpoint`. -/
def lockerDisplayName (user : User) : String :=
  if user.name ≠ "" then user.name
  else
    let names := " ".intercalate ([user.firstName, user.lastName].filter (· ≠ ""))
    if names ≠ "" then names else user.email

/-- The lock that `lockCaseEndpoint` writes, through the setters of the schema. -/
def lockOf (now : Date) (user : User) (userEmail : String) : LockStatus where
  isLocked := true
  activeUserEmail := some (trim (lowerCase (lowerCase userEmail)))
  activeUserXID := some (castXID user.xID)
  activeUserDisplayName := some (trim (lockerDisplayName user))
  lockedAt := some now
  lastActivityAt := some now

/-- A request to lock or to unlock a docket. -/
structure LockRequest where
  now : Date
  user : User
  /-- The `userEmail` of the body. -/
  userEmail : Option String
  /-- What the answer calls the docket. -/
  docketRef : String := ""

/-- The `userEmail` of a body that has one. -/
def requiredEmail (userEmail : Option String) : Except Refusal String :=
  if truthy userEmail then .ok (userEmail.getD "")
  else .error { statusCode := 400, message := "User email is required" }

/-- `lockCaseEndpoint`. -/
def lockCaseEndpoint (req : LockRequest) (docket : Docket) : Except Refusal Docket := do
  let userEmail ← requiredEmail req.userEmail
  let caseData ← findCase req.user.role docket
  let lock := caseData.lockStatus
  -- A lock that is inactive is taken over.
  throwIf (lockCaseDenies lowerCase req.now userEmail lock)
    { statusCode := 409
      message := "Docket " ++ req.docketRef ++ " is locked by " ++ lockerDisplay lock
      lock :=
        { lockedBy := lock.activeUserEmail
          lockedByXID := lock.activeUserXID
          lockedByDisplayName := lock.activeUserDisplayName
          lockedAt := lock.lockedAt
          lastActivityAt := lastActivity lock } }
  let locked := { caseData with lockStatus := lockOf lowerCase req.now req.user userEmail }
  locked.save.mapError fun failure =>
    { statusCode := 500, message := "Error locking case", error := some failure.message }

/-- `unlockCaseEndpoint`. -/
def unlockCaseEndpoint (req : LockRequest) (docket : Docket) : Except Refusal Docket := do
  let userEmail ← requiredEmail req.userEmail
  let caseData ← findCase req.user.role docket
  -- An inactive lock is no exception here.
  throwIf (bodyEmailLocked lowerCase userEmail caseData.lockStatus)
    { statusCode := 403, message := "You can only unlock cases that you have locked" }
  let unlocked := { caseData with lockStatus := released }
  unlocked.save.mapError fun failure =>
    { statusCode := 500, message := "Error unlocking case", error := some failure.message }

end endpoints

/-! ## `unassignCase` -/

/-- `unassignCase` answers 409. -/
def unassignCaseDenies (now : Date) (user : User) (lock : LockStatus) : Bool :=
  let lockOwnerXID := normalizeXID lock.activeUserXID
  lock.isLocked && isRecent now lock && lockOwnerXID != "" &&
    lockOwnerXID != normalizeXID (some user.xID)

/-- The status that `unassignCase` gives a docket. -/
def targetUnassignedStatus (docket : Docket) : CaseStatus :=
  if docket.routedToTeamId.isSome ∧ docket.routeOriginatorTeamId.isSome ∧
      docket.routedToTeamId ≠ docket.routeOriginatorTeamId then .ROUTED
  else .UNASSIGNED

/-- The context of the status update that `unassignCase` makes. -/
def unassignContext (now : Date) (session : Bool) (user : User) : StatusUpdate.StatusContext where
  now := now
  session := session
  role := user.role
  statusPatch :=
    { assignedToXID := some none
      assignedTo := some none
      assignedBy := some none
      assignedAt := some none
      queueType := some .GLOBAL
      lifecycle := some .WL }

/-- The exception of reading a `const` before its declaration is evaluated. -/
def uninitialized (name : String) : Failure :=
  plainError ("Cannot access '" ++ name ++ "' before initialization")

/-- What the validation of a CaseAudit entry asks of the entry of `unassignCase`, whose other
required fields are given. -/
def validateAuditEntry (caseId : String) : Except Failure Unit :=
  throwIf (caseId = "") (plainError "CaseAudit validation failed: caseId: Case ID is required")

/-- `unassignCase`, with what its audit entry reads for the type of the action. `session` tells
whether the request has a transaction. -/
def unassignCaseWith (actionType : Except Failure String) (now : Date) (session : Bool)
    (user : User) (docket : Docket) : Except Refusal Docket := do
  let caseData ← findCase user.role docket
  let lock := caseData.lockStatus
  let lockOwnerXID := normalizeXID lock.activeUserXID
  throwIf (unassignCaseDenies now user lock)
    { statusCode := 409
      message := "Docket is locked by " ++
        (if truthy lock.activeUserDisplayName then
          lock.activeUserDisplayName.getD "" ++ " (" ++ lockOwnerXID ++ ")"
        else lockOwnerXID) ++
        ". Ask them to exit or close the docket before moving it."
      code := some "DOCKET_LOCKED_ACTIVE"
      lock :=
        { lockedByXID := some lockOwnerXID
          lockedByDisplayName := lock.activeUserDisplayName
          lastActivityAt := lastActivity lock } }
  let moved : Except Failure Docket := do
    -- The entry is built and validated before the docket is touched.
    let _ ← actionType
    validateAuditEntry caseData.caseId
    StatusUpdate.updateStatus (targetUnassignedStatus caseData) (unassignContext now session user)
      docket
  moved.mapError fun _ => { statusCode := 500, message := "Error moving case to global worklist" }

/-- `unassignCase`. A later line of the same block declares `CASE_ACTION_TYPES` by `const`, so that
the entry reads a name that is not initialized. -/
def unassignCase : Date → Bool → User → Docket → Except Refusal Docket :=
  unassignCaseWith (.error (uninitialized "CASE_ACTION_TYPES"))

/-! ## What the four answers agree on -/

/-- A lock that has been used recently is not inactive. -/
theorem isInactive_of_isRecent {now : Date} {lock : LockStatus} (h : isRecent now lock = true) :
    isInactive now lock = false := by
  unfold isRecent at h
  unfold isInactive
  cases hlast : lastActivity lock with
  | none => rfl
  | some last =>
    simp only [hlast, Option.getD_some, Bool.and_eq_true, decide_eq_true_eq] at h
    simp only [decide_eq_false_iff_not, gt_iff_lt, not_lt]
    exact le_of_lt h.2

/-- An authenticated user has an xID that is not empty when it is normalized. -/
theorem normalizeXID_ne (user : User) : normalizeXID (some user.xID) ≠ "" := by
  intro h
  have hblank : isBlank user.xID = true := by
    rw [← castXID_eq_empty, castXID, trim_toUpperCase]
    exact h
  rw [user.xID_given] at hblank
  cases hblank

/-- `assertNotLockedByAnotherActiveUser` throws on a recent lock that is not the user's by its
xID. -/
theorem lockedByAnotherActiveUser_eq (now : Date) (user : User) (docket : Docket) :
    lockedByAnotherActiveUser now docket { xID := some user.xID } =
      (docket.lockStatus.isLocked && isRecent now docket.lockStatus &&
        normalizeXID docket.lockStatus.activeUserXID != normalizeXID (some user.xID)) := by
  have hlast : docket.lockStatus.lastActivityAt.orElse (fun _ => docket.lockStatus.lockedAt) =
      lastActivity docket.lockStatus := by
    cases h : docket.lockStatus.lastActivityAt <;> simp [lastActivity, h]
  have hne := normalizeXID_ne user
  have hother : (!(normalizeXID (some user.xID) != "" &&
      normalizeXID docket.lockStatus.activeUserXID != "" &&
      normalizeXID (some user.xID) == normalizeXID docket.lockStatus.activeUserXID)) =
        (normalizeXID docket.lockStatus.activeUserXID != normalizeXID (some user.xID)) := by
    by_cases h : normalizeXID docket.lockStatus.activeUserXID = normalizeXID (some user.xID)
    · simp [h, hne]
    · rw [beq_false_of_ne (Ne.symm h), bne_iff_ne.mpr h, Bool.and_false, Bool.not_false]
  simp only [lockedByAnotherActiveUser, hlast]
  simp only [normalizeXID, Option.getD_some] at hother ⊢
  rw [hother, isRecent, Bool.and_right_comm]

section answers

variable (lowerCase : String → String)

/-- The four answers to whether somebody else holds the lock are the same, for a user who sends
`userEmail` in the body. -/
def Agree (now : Date) (user : User) (userEmail : String) (docket : Docket) : Prop :=
  let answer := lockedByAnotherActiveUser now docket { xID := some user.xID }
  checkCaseLockDenies lowerCase now user docket.lockStatus = answer ∧
    lockCaseDenies lowerCase now userEmail docket.lockStatus = answer ∧
    unassignCaseDenies now user docket.lockStatus = answer

/-- The lock is the user's own by everything that it names. -/
structure Own (now : Date) (user : User) (userEmail : String) (lock : LockStatus) : Prop where
  body : lock.activeUserEmail = some (lowerCase userEmail)
  account : truthy lock.activeUserEmail = true →
    lock.activeUserEmail = some (lowerCase user.email)
  xID : isRecent now lock = true →
    normalizeXID lock.activeUserXID = normalizeXID (some user.xID)

/-- The lock is recent, and it is somebody else's by everything that it names. -/
structure Foreign (now : Date) (user : User) (userEmail : String) (lock : LockStatus) : Prop where
  recent : isRecent now lock = true
  email : truthy lock.activeUserEmail = true
  account : lock.activeUserEmail ≠ some (lowerCase user.email)
  body : lock.activeUserEmail ≠ some (lowerCase userEmail)
  xID : normalizeXID lock.activeUserXID ≠ ""
  other : normalizeXID lock.activeUserXID ≠ normalizeXID (some user.xID)

/-- The locks on which the answers agree: one that is open or inactive, the user's own, or somebody
else's. -/
def AgreedOn (now : Date) (user : User) (userEmail : String) (lock : LockStatus) : Prop :=
  lock.isLocked = false ∨ isInactive now lock = true ∨ Own lowerCase now user userEmail lock ∨
    Foreign lowerCase now user userEmail lock

theorem agree_iff_agreedOn (now : Date) (user : User) (userEmail : String) (docket : Docket) :
    Agree lowerCase now user userEmail docket ↔
      AgreedOn lowerCase now user userEmail docket.lockStatus := by
  have hne := normalizeXID_ne user
  have hrecent : isRecent now docket.lockStatus = true → isInactive now docket.lockStatus = false :=
    isInactive_of_isRecent
  unfold Agree AgreedOn checkCaseLockDenies lockCaseDenies unassignCaseDenies emailLocked
    bodyEmailLocked
  rw [lockedByAnotherActiveUser_eq]
  generalize docket.lockStatus = lock at *
  constructor
  · rintro ⟨hemail, hbody, hxID⟩
    by_cases hlocked : lock.isLocked = true
    · by_cases hinactive : isInactive now lock = true
      · exact .inr (.inl hinactive)
      · by_cases hb : lock.activeUserEmail = some (lowerCase userEmail)
        · refine .inr (.inr (.inl ⟨hb, ?_, ?_⟩)) <;> grind
        · refine .inr (.inr (.inr ⟨?_, ?_, ?_, hb, ?_, ?_⟩)) <;> grind
    · exact .inl (by simpa using hlocked)
  · rintro (hopen | hinactive | ⟨hbody, haccount, hxID⟩ |
      ⟨hr, hemail, haccount, hbody, hX, hother⟩)
    · simp [hopen]
    · have hnot : isRecent now lock = false := by grind
      simp [hinactive, hnot]
    · refine ⟨?_, ?_, ?_⟩ <;> grind
    · refine ⟨?_, ?_, ?_⟩ <;> grind

/-! ## Runs of requests -/

/-- Who holds a lock: the user whose xID it names, or, when it names none, whose email. -/
def Holds (user : User) (lock : LockStatus) : Prop :=
  lock.isLocked = true ∧
    (normalizeXID lock.activeUserXID = normalizeXID (some user.xID) ∨
      normalizeXID lock.activeUserXID = "" ∧
        lock.activeUserEmail = some (lowerCase user.email))

/-- A call of one of the two endpoints. -/
inductive LockCall where
  | lock (req : LockRequest)
  | unlock (req : LockRequest)

/-- The request of a call. -/
def LockCall.req : LockCall → LockRequest
  | lock req => req
  | unlock req => req

/-- What a call answers. -/
def LockCall.answer : LockCall → Docket → Except Refusal Docket
  | lock req, docket => lockCaseEndpoint lowerCase req docket
  | unlock req, docket => unlockCaseEndpoint lowerCase req docket

/-- The docket that is stored after a call. -/
def step (call : LockCall) (docket : Docket) : Docket :=
  settle (call.answer lowerCase docket) docket

/-- The docket's lock is active, the holder's, and not that of the user who makes the call. -/
structure Held (holder : User) (call : LockCall) (docket : Docket) : Prop where
  holds : Holds lowerCase holder docket.lockStatus
  active : isRecent call.req.now docket.lockStatus = true
  other : normalizeXID (some call.req.user.xID) ≠ normalizeXID (some holder.xID)

/-- A call of another user leaves the active lock of the holder with the holder. -/
def KeepsLockOf (holder : User) (call : LockCall) (docket : Docket) : Prop :=
  Held lowerCase holder call docket →
    Holds lowerCase holder (step lowerCase call docket).lockStatus

/-- A call carries the email of the lock, and nothing else stops it. -/
structure Carries (call : LockCall) (docket : Docket) : Prop where
  given : truthy call.req.userEmail = true
  email : docket.lockStatus.activeUserEmail =
    some (lowerCase (call.req.userEmail.getD ""))
  role : call.req.user.role ≠ .SUPER_ADMIN
  savable : docket.Savable

/-- The lock that a call writes. -/
def LockCall.written : LockCall → LockStatus
  | lock req => lockOf lowerCase req.now req.user (req.userEmail.getD "")
  | unlock _ => released

/-- The document that a call saves. -/
def LockCall.saved (call : LockCall) (docket : Docket) : Docket :=
  { CaseRepository.decryptCaseDoc docket with lockStatus := call.written lowerCase }

/-- A call on an active lock succeeds exactly when it carries the lock's email. -/
theorem answer_eq_ok {call : LockCall} {docket t : Docket}
    (hlocked : docket.lockStatus.isLocked = true)
    (hrecent : isRecent call.req.now docket.lockStatus = true) :
    call.answer lowerCase docket = .ok t ↔
      Carries lowerCase call docket ∧ t = (call.saved lowerCase docket).saved := by
  have hinactive := isInactive_of_isRecent hrecent
  have hlock : (CaseRepository.decryptCaseDoc docket).lockStatus = docket.lockStatus := rfl
  have hsavable : (call.saved lowerCase docket).Savable ↔ docket.Savable := by
    constructor
    · rintro ⟨howner, hreason, hlisted⟩
      exact ⟨howner, hreason, hlisted⟩
    · rintro ⟨howner, hreason, hlisted⟩
      exact ⟨howner, hreason, hlisted⟩
  cases call with
  | lock req =>
    simp only [LockCall.req] at hinactive
    simp only [LockCall.answer, lockCaseEndpoint, findCase, requiredEmail, bind_eq_ok,
      mapError_eq_ok, CaseRepository.findByCaseId_eq_ok, throwIf_eq_ok, Docket.save_eq_ok]
    constructor
    · rintro ⟨userEmail, hgiven, _, ⟨hrole, rfl⟩, _, hdenies, hsaves, rfl⟩
      split_ifs at hgiven with htruthy
      obtain rfl := Except.ok.inj hgiven
      refine ⟨⟨htruthy, ?_, hrole, hsavable.mp hsaves⟩, rfl⟩
      simpa [LockCall.req, lockCaseDenies, bodyEmailLocked, hlock, hlocked, hinactive] using hdenies
    · rintro ⟨⟨hgiven, hemail, hrole, hsaves⟩, rfl⟩
      simp only [LockCall.req] at hgiven hemail hrole
      refine ⟨_, if_pos hgiven, _, ⟨hrole, rfl⟩, (), ?_, hsavable.mpr hsaves, rfl⟩
      simp [lockCaseDenies, bodyEmailLocked, hlock, hemail]
  | unlock req =>
    simp only [LockCall.answer, unlockCaseEndpoint, findCase, requiredEmail, bind_eq_ok,
      mapError_eq_ok, CaseRepository.findByCaseId_eq_ok, throwIf_eq_ok, Docket.save_eq_ok]
    constructor
    · rintro ⟨userEmail, hgiven, _, ⟨hrole, rfl⟩, _, hdenies, hsaves, rfl⟩
      split_ifs at hgiven with htruthy
      obtain rfl := Except.ok.inj hgiven
      refine ⟨⟨htruthy, ?_, hrole, hsavable.mp hsaves⟩, rfl⟩
      simpa [LockCall.req, bodyEmailLocked, hlock, hlocked] using hdenies
    · rintro ⟨⟨hgiven, hemail, hrole, hsaves⟩, rfl⟩
      simp only [LockCall.req] at hgiven hemail hrole
      refine ⟨_, if_pos hgiven, _, ⟨hrole, rfl⟩, (), ?_, hsavable.mpr hsaves, rfl⟩
      simp [bodyEmailLocked, hlock, hemail]

/-- The lock that a call of another user writes is not the holder's. -/
theorem not_holds_written {holder : User} {call : LockCall}
    (hother : normalizeXID (some call.req.user.xID) ≠ normalizeXID (some holder.xID)) :
    ¬Holds lowerCase holder (call.written lowerCase) := by
  cases call with
  | lock req =>
    have hcast : normalizeXID (some (castXID req.user.xID)) = normalizeXID (some req.user.xID) := by
      simp only [normalizeXID, Option.getD_some, castXID, trim_toUpperCase, trim_trim,
        toUpperCase_toUpperCase]
    simp only [LockCall.req] at hother
    rintro ⟨-, howner | ⟨hnone, -⟩⟩
    · exact hother (hcast.symm.trans howner)
    · exact normalizeXID_ne req.user (hcast.symm.trans hnone)
  | unlock req =>
    rintro ⟨hlocked, -⟩
    cases hlocked

/-- The lock stays with its holder exactly when another user's call does not carry its email. -/
theorem keepsLockOf_iff (holder : User) (call : LockCall) (docket : Docket) :
    KeepsLockOf lowerCase holder call docket ↔
      (Held lowerCase holder call docket → ¬Carries lowerCase call docket) := by
  refine forall_congr' fun hheld => ?_
  have hok := fun t => answer_eq_ok lowerCase (t := t) hheld.holds.1 hheld.active
  by_cases hcarries : Carries lowerCase call docket
  · have hstep : step lowerCase call docket = (call.saved lowerCase docket).saved := by
      unfold step
      rw [(hok _).mpr ⟨hcarries, rfl⟩, settle_ok]
    have hlost := not_holds_written lowerCase hheld.other
    refine iff_of_false ?_ (not_not.mpr hcarries)
    rw [hstep]
    exact hlost
  · have hstep : step lowerCase call docket = docket :=
      settle_of_refused fun t ht => hcarries ((hok t).mp ht).1
    refine iff_of_true ?_ hcarries
    rw [hstep]
    exact hheld.holds

/-- The body of a request that passes the schema of the two routes, `strictEmpty`, has no
`userEmail`. Such requests change no lock. -/
theorem run_of_empty {calls : List LockCall} (h : ∀ call ∈ calls, call.req.userEmail = none)
    (docket : Docket) : run (step lowerCase) calls docket = docket := by
  induction calls with
  | nil => rfl
  | cons call calls ih =>
    have hnone : call.req.userEmail = none := h call List.mem_cons_self
    have hrefused : ∀ t, call.answer lowerCase docket ≠ .ok t := by
      intro t ht
      cases call <;>
        simp_all [LockCall.answer, LockCall.req, lockCaseEndpoint, unlockCaseEndpoint,
          requiredEmail]
    have hstep : step lowerCase call docket = docket := settle_of_refused hrefused
    rw [run, hstep]
    exact ih fun call hcall => h call (List.mem_cons_of_mem _ hcall)

end answers

/-- The user who holds a lock. -/
def holdingUser : User where
  xID := "X000001"
  email := "a@firm.in"
  xID_given := by decide
  email_given := by decide

/-- Another user of the firm. -/
def otherUser : User where
  xID := "X000002"
  email := "b@firm.in"
  xID_given := by decide
  email_given := by decide

/-- A docket that `holdingUser` has locked. -/
def lockedDocket : Docket where
  lockStatus := lockOf toLowerCase 1 holdingUser "a@firm.in"

/-- A docket that was locked by an email only, as `lockCase` of the middleware does. -/
def emailLockedDocket : Docket where
  lockStatus := { isLocked := true, activeUserEmail := some "a@firm.in", lockedAt := some 1 }

/-- The other user's request to lock the docket, with the holder's email in its body. -/
def takingCall : LockCall :=
  .lock { now := 2, user := otherUser, userEmail := some "A@firm.in" }

end Docketra.DocketLock
