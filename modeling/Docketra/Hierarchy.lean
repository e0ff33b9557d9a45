import Docketra.Lib.Checked
import Docketra.Lib.Groups
import Docketra.Lib.ParentChains
import Docketra.Lib.Runs
import Docketra.Lib.Upserts
import Docketra.Text

/-!
# The hierarchy of a firm

A firm has a primary admin, admins, managers and users, each with those above it: the primary admin,
an admin and a manager. `controllers/auth.controller.js` invites, activates and deactivates users,
`controllers/user.controller.js` changes roles and reporting lines, `controllers/admin.controller.js`
changes and shows the hierarchy, `controllers/superadmin.controller.js` disables and deletes admins,
and a hook of `models/User.model.js` checks each user that is saved. The rows of a bulk upload are
written without the hook.

In every run of all of them no chain of managers is circular (`reporting_acyclic`). Without bulk
uploads the firm keeps its one primary admin, to whom everyone else belongs (`primary_admin_kept`),
so that the tree that an admin is shown has every other user once (`tree_complete`), and a user can
be saved, as when it signs in, exactly when those above it still have their roles
(`saves_iff`). A change of a role or of a manager's admin does not look at who is below.

Requests come one after another and name users by `_id`. Look-ups by xID, names, workbaskets, invite
tokens, locks, audit and metrics are left out, and users of other firms are taken to be missing.
-/

namespace Docketra.Hierarchy

open Checked Groups ParentChains Relation Runs Upserts

/-! ## Roles -/

/-- The roles of a firm's users, from below. No request makes one a SUPER_ADMIN. -/
inductive Role where
  | USER | MANAGER | ADMIN | PRIMARY_ADMIN
  deriving DecidableEq, Repr

/-- The place in `ROLE_HIERARCHY`. -/
def Role.rank : Role → ℕ
  | .USER => 0
  | .MANAGER => 1
  | .ADMIN => 2
  | .PRIMARY_ADMIN => 3

def Role.text : Role → String
  | .USER => "USER"
  | .MANAGER => "MANAGER"
  | .ADMIN => "ADMIN"
  | .PRIMARY_ADMIN => "PRIMARY_ADMIN"

/-- `replace(/[\s-]+/g, '_')`, in a run of what is replaced or not. -/
def replaceRuns : Bool → List Char → List Char
  | _, [] => []
  | inRun, c :: cs =>
    if isWhitespace c || c = '-' then (if inRun then [] else ['_']) ++ replaceRuns true cs
    else c :: replaceRuns false cs

def normalizeRole (role : String) : String :=
  let normalized := String.ofList (replaceRuns false (toUpperCase (trim role)).toList)
  if normalized ∈ ["SUPERADMIN", "SUPER_ADMIN"] then "SUPER_ADMIN"
  else if normalized ∈ ["PRIMARY_ADMIN", "PRIMARYADMIN"] then "PRIMARY_ADMIN"
  else if normalized ∈ ["EMPLOYEE", "STAFF", "USER"] then "USER"
  else normalized

/-- The role that a text is the name of. -/
def Role.ofText (text : String) : Option Role :=
  [.USER, .MANAGER, .ADMIN, .PRIMARY_ADMIN].find? fun role => role.text = text

/-- `INVITABLE_ROLE_MAP`. -/
def invitableRoles : Role → List Role
  | .PRIMARY_ADMIN => [.ADMIN, .MANAGER, .USER]
  | .ADMIN => [.MANAGER, .USER]
  | .MANAGER => [.USER]
  | .USER => []

def canInviteRole (inviterRole : Role) (targetRole : String) : Bool :=
  (invitableRoles inviterRole).any fun role => role.text = targetRole

/-! ## Users -/

inductive Status where
  | invited | active | disabled | suspended | deleted
  deriving DecidableEq, Repr

def Status.text : Status → String
  | .invited => "invited"
  | .active => "active"
  | .disabled => "disabled"
  | .suspended => "suspended"
  | .deleted => "deleted"

structure User where
  _id : ℕ
  email : String
  role : Role := .USER
  status : Status := .invited
  isActive : Bool := false
  defaultClientId : Option ℕ := none
  primaryAdminId : Option ℕ := none
  adminId : Option ℕ := none
  managerId : Option ℕ := none
  reportsToUserId : Option ℕ := none
  isPrimaryAdmin : Bool := false
  isSystem : Bool := false
  mustSetPassword : Bool := false
  mustChangePassword : Bool := true
  /-- Whether there is a `passwordSetAt`. -/
  passwordSet : Bool := false
  /-- Whether there is an `inviteSentAt`. -/
  inviteSent : Bool := false
  permissions : List String := []
  /-- Whether there is a `deletedAt`, which hides the user from every find. -/
  deletedAt : Bool := false
  deriving DecidableEq, Repr

/-- A firm, with its plan and its users. There is no limit where `maxUsers` is 0. -/
structure Firm where
  _id : ℕ
  nextId : ℕ
  defaultClientId : Option ℕ := none
  plan : Option String := none
  maxUsers : ℕ := 0
  planMaxUsers : Option ℕ := none
  users : List User
  deriving DecidableEq, Repr

/-- The record of an id. -/
def Firm.user (firm : Firm) (id : ℕ) : Option User := find User._id id firm.users

/-- The user that a find has for an id. -/
def Firm.found (firm : Firm) (id : ℕ) : Option User :=
  (firm.user id).filter fun user => !user.deletedAt

/-- The user that a find has for an id, with `status: { $ne: 'deleted' }`. -/
def Firm.undeleted (firm : Firm) (id : ℕ) : Option User :=
  (firm.found id).filter fun user => user.status ≠ .deleted

/-- The users that a find has, with `status: { $ne: 'deleted' }`. -/
def Firm.undeletedUsers (firm : Firm) : List User :=
  firm.users.filter fun user => !user.deletedAt && user.status ≠ .deleted

/-! ## Saving a user -/

def getTagValidationError (role : Role) (primaryAdminId adminId managerId : Option ℕ) :
    Option String :=
  if role ≠ .PRIMARY_ADMIN ∧ primaryAdminId = none then
    some "primaryAdminId is required for non-primary-admin users"
  else if role = .PRIMARY_ADMIN ∧ (adminId ≠ none ∨ managerId ≠ none) then
    some "PRIMARY_ADMIN cannot have adminId or managerId"
  else if role = .ADMIN ∧ (adminId ≠ none ∨ managerId ≠ none) then
    some "ADMIN cannot have adminId or managerId"
  else if role = .MANAGER ∧ managerId ≠ none then some "MANAGER cannot have managerId"
  else none

/-- The user of a reference, which must be another one and have the role. -/
def reference (firm : Firm) (user : User) (field : String) (role : Role) :
    Option ℕ → Except String (Option User)
  | none => .ok none
  | some id =>
    if id = user._id then .error (field ++ " cannot reference the same user")
    else match firm.undeleted id with
      | none => .error (field ++ " references a missing user")
      | some referenced =>
        if referenced.role ≠ role then
          .error (field ++ " must reference a " ++ role.text ++ " user")
        else .ok (some referenced)

/-- What the hook writes before it checks, of a user that may be stored. -/
def User.synced (user : User) (stored : Option User) : User :=
  let statusModified := stored.map User.status ≠ some user.status
  let status := if statusModified ∧ user.status = .suspended then .disabled else user.status
  let mustSetPasswordModified := stored.map User.mustSetPassword ≠ some user.mustSetPassword
  { user with
    status
    isActive := if statusModified then status = .active else user.isActive
    passwordSet :=
      if user.mustSetPassword = true ∧ mustSetPasswordModified then false else user.passwordSet
    managerId := user.managerId.or user.reportsToUserId
    reportsToUserId := user.reportsToUserId.or user.managerId }

/-- What the hook checks. -/
def validateHierarchy (firm : Firm) (user : User) : Except String Unit := do
  throwIf (user.defaultClientId = none) "DEFAULT_CLIENT_NOT_SET"
  throwIf (user.role ≠ .PRIMARY_ADMIN ∧ user.primaryAdminId = none)
    "Invalid hierarchy: missing primaryAdminId"
  let tagError := getTagValidationError user.role user.primaryAdminId user.adminId user.managerId
  throwIf (tagError ≠ none) (tagError.getD "")
  throwIf (user.primaryAdminId = some user._id ∧ user.role ≠ .PRIMARY_ADMIN)
    "Only PRIMARY_ADMIN may self-reference primaryAdminId"
  let _ ← reference firm user "primaryAdminId" .PRIMARY_ADMIN user.primaryAdminId
  let referencedAdmin ← reference firm user "adminId" .ADMIN user.adminId
  let referencedManager ← reference firm user "managerId" .MANAGER user.managerId
  throwIf (∃ admin ∈ referencedAdmin, admin.primaryAdminId ≠ user.primaryAdminId)
    "adminId must belong to the provided primaryAdminId"
  throwIf (∃ manager ∈ referencedManager, manager.primaryAdminId ≠ user.primaryAdminId)
    "managerId must belong to the provided primaryAdminId"
  throwIf (∃ manager ∈ referencedManager, user.adminId ≠ none ∧ manager.adminId ≠ user.adminId)
    "managerId must belong to the provided adminId"

/-- The unique indexes: an e-mail address and the primary admin, among those that are not deleted. -/
def violatesIndex (firm : Firm) (user : User) : Bool :=
  user.status ≠ .deleted && firm.users.any fun other =>
    other._id ≠ user._id && other.status ≠ .deleted &&
      (other.email = user.email || (other.role = .PRIMARY_ADMIN && user.role = .PRIMARY_ADMIN))

def duplicateKey : String := "E11000 duplicate key error"

/-- The firm with another record of a user. -/
def Firm.withUser (firm : Firm) (user : User) : Firm :=
  { firm with users := change User._id user._id (fun _ => user) firm.users }

/-- The firm with a new user, who has its next id. -/
def Firm.withNewUser (firm : Firm) (user : User) : Firm :=
  { firm with
    nextId := firm.nextId + 1
    users := firm.users ++ [user] }

/-- `user.save()` of a user that is stored. -/
def saveUser (firm : Firm) (user : User) : Except String Firm := do
  let saved := user.synced (firm.user user._id)
  validateHierarchy firm saved
  throwIf (violatesIndex firm saved = true) duplicateKey
  return firm.withUser saved

/-- A new user, as it is saved with an id. -/
def Firm.newUser (firm : Firm) (user : User) : User :=
  ({ user with _id := firm.nextId } : User).synced none

/-- `user.save()` of a new user, whose e-mail address a user of another firm, or one that is
deleted, may have. -/
def insertUser (firm : Firm) (user : User) (emailElsewhere : Bool) : Except String Firm := do
  validateHierarchy firm (firm.newUser user)
  throwIf (emailElsewhere = true ∨ violatesIndex firm (firm.newUser user) = true) duplicateKey
  return firm.withNewUser (firm.newUser user)

/-! ## Who may do what -/

/-- `authenticate`: the user that makes a request. -/
def authenticate (firm : Firm) (id : ℕ) : Except String User :=
  match (firm.found id).filter fun user => user.status = .active with
  | some user => .ok user
  | none => .error "Account is deactivated. Please contact administrator."

def isPrimaryAdminActor (user : User) : Bool :=
  user.isPrimaryAdmin || user.role = .PRIMARY_ADMIN || user.primaryAdminId = some user._id

def requirePrimaryAdmin (user : User) : Except String Unit :=
  throwIf (isPrimaryAdminActor user = false) "Primary admin access required"

def assertPrimaryAdmin (user : User) : Except String Unit :=
  throwIf (user.role ≠ .PRIMARY_ADMIN) "Only PRIMARY_ADMIN can perform this action"

/-- `authorizeFirmPermission('USER_MANAGE')`. -/
def authorizeUserManage (user : User) : Except String Unit :=
  let canonicalRole := if isPrimaryAdminActor user then .PRIMARY_ADMIN else user.role
  let explicit := user.permissions.map fun permission => toUpperCase (trim permission)
  throwIf (canonicalRole ∉ [.PRIMARY_ADMIN, .ADMIN] ∧ "USER_MANAGE" ∉ explicit)
    "Insufficient firm permissions"

def primaryAdminActionError : String := "Primary admin cannot be deactivated"

def assertCanDeactivateUser (firm : Firm) (user : User) : Except String Unit :=
  let isFirmDefaultAdmin :=
    user.role ∈ [.ADMIN, .PRIMARY_ADMIN] ∧ user.defaultClientId = some firm._id
  throwIf (user.isPrimaryAdmin = true ∨ user.isSystem = true ∨ isFirmDefaultAdmin)
    primaryAdminActionError

def assertCanDeleteUser (user : User) : Except String Unit :=
  throwIf (user.isPrimaryAdmin = true ∨ user.isSystem = true) primaryAdminActionError

def planLimitExceeded (limit : ℕ) : String :=
  "Starter plan allows maximum " ++ toString limit ++ " users. Upgrade required."

def assertFirmPlanCapacity (firm : Firm) (role : Role) (incrementBy : ℕ := 1) :
    Except String Unit := do
  let taken := firm.users.filter fun user =>
    !user.deletedAt && user.status ∈ [.active, .invited]
  let isAdmin (role : Role) : Bool := role ∈ [.ADMIN, .PRIMARY_ADMIN]
  throwIf (0 < firm.maxUsers ∧ firm.maxUsers < taken.length + incrementBy)
    (planLimitExceeded firm.maxUsers)
  if toLowerCase ((orElse firm.plan (some "starter")).getD "") = "starter" then
    throwIf (isAdmin role = true ∧ 0 < incrementBy ∧
      1 < taken.countP (fun user => isAdmin user.role) + incrementBy)
      "Starter plan allows only 1 Admin user."
  else
    throwIf (∃ limit ∈ firm.planMaxUsers, limit < taken.length + incrementBy)
      (planLimitExceeded (firm.planMaxUsers.getD 0))

/-! ## Invitations -/

structure Invitation where
  email : String
  role : Option String := none
  /-- The tags, each given or not. -/
  primaryAdminId : Option (Option ℕ) := none
  adminId : Option (Option ℕ) := none
  managerId : Option (Option ℕ) := none
  /-- Whether `resolveFirmScopedTeams` finds the workbaskets. -/
  teamsResolved : Bool := true
  /-- Whether a user of another firm, or one that is deleted, has the address as its
  `primary_email`. -/
  emailElsewhere : Bool := false
  deriving DecidableEq, Repr

structure Tags where
  primaryAdminId : Option ℕ
  adminId : Option ℕ
  managerId : Option ℕ
  deriving DecidableEq, Repr

/-- The tags of the user that is invited, of a role, by an inviter. -/
def Invitation.tags (invitation : Invitation) (inviter firmPrimaryAdmin : User) (role : Role) :
    Tags :=
  let requesterPrimaryAdminId := inviter.primaryAdminId.or (some firmPrimaryAdmin._id)
  let given : Tags :=
    match inviter.role with
    | .PRIMARY_ADMIN =>
      ⟨invitation.primaryAdminId.join.or requesterPrimaryAdminId, invitation.adminId.join,
        invitation.managerId.join⟩
    | .ADMIN => ⟨requesterPrimaryAdminId, some inviter._id, none⟩
    | .MANAGER => ⟨requesterPrimaryAdminId, inviter.adminId, some inviter._id⟩
    | .USER =>
      ⟨requesterPrimaryAdminId, invitation.adminId.join, invitation.managerId.join⟩
  { given with
    adminId := if role = .ADMIN then none else given.adminId
    managerId := if role = .ADMIN ∨ role = .MANAGER then none else given.managerId }

/-- The user that is invited. -/
def Invitation.user (invitation : Invitation) (firm : Firm) (tags : Tags) (role : Role) : User where
  _id := firm.nextId
  email := toLowerCase (trim invitation.email)
  role := role
  defaultClientId := firm.defaultClientId
  primaryAdminId := tags.primaryAdminId
  adminId := tags.adminId
  managerId := tags.managerId
  mustSetPassword := true
  inviteSent := true

/-- `findExistingInviteUser`. -/
def findExistingInviteUser (firm : Firm) (normalizedEmail : String) : Option User :=
  firm.undeletedUsers.find? fun user => user.email = normalizedEmail

def resolveFirmPrimaryAdmin (firm : Firm) : Option User :=
  firm.undeletedUsers.find? fun user => user.role = .PRIMARY_ADMIN

/-- `createUser`, for a user that there is not. -/
def inviteUser (firm : Firm) (inviter : User) (invitation : Invitation) (role : Role) :
    Except String Firm := do
  throwIf (invitation.teamsResolved = false)
    "One or more selected workbaskets are invalid or inactive"
  match resolveFirmPrimaryAdmin firm with
  | none => .error "Firm is missing PRIMARY_ADMIN"
  | some firmPrimaryAdmin => do
    let tags := invitation.tags inviter firmPrimaryAdmin role
    let tagError := getTagValidationError role tags.primaryAdminId tags.adminId tags.managerId
    throwIf (tagError ≠ none) (tagError.getD "")
    assertFirmPlanCapacity firm role
    insertUser firm (invitation.user firm tags role) invitation.emailElsewhere

/-- `createUser` of `controllers/auth.controller.js`. -/
def createUser (firm : Firm) (inviter : User) (invitation : Invitation) : Except String Firm := do
  authorizeUserManage inviter
  let requestedRole := normalizeRole ((orElse invitation.role (some "Employee")).getD "")
  throwIf (requestedRole = "SUPER_ADMIN") "Cannot create Superadmin users"
  throwIf (canInviteRole inviter.role requestedRole = false)
    ("Role " ++ inviter.role.text ++ " cannot invite " ++ requestedRole)
  throwIf ((invitation.primaryAdminId.isSome = true ∨ invitation.adminId.isSome = true ∨
    invitation.managerId.isSome = true) ∧ inviter.role ≠ .PRIMARY_ADMIN)
    "Only PRIMARY_ADMIN can assign hierarchy tags"
  match findExistingInviteUser firm (toLowerCase (trim invitation.email)) with
  | some existingUser => do
    throwIf (existingUser.status ≠ .invited) "User with this email already exists"
    if existingUser.inviteSent then return firm
    else saveUser firm { existingUser with
      mustSetPassword := true
      isActive := false
      inviteSent := true }
  -- A role that may be invited is the name of one.
  | none => inviteUser firm inviter invitation ((Role.ofText requestedRole).getD .USER)

/-- `createFirmAdmin` of `controllers/superadmin.controller.js`. -/
def createFirmAdmin (firm : Firm) (email : String) (emailElsewhere : Bool) :
    Except String Firm := do
  throwIf (firm.defaultClientId = none)
    "Firm does not have a default client. Cannot create admin."
  throwIf (findExistingInviteUser firm (toLowerCase (trim email)) ≠ none)
    "Admin with this email already exists for this firm"
  assertFirmPlanCapacity firm .ADMIN
  let user : User := { _id := firm.nextId, email := toLowerCase (trim email), role := .ADMIN,
                       defaultClientId := firm.defaultClientId, inviteSent := true }
  insertUser firm user emailElsewhere

/-! ## Roles and reporting lines -/

/-- The user that a request is about. -/
def target (firm : Firm) (id : ℕ) : Except String User :=
  match firm.undeleted id with
  | some user => .ok user
  | none => .error "User not found"

/-- What a change of role writes. -/
def User.withRole (user actor : User) (role : Role) : User :=
  let primaryAdminId := (user.primaryAdminId.or actor.primaryAdminId).or (some actor._id)
  match role with
  | .PRIMARY_ADMIN =>
    { user with
      role
      isPrimaryAdmin := true
      primaryAdminId := none
      adminId := none
      managerId := none
      reportsToUserId := none }
  | .ADMIN =>
    { user with
      role
      isPrimaryAdmin := false
      primaryAdminId
      adminId := none
      managerId := none
      reportsToUserId := none }
  | .MANAGER =>
    { user with
      role
      isPrimaryAdmin := false
      primaryAdminId
      managerId := none
      reportsToUserId := none }
  | .USER =>
    { user with
      role
      isPrimaryAdmin := false }

/-- Whether the firm has another primary admin. -/
def existingPrimary (firm : Firm) (id : ℕ) : Bool :=
  firm.undeletedUsers.any fun user => user.role = .PRIMARY_ADMIN && user._id ≠ id

def patchUserRole (firm : Firm) (actor : User) (id : ℕ) (role : String) : Except String Firm := do
  requirePrimaryAdmin actor
  assertPrimaryAdmin actor
  let user ← target firm id
  throwIf (actor._id = user._id) "Cannot modify your own role"
  match Role.ofText (normalizeRole role) with
  | none => .error "Invalid target role"
  | some targetRole => do
    throwIf (targetRole = .PRIMARY_ADMIN ∧ user.role ≠ .PRIMARY_ADMIN ∧
      existingPrimary firm user._id = true) "Firm already has a PRIMARY_ADMIN"
    throwIf (user.role = .PRIMARY_ADMIN ∧ targetRole ≠ .PRIMARY_ADMIN)
      "PRIMARY_ADMIN cannot be demoted in this operation"
    throwIf (actor.role.rank < targetRole.rank) "Role escalation above self is not allowed"
    saveUser firm (user.withRole actor targetRole)

/-- The user that another one reports to. -/
def Firm.reportsTo (firm : Firm) (id : ℕ) : Option ℕ := (firm.found id).bind User.reportsToUserId

/-- The search goes on for as long as there are users. -/
def hasCircularManager (firm : Firm) (userId reportsToUserId : ℕ) : Bool :=
  circular firm.reportsTo (firm.users.length + 1) [userId] (some reportsToUserId)

structure Reporting where
  primaryAdminId : Option ℕ := none
  adminId : Option ℕ := none
  managerId : Option ℕ := none
  reportsToUserId : Option ℕ := none
  deriving DecidableEq, Repr

def patchUserReporting (firm : Firm) (actor : User) (id : ℕ) (request : Reporting) :
    Except String Firm := do
  requirePrimaryAdmin actor
  assertPrimaryAdmin actor
  let user ← target firm id
  let primaryAdminId := request.primaryAdminId.or user.primaryAdminId
  let adminId := request.adminId.or user.adminId
  let managerId := (request.managerId.or request.reportsToUserId).or user.managerId
  let hierarchyError := getTagValidationError user.role primaryAdminId adminId managerId
  throwIf (hierarchyError ≠ none) (hierarchyError.getD "")
  throwIf (∃ manager ∈ managerId, hasCircularManager firm user._id manager = true)
    "Circular reporting chain is not allowed"
  let newManagerId := if user.role ∈ [.PRIMARY_ADMIN, .ADMIN, .MANAGER] then none else managerId
  saveUser firm { user with
    primaryAdminId := if user.role = .PRIMARY_ADMIN then none
      else (primaryAdminId.or actor.primaryAdminId).or (some actor._id)
    adminId := if user.role = .ADMIN then none else adminId
    managerId := newManagerId
    reportsToUserId := newManagerId }

/-- `updateUserHierarchy`, where an id that is not given stays. -/
def updateUserHierarchy (firm : Firm) (actor : User) (id : ℕ)
    (adminId managerId : Option (Option ℕ)) : Except String Firm := do
  requirePrimaryAdmin actor
  authorizeUserManage actor
  assertPrimaryAdmin actor
  let user ← target firm id
  let requestedAdminId := adminId.getD user.adminId
  let requestedManagerId := managerId.getD user.managerId
  let primaryAdminId := if user.role = .PRIMARY_ADMIN then none
    else user.primaryAdminId.or (some actor._id)
  let hierarchyError :=
    getTagValidationError user.role primaryAdminId requestedAdminId requestedManagerId
  throwIf (hierarchyError ≠ none) (hierarchyError.getD "")
  throwIf (∃ admin ∈ requestedAdminId, ∀ found ∈ firm.undeleted admin, found.role ≠ .ADMIN)
    "adminId must reference an ADMIN in the same firm"
  throwIf (∃ manager ∈ requestedManagerId,
    ∀ found ∈ firm.undeleted manager, found.role ≠ .MANAGER)
    "managerId must reference a MANAGER in the same firm"
  throwIf (∃ manager ∈ requestedManagerId, ∃ found ∈ firm.undeleted manager,
    requestedAdminId ≠ none ∧ found.adminId ≠ requestedAdminId)
    "managerId must belong to the selected adminId"
  let newAdminId := if user.role ∈ [.PRIMARY_ADMIN, .ADMIN] then none else requestedAdminId
  let newManagerId := if user.role ∈ [.PRIMARY_ADMIN, .ADMIN, .MANAGER] then none
    else requestedManagerId
  saveUser firm { user with
    adminId := newAdminId
    managerId := newManagerId
    reportsToUserId := newManagerId }

/-! ## Activation -/

/-- The user of an id, whatever its status. -/
def anyUser (firm : Firm) (id : ℕ) : Except String User :=
  match firm.found id with
  | some user => .ok user
  | none => .error "User not found"

def User.withStatus (user : User) (status : Status) : User := { user with status }

def activateUser (firm : Firm) (actor : User) (id : ℕ) (teamsResolved : Bool) :
    Except String Firm := do
  authorizeUserManage actor
  assertPrimaryAdmin actor
  let user ← anyUser firm id
  throwIf (user.mustSetPassword = true ∨ user.passwordSet = false)
    ("This user has not completed password setup. " ++
      "Send a setup link instead of activating the account.")
  let currentlyCounted := user.status ∈ [.active, .invited]
  assertFirmPlanCapacity firm user.role (if currentlyCounted then 0 else 1)
  throwIf (teamsResolved = false) "One or more selected workbaskets are invalid or inactive"
  saveUser firm (user.withStatus .active)

def deactivateUser (firm : Firm) (actor : User) (id : ℕ) : Except String Firm := do
  authorizeUserManage actor
  assertPrimaryAdmin actor
  throwIf (actor._id = id) "You cannot deactivate your own account"
  let user ← anyUser firm id
  assertCanDeactivateUser firm user
  saveUser firm (user.withStatus .disabled)

/-- The status that a request asks for. -/
def resolvedStatus (active : Option Bool) (status : Option String) : Option Status :=
  match active with
  | some true => some .active
  | some false => some .disabled
  | none =>
    if toLowerCase (status.getD "") = "active" then some .active
    else if toLowerCase (status.getD "") = "disabled" then some .disabled
    else none

def updateUserStatus (firm : Firm) (actor : User) (id : ℕ) (active : Option Bool)
    (status : Option String) : Except String Firm := do
  authorizeUserManage actor
  assertPrimaryAdmin actor
  throwIf (active = none ∧ truthy status = false) "Either active (boolean) or status is required"
  match resolvedStatus active status with
  | none => .error "status must be either active or disabled"
  | some newStatus => do
    throwIf (newStatus = .disabled ∧ actor._id = id) "You cannot deactivate your own account"
    let user ← anyUser firm id
    if newStatus = .disabled then assertCanDeactivateUser firm user
    saveUser firm (user.withStatus newStatus)

/-- A user that is deleted is made inactive. -/
def deleteUser (firm : Firm) (actor : User) (id : ℕ) : Except String Firm := do
  requirePrimaryAdmin actor
  authorizeUserManage actor
  let user ← anyUser firm id
  assertCanDeleteUser user
  saveUser firm { user with isActive := false }

/-- `updateUser` of `controllers/user.controller.js`. The setter of a role normalizes it. -/
def updateUser (firm : Firm) (actor : User) (id : ℕ) (role : Option String)
    (isActive : Option Bool) : Except String Firm := do
  authorizeUserManage actor
  let user ← anyUser firm id
  match if truthy role then Role.ofText (normalizeRole (role.getD "")) else some user.role with
  | none => .error "User validation failed: role"
  | some newRole => saveUser firm { user with
      role := newRole
      isActive := isActive.getD user.isActive }

/-- What any other save of a user writes: with a sign-in, a password or a token. -/
structure Upkeep where
  /-- Whether the user becomes active, as with a password that is set. -/
  activates : Bool := false
  isActive : Option Bool := none
  /-- A default client that a sign-in gives the user. -/
  defaultClientId : Option ℕ := none
  mustSetPassword : Bool
  mustChangePassword : Bool
  passwordSet : Bool
  inviteSent : Bool
  deriving DecidableEq, Repr

def keepUp (firm : Firm) (id : ℕ) (upkeep : Upkeep) : Except String Firm := do
  let user ← anyUser firm id
  saveUser firm { user with
    status := if upkeep.activates then .active else user.status
    isActive := upkeep.isActive.getD user.isActive
    defaultClientId := upkeep.defaultClientId.or user.defaultClientId
    mustSetPassword := upkeep.mustSetPassword
    mustChangePassword := upkeep.mustChangePassword
    passwordSet := upkeep.passwordSet
    inviteSent := upkeep.inviteSent }

/-- `setupAccount`, an update that the hook does not check. -/
def setupAccount (firm : Firm) (id : ℕ) (tokenUsable : Bool) : Except String Firm := do
  let user ← anyUser firm id
  throwIf (tokenUsable = false) "Invalid setup token"
  let updated : User := { user with
    status := .active
    isActive := true
    mustSetPassword := false
    mustChangePassword := false
    passwordSet := true }
  throwIf (violatesIndex firm updated = true) duplicateKey
  return firm.withUser updated

/-! ## The superadmin -/

def normalizeAdminLifecycleStatus (status : String) : Option Status :=
  let normalized := toLowerCase (trim status)
  if normalized ∈ ["disabled", "suspended"] then some .disabled
  else if normalized = "active" then some .active
  else none

/-- Whether the role is one of `ADMIN_ROLE_VALUES`. -/
def User.isFirmAdmin (user : User) : Bool := user.role ∈ [.ADMIN, .PRIMARY_ADMIN]

def findFirmAdmin (firm : Firm) : Option User :=
  firm.undeletedUsers.find? fun user => user.isSystem && user.isFirmAdmin

def findFirmAdminById (firm : Firm) (id : ℕ) : Option User :=
  (firm.undeleted id).filter User.isFirmAdmin

def activeAdminsCount (firm : Firm) : ℕ :=
  firm.undeletedUsers.countP fun user => user.isFirmAdmin && user.status = .active

/-- `updateFirmAdminStatus`, of an admin or of the default one. -/
def updateFirmAdminStatus (firm : Firm) (adminId : Option ℕ) (requestedStatus : String) :
    Except String Firm :=
  match normalizeAdminLifecycleStatus requestedStatus with
  | none => .error "Status must be ACTIVE or DISABLED"
  | some status =>
    match adminId.elim (findFirmAdmin firm) (findFirmAdminById firm) with
    | none => .error "Default admin for this firm not found"
    | some admin => do
      let oldStatus := normalizeAdminLifecycleStatus admin.status.text
      throwIf (oldStatus = some status) ("Admin is already " ++ status.text)
      throwIf (admin.status = .invited ∧ status = .disabled)
        "Cannot disable an invited admin before activation"
      throwIf (status = .active ∧ (admin.mustChangePassword = true ∨ admin.mustSetPassword = true))
        "Cannot activate admin before password is set"
      throwIf (status = .disabled ∧ oldStatus = some .active ∧ activeAdminsCount firm ≤ 1)
        "Cannot disable the last active admin for this firm"
      saveUser firm { admin with
        status
        isActive := status = .active }

def deleteFirmAdmin (firm : Firm) (id : ℕ) : Except String Firm :=
  match findFirmAdminById firm id with
  | none => .error "Admin not found"
  | some admin => do
    throwIf (admin.isSystem = true) "System admin cannot be deleted"
    throwIf (admin.status = .active ∧ activeAdminsCount firm ≤ 1)
      "Cannot delete the last active admin for this firm"
    saveUser firm { admin with
      status := .deleted
      isActive := false
      deletedAt := true }

/-- `restoreUser`. A user that is deleted as above has no snapshot of its status. -/
def restoreUser (firm : Firm) (actor : User) (id : ℕ) (nestedIsObject : Bool) :
    Except String Firm := do
  authorizeUserManage actor
  match firm.user id with
  | none => .error "User not found"
  | some user =>
    if user.deletedAt then do
      -- An empty nested path is an object in Mongoose, and the status is taken from it.
      throwIf (nestedIsObject = true) "User validation failed: status: Path `status` is required."
      saveUser firm { user with deletedAt := false }
    else return firm

/-! ## Bulk uploads -/

/-- `normalizeTeamRole`: the roles of the rows of a bulk upload. -/
inductive TeamRole where
  | Admin | Employee
  deriving DecidableEq, Repr

/-- A role of a row, as the setter of the model has it. -/
def TeamRole.role : TeamRole → Role
  | .Admin => .ADMIN
  | .Employee => .USER

/-- A row that inserts a user, which the hook does not check. -/
def bulkInsert (firm : Firm) (email : String) (role : TeamRole) (defaultClientId : Option ℕ) :
    Except String Firm := do
  let user : User := { _id := firm.nextId, email, role := role.role, defaultClientId,
                       mustSetPassword := true }
  throwIf (violatesIndex firm user = true) duplicateKey
  return firm.withNewUser user

/-- A row that updates the user of an e-mail address, hidden or not. -/
def bulkUpdate (firm : Firm) (email : String) (role : TeamRole) : Firm :=
  match firm.users.find? fun user => user.email = email && user.status ≠ .deleted with
  | none => firm
  | some user => firm.withUser { user with role := role.role }

/-! ## The tree -/

/-- Where a user is listed. -/
inductive Place where
  | top
  | admin (id : ℕ)
  | manager (id : ℕ)
  | unassigned
  deriving DecidableEq, Repr

structure ManagerNode where
  user : User
  users : List User
  deriving DecidableEq, Repr

structure AdminNode where
  user : User
  managers : List ManagerNode
  users : List User
  deriving DecidableEq, Repr

/-- What an admin is shown. Managers without an admin are among those that are unassigned. -/
structure Tree where
  primaryAdmin : Option User
  admins : List AdminNode := []
  unassignedUsers : List (ManagerNode ⊕ User) := []
  deriving DecidableEq, Repr

/-- The admin that a manager or a user is listed under. -/
def adminPlace (admins : List User) (node : User) : Place :=
  match node.adminId.filter fun id => admins.any fun admin => admin._id = id with
  | some id => .admin id
  | none => .unassigned

/-- The manager that a user is listed under, or its admin. -/
def userPlace (admins managers : List User) (node : User) : Place :=
  match node.managerId.filter fun id => managers.any fun manager => manager._id = id with
  | some id => .manager id
  | none => adminPlace admins node

/-- The tree of a primary admin and the other users. -/
def treeOf (primaryAdmin : User) (userNodes : List User) : Tree :=
  let admins := group User.role .ADMIN userNodes
  let managers := group User.role .MANAGER userNodes
  let usersOnly := group User.role .USER userNodes
  let usersAt (place : Place) := group (userPlace admins managers) place usersOnly
  let managersAt (place : Place) := (group (adminPlace admins) place managers).map fun manager =>
    (⟨manager, usersAt (.manager manager._id)⟩ : ManagerNode)
  let ofPrimaryAdmin (admin : User) : Bool :=
    admin.primaryAdminId = none || admin.primaryAdminId = some primaryAdmin._id
  { primaryAdmin := some primaryAdmin
    admins := (admins.filter ofPrimaryAdmin).map fun admin =>
      ⟨admin, managersAt (.admin admin._id), usersAt (.admin admin._id)⟩
    unassignedUsers := (managersAt .unassigned).map .inl ++ (usersAt .unassigned).map .inr }

def getHierarchyTree (firm : Firm) (actor : User) : Except String Tree := do
  assertPrimaryAdmin actor
  let users := firm.undeletedUsers
  let own := users.find? fun user => user.role = .PRIMARY_ADMIN && user._id = actor._id
  match own.or (users.find? fun user => user.role = .PRIMARY_ADMIN) with
  | none => return { primaryAdmin := none }
  | some primaryAdmin =>
    return treeOf primaryAdmin (users.filter fun user => user._id ≠ primaryAdmin._id)

/-! ## Runs -/

inductive Request where
  | createUser (actor : ℕ) (invitation : Invitation)
  | patchUserRole (actor id : ℕ) (role : String)
  | patchUserReporting (actor id : ℕ) (request : Reporting)
  | updateUserHierarchy (actor id : ℕ) (adminId managerId : Option (Option ℕ))
  | activateUser (actor id : ℕ) (teamsResolved : Bool)
  | deactivateUser (actor id : ℕ)
  | updateUserStatus (actor id : ℕ) (active : Option Bool) (status : Option String)
  | deleteUser (actor id : ℕ)
  | updateUser (actor id : ℕ) (role : Option String) (isActive : Option Bool)
  | restoreUser (actor id : ℕ) (nestedIsObject : Bool)
  | keepUp (id : ℕ) (upkeep : Upkeep)
  | setupAccount (id : ℕ) (tokenUsable : Bool)
  | createFirmAdmin (email : String) (emailElsewhere : Bool)
  | updateFirmAdminStatus (adminId : Option ℕ) (requestedStatus : String)
  | deleteFirmAdmin (id : ℕ)
  | bulkInsert (email : String) (role : TeamRole) (defaultClientId : Option ℕ)
  | bulkUpdate (email : String) (role : TeamRole)
  deriving DecidableEq, Repr

/-- Whether a request is a row of a bulk upload. -/
def Request.isBulk : Request → Bool
  | .bulkInsert .. | .bulkUpdate .. => true
  | _ => false

/-- The roles that the schemas of the routes let through. -/
def assignableRoles : List String := ["ADMIN", "MANAGER", "USER"]

def handle (firm : Firm) : Request → Except String Firm
  | .createUser actor invitation => do createUser firm (← authenticate firm actor) invitation
  | .patchUserRole actor id role => do
    throwIf (role ∉ assignableRoles) "Validation failed for body.role"
    patchUserRole firm (← authenticate firm actor) id role
  | .patchUserReporting actor id request => do
    patchUserReporting firm (← authenticate firm actor) id request
  | .updateUserHierarchy actor id adminId managerId => do
    updateUserHierarchy firm (← authenticate firm actor) id adminId managerId
  | .activateUser actor id teamsResolved => do
    activateUser firm (← authenticate firm actor) id teamsResolved
  | .deactivateUser actor id => do deactivateUser firm (← authenticate firm actor) id
  | .updateUserStatus actor id active status => do
    updateUserStatus firm (← authenticate firm actor) id active status
  | .deleteUser actor id => do deleteUser firm (← authenticate firm actor) id
  | .updateUser actor id role isActive => do
    throwIf (∃ newRole ∈ role, newRole ∉ assignableRoles) "Validation failed for body.role"
    updateUser firm (← authenticate firm actor) id role isActive
  | .restoreUser actor id nestedIsObject => do
    restoreUser firm (← authenticate firm actor) id nestedIsObject
  | .keepUp id upkeep => keepUp firm id upkeep
  | .setupAccount id tokenUsable => setupAccount firm id tokenUsable
  | .createFirmAdmin email emailElsewhere => createFirmAdmin firm email emailElsewhere
  | .updateFirmAdminStatus adminId requestedStatus =>
    updateFirmAdminStatus firm adminId requestedStatus
  | .deleteFirmAdmin id => deleteFirmAdmin firm id
  | .bulkInsert email role defaultClientId => bulkInsert firm email role defaultClientId
  | .bulkUpdate email role => .ok (bulkUpdate firm email role)

/-- A request that fails leaves the firm as it is. -/
def step (request : Request) (firm : Firm) : Firm := settle (handle firm request) firm

/-- The primary admin that a sign-up creates, with a password or not. -/
def foundingAdmin (id : ℕ) (email : String) (defaultClientId : ℕ) (byPassword : Bool) : User where
  _id := id
  email := email
  role := .PRIMARY_ADMIN
  status := .active
  isActive := true
  defaultClientId := some defaultClientId
  isPrimaryAdmin := true
  isSystem := true
  mustSetPassword := !byPassword
  mustChangePassword := false
  inviteSent := true

/-- A firm after its sign-up, which is like a given one but for its users. -/
def founded (firm : Firm) (email : String) (defaultClientId : ℕ) (byPassword : Bool) : Firm :=
  { firm with
    nextId := firm.nextId + 1
    users := [foundingAdmin firm.nextId email defaultClientId byPassword] }

/-! ## What a save checks -/

section save

variable {firm firm' : Firm} {user : User} {statusModified : Bool}

/-- What the tags of a role have to be. -/
structure Tagged (role : Role) (primaryAdminId adminId managerId : Option ℕ) : Prop where
  primaryAdmin : role ≠ .PRIMARY_ADMIN → primaryAdminId ≠ none
  admin : role = .PRIMARY_ADMIN ∨ role = .ADMIN → adminId = none
  manager : role = .PRIMARY_ADMIN ∨ role = .ADMIN ∨ role = .MANAGER → managerId = none

theorem getTagValidationError_eq_none {role : Role} {primaryAdminId adminId managerId : Option ℕ} :
    getTagValidationError role primaryAdminId adminId managerId = none ↔
      Tagged role primaryAdminId adminId managerId := by
  unfold getTagValidationError
  constructor
  · intro h
    split_ifs at h
    constructor <;> tauto
  · intro h
    obtain ⟨hprimary, hadmin, hmanager⟩ := h
    rw [if_neg (by tauto), if_neg (by tauto), if_neg (by tauto), if_neg (by tauto)]

/-- A reference is to another user of the role. -/
def Refers (firm : Firm) (user : User) (role : Role) (id : Option ℕ) : Prop :=
  ∀ i, id = some i → i ≠ user._id ∧ ∃ found, firm.undeleted i = some found ∧ found.role = role

theorem reference_ok {field : String} {role : Role} {id : Option ℕ} {r : Option User} :
    reference firm user field role id = .ok r ↔
      Refers firm user role id ∧ r = id.bind firm.undeleted := by
  unfold Refers
  cases id with
  | none =>
    show Except.ok none = Except.ok r ↔ _
    rw [Except.ok.injEq]
    exact ⟨fun h => ⟨nofun, h.symm⟩, fun h => h.2.symm⟩
  | some i =>
    unfold reference
    dsimp only
    split_ifs with hself
    · exact ⟨nofun, fun h => absurd hself (h.1 i rfl).1⟩
    · cases hfound : firm.undeleted i with
      | none =>
        refine ⟨nofun, fun h => ?_⟩
        obtain ⟨-, found, hsome, -⟩ := h.1 i rfl
        exact nomatch hfound.symm.trans hsome
      | some found =>
        dsimp only [Option.bind_some]
        rw [hfound]
        split_ifs with hrole
        · refine ⟨nofun, fun h => ?_⟩
          obtain ⟨-, other, hsome, hother⟩ := h.1 i rfl
          rw [Option.some.inj (hfound.symm.trans hsome)] at hrole
          exact absurd hother hrole
        · rw [Except.ok.injEq, eq_comm, and_iff_right]
          intro j hj
          rw [← Option.some.inj hj]
          exact ⟨hself, found, hfound, not_not.mp hrole⟩

/-- What the hook asks of a user. -/
structure Valid (firm : Firm) (user : User) : Prop where
  client : user.defaultClientId ≠ none
  tags : Tagged user.role user.primaryAdminId user.adminId user.managerId
  primaryAdmin : Refers firm user .PRIMARY_ADMIN user.primaryAdminId
  admin : Refers firm user .ADMIN user.adminId
  manager : Refers firm user .MANAGER user.managerId
  admin_primaryAdmin : ∀ admin ∈ user.adminId.bind firm.undeleted,
    admin.primaryAdminId = user.primaryAdminId
  manager_primaryAdmin : ∀ manager ∈ user.managerId.bind firm.undeleted,
    manager.primaryAdminId = user.primaryAdminId
  manager_admin : ∀ manager ∈ user.managerId.bind firm.undeleted,
    user.adminId ≠ none → manager.adminId = user.adminId

theorem validateHierarchy_ok {u : Unit} : validateHierarchy firm user = .ok u ↔ Valid firm user := by
  unfold validateHierarchy
  simp only [bind_eq_ok, throwIf_eq_ok, reference_ok, exists_const, not_and, not_not, not_exists,
    ne_eq, getTagValidationError_eq_none]
  constructor
  · rintro ⟨hclient, -, htags, -, _, ⟨hprimary, rfl⟩, _, ⟨hadmin, rfl⟩, _, ⟨hmanager, rfl⟩, hrest⟩
    exact ⟨hclient, htags, hprimary, hadmin, hmanager, hrest.1, hrest.2.1, hrest.2.2⟩
  · intro h
    exact ⟨h.client, h.tags.primaryAdmin, h.tags,
      fun hself => absurd rfl (h.primaryAdmin _ hself).1, _, ⟨h.primaryAdmin, rfl⟩, _,
      ⟨h.admin, rfl⟩, _, ⟨h.manager, rfl⟩, h.admin_primaryAdmin, h.manager_primaryAdmin,
      h.manager_admin⟩

theorem saveUser_ok : saveUser firm user = .ok firm' ↔
    Valid firm (user.synced (firm.user user._id)) ∧
      violatesIndex firm (user.synced (firm.user user._id)) = false ∧
        firm' = firm.withUser (user.synced (firm.user user._id)) := by
  unfold saveUser
  simp only [bind_eq_ok, validateHierarchy_ok, throwIf_eq_ok, exists_const, Bool.not_eq_true,
    pure_eq, Except.ok.injEq, eq_comm (a := firm')]

theorem insertUser_ok {emailElsewhere : Bool} : insertUser firm user emailElsewhere = .ok firm' ↔
    Valid firm (firm.newUser user) ∧
      (¬emailElsewhere = true ∧ violatesIndex firm (firm.newUser user) = false) ∧
        firm' = firm.withNewUser (firm.newUser user) := by
  unfold insertUser
  simp only [bind_eq_ok, validateHierarchy_ok, throwIf_eq_ok, exists_const, not_or,
    Bool.not_eq_true, pure_eq, Except.ok.injEq, eq_comm (a := firm')]

theorem violatesIndex_eq_false : violatesIndex firm user = false ↔
    (user.status ≠ .deleted → ∀ other ∈ firm.users, other._id ≠ user._id →
      other.status ≠ .deleted → other.email ≠ user.email ∧
        (other.role = .PRIMARY_ADMIN → user.role ≠ .PRIMARY_ADMIN)) := by
  unfold violatesIndex
  simp only [ne_eq, decide_not, Bool.and_eq_false_imp, Bool.not_eq_eq_eq_not, Bool.not_true,
    decide_eq_false_iff_not, List.any_eq_false, Bool.and_eq_true, decide_eq_true_eq,
    Bool.or_eq_true, and_imp, not_or, not_and]

/-! ## Users after a save -/

theorem Firm.user_id {id : ℕ} (h : firm.user id = some user) : user._id = id := (mem_of_find h).2

theorem found_eq_some {id : ℕ} :
    firm.found id = some user ↔ firm.user id = some user ∧ user.deletedAt = false := by
  unfold Firm.found
  rw [Option.filter_eq_some_iff, Bool.not_eq_true']

theorem undeleted_eq_some {id : ℕ} : firm.undeleted id = some user ↔
    firm.user id = some user ∧ user.deletedAt = false ∧ user.status ≠ .deleted := by
  unfold Firm.undeleted
  rw [Option.filter_eq_some_iff, found_eq_some, decide_eq_true_iff, and_assoc]

/-- The ids of a firm's users are different, and the next one is new. -/
structure Numbered (firm : Firm) : Prop where
  nodup : (firm.users.map User._id).Nodup
  fresh : ∀ user ∈ firm.users, user._id < firm.nextId

theorem user_of_mem (h : Numbered firm) (hmem : user ∈ firm.users) :
    firm.user user._id = some user := find_eq_some_of_mem h.nodup hmem rfl

theorem mem_undeletedUsers : user ∈ firm.undeletedUsers ↔
    user ∈ firm.users ∧ user.deletedAt = false ∧ user.status ≠ .deleted := by
  unfold Firm.undeletedUsers
  rw [List.mem_filter, Bool.and_eq_true, Bool.not_eq_true', decide_eq_true_iff]

/-- A firm after one user is written. -/
structure Written (firm firm' : Firm) (user : User) : Prop where
  numbered : Numbered firm'
  user : ∀ id, firm'.user id = if id = user._id then some user else firm.user id

theorem written_withUser {old : User} (h : Numbered firm)
    (hold : firm.user user._id = some old) : Written firm (firm.withUser user) user where
  numbered := by
    have hids : (firm.withUser user).users.map User._id = firm.users.map User._id :=
      map_change (fun _ _ => rfl) firm.users
    refine ⟨hids ▸ h.nodup, fun other hother => ?_⟩
    rcases mem_change hother with hother | ⟨found, hfound, rfl⟩
    · exact h.fresh other hother
    · have hlt := h.fresh found (mem_of_find hfound).1
      rwa [(mem_of_find hfound).2] at hlt
  user := by
    intro id
    unfold Firm.withUser Firm.user
    rw [find_change fun _ _ => rfl]
    split_ifs with hid
    · rw [show find User._id user._id firm.users = some old from hold]
      rfl
    · rfl

theorem written_withNewUser (h : Numbered firm) (hid : user._id = firm.nextId) :
    Written firm (firm.withNewUser user) user where
  numbered := by
    refine ⟨?_, fun other hother => ?_⟩
    · show ((firm.users ++ [user]).map User._id).Nodup
      rw [List.map_append, List.nodup_append]
      refine ⟨h.nodup, List.nodup_singleton _, fun a ha b hb hab => ?_⟩
      obtain ⟨other, hother, rfl⟩ := List.mem_map.mp ha
      have hlt := h.fresh other hother
      rw [hab, List.mem_singleton.mp hb, hid] at hlt
      exact lt_irrefl _ hlt
    · show other._id < firm.nextId + 1
      rcases List.mem_append.mp hother with hother | hother
      · exact Nat.lt_succ_of_lt (h.fresh other hother)
      · rw [List.mem_singleton.mp hother, hid]
        exact Nat.lt_succ_self _
  user := by
    intro id
    unfold Firm.withNewUser Firm.user
    rw [find_append]
    by_cases hnew : id = user._id
    · have hnone : find User._id id firm.users = none := by
        refine find_eq_none.mpr fun other hother heq => ?_
        have hlt := h.fresh other hother
        rw [heq, hnew, hid] at hlt
        exact lt_irrefl _ hlt
      rw [hnone, if_pos hnew.symm, if_pos hnew]
      rfl
    · rw [if_neg (Ne.symm hnew), if_neg hnew, Option.or_none]

end save

/-! ## What a request may do -/

/-- What a request may change of a user that it saves. -/
structure Edit (old user : User) : Prop where
  id : user._id = old._id
  system : user.isSystem = old.isSystem
  hidden : user.deletedAt = true →
    user.isSystem = false ∧ (user.role = .PRIMARY_ADMIN ∨ user.role = .ADMIN)
  status : user.status = .deleted → old.status = .deleted ∨ user.isSystem = false
  reports : old.reportsToUserId = old.managerId → user.reportsToUserId = user.managerId
  role : user.role = .PRIMARY_ADMIN → old.role = .PRIMARY_ADMIN
  primaryAdmin : old.role = .PRIMARY_ADMIN → old.primaryAdminId = none ∧ old.isPrimaryAdmin = true →
    user.primaryAdminId = none ∧ user.isPrimaryAdmin = true

/-- What a request may do to a firm. -/
inductive Effect (firm firm' : Firm) : Prop where
  | none : firm' = firm → Effect firm firm'
  | saved (old : User) {user : User} : firm.user user._id = some old → Edit old user →
      saveUser firm user = .ok firm' → Effect firm firm'
  | inserted {user : User} {emailElsewhere : Bool} : user.role ≠ .PRIMARY_ADMIN →
      user.reportsToUserId = Option.none → user.deletedAt = false →
      insertUser firm user emailElsewhere = .ok firm' → Effect firm firm'
  | setUp (old : User) {user : User} : firm.user user._id = some old → Edit old user →
      user.deletedAt = false →
      (user.role, user.defaultClientId, user.primaryAdminId, user.adminId, user.managerId,
        user.reportsToUserId) =
        (old.role, old.defaultClientId, old.primaryAdminId, old.adminId, old.managerId,
          old.reportsToUserId) →
      violatesIndex firm user = false → firm' = firm.withUser user → Effect firm firm'

section effects

variable {firm firm' : Firm} {actor : User} {id : ℕ}

theorem error_ne_ok {α : Type} {e : String} {a : α} : (.error e : Except String α) ≠ .ok a := by
  rintro ⟨⟩

theorem anyUser_ok {user : User} (h : anyUser firm id = .ok user) :
    firm.user user._id = some user ∧ user.deletedAt = false := by
  unfold anyUser at h
  cases hfound : firm.found id with
  | none =>
    rw [hfound] at h
    exact absurd h error_ne_ok
  | some found =>
    rw [hfound, Except.ok.injEq] at h
    obtain ⟨huser, hvisible⟩ := found_eq_some.mp hfound
    rw [← h, Firm.user_id huser]
    exact ⟨huser, hvisible⟩

theorem target_ok {user : User} (h : target firm id = .ok user) :
    firm.user user._id = some user ∧ user.deletedAt = false := by
  unfold target at h
  cases hfound : firm.undeleted id with
  | none =>
    rw [hfound] at h
    exact absurd h error_ne_ok
  | some found =>
    rw [hfound, Except.ok.injEq] at h
    obtain ⟨huser, hvisible, -⟩ := undeleted_eq_some.mp hfound
    rw [← h, Firm.user_id huser]
    exact ⟨huser, hvisible⟩

/-- The fields that the hierarchy consists of. -/
def User.place (user : User) : ℕ × Role × Option ℕ × Option ℕ × Option ℕ × Bool × Bool :=
  (user._id, user.role, user.primaryAdminId, user.managerId, user.reportsToUserId,
    user.isPrimaryAdmin, user.isSystem)

/-- A save that leaves a visible user where it is. -/
theorem Edit.ofPlace {old user : User} (h : user.place = old.place)
    (hvisible : user.deletedAt = false)
    (hstatus : user.status = .deleted → old.status = .deleted ∨ user.isSystem = false) :
    Edit old user := by
  simp only [User.place, Prod.mk.injEq] at h
  obtain ⟨hid, hrole, hprimary, hmanager, hreports, hflag, hsystem⟩ := h
  refine ⟨hid, hsystem, fun h => absurd (hvisible.symm.trans h) Bool.false_ne_true, hstatus,
    fun h => ?_, fun h => ?_, fun _ h => ?_⟩
  · rw [hreports, hmanager, h]
  · rw [← hrole, h]
  · rw [hprimary, hflag]
    exact h

/-- A save that makes a visible user active or disabled. -/
theorem effect_withStatus {user : User} {status : Status} (hstatus : status ≠ .deleted)
    (huser : firm.user user._id = some user ∧ user.deletedAt = false)
    (h : saveUser firm (user.withStatus status) = .ok firm') : Effect firm firm' := by
  have hold : firm.user (user.withStatus status)._id = some user := huser.1
  exact .saved user hold (Edit.ofPlace rfl huser.2 fun heq => absurd heq hstatus) h

theorem activateUser_effect {teamsResolved : Bool}
    (h : activateUser firm actor id teamsResolved = .ok firm') : Effect firm firm' := by
  simp only [activateUser, bind_eq_ok] at h
  obtain ⟨-, -, -, -, user, huser, -, -, -, -, -, -, h⟩ := h
  exact effect_withStatus Status.noConfusion (anyUser_ok huser) h

theorem deactivateUser_effect (h : deactivateUser firm actor id = .ok firm') :
    Effect firm firm' := by
  simp only [deactivateUser, bind_eq_ok] at h
  obtain ⟨-, -, -, -, -, -, user, huser, -, -, h⟩ := h
  exact effect_withStatus Status.noConfusion (anyUser_ok huser) h

theorem resolvedStatus_ne {active : Option Bool} {status : Option String} {newStatus : Status}
    (h : resolvedStatus active status = some newStatus) : newStatus ≠ .deleted := by
  unfold resolvedStatus at h
  split at h
  · exact Option.some.inj h ▸ nofun
  · exact Option.some.inj h ▸ nofun
  · split_ifs at h
    · exact Option.some.inj h ▸ nofun
    · exact Option.some.inj h ▸ nofun

theorem updateUserStatus_effect {active : Option Bool} {status : Option String}
    (h : updateUserStatus firm actor id active status = .ok firm') : Effect firm firm' := by
  simp only [updateUserStatus, bind_eq_ok] at h
  obtain ⟨-, -, -, -, -, -, h⟩ := h
  cases hstatus : resolvedStatus active status with
  | none =>
    rw [hstatus] at h
    exact absurd h error_ne_ok
  | some newStatus =>
    simp only [hstatus, bind_eq_ok] at h
    obtain ⟨-, -, user, huser, h⟩ := h
    have hne := resolvedStatus_ne hstatus
    split_ifs at h
    · simp only [bind_eq_ok] at h
      obtain ⟨-, -, h⟩ := h
      exact effect_withStatus hne (anyUser_ok huser) h
    · exact effect_withStatus hne (anyUser_ok huser) h

/-- A save that leaves a visible user where it is, with its status. -/
theorem effect_same {old user : User} (hold : firm.user old._id = some old ∧ old.deletedAt = false)
    (hplace : user.place = old.place) (hdeleted : user.deletedAt = old.deletedAt)
    (hstatus : user.status = old.status ∨ user.status = .active)
    (h : saveUser firm user = .ok firm') : Effect firm firm' := by
  have hid : user._id = old._id := (Prod.mk.inj hplace).1
  refine .saved old (hid ▸ hold.1) (Edit.ofPlace hplace (hdeleted.trans hold.2) fun heq => .inl ?_) h
  rcases hstatus with hstatus | hstatus
  · exact hstatus.symm.trans heq
  · exact nomatch hstatus.symm.trans heq

theorem deleteUser_effect (h : deleteUser firm actor id = .ok firm') : Effect firm firm' := by
  simp only [deleteUser, bind_eq_ok] at h
  obtain ⟨-, -, -, -, user, huser, -, -, h⟩ := h
  refine effect_same (anyUser_ok huser) ?_ ?_ ?_ h
  · rfl
  · rfl
  · exact .inl rfl

theorem keepUp_effect {upkeep : Upkeep} (h : keepUp firm id upkeep = .ok firm') :
    Effect firm firm' := by
  simp only [keepUp, bind_eq_ok] at h
  obtain ⟨user, huser, h⟩ := h
  refine effect_same (anyUser_ok huser) ?_ ?_ ?_ h
  · rfl
  · rfl
  · cases upkeep.activates
    · exact .inl rfl
    · exact .inr rfl

theorem setupAccount_effect {tokenUsable : Bool}
    (h : setupAccount firm id tokenUsable = .ok firm') : Effect firm firm' := by
  simp only [setupAccount, bind_eq_ok, throwIf_eq_ok, pure_eq, Except.ok.injEq] at h
  obtain ⟨user, huser, -, -, -, hindex, rfl⟩ := h
  obtain ⟨hold, hvisible⟩ := anyUser_ok huser
  refine .setUp user ?_ ?_ ?_ ?_ (Bool.eq_false_iff.mpr hindex) rfl
  · exact hold
  · exact Edit.ofPlace rfl hvisible Status.noConfusion
  · exact hvisible
  · rfl

/-- A role that is assigned is not that of the primary admin. -/
theorem ofText_normalizeRole {role : String} (h : role ∈ assignableRoles) :
    Role.ofText (normalizeRole role) ≠ some .PRIMARY_ADMIN := by
  simp only [assignableRoles, List.mem_cons, List.not_mem_nil, or_false] at h
  rcases h with rfl | rfl | rfl <;> decide

theorem updateUser_effect {role : Option String} {isActive : Option Bool}
    (hrole : ∀ newRole ∈ role, newRole ∈ assignableRoles)
    (h : updateUser firm actor id role isActive = .ok firm') : Effect firm firm' := by
  simp only [updateUser, bind_eq_ok] at h
  obtain ⟨-, -, user, huser, h⟩ := h
  obtain ⟨hold, hvisible⟩ := anyUser_ok huser
  split at h
  · exact absurd h error_ne_ok
  · next newRole hnew =>
    have hprimary : newRole = .PRIMARY_ADMIN → user.role = .PRIMARY_ADMIN := by
      rintro rfl
      split_ifs at hnew with hgiven
      · cases role with
        | none => exact absurd hgiven Bool.false_ne_true
        | some text => exact absurd hnew (ofText_normalizeRole (hrole text rfl))
      · exact Option.some.inj hnew
    refine .saved user ?_ ?_ h
    · exact hold
    · refine ⟨rfl, rfl, fun heq => ?_, .inl, fun heq => heq, hprimary, fun _ heq => heq⟩
      exact absurd (hvisible.symm.trans heq) Bool.false_ne_true

theorem patchUserRole_effect {role : String} (hrole : role ∈ assignableRoles)
    (h : patchUserRole firm actor id role = .ok firm') : Effect firm firm' := by
  simp only [patchUserRole, bind_eq_ok] at h
  obtain ⟨-, -, -, -, user, huser, -, -, h⟩ := h
  obtain ⟨hold, hvisible⟩ := target_ok huser
  split at h
  · exact absurd h error_ne_ok
  · next targetRole htarget =>
    simp only [bind_eq_ok, throwIf_eq_ok] at h
    obtain ⟨-, -, -, hdemoted, -, -, h⟩ := h
    have htargetRole : targetRole ≠ .PRIMARY_ADMIN := by
      rintro rfl
      exact ofText_normalizeRole hrole htarget
    have huserRole : user.role ≠ .PRIMARY_ADMIN := fun heq => hdemoted ⟨heq, htargetRole⟩
    have hid : (user.withRole actor targetRole)._id = user._id := by
      cases targetRole <;> rfl
    refine .saved user (hid ▸ hold) ⟨hid, ?_, fun heq => ?_, fun heq => ?_, fun heq => ?_,
      fun heq => ?_, fun heq => absurd heq huserRole⟩ h
    · cases targetRole <;> rfl
    · have hsame : (user.withRole actor targetRole).deletedAt = user.deletedAt := by
        cases targetRole <;> rfl
      exact absurd (hvisible.symm.trans (hsame.symm.trans heq)) Bool.false_ne_true
    · have hsame : (user.withRole actor targetRole).status = user.status := by
        cases targetRole <;> rfl
      exact .inl (hsame.symm.trans heq)
    · cases targetRole with
      | USER => exact heq
      | _ => rfl
    · have hrole : (user.withRole actor targetRole).role = targetRole := by
        cases targetRole <;> rfl
      exact absurd (hrole.symm.trans heq) htargetRole

theorem patchUserReporting_effect {request : Reporting}
    (h : patchUserReporting firm actor id request = .ok firm') : Effect firm firm' := by
  simp only [patchUserReporting, bind_eq_ok] at h
  obtain ⟨-, -, -, -, user, huser, -, -, -, -, h⟩ := h
  obtain ⟨hold, hvisible⟩ := target_ok huser
  refine .saved user ?_ ?_ h
  · exact hold
  · refine ⟨rfl, rfl, fun heq => ?_, .inl, fun _ => rfl, fun heq => heq,
      fun hrole hflag => ⟨if_pos hrole, hflag.2⟩⟩
    exact absurd (hvisible.symm.trans heq) Bool.false_ne_true

theorem updateUserHierarchy_effect {adminId managerId : Option (Option ℕ)}
    (h : updateUserHierarchy firm actor id adminId managerId = .ok firm') :
    Effect firm firm' := by
  simp only [updateUserHierarchy, bind_eq_ok] at h
  obtain ⟨-, -, -, -, -, -, user, huser, -, -, -, -, -, -, -, -, h⟩ := h
  obtain ⟨hold, hvisible⟩ := target_ok huser
  refine .saved user ?_ ?_ h
  · exact hold
  · refine ⟨rfl, rfl, fun heq => ?_, .inl, fun _ => rfl, fun heq => heq, fun _ heq => heq⟩
    exact absurd (hvisible.symm.trans heq) Bool.false_ne_true

/-- A role that may be invited is not that of the primary admin. -/
theorem ofText_of_canInviteRole {inviterRole : Role} {text : String}
    (h : canInviteRole inviterRole text = true) :
    (Role.ofText text).getD .USER ≠ .PRIMARY_ADMIN := by
  obtain ⟨role, hmem, htext⟩ := List.any_eq_true.mp h
  have hrole : role ≠ .PRIMARY_ADMIN := by
    rintro rfl
    cases inviterRole <;> simp [invitableRoles] at hmem
  rw [← of_decide_eq_true htext]
  cases role with
  | PRIMARY_ADMIN => exact absurd rfl hrole
  | _ => decide

theorem inviteUser_effect {invitation : Invitation} {role : Role} (hrole : role ≠ .PRIMARY_ADMIN)
    (h : inviteUser firm actor invitation role = .ok firm') : Effect firm firm' := by
  simp only [inviteUser, bind_eq_ok] at h
  obtain ⟨-, -, h⟩ := h
  split at h
  · exact absurd h error_ne_ok
  · simp only [bind_eq_ok] at h
    obtain ⟨-, -, -, -, h⟩ := h
    refine .inserted ?_ ?_ ?_ h
    · exact hrole
    · rfl
    · rfl

theorem createUser_effect (hnum : Numbered firm) {invitation : Invitation}
    (h : createUser firm actor invitation = .ok firm') : Effect firm firm' := by
  simp only [createUser, bind_eq_ok, throwIf_eq_ok] at h
  obtain ⟨-, -, -, -, -, hinvitable, -, -, h⟩ := h
  split at h
  · next existingUser hexisting =>
    obtain ⟨hmem, hvisible, -⟩ := mem_undeletedUsers.mp (List.mem_of_find?_eq_some hexisting)
    simp only [bind_eq_ok] at h
    obtain ⟨-, -, h⟩ := h
    split_ifs at h
    · exact .none (Except.ok.inj h).symm
    · refine effect_same ⟨user_of_mem hnum hmem, hvisible⟩ ?_ ?_ ?_ h
      · rfl
      · rfl
      · exact .inl rfl
  · exact inviteUser_effect (ofText_of_canInviteRole (by simpa using hinvitable)) h

theorem createFirmAdmin_effect {email : String} {emailElsewhere : Bool}
    (h : createFirmAdmin firm email emailElsewhere = .ok firm') : Effect firm firm' := by
  simp only [createFirmAdmin, bind_eq_ok] at h
  obtain ⟨-, -, -, -, -, -, h⟩ := h
  refine .inserted ?_ ?_ ?_ h
  · exact Role.noConfusion
  · rfl
  · rfl

theorem normalizeAdminLifecycleStatus_ne {text : String} {status : Status}
    (h : normalizeAdminLifecycleStatus text = some status) : status ≠ .deleted := by
  unfold normalizeAdminLifecycleStatus at h
  dsimp only at h
  split_ifs at h
  · exact Option.some.inj h ▸ Status.noConfusion
  · exact Option.some.inj h ▸ Status.noConfusion

/-- An admin that the superadmin finds. -/
theorem firmAdmin_stored (hnum : Numbered firm) (adminId : Option ℕ) {admin : User}
    (h : adminId.elim (findFirmAdmin firm) (findFirmAdminById firm) = some admin) :
    firm.user admin._id = some admin ∧ admin.deletedAt = false := by
  cases adminId with
  | none =>
    obtain ⟨hmem, hvisible, -⟩ := mem_undeletedUsers.mp (List.mem_of_find?_eq_some h)
    exact ⟨user_of_mem hnum hmem, hvisible⟩
  | some id =>
    obtain ⟨huser, hvisible, -⟩ := undeleted_eq_some.mp (Option.filter_eq_some_iff.mp h).1
    exact ⟨user_of_mem hnum (mem_of_find huser).1, hvisible⟩

theorem updateFirmAdminStatus_effect (hnum : Numbered firm) {adminId : Option ℕ}
    {requestedStatus : String}
    (h : updateFirmAdminStatus firm adminId requestedStatus = .ok firm') : Effect firm firm' := by
  unfold updateFirmAdminStatus at h
  split at h
  · exact absurd h error_ne_ok
  · next status hstatus =>
    split at h
    · exact absurd h error_ne_ok
    · next admin hadmin =>
      obtain ⟨hold, hvisible⟩ := firmAdmin_stored hnum adminId hadmin
      simp only [bind_eq_ok] at h
      obtain ⟨-, -, -, -, -, -, -, -, h⟩ := h
      have hne := normalizeAdminLifecycleStatus_ne hstatus
      refine .saved admin ?_ ?_ h
      · exact hold
      · exact Edit.ofPlace rfl hvisible fun heq => absurd heq hne

theorem deleteFirmAdmin_effect (hnum : Numbered firm)
    (h : deleteFirmAdmin firm id = .ok firm') : Effect firm firm' := by
  unfold deleteFirmAdmin at h
  split at h
  · exact absurd h error_ne_ok
  · next admin hadmin =>
    obtain ⟨hold, -⟩ := firmAdmin_stored hnum (some id) hadmin
    have hrole : admin.role = .ADMIN ∨ admin.role = .PRIMARY_ADMIN := by
      have hfirmAdmin := of_decide_eq_true (Option.filter_eq_some_iff.mp hadmin).2
      simpa using hfirmAdmin
    simp only [bind_eq_ok, throwIf_eq_ok] at h
    obtain ⟨-, hsystem, -, -, h⟩ := h
    have hsystem := Bool.eq_false_iff.mpr hsystem
    refine .saved admin ?_ ?_ h
    · exact hold
    · exact ⟨rfl, rfl, fun _ => ⟨hsystem, hrole.symm⟩, fun _ => .inr hsystem, fun heq => heq,
        fun heq => heq, fun _ heq => heq⟩

theorem restoreUser_effect {nestedIsObject : Bool}
    (h : restoreUser firm actor id nestedIsObject = .ok firm') : Effect firm firm' := by
  simp only [restoreUser, bind_eq_ok] at h
  obtain ⟨-, -, h⟩ := h
  split at h
  · exact absurd h error_ne_ok
  · next user huser =>
    split_ifs at h
    · simp only [bind_eq_ok] at h
      obtain ⟨-, -, h⟩ := h
      refine .saved user ?_ ?_ h
      · exact (Firm.user_id huser).symm ▸ huser
      · exact Edit.ofPlace rfl rfl .inl
    · exact .none (Except.ok.inj h).symm

/-- What a request that is not a row of a bulk upload may do. -/
theorem handle_effect (hnum : Numbered firm) {request : Request} (hbulk : request.isBulk = false)
    (h : handle firm request = .ok firm') : Effect firm firm' := by
  cases request with
  | createUser actor invitation =>
    obtain ⟨_, -, h⟩ := bind_eq_ok.mp h
    exact createUser_effect hnum h
  | patchUserRole actor id role =>
    simp only [handle, bind_eq_ok, throwIf_eq_ok, not_not] at h
    obtain ⟨-, hrole, _, -, h⟩ := h
    exact patchUserRole_effect hrole h
  | patchUserReporting actor id request =>
    obtain ⟨_, -, h⟩ := bind_eq_ok.mp h
    exact patchUserReporting_effect h
  | updateUserHierarchy actor id adminId managerId =>
    obtain ⟨_, -, h⟩ := bind_eq_ok.mp h
    exact updateUserHierarchy_effect h
  | activateUser actor id teamsResolved =>
    obtain ⟨_, -, h⟩ := bind_eq_ok.mp h
    exact activateUser_effect h
  | deactivateUser actor id =>
    obtain ⟨_, -, h⟩ := bind_eq_ok.mp h
    exact deactivateUser_effect h
  | updateUserStatus actor id active status =>
    obtain ⟨_, -, h⟩ := bind_eq_ok.mp h
    exact updateUserStatus_effect h
  | deleteUser actor id =>
    obtain ⟨_, -, h⟩ := bind_eq_ok.mp h
    exact deleteUser_effect h
  | updateUser actor id role isActive =>
    simp only [handle, bind_eq_ok, throwIf_eq_ok, not_exists, not_and, not_not] at h
    obtain ⟨-, hrole, _, -, h⟩ := h
    exact updateUser_effect hrole h
  | restoreUser actor id nestedIsObject =>
    obtain ⟨_, -, h⟩ := bind_eq_ok.mp h
    exact restoreUser_effect h
  | keepUp id upkeep => exact keepUp_effect h
  | setupAccount id tokenUsable => exact setupAccount_effect h
  | createFirmAdmin email emailElsewhere => exact createFirmAdmin_effect h
  | updateFirmAdminStatus adminId requestedStatus =>
    simp only [handle] at h
    exact updateFirmAdminStatus_effect hnum h
  | deleteFirmAdmin id =>
    simp only [handle] at h
    exact deleteFirmAdmin_effect hnum h
  | bulkInsert email role defaultClientId => exact absurd hbulk.symm Bool.false_ne_true
  | bulkUpdate email role => exact absurd hbulk.symm Bool.false_ne_true

end effects

/-! ## Chains of managers -/

section chains

variable {firm firm' : Firm} {user : User}

def Firm.managerOf (firm : Firm) (id : ℕ) : Option ℕ := (firm.user id).bind User.managerId

/-- What keeps chains of managers from being circular: managers have none. -/
structure Reported (firm : Firm) : Prop where
  numbered : Numbered firm
  reports : ∀ id user, firm.user id = some user → user.reportsToUserId = user.managerId
  manager : ∀ id user, firm.user id = some user → user.role = .MANAGER → user.managerId = none
  hidden : ∀ id user, firm.user id = some user → user.deletedAt = true → user.managerId = none
  acyclic : Acyclic firm.managerOf

theorem Written.managerOf (h : Written firm firm' user) (id : ℕ) :
    firm'.managerOf id = if id = user._id then user.managerId else firm.managerOf id := by
  unfold Firm.managerOf
  rw [h.user]
  split_ifs <;> rfl

/-- Chains stay as they should be when a user is written with the manager it has, or with another
one who has none. -/
theorem Reported.write (h : Reported firm) (hwritten : Written firm firm' user)
    (hreports : user.reportsToUserId = user.managerId)
    (hmanager : user.role = .MANAGER → user.managerId = none)
    (hhidden : user.deletedAt = true → user.managerId = none)
    (hchain : ∀ m, user.managerId = some m →
      firm.managerOf user._id = some m ∨ m ≠ user._id ∧ firm.managerOf m = none) :
    Reported firm' := by
  have hsplit : ∀ id other, firm'.user id = some other →
      other = user ∨ firm.user id = some other := by
    intro id other hother
    rw [hwritten.user] at hother
    split_ifs at hother
    · exact .inl (Option.some.inj hother).symm
    · exact .inr hother
  refine ⟨hwritten.numbered, fun id other hother => ?_, fun id other hother => ?_,
    fun id other hother => ?_, ?_⟩
  · rcases hsplit id other hother with rfl | hold
    · exact hreports
    · exact h.reports id other hold
  · rcases hsplit id other hother with rfl | hold
    · exact hmanager
    · exact h.manager id other hold
  · rcases hsplit id other hother with rfl | hold
    · exact hhidden
    · exact h.hidden id other hold
  · have hedge : ∀ a b, firm'.managerOf a = some b →
        firm.managerOf a = some b ∨ a = user._id ∧ user.managerId = some b := by
      intro a b hab
      rw [hwritten.managerOf] at hab
      split_ifs at hab with ha
      · exact .inr ⟨ha, hab⟩
      · exact .inl hab
    cases hm : user.managerId with
    | none =>
      refine h.acyclic.mono fun a b hab => ?_
      obtain hold | ⟨-, hnew⟩ := hedge a b hab
      · exact hold
      · exact nomatch hm.symm.trans hnew
    | some m =>
      obtain hsame | ⟨hne, hroot⟩ := hchain m hm
      · refine h.acyclic.mono fun a b hab => ?_
        obtain hold | ⟨rfl, hnew⟩ := hedge a b hab
        · exact hold
        · exact hsame.trans (hm.symm.trans hnew)
      · have hroot' : firm'.managerOf m = none := by
          rw [hwritten.managerOf, if_neg hne]
          exact hroot
        refine h.acyclic.add (x := user._id) hroot' fun a b hab => ?_
        obtain hold | ⟨rfl, hnew⟩ := hedge a b hab
        · exact .inl hold
        · exact .inr ⟨rfl, Option.some.inj (hnew.symm.trans hm)⟩

/-- A user that the hook lets through has a manager who has none. -/
theorem Reported.write_valid (h : Reported firm) (hwritten : Written firm firm' user)
    (hvalid : Valid firm user) (hreports : user.reportsToUserId = user.managerId)
    (hhidden : user.deletedAt = true → user.managerId = none) : Reported firm' := by
  refine h.write hwritten hreports (fun hrole => hvalid.tags.manager (.inr (.inr hrole))) hhidden
    fun m hm => .inr ?_
  obtain ⟨hne, found, hfound, hrole⟩ := hvalid.manager m hm
  have hmanager := (undeleted_eq_some.mp hfound).1
  refine ⟨hne, ?_⟩
  unfold Firm.managerOf
  rw [hmanager]
  exact h.manager m found hmanager hrole

/-- What the hook writes leaves a manager that is also reported to. -/
theorem synced_managerId {stored : Option User} (h : user.reportsToUserId = user.managerId) :
    (user.synced stored).managerId = user.managerId ∧
      (user.synced stored).reportsToUserId = user.managerId := by
  unfold User.synced
  dsimp only
  rw [h, Option.or_self]
  exact ⟨rfl, rfl⟩

theorem reported_effect (h : Reported firm) (heffect : Effect firm firm') : Reported firm' := by
  cases heffect with
  | none heq => exact heq ▸ h
  | saved old hold hedit hsave =>
    obtain ⟨hvalid, -, rfl⟩ := saveUser_ok.mp hsave
    obtain ⟨hmanager, hreports⟩ := synced_managerId (hedit.reports (h.reports _ _ hold))
    refine h.write_valid (written_withUser h.numbered hold) hvalid (hreports.trans hmanager.symm)
      fun hhidden => hvalid.tags.manager ?_
    obtain hrole | hrole := (hedit.hidden hhidden).2
    · exact .inl hrole
    · exact .inr (.inl hrole)
  | inserted _ hnone hvisible hinsert =>
    obtain ⟨hvalid, -, rfl⟩ := insertUser_ok.mp hinsert
    refine h.write_valid (written_withNewUser h.numbered rfl) hvalid ?_ fun hhidden => ?_
    · unfold Firm.newUser User.synced
      dsimp only
      rw [hnone, Option.or_none, Option.none_or]
    · exact absurd (hvisible.symm.trans hhidden) Bool.false_ne_true
  | setUp old hold hedit hvisible hsame _ heq =>
    obtain ⟨hrole, -, -, -, hmanager, hreports⟩ := by simpa only [Prod.mk.injEq] using hsame
    rw [heq]
    refine h.write (written_withUser h.numbered hold) ?_ (fun hmanagerRole => ?_) (fun hhidden => ?_)
      fun m hm => .inl ?_
    · rw [hreports, hmanager, h.reports _ _ hold]
    · rw [hmanager]
      exact h.manager _ _ hold (hrole ▸ hmanagerRole)
    · exact absurd (hvisible.symm.trans hhidden) Bool.false_ne_true
    · unfold Firm.managerOf
      rw [hold]
      exact hmanager.symm.trans hm

/-- The rows of a bulk upload make nobody a manager. -/
theorem reported_bulk (h : Reported firm) {request : Request} (hbulk : request.isBulk = true)
    (hok : handle firm request = .ok firm') : Reported firm' := by
  cases request with
  | bulkInsert email role defaultClientId =>
    simp only [handle, bulkInsert, bind_eq_ok, pure_eq, Except.ok.injEq] at hok
    obtain ⟨-, -, rfl⟩ := hok
    exact h.write (written_withNewUser h.numbered rfl) rfl (fun _ => rfl) (fun _ => rfl)
      fun m hm => absurd hm.symm (Option.some_ne_none m)
  | bulkUpdate email role =>
    have hfirm : bulkUpdate firm email role = firm' := Except.ok.inj hok
    unfold bulkUpdate at hfirm
    split at hfirm
    · exact hfirm ▸ h
    · next user huser =>
      have hold := user_of_mem h.numbered (List.mem_of_find?_eq_some huser)
      rw [← hfirm]
      refine h.write (written_withUser h.numbered hold) (h.reports user._id user hold)
        (fun hrole => ?_) (h.hidden user._id user hold) fun m hm => .inl ?_
      · cases role <;> exact Role.noConfusion hrole
      · show (firm.user user._id).bind User.managerId = some m
        rw [hold]
        exact hm
  | _ => exact absurd hbulk Bool.false_ne_true

/-- Every request keeps the chains of managers as they should be. -/
theorem reported_step (request : Request) (firm : Firm) (h : Reported firm) :
    Reported (step request firm) := by
  refine settle_induction h fun firm' hok => ?_
  cases hbulk : request.isBulk with
  | true => exact reported_bulk h hbulk hok
  | false => exact reported_effect h (handle_effect h.numbered hbulk hok)

theorem user_founded {email : String} {defaultClientId : ℕ} {byPassword : Bool} {id : ℕ}
    (h : (founded firm email defaultClientId byPassword).user id = some user) :
    user = foundingAdmin firm.nextId email defaultClientId byPassword :=
  List.mem_singleton.mp (mem_of_find h).1

theorem numbered_founded (firm : Firm) (email : String) (defaultClientId : ℕ) (byPassword : Bool) :
    Numbered (founded firm email defaultClientId byPassword) where
  nodup := List.nodup_singleton _
  fresh := by
    intro user huser
    rw [List.mem_singleton.mp huser]
    exact Nat.lt_succ_self _

theorem reported_founded (firm : Firm) (email : String) (defaultClientId : ℕ) (byPassword : Bool) :
    Reported (founded firm email defaultClientId byPassword) where
  numbered := numbered_founded firm email defaultClientId byPassword
  reports _ _ h := by rw [user_founded h]; rfl
  manager _ _ h _ := by rw [user_founded h]; rfl
  hidden _ _ h _ := by rw [user_founded h]; rfl
  acyclic := by
    intro id habove
    obtain ⟨m, hm, -⟩ := TransGen.head'_iff.mp habove
    obtain ⟨user, huser, hmanager⟩ := Option.bind_eq_some_iff.mp hm
    rw [user_founded huser] at hmanager
    exact nomatch hmanager

/-- What is reported to is the manager. -/
theorem Reported.reportsTo (h : Reported firm) : firm.reportsTo = firm.managerOf := by
  funext id
  unfold Firm.reportsTo Firm.managerOf Firm.found
  cases huser : firm.user id with
  | none => rfl
  | some user =>
    cases hdeleted : user.deletedAt with
    | false =>
      rw [Option.filter_some, hdeleted]
      exact h.reports id user huser
    | true =>
      rw [Option.filter_some, hdeleted]
      exact (h.hidden id user huser hdeleted).symm

/-- **In every run from a sign-up, bulk uploads included, no user is in its own chain of managers,
and the search for circular chains finds exactly the managers who are below a user.** -/
theorem reporting_acyclic (firm : Firm) (email : String) (defaultClientId : ℕ) (byPassword : Bool)
    (requests : List Request) :
    let reached := run step requests (founded firm email defaultClientId byPassword)
    Acyclic reached.managerOf ∧ ∀ id managerId, hasCircularManager reached id managerId = true ↔
      ReflTransGen (IsParent reached.managerOf) managerId id := by
  intro reached
  have h : Reported reached :=
    run_keeps reported_step requests _ (reported_founded firm email defaultClientId byPassword)
  refine ⟨h.acyclic, fun id managerId => ?_⟩
  unfold hasCircularManager
  rw [h.reportsTo]
  have hdom : ∀ a, reached.managerOf a ≠ none → a ∈ reached.users.map User._id := by
    intro a ha
    cases huser : reached.user a with
    | none =>
      unfold Firm.managerOf at ha
      rw [huser] at ha
      exact absurd rfl ha
    | some user => exact List.mem_map.mpr ⟨user, mem_of_find huser⟩
  refine circular_eq_true_iff h.acyclic hdom ?_
  rw [List.length_map]
  exact Nat.lt_succ_self _

end chains

/-! ## The primary admin -/

section primary

variable {firm firm' : Firm} {user : User} {founderId : ℕ}

/-- A user of a firm with a founder, who is its primary admin. -/
structure Member (firm : Firm) (founderId : ℕ) (user : User) : Prop where
  client : user.defaultClientId ≠ none
  tags : Tagged user.role user.primaryAdminId user.adminId user.managerId
  reports : user.reportsToUserId = user.managerId
  role : user.role = .PRIMARY_ADMIN ↔ user._id = founderId
  primaryAdmin : user._id ≠ founderId → user.primaryAdminId = some founderId
  founder : user._id = founderId → (user.primaryAdminId = none ∧ user.isPrimaryAdmin = true) ∧
    user.isSystem = true ∧ user.deletedAt = false ∧ user.status ≠ .deleted
  above : ∀ other, user.adminId = some other ∨ user.managerId = some other →
    other ≠ user._id ∧ other ≠ founderId ∧ ∃ found, firm.user other = some found

/-- A firm without the rows of bulk uploads. -/
structure Kept (founderId : ℕ) (firm : Firm) : Prop where
  numbered : Numbered firm
  founder : ∃ user, firm.user founderId = some user
  member : ∀ id user, firm.user id = some user → Member firm founderId user
  emails : ∀ id user other otherUser, firm.user id = some user → firm.user other = some otherUser →
    id ≠ other → user.status ≠ .deleted → otherUser.status ≠ .deleted → user.email ≠ otherUser.email

theorem Written.exists_user (h : Written firm firm' user) {id : ℕ}
    (hid : ∃ found, firm.user id = some found) : ∃ found, firm'.user id = some found := by
  rw [h.user]
  split_ifs
  · exact ⟨user, rfl⟩
  · exact hid

theorem Member.mono {other : User} (h : Member firm founderId other)
    (hwritten : Written firm firm' user) : Member firm' founderId other where
  client := h.client
  tags := h.tags
  reports := h.reports
  role := h.role
  primaryAdmin := h.primaryAdmin
  founder := h.founder
  above id hid := by
    obtain ⟨hne, hfounder, hfound⟩ := h.above id hid
    exact ⟨hne, hfounder, hwritten.exists_user hfound⟩

theorem Kept.write (h : Kept founderId firm) (hwritten : Written firm firm' user)
    (hmember : Member firm founderId user) (hindex : violatesIndex firm user = false) :
    Kept founderId firm' := by
  have hsplit : ∀ id found, firm'.user id = some found →
      id = user._id ∧ found = user ∨ id ≠ user._id ∧ firm.user id = some found := by
    intro id found hfound
    rw [hwritten.user] at hfound
    split_ifs at hfound with hid
    · exact .inl ⟨hid, (Option.some.inj hfound).symm⟩
    · exact .inr ⟨hid, hfound⟩
  have hnew : ∀ other found, other ≠ user._id → firm.user other = some found →
      user.status ≠ .deleted → found.status ≠ .deleted → found.email ≠ user.email := by
    intro other found hother hfound hstatus hfoundStatus
    have hid : found._id ≠ user._id := by
      rw [Firm.user_id hfound]
      exact hother
    exact (violatesIndex_eq_false.mp hindex hstatus found (mem_of_find hfound).1 hid
      hfoundStatus).1
  refine ⟨hwritten.numbered, hwritten.exists_user h.founder, fun id found hfound => ?_, ?_⟩
  · obtain ⟨-, rfl⟩ | ⟨-, hold⟩ := hsplit id found hfound
    · exact hmember.mono hwritten
    · exact (h.member id found hold).mono hwritten
  · intro id found other otherFound hfound hother hne hstatus hotherStatus
    obtain ⟨rfl, rfl⟩ | ⟨hid, hold⟩ := hsplit id found hfound
    · obtain ⟨rfl, -⟩ | ⟨hotherId, hotherOld⟩ := hsplit other otherFound hother
      · exact absurd rfl hne
      · exact (hnew other otherFound hotherId hotherOld hstatus hotherStatus).symm
    · obtain ⟨rfl, rfl⟩ | ⟨-, hotherOld⟩ := hsplit other otherFound hother
      · exact hnew id found hid hold hotherStatus hstatus
      · exact h.emails id found other otherFound hold hotherOld hne hstatus hotherStatus

/-- The founder is a primary admin whom every find has. -/
theorem Kept.found_founder (h : Kept founderId firm) :
    ∃ primaryAdmin, firm.undeleted founderId = some primaryAdmin ∧
      primaryAdmin._id = founderId ∧ primaryAdmin.role = .PRIMARY_ADMIN ∧
      primaryAdmin.isPrimaryAdmin = true := by
  obtain ⟨primaryAdmin, huser⟩ := h.founder
  have hid := Firm.user_id huser
  have hmember := h.member _ _ huser
  obtain ⟨hflags, -, hvisible, hstatus⟩ := hmember.founder hid
  exact ⟨primaryAdmin, undeleted_eq_some.mpr ⟨huser, hvisible, hstatus⟩, hid,
    hmember.role.mpr hid, hflags.2⟩

/-- Whoever is above a user has the primary admin of that user, too. -/
theorem Kept.primaryAdminId_above (h : Kept founderId firm) {id other : ℕ} {found : User}
    (huser : firm.user id = some user)
    (hother : user.adminId = some other ∨ user.managerId = some other)
    (hfound : firm.user other = some found) : found.primaryAdminId = user.primaryAdminId := by
  have hmember := h.member _ _ huser
  obtain ⟨-, hfounder, -⟩ := hmember.above other hother
  have hfoundId : found._id ≠ founderId := (Firm.user_id hfound).symm ▸ hfounder
  have hid : user._id ≠ founderId := by
    intro heq
    have hprimaryRole := hmember.role.mpr heq
    rcases hother with hother | hother
    · exact nomatch (hmember.tags.admin (.inl hprimaryRole)).symm.trans hother
    · exact nomatch (hmember.tags.manager (.inl hprimaryRole)).symm.trans hother
  rw [(h.member _ _ hfound).primaryAdmin hfoundId, hmember.primaryAdmin hid]

/-- What the hook lets through is a user of the firm. -/
theorem Kept.member_of_valid (h : Kept founderId firm) (hvalid : Valid firm user)
    (hreports : user.reportsToUserId = user.managerId)
    (hrole : user.role = .PRIMARY_ADMIN ↔ user._id = founderId)
    (hfounder : user._id = founderId → (user.primaryAdminId = none ∧ user.isPrimaryAdmin = true) ∧
      user.isSystem = true ∧ user.deletedAt = false ∧ user.status ≠ .deleted) :
    Member firm founderId user where
  client := hvalid.client
  tags := hvalid.tags
  reports := hreports
  role := hrole
  founder := hfounder
  primaryAdmin := by
    intro hne
    obtain ⟨p, hp⟩ := Option.ne_none_iff_exists'.mp
      (hvalid.tags.primaryAdmin fun heq => hne (hrole.mp heq))
    obtain ⟨-, found, hfound, hfoundRole⟩ := hvalid.primaryAdmin p hp
    have huser := (undeleted_eq_some.mp hfound).1
    have hid := (h.member p found huser).role.mp hfoundRole
    rw [hp, ← hid, Firm.user_id huser]
  above := by
    have hothers : ∀ other found role, role ≠ .PRIMARY_ADMIN → other ≠ user._id →
        firm.undeleted other = some found → found.role = role →
        other ≠ user._id ∧ other ≠ founderId ∧ ∃ found, firm.user other = some found := by
      intro other found role hprimary hne hfound hfoundRole
      have huser := (undeleted_eq_some.mp hfound).1
      refine ⟨hne, fun heq => hprimary ?_, found, huser⟩
      rw [← hfoundRole]
      exact (h.member other found huser).role.mpr ((Firm.user_id huser).trans heq)
    rintro other (hadmin | hmanager)
    · obtain ⟨hne, found, hfound, hfoundRole⟩ := hvalid.admin other hadmin
      exact hothers other found .ADMIN Role.noConfusion hne hfound hfoundRole
    · obtain ⟨hne, found, hfound, hfoundRole⟩ := hvalid.manager other hmanager
      exact hothers other found .MANAGER Role.noConfusion hne hfound hfoundRole

theorem synced_status {stored : Option User} (h : (user.synced stored).status = .deleted) :
    user.status = .deleted := by
  unfold User.synced at h
  dsimp only at h
  split_ifs at h
  exact h

theorem kept_effect (h : Kept founderId firm) (heffect : Effect firm firm') :
    Kept founderId firm' := by
  cases heffect with
  | none heq => exact heq ▸ h
  | saved old hold hedit hsave =>
    obtain ⟨hvalid, hindex, rfl⟩ := saveUser_ok.mp hsave
    have hmember := h.member _ _ hold
    obtain ⟨hmanager, hreports⟩ := synced_managerId (hedit.reports hmember.reports)
    have hfounderEdit := fun hid => hedit.primaryAdmin (hmember.role.mpr (hedit.id.symm.trans hid))
      (hmember.founder (hedit.id.symm.trans hid)).1
    refine h.write (written_withUser h.numbered hold) (h.member_of_valid hvalid
      (hreports.trans hmanager.symm) ⟨fun hrole => ?_, fun hid => ?_⟩ fun hid => ?_) hindex
    · exact hedit.id.trans (hmember.role.mp (hedit.role hrole))
    · -- Without a primary admin above it, the founder can have no other role.
      by_contra hrole
      exact hvalid.tags.primaryAdmin hrole (hfounderEdit hid).1
    · obtain ⟨-, hsystem, -, hstatus⟩ := hmember.founder (hedit.id.symm.trans hid)
      have hsystem := hedit.system.trans hsystem
      refine ⟨hfounderEdit hid, hsystem, Bool.eq_false_iff.mpr fun hdeleted => ?_,
        fun hdeleted => ?_⟩
      · exact nomatch hsystem.symm.trans (hedit.hidden hdeleted).1
      · obtain hold | hnot := hedit.status (synced_status hdeleted)
        · exact hstatus hold
        · exact nomatch hsystem.symm.trans hnot
  | inserted hrole hnone hvisible hinsert =>
    obtain ⟨hvalid, ⟨-, hindex⟩, rfl⟩ := insertUser_ok.mp hinsert
    have hnew : firm.nextId ≠ founderId := by
      rintro rfl
      obtain ⟨found, hfound⟩ := h.founder
      have hlt := h.numbered.fresh found (mem_of_find hfound).1
      rw [Firm.user_id hfound] at hlt
      exact lt_irrefl _ hlt
    refine h.write (written_withNewUser h.numbered rfl) (h.member_of_valid hvalid ?_
      ⟨fun heq => absurd heq hrole, fun heq => absurd heq hnew⟩ fun heq => absurd heq hnew) hindex
    unfold Firm.newUser User.synced
    dsimp only
    rw [hnone, Option.or_none, Option.none_or]
  | setUp old hold hedit hvisible hsame hindex heq =>
    obtain ⟨hrole, hclient, hprimary, hadmin, hmanager, hreports⟩ := by
      simpa only [Prod.mk.injEq] using hsame
    have hmember := h.member _ _ hold
    rw [heq]
    refine h.write (written_withUser h.numbered hold) ?_ hindex
    constructor
    · exact hclient ▸ hmember.client
    · rw [hrole, hprimary, hadmin, hmanager]
      exact hmember.tags
    · rw [hreports, hmanager, hmember.reports]
    · rw [hrole, hedit.id]
      exact hmember.role
    · rw [hedit.id, hprimary]
      exact hmember.primaryAdmin
    · intro hid
      obtain ⟨hflags, hsystem, -, hstatus⟩ := hmember.founder (hedit.id.symm.trans hid)
      have hfounderRole := hmember.role.mpr (hedit.id.symm.trans hid)
      have hsystem := hedit.system.trans hsystem
      refine ⟨hedit.primaryAdmin hfounderRole hflags, hsystem, hvisible, fun hdeleted => ?_⟩
      obtain hold | hnot := hedit.status hdeleted
      · exact hstatus hold
      · exact nomatch hsystem.symm.trans hnot
    · rw [hadmin, hmanager, hedit.id]
      exact hmember.above

theorem kept_step (request : Request) (firm : Firm) (h : Kept founderId firm)
    (hbulk : request.isBulk = false) : Kept founderId (step request firm) :=
  settle_induction h fun _ hok => kept_effect h (handle_effect h.numbered hbulk hok)

theorem kept_founded (firm : Firm) (email : String) (defaultClientId : ℕ) (byPassword : Bool) :
    Kept firm.nextId (founded firm email defaultClientId byPassword) where
  numbered := numbered_founded firm email defaultClientId byPassword
  founder := ⟨foundingAdmin firm.nextId email defaultClientId byPassword,
    user_of_mem (numbered_founded firm email defaultClientId byPassword) (List.mem_singleton_self _)⟩
  member := by
    intro id user huser
    rw [user_founded huser]
    refine ⟨Option.some_ne_none _, ?_, rfl, iff_of_true rfl rfl, fun hne => absurd rfl hne,
      fun _ => ⟨⟨rfl, rfl⟩, rfl, rfl, Status.noConfusion⟩, ?_⟩
    · exact getTagValidationError_eq_none.mp rfl
    · rintro other (hother | hother) <;> exact nomatch hother
  emails := by
    intro id user other otherUser huser hother hne
    have hid := Firm.user_id huser
    have hotherId := Firm.user_id hother
    rw [user_founded huser] at hid
    rw [user_founded hother] at hotherId
    exact absurd (hid.symm.trans hotherId) hne

/-- Nothing but the requests themselves says whether a run has rows of bulk uploads. -/
theorem admits_of_forall (requests : List Request) (firm : Firm)
    (hbulk : ∀ request ∈ requests, request.isBulk = false) :
    Admits step (fun request _ => request.isBulk = false) requests firm := by
  induction requests generalizing firm with
  | nil => trivial
  | cons request requests ih =>
    have hrest := ih (step request firm) fun other hother => hbulk other (.tail _ hother)
    exact ⟨hbulk request List.mem_cons_self, hrest⟩

theorem kept_run (firm : Firm) (email : String) (defaultClientId : ℕ) (byPassword : Bool)
    {requests : List Request} (hbulk : ∀ request ∈ requests, request.isBulk = false) :
    Kept firm.nextId (run step requests (founded firm email defaultClientId byPassword)) :=
  run_invariant kept_step requests _ (kept_founded firm email defaultClientId byPassword)
    (admits_of_forall requests _ hbulk)

/-- **Without bulk uploads, a firm keeps the primary admin that its sign-up created, nobody else is
one, and everybody else belongs to it, with tags that its role may have and other users above it
that are in the firm.** -/
theorem primary_admin_kept (firm : Firm) (email : String) (defaultClientId : ℕ) (byPassword : Bool)
    {requests : List Request} (hbulk : ∀ request ∈ requests, request.isBulk = false) :
    let reached := run step requests (founded firm email defaultClientId byPassword)
    (∃ primaryAdmin, reached.undeleted firm.nextId = some primaryAdmin ∧
      primaryAdmin.role = .PRIMARY_ADMIN ∧ primaryAdmin.isPrimaryAdmin = true) ∧
    ∀ user ∈ reached.users, user._id ≠ firm.nextId →
      user.role ≠ .PRIMARY_ADMIN ∧ user.primaryAdminId = some firm.nextId ∧
      getTagValidationError user.role user.primaryAdminId user.adminId user.managerId = none ∧
      ∀ other, user.adminId = some other ∨ user.managerId = some other →
        other ≠ user._id ∧ other ≠ firm.nextId ∧ ∃ found ∈ reached.users, found._id = other := by
  intro reached
  have h : Kept firm.nextId reached := kept_run firm email defaultClientId byPassword hbulk
  constructor
  · obtain ⟨primaryAdmin, hfound, -, hrole, hflag⟩ := h.found_founder
    exact ⟨primaryAdmin, hfound, hrole, hflag⟩
  · intro user huser hne
    have hmember := h.member _ _ (user_of_mem h.numbered huser)
    refine ⟨fun hrole => hne (hmember.role.mp hrole), hmember.primaryAdmin hne,
      getTagValidationError_eq_none.mpr hmember.tags, fun other hother => ?_⟩
    obtain ⟨hself, hfounder, found, hfound⟩ := hmember.above other hother
    exact ⟨hself, hfounder, found, mem_of_find hfound⟩

theorem primary_admin_kept_manager :
    ∃ primaryAdmin,
      (run step [.createUser 1 { email := "m@b.c", role := some "MANAGER" }]
        (founded { _id := 10, nextId := 1, defaultClientId := some 20, users := [] } "p@b.c" 20
          true)).undeleted 1 = some primaryAdmin ∧
        primaryAdmin.role = .PRIMARY_ADMIN ∧ primaryAdmin.isPrimaryAdmin = true :=
  (primary_admin_kept { _id := 10, nextId := 1, defaultClientId := some 20, users := [] } "p@b.c" 20
    true (by decide)).1

end primary

/-! ## Who can be saved -/

section saves

variable {firm : Firm} {user : User} {founderId : ℕ}

/-- A change that leaves the status is synced to no other status. -/
theorem synced_status_self {stored : User} (h : user.status = stored.status) :
    (user.synced (some stored)).status = user.status := by
  unfold User.synced
  dsimp only
  rw [Option.map_some, h, if_neg (fun hmodified => hmodified.1 rfl)]

/-- The index lets through what leaves the status and the e-mail address of a user. -/
theorem Kept.index (h : Kept founderId firm) {old : User} (hold : firm.user user._id = some old)
    (hstatus : user.status = old.status) (hemail : user.email = old.email)
    (hrole : user.role = old.role) : violatesIndex firm user = false := by
  refine violatesIndex_eq_false.mpr fun hdeleted other hother hne hotherStatus => ?_
  have hotherUser := user_of_mem h.numbered hother
  refine ⟨?_, fun hotherRole hprimary => hne ?_⟩
  · rw [hemail]
    exact h.emails _ other _ old hotherUser hold hne hotherStatus (hstatus ▸ hdeleted)
  · have hid := (h.member _ _ hotherUser).role.mp hotherRole
    rw [hid, ← (h.member _ _ hold).role.mp (hrole.symm.trans hprimary), Firm.user_id hold]

/-- The hook lets a user through exactly when those above it are as they were. -/
theorem Kept.valid_iff (h : Kept founderId firm) {old : User} (hold : firm.user old._id = some old)
    (hid : user._id = old._id) (hclient : user.defaultClientId ≠ none)
    (htags : (user.role, user.primaryAdminId, user.adminId, user.managerId) =
      (old.role, old.primaryAdminId, old.adminId, old.managerId)) :
    Valid firm user ↔
      (∀ id, old.adminId = some id → ∃ admin, firm.undeleted id = some admin ∧
        admin.role = .ADMIN) ∧
      ∀ id, old.managerId = some id → ∃ manager, firm.undeleted id = some manager ∧
        manager.role = .MANAGER ∧ (old.adminId ≠ none → manager.adminId = old.adminId) := by
  obtain ⟨hrole, hprimary, hadmin, hmanager⟩ := by simpa only [Prod.mk.injEq] using htags
  have hmember := h.member _ _ hold
  constructor
  · intro hvalid
    refine ⟨fun id hid' => ?_, fun id hid' => ?_⟩
    · obtain ⟨-, found, hfound, hfoundRole⟩ := hvalid.admin id (hadmin.trans hid')
      exact ⟨found, hfound, hfoundRole⟩
    · have hmanagerId := hmanager.trans hid'
      obtain ⟨-, found, hfound, hfoundRole⟩ := hvalid.manager id hmanagerId
      refine ⟨found, hfound, hfoundRole, fun hsome => ?_⟩
      rw [← hadmin]
      refine hvalid.manager_admin found ?_ (hadmin ▸ hsome)
      rw [hmanagerId]
      exact hfound
  · rintro ⟨hadmins, hmanagers⟩
    constructor
    · exact hclient
    · rw [hrole, hprimary, hadmin, hmanager]
      exact hmember.tags
    · intro id hid'
      by_cases hfounder : old._id = founderId
      · rw [hprimary, (hmember.founder hfounder).1.1] at hid'
        exact nomatch hid'
      · rw [hprimary, hmember.primaryAdmin hfounder] at hid'
        obtain ⟨found, hfound, -, hfoundRole, -⟩ := h.found_founder
        rw [← Option.some.inj hid', hid]
        exact ⟨Ne.symm hfounder, found, hfound, hfoundRole⟩
    · intro id hid'
      rw [hadmin] at hid'
      rw [hid]
      exact ⟨(hmember.above id (.inl hid')).1, hadmins id hid'⟩
    · intro id hid'
      rw [hmanager] at hid'
      obtain ⟨found, hfound, hfoundRole, -⟩ := hmanagers id hid'
      rw [hid]
      exact ⟨(hmember.above id (.inr hid')).1, found, hfound, hfoundRole⟩
    · intro found hfound
      obtain ⟨id, hid', hfound⟩ := Option.bind_eq_some_iff.mp hfound
      rw [hprimary]
      exact h.primaryAdminId_above hold (.inl (hadmin.symm.trans hid'))
        (undeleted_eq_some.mp hfound).1
    · intro found hfound
      obtain ⟨id, hid', hfound⟩ := Option.bind_eq_some_iff.mp hfound
      rw [hprimary]
      exact h.primaryAdminId_above hold (.inr (hmanager.symm.trans hid'))
        (undeleted_eq_some.mp hfound).1
    · intro found hfound hsome
      obtain ⟨id, hid', hfound⟩ := Option.bind_eq_some_iff.mp hfound
      obtain ⟨other, hother, -, hotherAdmin⟩ := hmanagers id (hmanager.symm.trans hid')
      rw [hadmin] at hsome ⊢
      rw [← Option.some.inj (hother.symm.trans hfound)]
      exact hotherAdmin hsome

/-- **After any run without bulk uploads, a user can be saved, as when it signs in, exactly when the
admin above it still is an admin of the firm, and the manager above it a manager, of that admin if
the user has one.** -/
theorem saves_iff (firm : Firm) (email : String) (defaultClientId : ℕ) (byPassword : Bool)
    {requests : List Request} (hbulk : ∀ request ∈ requests, request.isBulk = false) {reached : Firm}
    (hreached : reached = run step requests (founded firm email defaultClientId byPassword))
    {user : User} (huser : reached.found user._id = some user) {upkeep : Upkeep}
    (hactivates : upkeep.activates = false) :
    (∃ saved, keepUp reached user._id upkeep = .ok saved) ↔
      (∀ id, user.adminId = some id → ∃ admin, reached.undeleted id = some admin ∧
        admin.role = .ADMIN) ∧
      ∀ id, user.managerId = some id → ∃ manager, reached.undeleted id = some manager ∧
        manager.role = .MANAGER ∧ (user.adminId ≠ none → manager.adminId = user.adminId) := by
  have h : Kept firm.nextId reached :=
    hreached ▸ kept_run firm email defaultClientId byPassword hbulk
  have hold := (found_eq_some.mp huser).1
  have hmember := h.member _ _ hold
  have hany : anyUser reached user._id = .ok user := by
    unfold anyUser
    rw [huser]
  unfold keepUp
  rw [hany, ok_bind, hactivates]
  simp only [saveUser_ok, Bool.false_eq_true, if_false]
  rw [show reached.user _ = some user from hold]
  generalize hedited : ({ user with
    isActive := upkeep.isActive.getD user.isActive
    defaultClientId := upkeep.defaultClientId.or user.defaultClientId
    mustSetPassword := upkeep.mustSetPassword
    mustChangePassword := upkeep.mustChangePassword
    passwordSet := upkeep.passwordSet
    inviteSent := upkeep.inviteSent } : User) = edited
  have hreports : edited.reportsToUserId = edited.managerId := by
    rw [← hedited]
    exact hmember.reports
  have hstatus : edited.status = user.status := by rw [← hedited]
  have hclient : (edited.synced (some user)).defaultClientId ≠ none := by
    rw [← hedited]
    show upkeep.defaultClientId.or user.defaultClientId ≠ none
    rw [Ne, Option.or_eq_none_iff]
    exact fun hnone => hmember.client hnone.2
  have htags : ((edited.synced (some user)).role, (edited.synced (some user)).primaryAdminId,
      (edited.synced (some user)).adminId, (edited.synced (some user)).managerId) =
      (user.role, user.primaryAdminId, user.adminId, user.managerId) := by
    rw [(synced_managerId hreports).1, ← hedited]
    rfl
  have hid : (edited.synced (some user))._id = user._id := by
    rw [← hedited]
    rfl
  have hindex : violatesIndex reached (edited.synced (some user)) = false := by
    refine h.index (hid.symm ▸ hold) ((synced_status_self hstatus).trans hstatus) ?_ ?_
    · rw [← hedited]
      rfl
    · rw [← hedited]
      rfl
  rw [← h.valid_iff hold hid hclient htags]
  exact ⟨fun hsaved => hsaved.choose_spec.1, fun hvalid => ⟨_, hvalid, hindex, rfl⟩⟩

/-- A manager who is invited can set a password. -/
theorem saves_iff_manager :
    ∃ saved, keepUp (run step [.createUser 1 { email := "m@b.c", role := some "MANAGER" }]
      (founded { _id := 10, nextId := 1, defaultClientId := some 20, users := [] } "p@b.c" 20 true))
      2 ⟨false, none, none, false, false, true, true⟩ = .ok saved :=
  (@saves_iff { _id := 10, nextId := 1, defaultClientId := some 20, users := [] } "p@b.c" 20 true
    [.createUser 1 { email := "m@b.c", role := some "MANAGER" }] (by decide) _ rfl
    { _id := 2, email := "m@b.c", role := .MANAGER, defaultClientId := some 20,
      primaryAdminId := some 1, mustSetPassword := true, inviteSent := true } rfl
    ⟨false, none, none, false, false, true, true⟩ rfl).mpr ⟨nofun, nofun⟩

end saves

/-! ## The tree as a whole -/

def ManagerNode.places (node : ManagerNode) (place : Place) : List (User × Place) :=
  (node.user, place) :: node.users.map fun user => (user, .manager node.user._id)

def AdminNode.places (node : AdminNode) : List (User × Place) :=
  (node.user, .top) ::
    (node.managers.flatMap (fun manager => manager.places (.admin node.user._id)) ++
      node.users.map fun user => (user, .admin node.user._id))

/-- The users that a tree lists, with where it lists them. -/
def Tree.places (tree : Tree) : List (User × Place) :=
  tree.admins.flatMap AdminNode.places ++ tree.unassignedUsers.flatMap fun
    | .inl manager => manager.places .unassigned
    | .inr user => [(user, .unassigned)]

/-- Whether an id is that of a user with a role. -/
def Firm.holds (firm : Firm) (role : Role) (id : ℕ) : Bool :=
  (firm.undeleted id).any fun found => found.role = role

/-- Where a user belongs: under its manager if that is one, or else under its admin if that is
one. -/
def Firm.placeOf (firm : Firm) (user : User) : Place :=
  let underAdmin : Place :=
    match user.adminId.filter (firm.holds .ADMIN) with
    | some id => .admin id
    | none => .unassigned
  match user.role with
  | .ADMIN | .PRIMARY_ADMIN => .top
  | .MANAGER => underAdmin
  | .USER =>
    match user.managerId.filter (firm.holds .MANAGER) with
    | some id => .manager id
    | none => underAdmin

section tree

variable {admins managers users nodes : List User} {primaryAdmin : User}

/-- The places under the admins, and under none. -/
def adminKeys (admins : List User) : List Place :=
  admins.map (fun admin => .admin admin._id) ++ [.unassigned]

theorem adminPlace_mem (admins : List User) (node : User) :
    adminPlace admins node ∈ adminKeys admins := by
  unfold adminPlace adminKeys
  split
  · next id hid =>
    obtain ⟨admin, hadmin, heq⟩ := List.any_eq_true.mp (Option.filter_eq_some_iff.mp hid).2
    refine List.mem_append_left _ (List.mem_map.mpr ⟨admin, hadmin, ?_⟩)
    rw [of_decide_eq_true heq]
  · exact List.mem_append_right _ (List.mem_singleton_self _)

theorem userPlace_mem (admins managers : List User) (node : User) :
    userPlace admins managers node ∈
      adminKeys admins ++ managers.map fun manager => .manager manager._id := by
  unfold userPlace
  split
  · next id hid =>
    obtain ⟨manager, hmanager, heq⟩ := List.any_eq_true.mp (Option.filter_eq_some_iff.mp hid).2
    refine List.mem_append_right _ (List.mem_map.mpr ⟨manager, hmanager, ?_⟩)
    rw [of_decide_eq_true heq]
  · exact List.mem_append_left _ (adminPlace_mem admins node)

theorem nodup_adminKeys (h : (admins.map User._id).Nodup) : (adminKeys admins).Nodup := by
  have hmap : (admins.map fun admin => Place.admin admin._id).Nodup := by
    have hids := h.map (f := Place.admin) fun _ _ heq => Place.admin.inj heq
    rwa [List.map_map] at hids
  refine List.nodup_append.mpr ⟨hmap, List.nodup_singleton _, fun a ha b hb hab => ?_⟩
  obtain ⟨admin, -, rfl⟩ := List.mem_map.mp ha
  exact nomatch hab.trans (List.mem_singleton.mp hb)

theorem nodup_userKeys (hadmins : (admins.map User._id).Nodup)
    (hmanagers : (managers.map User._id).Nodup) :
    (adminKeys admins ++ managers.map fun manager => Place.manager manager._id).Nodup := by
  have hmap : (managers.map fun manager => Place.manager manager._id).Nodup := by
    have hids := hmanagers.map (f := Place.manager) fun _ _ heq => Place.manager.inj heq
    rwa [List.map_map] at hids
  refine List.nodup_append.mpr ⟨nodup_adminKeys hadmins, hmap, fun a ha b hb hab => ?_⟩
  obtain ⟨manager, -, rfl⟩ := List.mem_map.mp hb
  rcases List.mem_append.mp ha with ha | ha
  · obtain ⟨admin, -, rfl⟩ := List.mem_map.mp ha
    exact nomatch hab
  · exact nomatch hab.symm.trans (List.mem_singleton.mp ha)

theorem nodup_group {role : Role} (h : (nodes.map User._id).Nodup) :
    ((group User.role role nodes).map User._id).Nodup := h.sublist (List.filter_sublist.map _)

/-- The users of a place, with it. -/
def usersIn (admins managers users : List User) (place : Place) : List (User × Place) :=
  (group (userPlace admins managers) place users).map fun user =>
    (user, userPlace admins managers user)

/-- A manager and its users, with their places. -/
def withUsers (admins managers users : List User) (manager : User) : List (User × Place) :=
  (manager, adminPlace admins manager) :: usersIn admins managers users (.manager manager._id)

theorem map_usersAt (place : Place) :
    ((group (userPlace admins managers) place users).map fun user => (user, place)) =
      usersIn admins managers users place := by
  refine List.map_congr_left fun user huser => ?_
  rw [(mem_group.mp huser).2]

theorem places_managersAt (place : Place) :
    ((group (adminPlace admins) place managers).map fun manager =>
      (⟨manager, group (userPlace admins managers) (.manager manager._id) users⟩ :
        ManagerNode)).flatMap (fun node => node.places place) =
      (group (adminPlace admins) place managers).flatMap (withUsers admins managers users) := by
  rw [List.flatMap_map]
  refine List.flatMap_congr fun manager hmanager => ?_
  show (manager, place) :: _ = (manager, adminPlace admins manager) :: _
  rw [map_usersAt, (mem_group.mp hmanager).2]

/-- Every user is listed under one of the admins or the managers, or under none. -/
theorem usersIn_perm (users : List User) (hadmins : (admins.map User._id).Nodup)
    (hmanagers : (managers.map User._id).Nodup) :
    ((admins.flatMap fun admin => usersIn admins managers users (.admin admin._id)) ++
      usersIn admins managers users .unassigned ++
      managers.flatMap fun manager => usersIn admins managers users (.manager manager._id)).Perm
    (users.map fun user => (user, userPlace admins managers user)) := by
  unfold usersIn
  have hall := flatMap_groups_perm (nodup_userKeys hadmins hmanagers)
    (fun user (_ : user ∈ users) => userPlace_mem admins managers user)
    fun user => [(user, userPlace admins managers user)]
  simpa only [adminKeys, List.flatMap_append, List.flatMap_map, List.flatMap_cons,
    List.flatMap_nil, List.append_nil, ← List.map_eq_flatMap] using hall

/-- Every manager is listed under one of the admins, or under none. -/
theorem withUsers_perm (managers users : List User) (hadmins : (admins.map User._id).Nodup) :
    ((admins.flatMap fun admin => (group (adminPlace admins) (.admin admin._id) managers).flatMap
        (withUsers admins managers users)) ++
      (group (adminPlace admins) .unassigned managers).flatMap
        (withUsers admins managers users)).Perm
    (managers.flatMap (withUsers admins managers users)) := by
  have hall := flatMap_groups_perm (nodup_adminKeys hadmins)
    (fun manager (_ : manager ∈ managers) => adminPlace_mem admins manager)
    (withUsers admins managers users)
  simpa only [adminKeys, List.flatMap_append, List.flatMap_map, List.flatMap_cons,
    List.flatMap_nil, List.append_nil] using hall

/-- Where the tree lists one of its nodes. -/
def placeIn (nodes : List User) (node : User) : Place :=
  match node.role with
  | .ADMIN | .PRIMARY_ADMIN => .top
  | .MANAGER => adminPlace (group User.role .ADMIN nodes) node
  | .USER => userPlace (group User.role .ADMIN nodes) (group User.role .MANAGER nodes) node

/-- The nodes are the admins, the managers and the users. -/
theorem nodes_perm (hadmins : group User.role .ADMIN nodes = admins)
    (hmanagers : group User.role .MANAGER nodes = managers)
    (husers : group User.role .USER nodes = users)
    (hroles : ∀ node ∈ nodes, node.role ≠ .PRIMARY_ADMIN) :
    (nodes.map fun node => (node, placeIn nodes node)).Perm
      (admins.map (fun admin => (admin, Place.top)) ++
        (managers.map (fun manager => (manager, adminPlace admins manager)) ++
          users.map fun user => (user, userPlace admins managers user))) := by
  have hthree : ([.ADMIN, .MANAGER, .USER] : List Role).Nodup := by decide
  have hmem : ∀ node ∈ nodes, node.role ∈ ([.ADMIN, .MANAGER, .USER] : List Role) := by
    intro node hnode
    have hrole := hroles node hnode
    cases hnodeRole : node.role
    · decide
    · decide
    · decide
    · exact absurd hnodeRole hrole
  have hkinds : (admins ++ (managers ++ users)).Perm nodes := by
    simpa only [List.flatMap_cons, List.flatMap_nil, List.append_nil, hadmins, hmanagers,
      husers] using groups_perm hthree hmem
  refine (hkinds.map _).symm.trans (.of_eq ?_)
  rw [List.map_append, List.map_append]
  refine congrArg₂ _ ?_ (congrArg₂ _ ?_ ?_)
  · refine List.map_congr_left fun admin hadmin => ?_
    rw [← hadmins] at hadmin
    unfold placeIn
    rw [(mem_group.mp hadmin).2]
  · refine List.map_congr_left fun manager hmanager => ?_
    rw [← hmanagers] at hmanager
    unfold placeIn
    rw [(mem_group.mp hmanager).2, hadmins]
  · refine List.map_congr_left fun user huser => ?_
    rw [← husers] at huser
    unfold placeIn
    rw [(mem_group.mp huser).2, hadmins, hmanagers]

/-- What is listed, in the order of the tree. -/
theorem places_treeOf (hadmins : group User.role .ADMIN nodes = admins)
    (hmanagers : group User.role .MANAGER nodes = managers)
    (husers : group User.role .USER nodes = users)
    (hprimary : ∀ node ∈ nodes, node.primaryAdminId = some primaryAdmin._id) :
    (treeOf primaryAdmin nodes).places =
      (admins.flatMap fun admin => (admin, Place.top) ::
        ((group (adminPlace admins) (.admin admin._id) managers).flatMap
          (withUsers admins managers users) ++
            usersIn admins managers users (.admin admin._id))) ++
      ((group (adminPlace admins) .unassigned managers).flatMap
        (withUsers admins managers users) ++ usersIn admins managers users .unassigned) := by
  have hall : admins.filter (fun admin => admin.primaryAdminId = none ||
      admin.primaryAdminId = some primaryAdmin._id) = admins := by
    refine List.filter_eq_self.mpr fun admin hadmin => ?_
    rw [← hadmins] at hadmin
    rw [hprimary admin (mem_group.mp hadmin).1, decide_eq_true rfl, Bool.or_true]
  unfold treeOf Tree.places
  simp only [hadmins, hmanagers, husers, hall, List.flatMap_map, List.flatMap_append]
  congr 1
  · refine List.flatMap_congr fun admin _ => ?_
    show (admin, Place.top) :: (_ ++ _) = _
    rw [map_usersAt, places_managersAt]
  · rw [← map_usersAt, ← places_managersAt, List.flatMap_map, List.map_eq_flatMap]

/-- The tree lists each of its nodes once. -/
theorem treeOf_places (primaryAdmin : User) (hids : (nodes.map User._id).Nodup)
    (hroles : ∀ node ∈ nodes, node.role ≠ .PRIMARY_ADMIN)
    (hprimary : ∀ node ∈ nodes, node.primaryAdminId = some primaryAdmin._id) :
    (treeOf primaryAdmin nodes).places.Perm (nodes.map fun node => (node, placeIn nodes node)) := by
  generalize hadmins : group User.role .ADMIN nodes = admins
  generalize hmanagers : group User.role .MANAGER nodes = managers
  generalize husers : group User.role .USER nodes = users
  have hadminIds : (admins.map User._id).Nodup := hadmins ▸ nodup_group hids
  have hmanagerIds : (managers.map User._id).Nodup := hmanagers ▸ nodup_group hids
  rw [places_treeOf hadmins hmanagers husers hprimary]
  refine List.Perm.trans ?_ (nodes_perm hadmins hmanagers husers hroles).symm
  -- Each part is listed as often on both sides.
  refine List.perm_iff_count.mpr fun listed => ?_
  have hlist := fun f : User → List (User × Place) =>
    ((List.map_append_flatMap_perm admins (fun admin => (admin, Place.top)) f).count_eq listed)
  have hparts := (List.flatMap_append_perm admins
    (fun admin => (group (adminPlace admins) (.admin admin._id) managers).flatMap
      (withUsers admins managers users))
    fun admin => usersIn admins managers users (.admin admin._id)).count_eq listed
  have hmanagerParts := (List.map_append_flatMap_perm managers
    (fun manager => (manager, adminPlace admins manager)) fun manager =>
      usersIn admins managers users (.manager manager._id)).count_eq listed
  have hunder := (withUsers_perm managers users hadminIds).count_eq listed
  have hin := (usersIn_perm users hadminIds hmanagerIds).count_eq listed
  simp only [List.count_append, ← hlist] at hparts hmanagerParts hunder hin ⊢
  unfold withUsers at hunder hparts ⊢
  omega

end tree

section complete

variable {firm : Firm} {founderId : ℕ} {primaryAdmin : User}

/-- The users that a tree has below the founder. -/
def Firm.others (firm : Firm) (founderId : ℕ) : List User :=
  firm.undeletedUsers.filter fun user => user._id ≠ founderId

theorem Kept.mem_others (h : Kept founderId firm) {id : ℕ} {user : User} :
    user ∈ firm.others founderId ∧ user._id = id ↔
      firm.undeleted id = some user ∧ user.role ≠ .PRIMARY_ADMIN := by
  unfold Firm.others
  rw [List.mem_filter, mem_undeletedUsers, undeleted_eq_some, decide_eq_true_iff]
  constructor
  · rintro ⟨⟨⟨hmem, hvisible⟩, hne⟩, rfl⟩
    have huser := user_of_mem h.numbered hmem
    exact ⟨⟨huser, hvisible⟩, fun hrole => hne ((h.member _ _ huser).role.mp hrole)⟩
  · rintro ⟨⟨huser, hvisible⟩, hrole⟩
    have hne : user._id ≠ founderId := fun heq => hrole ((h.member _ _ huser).role.mpr heq)
    exact ⟨⟨⟨(mem_of_find huser).1, hvisible⟩, hne⟩, Firm.user_id huser⟩

/-- The users below the founder that have a role are those of the firm. -/
theorem Kept.any_group (h : Kept founderId firm) {role : Role} (hrole : role ≠ .PRIMARY_ADMIN) :
    (fun id => (group User.role role (firm.others founderId)).any fun user => user._id = id) =
      firm.holds role := by
  funext id
  refine Bool.eq_iff_iff.mpr ?_
  unfold Firm.holds
  rw [List.any_eq_true, Option.any_eq_true]
  constructor
  · rintro ⟨user, hmem, hid⟩
    obtain ⟨hmem, huserRole⟩ := mem_group.mp hmem
    have huser := (h.mem_others.mp ⟨hmem, of_decide_eq_true hid⟩).1
    exact ⟨user, huser, decide_eq_true huserRole⟩
  · rintro ⟨user, huser, huserRole⟩
    have huserRole := of_decide_eq_true huserRole
    obtain ⟨hmem, hid⟩ := h.mem_others.mpr ⟨huser, huserRole ▸ hrole⟩
    exact ⟨user, mem_group.mpr ⟨hmem, huserRole⟩, decide_eq_true hid⟩

theorem Kept.placeIn_eq (h : Kept founderId firm) (user : User) :
    placeIn (firm.others founderId) user = firm.placeOf user := by
  have hadmins := h.any_group (show Role.ADMIN ≠ .PRIMARY_ADMIN from Role.noConfusion)
  have hmanagers := h.any_group (show Role.MANAGER ≠ .PRIMARY_ADMIN from Role.noConfusion)
  unfold placeIn Firm.placeOf userPlace adminPlace
  rw [hadmins, hmanagers]

theorem Kept.eq_primaryAdmin (h : Kept founderId firm)
    (hprimary : firm.undeleted founderId = some primaryAdmin) {found : User}
    (hmem : found ∈ firm.undeletedUsers) (hrole : found.role = .PRIMARY_ADMIN) :
    found = primaryAdmin := by
  have huser := user_of_mem h.numbered (mem_undeletedUsers.mp hmem).1
  have hid : found._id = founderId := (h.member _ _ huser).role.mp hrole
  rw [hid] at huser
  exact Option.some.inj (huser.symm.trans (undeleted_eq_some.mp hprimary).1)

/-- The tree is that of the founder, whoever asks for it. -/
theorem Kept.find_primaryAdmin (h : Kept founderId firm)
    (hprimary : firm.undeleted founderId = some primaryAdmin)
    (hrole : primaryAdmin.role = .PRIMARY_ADMIN) (actorId : ℕ) :
    (firm.undeletedUsers.find? fun user =>
      user.role = .PRIMARY_ADMIN && user._id = actorId).or
        (firm.undeletedUsers.find? fun user => user.role = .PRIMARY_ADMIN) = some primaryAdmin := by
  obtain ⟨huser, hvisible⟩ := undeleted_eq_some.mp hprimary
  have hmem : primaryAdmin ∈ firm.undeletedUsers :=
    mem_undeletedUsers.mpr ⟨(mem_of_find huser).1, hvisible⟩
  cases hown : firm.undeletedUsers.find? fun user =>
      user.role = .PRIMARY_ADMIN && user._id = actorId with
  | some own =>
    have hown' := List.find?_some hown
    rw [Bool.and_eq_true, decide_eq_true_iff] at hown'
    rw [Option.some_or, h.eq_primaryAdmin hprimary (List.mem_of_find?_eq_some hown) hown'.1]
  | none =>
    rw [Option.none_or]
    cases hany : firm.undeletedUsers.find? fun user => user.role = .PRIMARY_ADMIN with
    | some found =>
      have hfound := List.find?_some hany
      rw [h.eq_primaryAdmin hprimary (List.mem_of_find?_eq_some hany) (of_decide_eq_true hfound)]
    | none => exact absurd (decide_eq_true hrole) (List.find?_eq_none.mp hany _ hmem)

end complete

end Docketra.Hierarchy
