import Docketra.Lib.Interleaving
import Docketra.Text

/-!
# Due notifications

A run of `processDocketDueNotifications` of `services/docketDueNotification.service.js` reads the
dockets with a due date, and notifies the recipients of each that is overdue or due soon. It looks
for the notification of a recipient first, and creates it in a later step when it has found none. So
a recipient is notified once exactly in the runs in which what a run has looked for is still missing
when it creates it (`due_notifications_sound_iff`), as it is when no two runs are between the two
steps for one notification (`fresh_of_apart`).

`createNotification` fails for any reason. Dockets, workbaskets, and users are written by others at
any time, and nothing else creates or removes a notification of these types. Times are in
milliseconds, and two due dates have one key when they are the same time.
-/

namespace Docketra.DueNotifications

open Interleaving Runs

/-- What the query for dockets reads, and the fields that it selects. The schema has neither
`isDeleted` nor `isArchived`, whose conditions a strict query drops. It trims the `caseId`, and the
firm is an ObjectId. -/
structure Docket where
  caseId : String
  firmId : String
  dueDate : Option ℤ
  status : String
  assignedToXID : Option String
  workbasketId : Option String
  deletedAt : Option ℤ
  caseId_ne : caseId ≠ ""
  caseId_trimmed : trim caseId = caseId
  firmId_trimmed : trim firmId = firmId

structure Team where
  id : String
  firmId : String
  isActive : Bool
  deriving DecidableEq, Repr

structure User where
  xID : String
  firmId : String
  status : String
  isActive : Bool
  teamIds : List String
  teamId : Option String
  deletedAt : Option ℤ
  deriving DecidableEq, Repr

inductive NotificationType where
  | docketDueSoon
  | docketOverdue
  deriving DecidableEq, Repr

/-- What a notification is looked for by. -/
structure Key where
  firmId : String
  userId : String
  docketId : Option String
  type : NotificationType
  dueDateKey : ℤ
  deriving DecidableEq, Repr

structure Notification where
  key : Key
  title : String
  message : String
  deriving DecidableEq, Repr

/-- A notification, and the docket that it was created for, as its run had read it. -/
structure Sent where
  docket : Docket
  notification : Notification

structure Store where
  dockets : List Docket
  teams : List Team
  users : List User
  sent : List Sent

def TERMINAL_STATUSES : List String :=
  ["RESOLVED", "FILED", "CANCELLED", "TERMINATED", "CLOSED", "ARCHIVED"]

def isTerminal (status : String) : Bool := TERMINAL_STATUSES.contains (toUpperCase status)

/-- The dockets that the query finds. -/
def isRead (docket : Docket) : Bool := docket.dueDate.isSome && docket.deletedAt.isNone

def isOverdue (dueDate now : ℤ) : Bool := dueDate ≤ now

/-- `isDueSoon`, for a window in milliseconds. -/
def isDueSoon (windowMs dueDate now : ℤ) : Bool := now < dueDate && dueDate ≤ now + windowMs

def dueType (windowMs dueDate now : ℤ) : Option NotificationType :=
  if isOverdue dueDate now then some .docketOverdue
  else if isDueSoon windowMs dueDate now then some .docketDueSoon
  else none

/-! ## Recipients -/

/-- `Team.findOne` finds the workbasket of a docket. -/
def hasWorkbasket (docket : Docket) (teams : List Team) : Bool :=
  teams.any fun team =>
    docket.workbasketId == some team.id && team.firmId == docket.firmId && team.isActive

/-- The active members of the workbasket of a docket. -/
def isMember (docket : Docket) (user : User) : Bool :=
  user.firmId == docket.firmId && user.status != "deleted" && user.isActive &&
    user.deletedAt.isNone && docket.workbasketId.any fun workbasketId =>
      user.teamIds.contains workbasketId || user.teamId == some workbasketId

def memberXIDs (docket : Docket) (users : List User) : List String :=
  ((users.filter (isMember docket)).map fun user => castXID user.xID).filter (· != "")

/-- What `resolveRecipientsForDocket` returns when its queries find these teams and users. -/
def resolveRecipientsForDocket (docket : Docket) (teams : List Team) (users : List User) :
    List String :=
  -- The assignee alone is notified, if there is one.
  if truthy docket.assignedToXID then [castXID (docket.assignedToXID.getD "")]
  else if docket.workbasketId.isNone then []
  else if hasWorkbasket docket teams then memberXIDs docket users
  else []

/-! ## Notifications -/

/-- A docket that is overdue or due soon. -/
structure Notice where
  docket : Docket
  dueDate : ℤ
  type : NotificationType

/-- What `hasExistingDueNotification` asks for, as the schema of notifications casts it. -/
def Notice.asked (notice : Notice) (userId : String) : Key where
  firmId := notice.docket.firmId
  userId := castXID userId
  docketId := some (trim notice.docket.caseId)
  type := notice.type
  dueDateKey := notice.dueDate

def hasExistingDueNotification (sent : List Sent) (key : Key) : Bool :=
  sent.any fun s => s.notification.key == key

/-- What `createNotification` creates when it finds the recipient, and nothing when it refuses what
it is given. -/
def Notice.normalizePayload (notice : Notice) (userId : String) : Option Notification :=
  if castXID userId = "" ∨ trim notice.docket.firmId = "" then none
  else some {
    key := {
      firmId := trim notice.docket.firmId
      userId := castXID userId
      -- As the check asks for it, since a stored `caseId` is trimmed and not empty.
      docketId := if notice.docket.caseId = "" then none else some (trim notice.docket.caseId)
      type := notice.type
      dueDateKey := notice.dueDate }
    title := if notice.type = .docketDueSoon then "Docket due soon" else "Docket overdue"
    message :=
      if notice.type = .docketDueSoon then "Docket " ++ notice.docket.caseId ++ " is due soon."
      else "Docket " ++ notice.docket.caseId ++ " is overdue." }

def Store.send (s : Store) (docket : Docket) (notification : Notification) : Store :=
  { s with sent := ⟨docket, notification⟩ :: s.sent }

/-! ## Runs of the job -/

/-- A docket whose recipients a run has resolved, and what its queries have found. -/
structure Visit where
  docket : Docket
  teams : List Team
  users : List User

def Visit.recipients (v : Visit) : List String :=
  resolveRecipientsForDocket v.docket v.teams v.users

/-- What a run has read, whom it has resolved, and the notifications that could not be created. -/
structure Run where
  now : ℤ
  dockets : List Docket
  visits : List Visit
  refused : List Key

def Run.visit (run : Run) (visit : Visit) : Run := { run with visits := visit :: run.visits }

def Run.refuse (run : Run) (key : Key) : Run := { run with refused := key :: run.refused }

/-- The await that a run has come to, with what is left of its two loops. -/
inductive Phase where
  | idle
  | called (now : ℤ)
  | findingTeam (run : Run) (docket : Docket) (dueDate : ℤ) (rest : List Docket)
  | findingUsers (run : Run) (docket : Docket) (dueDate : ℤ) (teams : List Team)
      (rest : List Docket)
  | checking (run : Run) (notice : Notice) (userId : String) (later : List String)
      (rest : List Docket)
  | creating (run : Run) (notice : Notice) (userId : String) (later : List String)
      (rest : List Docket)
  | done (run : Run)
  | failed

/-- The loop over the recipients, which is not entered when there is nothing to send. -/
def notify (windowMs : ℤ) (run : Run) (docket : Docket) (dueDate : ℤ) (rest : List Docket)
    (next : Phase) : List String → Phase
  | [] => next
  | userId :: later =>
    match dueType windowMs dueDate run.now with
    | none => next
    | some type => .checking run ⟨docket, dueDate, type⟩ userId later rest

/-- The loop over the dockets, up to its next await. -/
def nextDocket (windowMs : ℤ) (run : Run) : List Docket → Phase
  | [] => .done run
  | docket :: rest =>
    if isTerminal docket.status then nextDocket windowMs run rest
    else
      match docket.dueDate with
      | none => nextDocket windowMs run rest
      | some dueDate =>
        -- These two cases of `resolveRecipientsForDocket` do not read the database.
        if truthy docket.assignedToXID || docket.workbasketId.isNone then
          notify windowMs (run.visit ⟨docket, [], []⟩) docket dueDate rest
            (nextDocket windowMs (run.visit ⟨docket, [], []⟩) rest)
            (resolveRecipientsForDocket docket [] [])
        else .findingTeam run docket dueDate rest

def nextRecipient (windowMs : ℤ) (run : Run) (notice : Notice) (rest : List Docket) :
    List String → Phase
  | [] => nextDocket windowMs run rest
  | userId :: later => .checking run notice userId later rest

inductive Action where
  | call (now : ℤ)
  | findDockets
  | findTeam
  | findUsers
  | check
  | create
  | fail

/-- The steps of a run. -/
def act (windowMs : ℤ) (_ : ℕ) : Action → Store → Phase → Option (Store × Phase)
  | .call now, s, .idle => some (s, .called now)
  | .findDockets, s, .called now =>
    some (s, nextDocket windowMs ⟨now, s.dockets.filter isRead, [], []⟩ (s.dockets.filter isRead))
  | .findTeam, s, .findingTeam run docket dueDate rest =>
    if hasWorkbasket docket s.teams then some (s, .findingUsers run docket dueDate s.teams rest)
    else some (s, nextDocket windowMs (run.visit ⟨docket, s.teams, []⟩) rest)
  | .findUsers, s, .findingUsers run docket dueDate teams rest =>
    some (s, notify windowMs (run.visit ⟨docket, teams, s.users⟩) docket dueDate rest
      (nextDocket windowMs (run.visit ⟨docket, teams, s.users⟩) rest) (memberXIDs docket s.users))
  | .check, s, .checking run notice userId later rest =>
    if hasExistingDueNotification s.sent (notice.asked userId) then
      some (s, nextRecipient windowMs run notice rest later)
    else some (s, .creating run notice userId later rest)
  | .create, s, .creating run notice userId later rest =>
    (notice.normalizePayload userId).map fun notification =>
      (s.send notice.docket notification, nextRecipient windowMs run notice rest later)
  -- The loop catches what the check and the creation throw, and nothing else.
  | .fail, s, .checking run notice userId later rest
  | .fail, s, .creating run notice userId later rest =>
    some (s, nextRecipient windowMs (run.refuse (notice.asked userId)) notice rest later)
  -- The queries of the run are not in the loop's `try`.
  | .fail, s, .called _
  | .fail, s, .findingTeam _ _ _ _
  | .fail, s, .findingUsers _ _ _ _ _ => some (s, .failed)
  | _, _, _ => none

/-- Others write the dockets, the workbaskets, and the users. -/
inductive Other where
  | write (dockets : List Docket) (teams : List Team) (users : List User)

def other : Other → Store → Store
  | .write dockets teams users, s => { s with dockets := dockets, teams := teams, users := users }

def program (windowMs : ℤ) : Program Store Phase Action Other where
  act := act windowMs
  other := other

/-- Before any run. -/
def initial (dockets : List Docket) (teams : List Team) (users : List User) :
    System Store Phase where
  stored := ⟨dockets, teams, users, []⟩
  phase _ := .idle

/-! ## What is asked -/

def Store.keys (s : Store) : List Key := s.sent.map (·.notification.key)

/-- A notification is there, or could not be created. -/
def Reached (s : Store) (run : Run) (key : Key) : Prop := key ∈ s.keys ∨ key ∈ run.refused

/-- The run has resolved the recipients of a docket that it has read as overdue and not terminal, and
has reached each of them. -/
def Served (s : Store) (run : Run) (docket : Docket) : Prop :=
  ∀ dueDate, isTerminal docket.status = false → docket.dueDate = some dueDate →
    isOverdue dueDate run.now = true →
      ∃ visit ∈ run.visits, visit.docket = docket ∧ ∀ userId ∈ visit.recipients,
        Reached s run (Notice.asked ⟨docket, dueDate, .docketOverdue⟩ userId)

/-- A recipient has one notification of a docket, type, and due date, no docket was read as terminal,
and a run that is done has served what it has read. -/
structure Sound (t : System Store Phase) : Prop where
  once : t.stored.keys.Nodup
  live : ∀ sent ∈ t.stored.sent, isTerminal sent.docket.status = false
  served : ∀ r run, t.phase r = .done run → ∀ docket ∈ run.dockets, Served t.stored run docket

/-- What a run has looked for is still missing when it creates it. -/
def Fresh : Event Action Other → System Store Phase → Prop
  | .act r .create, s =>
    ∀ run notice userId later rest, s.phase r = .creating run notice userId later rest →
      (notice.normalizePayload userId).isSome →
        hasExistingDueNotification s.stored.sent (notice.asked userId) = false
  | _, _ => True

/-- The notification that a run is about to create. -/
def creatingKey : Phase → Option Key
  | .creating _ notice userId _ _ => some (notice.asked userId)
  | _ => none

/-- A run that looks for a notification does so while no other is about to create it. -/
def Apart : Event Action Other → System Store Phase → Prop
  | .act r .check, s =>
    ∀ run notice userId later rest, s.phase r = .checking run notice userId later rest →
      ∀ r', r' ≠ r → creatingKey (s.phase r') ≠ some (notice.asked userId)
  | _, _ => True

/-! ## The notifications -/

theorem Notice.key_eq_asked {notice : Notice} {userId : String} {notification : Notification}
    (h : notice.normalizePayload userId = some notification) :
    notification.key = notice.asked userId := by
  unfold Notice.normalizePayload at h
  rw [if_neg notice.docket.caseId_ne, notice.docket.firmId_trimmed] at h
  by_cases hrefused : castXID userId = "" ∨ notice.docket.firmId = ""
  · rw [if_pos hrefused] at h
    cases h
  · rw [if_neg hrefused, Option.some_inj] at h
    exact (congrArg Notification.key h).symm

theorem hasExistingDueNotification_iff (s : Store) (key : Key) :
    hasExistingDueNotification s.sent key = true ↔ key ∈ s.keys := by
  simp [hasExistingDueNotification, Store.keys]

theorem hasExistingDueNotification_eq_false_iff (s : Store) (key : Key) :
    hasExistingDueNotification s.sent key = false ↔ key ∉ s.keys := by
  rw [← hasExistingDueNotification_iff, Bool.not_eq_true]

theorem dueType_of_isOverdue {windowMs dueDate now : ℤ} (h : isOverdue dueDate now = true) :
    dueType windowMs dueDate now = some .docketOverdue := if_pos h

/-! ## What a run has served -/

/-- One store has all the notifications of another, and one run has all that another has resolved and
been refused, of the same dockets at the same time. -/
structure Grows (s s' : Store) (run run' : Run) : Prop where
  keys : ∀ key ∈ s.keys, key ∈ s'.keys
  now : run'.now = run.now
  dockets : run'.dockets = run.dockets
  visits : ∀ visit ∈ run.visits, visit ∈ run'.visits
  refused : ∀ key ∈ run.refused, key ∈ run'.refused

theorem Reached.grows {s s' : Store} {run run' : Run} {key : Key} (h : Reached s run key)
    (hg : Grows s s' run run') : Reached s' run' key :=
  h.imp (hg.keys key) (hg.refused key)

theorem Served.grows {s s' : Store} {run run' : Run} {docket : Docket} (h : Served s run docket)
    (hg : Grows s s' run run') : Served s' run' docket := by
  intro dueDate hlive hdue hover
  rw [hg.now] at hover
  obtain ⟨visit, hvisit, hdocket, hreached⟩ := h dueDate hlive hdue hover
  exact ⟨visit, hg.visits visit hvisit, hdocket,
    fun userId huser => (hreached userId huser).grows hg⟩

theorem grows_visit (s : Store) (run : Run) (visit : Visit) : Grows s s run (run.visit visit) :=
  ⟨fun _ h => h, rfl, rfl, fun _ => List.mem_cons_of_mem _, fun _ h => h⟩

theorem grows_refuse (s : Store) (run : Run) (key : Key) : Grows s s run (run.refuse key) :=
  ⟨fun _ h => h, rfl, rfl, fun _ h => h, fun _ => List.mem_cons_of_mem _⟩

theorem grows_send (s : Store) (run : Run) (docket : Docket) (notification : Notification) :
    Grows s (s.send docket notification) run run :=
  ⟨fun _ => List.mem_cons_of_mem _, rfl, rfl, fun _ h => h, fun _ h => h⟩

/-- The run has served what it has read, up to the dockets that are left. -/
def Through (s : Store) (run : Run) (rest : List Docket) : Prop :=
  ∀ docket ∈ run.dockets, docket ∈ rest ∨ Served s run docket

theorem Through.grows {s s' : Store} {run run' : Run} {rest : List Docket} (h : Through s run rest)
    (hg : Grows s s' run run') : Through s' run' rest := by
  intro docket hdocket
  rw [hg.dockets] at hdocket
  exact (h docket hdocket).imp_right fun hserved => hserved.grows hg

/-- A docket that is served is left behind. -/
theorem Through.leave {s : Store} {run : Run} {docket : Docket} {rest : List Docket}
    (h : Through s run (docket :: rest)) (hserved : Served s run docket) : Through s run rest := by
  intro other hother
  rcases h other hother with hleft | hserved'
  · rcases List.mem_cons.mp hleft with rfl | hrest
    · exact Or.inr hserved
    · exact Or.inl hrest
  · exact Or.inr hserved'

/-- A docket has to be served: it is not terminal, and has a due date. -/
structure Due (docket : Docket) (dueDate : ℤ) : Prop where
  live : isTerminal docket.status = false
  dueDate : docket.dueDate = some dueDate

/-- A docket is served when its recipients have been resolved, and each has been reached if it is
overdue. -/
theorem Due.served {s : Store} {run : Run} {docket : Docket} {dueDate : ℤ}
    (h : Due docket dueDate) {visit : Visit} (hvisit : visit ∈ run.visits)
    (hdocket : visit.docket = docket)
    (hreached : isOverdue dueDate run.now = true → ∀ userId ∈ visit.recipients,
      Reached s run (Notice.asked ⟨docket, dueDate, .docketOverdue⟩ userId)) :
    Served s run docket := by
  intro dueDate' _ hdue hover
  rw [h.dueDate, Option.some_inj] at hdue
  subst hdue
  exact ⟨visit, hvisit, hdocket, hreached hover⟩

/-- The run is about to notify a recipient: the recipients before have been reached. -/
structure Notifying (windowMs : ℤ) (s : Store) (run : Run) (notice : Notice)
    (recipients : List String) (rest : List Docket) : Prop where
  through : Through s run (notice.docket :: rest)
  due : Due notice.docket notice.dueDate
  type : dueType windowMs notice.dueDate run.now = some notice.type
  visit : ∃ visit ∈ run.visits, visit.docket = notice.docket ∧ ∀ userId ∈ visit.recipients,
    userId ∈ recipients ∨ Reached s run (notice.asked userId)

theorem Notifying.grows {windowMs : ℤ} {s s' : Store} {run run' : Run} {notice : Notice}
    {recipients : List String} {rest : List Docket}
    (h : Notifying windowMs s run notice recipients rest) (hg : Grows s s' run run') :
    Notifying windowMs s' run' notice recipients rest := by
  obtain ⟨visit, hvisit, hdocket, hreached⟩ := h.visit
  refine ⟨h.through.grows hg, h.due, ?_, visit, hg.visits visit hvisit, hdocket, ?_⟩
  · rw [hg.now]
    exact h.type
  · intro userId huser
    exact (hreached userId huser).imp_right fun hr => hr.grows hg

/-- The recipient has been reached. -/
theorem Notifying.leave {windowMs : ℤ} {s : Store} {run : Run} {notice : Notice} {userId : String}
    {later : List String} {rest : List Docket}
    (h : Notifying windowMs s run notice (userId :: later) rest)
    (hreached : Reached s run (notice.asked userId)) :
    Notifying windowMs s run notice later rest := by
  obtain ⟨visit, hvisit, hdocket, hall⟩ := h.visit
  refine ⟨h.through, h.due, h.type, visit, hvisit, hdocket, fun userId' huser => ?_⟩
  rcases hall userId' huser with hleft | hreached'
  · rcases List.mem_cons.mp hleft with rfl | hlater
    · exact Or.inr hreached
    · exact Or.inl hlater
  · exact Or.inr hreached'

/-- The recipient is refused. -/
theorem Notifying.refuse {windowMs : ℤ} {s : Store} {run : Run} {notice : Notice} {userId : String}
    {later : List String} {rest : List Docket}
    (h : Notifying windowMs s run notice (userId :: later) rest) :
    Notifying windowMs s (run.refuse (notice.asked userId)) notice later rest :=
  (h.grows (grows_refuse s run (notice.asked userId))).leave (Or.inr List.mem_cons_self)

/-- Every recipient has been reached. -/
theorem Notifying.served {windowMs : ℤ} {s : Store} {run : Run} {notice : Notice}
    {rest : List Docket} (h : Notifying windowMs s run notice [] rest) :
    Served s run notice.docket := by
  obtain ⟨visit, hvisit, hdocket, hall⟩ := h.visit
  refine h.due.served hvisit hdocket fun hover userId huser => ?_
  have htype := h.type
  rw [dueType_of_isOverdue hover, Option.some_inj] at htype
  rw [htype]
  exact (hall userId huser).resolve_left List.not_mem_nil

/-! ## The invariant -/

structure StoreInv (s : Store) : Prop where
  once : s.keys.Nodup
  live : ∀ sent ∈ s.sent, isTerminal sent.docket.status = false

/-- What a run has come to. -/
def PhaseInv (windowMs : ℤ) (s : Store) : Phase → Prop
  | .findingTeam run docket dueDate rest =>
    Through s run (docket :: rest) ∧ Due docket dueDate ∧ truthy docket.assignedToXID = false ∧
      docket.workbasketId.isNone = false
  | .findingUsers run docket dueDate teams rest =>
    Through s run (docket :: rest) ∧ Due docket dueDate ∧ truthy docket.assignedToXID = false ∧
      docket.workbasketId.isNone = false ∧ hasWorkbasket docket teams = true
  | .checking run notice userId later rest
  | .creating run notice userId later rest =>
    Notifying windowMs s run notice (userId :: later) rest
  | .done run => Through s run []
  | .idle | .called _ | .failed => True

theorem phaseInv_notify {windowMs : ℤ} {s : Store} {run : Run} {docket : Docket} {dueDate : ℤ}
    {rest : List Docket} {next : Phase} {visit : Visit} (hthrough : Through s run (docket :: rest))
    (hdue : Due docket dueDate) (hvisit : visit ∈ run.visits) (hdocket : visit.docket = docket)
    (hnext : Through s run rest → PhaseInv windowMs s next) :
    PhaseInv windowMs s (notify windowMs run docket dueDate rest next visit.recipients) := by
  unfold notify
  split
  · next hnone =>
    refine hnext (hthrough.leave (hdue.served hvisit hdocket fun _ userId huser => ?_))
    rw [hnone] at huser
    exact absurd huser List.not_mem_nil
  · next userId later hsome =>
    split
    · next htype =>
      refine hnext (hthrough.leave (hdue.served hvisit hdocket fun hover => ?_))
      rw [dueType_of_isOverdue hover] at htype
      cases htype
    · next type htype =>
      exact ⟨hthrough, hdue, htype, visit, hvisit, hdocket,
        fun userId' huser => Or.inl (hsome ▸ huser)⟩

/-- By induction on the dockets that are left, as the loop goes through them. -/
theorem phaseInv_nextDocket (windowMs : ℤ) {s : Store} {run : Run} {rest : List Docket}
    (h : Through s run rest) : PhaseInv windowMs s (nextDocket windowMs run rest) := by
  induction rest generalizing run with
  | nil => exact h
  | cons docket rest ih =>
    unfold nextDocket
    by_cases hterminal : isTerminal docket.status = true
    · rw [if_pos hterminal]
      refine ih (h.leave fun _ hlive _ _ => ?_)
      rw [hterminal] at hlive
      cases hlive
    · rw [if_neg hterminal]
      split
      · next hnone =>
        refine ih (h.leave fun _ _ hdue _ => ?_)
        rw [hnone] at hdue
        cases hdue
      · next dueDate hsome =>
        have hdue : Due docket dueDate := ⟨(Bool.not_eq_true _).mp hterminal, hsome⟩
        by_cases hread : (truthy docket.assignedToXID || docket.workbasketId.isNone) = true
        · rw [if_pos hread]
          exact @phaseInv_notify _ _ _ _ _ _ _ ⟨docket, [], []⟩ (h.grows (grows_visit s run _)) hdue
            List.mem_cons_self rfl ih
        · rw [if_neg hread]
          rw [Bool.or_eq_true, not_or, Bool.not_eq_true, Bool.not_eq_true] at hread
          exact ⟨h, hdue, hread.1, hread.2⟩

theorem phaseInv_nextRecipient {windowMs : ℤ} {s : Store} {run : Run} {notice : Notice}
    {later : List String} {rest : List Docket}
    (h : Notifying windowMs s run notice later rest) :
    PhaseInv windowMs s (nextRecipient windowMs run notice rest later) := by
  unfold nextRecipient
  split
  · exact phaseInv_nextDocket windowMs (h.through.leave h.served)
  · exact h

/-! ## Steps -/

/-- A phase that has come about stays so when notifications are sent. -/
theorem PhaseInv.grows {windowMs : ℤ} {s s' : Store} {p : Phase} (h : PhaseInv windowMs s p)
    (hkeys : ∀ key ∈ s.keys, key ∈ s'.keys) : PhaseInv windowMs s' p := by
  have hgrows : ∀ run, Grows s s' run run := fun run => ⟨hkeys, rfl, rfl, fun _ h => h, fun _ h => h⟩
  cases p with
  | findingTeam run => exact ⟨h.1.grows (hgrows run), h.2⟩
  | findingUsers run => exact ⟨h.1.grows (hgrows run), h.2⟩
  | checking run => exact Notifying.grows h (hgrows run)
  | creating run => exact Notifying.grows h (hgrows run)
  | done run => exact Through.grows h (hgrows run)
  | _ => trivial

theorem creatingKey_notify (windowMs : ℤ) (run : Run) (docket : Docket) (dueDate : ℤ)
    (rest : List Docket) {next : Phase} (recipients : List String) (h : creatingKey next = none) :
    creatingKey (notify windowMs run docket dueDate rest next recipients) = none := by
  unfold notify
  split
  · exact h
  · split
    · exact h
    · rfl

theorem creatingKey_nextDocket (windowMs : ℤ) (run : Run) (rest : List Docket) :
    creatingKey (nextDocket windowMs run rest) = none := by
  induction rest generalizing run with
  | nil => rfl
  | cons docket rest ih =>
    unfold nextDocket
    split
    · exact ih run
    · split
      · exact ih run
      · split
        · exact creatingKey_notify windowMs _ docket _ rest _ (ih _)
        · rfl

theorem creatingKey_nextRecipient (windowMs : ℤ) (run : Run) (notice : Notice)
    (rest : List Docket) (later : List String) :
    creatingKey (nextRecipient windowMs run notice rest later) = none := by
  unfold nextRecipient
  split
  · exact creatingKey_nextDocket windowMs run rest
  · rfl

/-- A step of a run finds that a notification is missing, creates the one that it has come to, or
moves on. -/
inductive Effect (windowMs : ℤ) (s : Store) (p : Phase) : Action → Store → Phase → Prop where
  | moves {action : Action} {q : Phase} (hq : PhaseInv windowMs s q) (hkey : creatingKey q = none) :
    Effect windowMs s p action s q
  | misses {run : Run} {notice : Notice} {userId : String} {later : List String}
    {rest : List Docket} (hp : p = .checking run notice userId later rest)
    (hmissing : hasExistingDueNotification s.sent (notice.asked userId) = false) :
    Effect windowMs s p .check s (.creating run notice userId later rest)
  | sends {run : Run} {notice : Notice} {userId : String} {later : List String}
    {rest : List Docket} {notification : Notification} {q : Phase}
    (hp : p = .creating run notice userId later rest)
    (hcreated : notice.normalizePayload userId = some notification)
    (hq : PhaseInv windowMs (s.send notice.docket notification) q) (hkey : creatingKey q = none) :
    Effect windowMs s p .create (s.send notice.docket notification) q

theorem mem_keys_send (s : Store) (docket : Docket) (notification : Notification) :
    notification.key ∈ (s.send docket notification).keys := List.mem_cons_self

theorem resolve_of_findTeam {docket : Docket} {teams : List Team} (users : List User)
    (hassigned : truthy docket.assignedToXID = false)
    (hbasket : docket.workbasketId.isNone = false) :
    resolveRecipientsForDocket docket teams users =
      if hasWorkbasket docket teams then memberXIDs docket users else [] := by
  rw [resolveRecipientsForDocket, if_neg (by simp [hassigned]), if_neg (by simp [hbasket])]

/-- A docket whose workbasket is not there has nobody to notify. -/
theorem phaseInv_without_team {windowMs : ℤ} {s : Store} {run : Run} {docket : Docket} {dueDate : ℤ}
    {rest : List Docket} (h : PhaseInv windowMs s (.findingTeam run docket dueDate rest))
    (hteam : ¬hasWorkbasket docket s.teams = true) :
    PhaseInv windowMs s (nextDocket windowMs (run.visit ⟨docket, s.teams, []⟩) rest) := by
  obtain ⟨hthrough, hdue, hassigned, hbasket⟩ := h
  have hnone : (Visit.mk docket s.teams []).recipients = [] := by
    rw [Visit.recipients, resolve_of_findTeam [] hassigned hbasket, if_neg hteam]
  have hgrown := hthrough.grows (grows_visit s run ⟨docket, s.teams, []⟩)
  refine phaseInv_nextDocket windowMs (hgrown.leave ?_)
  refine hdue.served List.mem_cons_self rfl fun _ userId huser => ?_
  rw [hnone] at huser
  exact absurd huser List.not_mem_nil

/-- The members of its workbasket are those to notify. -/
theorem phaseInv_members {windowMs : ℤ} {s : Store} {run : Run} {docket : Docket} {dueDate : ℤ}
    {teams : List Team} {rest : List Docket}
    (h : PhaseInv windowMs s (.findingUsers run docket dueDate teams rest)) :
    PhaseInv windowMs s (notify windowMs (run.visit ⟨docket, teams, s.users⟩) docket dueDate rest
      (nextDocket windowMs (run.visit ⟨docket, teams, s.users⟩) rest)
      (memberXIDs docket s.users)) := by
  obtain ⟨hthrough, hdue, hassigned, hbasket, hteam⟩ := h
  have hmembers : memberXIDs docket s.users = (Visit.mk docket teams s.users).recipients := by
    rw [Visit.recipients, resolve_of_findTeam s.users hassigned hbasket, if_pos hteam]
  rw [hmembers]
  exact phaseInv_notify (hthrough.grows (grows_visit s run _)) hdue List.mem_cons_self rfl
    (phaseInv_nextDocket windowMs)

/-- A recipient whose notification is created is reached. -/
theorem phaseInv_sent {windowMs : ℤ} {s : Store} {run : Run} {notice : Notice} {userId : String}
    {later : List String} {rest : List Docket} {notification : Notification}
    (h : Notifying windowMs s run notice (userId :: later) rest)
    (hcreated : notice.normalizePayload userId = some notification) :
    PhaseInv windowMs (s.send notice.docket notification)
      (nextRecipient windowMs run notice rest later) := by
  have hreached : Reached (s.send notice.docket notification) run (notice.asked userId) :=
    Or.inl (Notice.key_eq_asked hcreated ▸ mem_keys_send s _ notification)
  have hgrown := Notifying.grows h (grows_send s run notice.docket notification)
  exact phaseInv_nextRecipient (hgrown.leave hreached)

theorem act_effect {windowMs : ℤ} (r : ℕ) {action : Action} {s s' : Store} {p p' : Phase}
    (h : PhaseInv windowMs s p) (hact : act windowMs r action s p = some (s', p')) :
    Effect windowMs s p action s' p' := by
  unfold act at hact
  split at hact
  · cases hact
    exact .moves trivial rfl
  · cases hact
    exact .moves (phaseInv_nextDocket windowMs fun docket hdocket => Or.inl hdocket)
      (creatingKey_nextDocket windowMs _ _)
  · next run docket dueDate rest =>
    split_ifs at hact with hteam
    · cases hact
      obtain ⟨hthrough, hdue, hassigned, hbasket⟩ := h
      exact .moves ⟨hthrough, hdue, hassigned, hbasket, hteam⟩ rfl
    · cases hact
      exact .moves (phaseInv_without_team h hteam) (creatingKey_nextDocket windowMs _ rest)
  · next run docket dueDate teams rest =>
    cases hact
    exact .moves (phaseInv_members h)
      (creatingKey_notify windowMs _ docket dueDate rest _ (creatingKey_nextDocket windowMs _ rest))
  · next run notice userId later rest =>
    split_ifs at hact with hexists
    · cases hact
      rw [hasExistingDueNotification_iff] at hexists
      exact .moves (phaseInv_nextRecipient (Notifying.leave h (Or.inl hexists)))
        (creatingKey_nextRecipient windowMs run notice rest later)
    · cases hact
      exact .misses rfl ((Bool.not_eq_true _).mp hexists)
  · next run notice userId later rest =>
    rw [Option.map_eq_some_iff] at hact
    obtain ⟨notification, hcreated, heq⟩ := hact
    cases heq
    exact .sends rfl hcreated (phaseInv_sent h hcreated)
      (creatingKey_nextRecipient windowMs run notice rest later)
  · next run notice userId later rest =>
    cases hact
    exact .moves (phaseInv_nextRecipient (Notifying.refuse h))
      (creatingKey_nextRecipient windowMs _ notice rest later)
  · next run notice userId later rest =>
    cases hact
    exact .moves (phaseInv_nextRecipient (Notifying.refuse h))
      (creatingKey_nextRecipient windowMs _ notice rest later)
  · cases hact
    exact .moves trivial rfl
  · cases hact
    exact .moves trivial rfl
  · cases hact
    exact .moves trivial rfl
  · cases hact

theorem program_act (windowMs : ℤ) : (program windowMs).act = act windowMs := rfl

theorem act_create (windowMs : ℤ) (r : ℕ) (s : Store) (run : Run) {notice : Notice}
    {userId : String} (later : List String) (rest : List Docket) {notification : Notification}
    (h : notice.normalizePayload userId = some notification) :
    act windowMs r .create s (.creating run notice userId later rest) =
      some (s.send notice.docket notification, nextRecipient windowMs run notice rest later) := by
  simp only [act, h, Option.map_some]

def assertions (windowMs : ℤ) : Assertions Store Phase where
  store := StoreInv
  own _ := PhaseInv windowMs
  both _ _ := True

/-- Creating a notification keeps the recipients notified once exactly when it is missing. -/
theorem nodup_send_iff {s : Store} (h : s.keys.Nodup) (docket : Docket)
    (notification : Notification) :
    (s.send docket notification).keys.Nodup ↔
      hasExistingDueNotification s.sent notification.key = false := by
  rw [hasExistingDueNotification_eq_false_iff]
  show (notification.key :: s.keys).Nodup ↔ _
  rw [List.nodup_cons, and_iff_left h]

theorem StoreInv.send {s : Store} (h : StoreInv s) {docket : Docket} {notification : Notification}
    (hlive : isTerminal docket.status = false)
    (hfresh : hasExistingDueNotification s.sent notification.key = false) :
    StoreInv (s.send docket notification) := by
  refine ⟨(nodup_send_iff h.once docket notification).mpr hfresh, fun sent hsent => ?_⟩
  rcases List.mem_cons.mp hsent with rfl | hsent
  · exact hlive
  · exact h.live sent hsent

theorem holds_step (windowMs : ℤ) (event : Event Action Other) (s : System Store Phase)
    (h : Holds (assertions windowMs) s) (hok : Fresh event s) :
    Holds (assertions windowMs) (step (program windowMs) event s) := by
  cases event with
  | other event =>
    cases event with
    | write => exact h.other ⟨h.store.once, h.store.live⟩ fun r => (h.own r).grows fun _ hkey => hkey
  | act r action =>
    refine h.act fun result hresult => ?_
    obtain ⟨s', p'⟩ := result
    have hphase : PhaseInv windowMs s.stored (s.phase r) := h.own r
    cases act_effect r hphase hresult with
    | moves hq => exact ⟨h.store, hq, fun r' _ => h.own r', fun _ _ => ⟨trivial, trivial⟩⟩
    | misses hp =>
      rw [hp] at hphase
      exact ⟨h.store, hphase, fun r' _ => h.own r', fun _ _ => ⟨trivial, trivial⟩⟩
    | @sends run notice userId later rest notification _ hp hcreated hq =>
      have hfresh := hok run notice userId later rest hp (by rw [hcreated]; rfl)
      rw [← Notice.key_eq_asked hcreated] at hfresh
      rw [hp] at hphase
      exact ⟨h.store.send hphase.due.live hfresh, hq,
        fun r' _ => (h.own r').grows fun _ => List.mem_cons_of_mem _,
        fun _ _ => ⟨trivial, trivial⟩⟩

theorem sound_of_holds {windowMs : ℤ} {s : System Store Phase} (h : Holds (assertions windowMs) s) :
    Sound s := by
  refine ⟨h.store.once, h.store.live, fun r run hdone docket hdocket => ?_⟩
  have hphase : PhaseInv windowMs s.stored (s.phase r) := h.own r
  rw [hdone] at hphase
  exact (hphase docket hdocket).resolve_left List.not_mem_nil

/-- A step is sound exactly when what it creates is missing. -/
theorem sound_step_iff (windowMs : ℤ) (event : Event Action Other) (s : System Store Phase)
    (h : Holds (assertions windowMs) s) :
    Sound (step (program windowMs) event s) ↔ Fresh event s := by
  refine ⟨fun hsound => ?_, fun hok => sound_of_holds (holds_step windowMs event s h hok)⟩
  cases event with
  | other event => trivial
  | act r action =>
    cases action with
    | create =>
      intro run notice userId later rest hp hsome
      obtain ⟨notification, hcreated⟩ := Option.isSome_iff_exists.mp hsome
      have hact : (program windowMs).act r .create s.stored (s.phase r) =
          some (s.stored.send notice.docket notification,
            nextRecipient windowMs run notice rest later) := by
        rw [program_act, hp, act_create windowMs r s.stored run later rest hcreated]
      have honce := hsound.once
      rw [step_act hact] at honce
      rw [← Notice.key_eq_asked hcreated]
      exact (nodup_send_iff h.store.once _ _).mp honce
    | _ => trivial

theorem holds_initial (windowMs : ℤ) (dockets : List Docket) (teams : List Team)
    (users : List User) : Holds (assertions windowMs) (initial dockets teams users) :=
  ⟨⟨List.nodup_nil, fun _ hsent => absurd hsent List.not_mem_nil⟩, fun _ => trivial,
    fun _ _ _ => trivial⟩

/-- **Every state of a run of the system is sound exactly when a notification is still missing
whenever it is created.** -/
theorem due_notifications_sound_iff (windowMs : ℤ) (dockets : List Docket) (teams : List Team)
    (users : List User) (events : List (Event Action Other)) :
    (∀ t ∈ states (step (program windowMs)) events (initial dockets teams users), Sound t) ↔
      Admits (step (program windowMs)) Fresh events (initial dockets teams users) :=
  states_forall_iff (holds_step windowMs) (sound_step_iff windowMs) events _
    (holds_initial windowMs dockets teams users)

/-! ## Runs that keep apart -/

/-- What a run is about to create is missing. -/
def Missing (s : Store) (p : Phase) : Prop :=
  ∀ key, creatingKey p = some key → hasExistingDueNotification s.sent key = false

/-- Two runs are not about to create the same. -/
def Differ (p p' : Phase) : Prop := ∀ key, creatingKey p = some key → creatingKey p' ≠ some key

def apartAssertions (windowMs : ℤ) : Assertions Store Phase where
  store := StoreInv
  own _ s p := PhaseInv windowMs s p ∧ Missing s p
  both := Differ

theorem differ_of_none {p : Phase} (h : creatingKey p = none) (p' : Phase) :
    Differ p p' ∧ Differ p' p := by
  constructor
  · intro key hkey
    rw [h] at hkey
    cases hkey
  · intro key _
    rw [h]
    exact nofun

theorem missing_of_none {s : Store} {p : Phase} (h : creatingKey p = none) : Missing s p := by
  intro key hkey
  rw [h] at hkey
  cases hkey

theorem fresh_of_missing {s : System Store Phase} (h : ∀ r, Missing s.stored (s.phase r))
    (event : Event Action Other) : Fresh event s := by
  cases event with
  | other event => trivial
  | act r action =>
    cases action with
    | create =>
      intro run notice userId later rest hp _
      exact h r _ (by rw [hp]; rfl)
    | _ => trivial

theorem Missing.send {s : Store} {p : Phase} (h : Missing s p) {docket : Docket}
    {notification : Notification} (hne : creatingKey p ≠ some notification.key) :
    Missing (s.send docket notification) p := by
  intro key hkey
  have hold := h key hkey
  rw [hasExistingDueNotification_eq_false_iff] at hold ⊢
  show key ∉ notification.key :: s.keys
  rw [List.mem_cons, not_or]
  exact ⟨fun heq => hne (heq ▸ hkey), hold⟩

theorem apart_step (windowMs : ℤ) (event : Event Action Other) (s : System Store Phase)
    (h : Holds (apartAssertions windowMs) s) (hok : Apart event s) :
    Holds (apartAssertions windowMs) (step (program windowMs) event s) := by
  cases event with
  | other event =>
    cases event with
    | write =>
      exact h.other ⟨h.store.once, h.store.live⟩ fun r =>
        ⟨(h.own r).1.grows fun _ hkey => hkey, (h.own r).2⟩
  | act r action =>
    refine h.act fun result hresult => ?_
    obtain ⟨s', p'⟩ := result
    have hown := h.own r
    cases act_effect r hown.1 hresult with
    | moves hq hkey =>
      exact ⟨h.store, ⟨hq, missing_of_none hkey⟩, fun r' _ => h.own r',
        fun r' _ => differ_of_none hkey (s.phase r')⟩
    | @misses run notice userId later rest hp hmissing =>
      rw [hp] at hown
      have hnew := hok run notice userId later rest hp
      refine ⟨h.store, ⟨hown.1, fun key hkey => ?_⟩, fun r' _ => h.own r', fun r' hr' => ?_⟩
      · cases hkey
        exact hmissing
      · constructor
        · intro key hkey
          cases hkey
          exact hnew r' hr'
        · intro key hkey heq
          cases heq
          exact hnew r' hr' hkey
    | @sends run notice userId later rest notification _ hp hcreated hq hkey =>
      have hcreating : creatingKey (s.phase r) = some notification.key := by
        rw [hp, Notice.key_eq_asked hcreated]
        rfl
      -- It was missing when it was looked for, and no other run has been about to create it.
      have hfresh := hown.2 _ hcreating
      rw [hp] at hown
      have hlive := hown.1.due.live
      refine ⟨h.store.send hlive hfresh, ⟨hq, missing_of_none hkey⟩, fun r' hr' => ?_,
        fun r' _ => differ_of_none hkey (s.phase r')⟩
      exact ⟨(h.own r').1.grows fun _ => List.mem_cons_of_mem _,
        (h.own r').2.send (h.both r r' (Ne.symm hr') _ hcreating)⟩

theorem apart_initial (windowMs : ℤ) (dockets : List Docket) (teams : List Team)
    (users : List User) : Holds (apartAssertions windowMs) (initial dockets teams users) :=
  ⟨(holds_initial windowMs dockets teams users).store, fun _ => ⟨trivial, missing_of_none rfl⟩,
    fun _ _ _ key hkey => nomatch (hkey : none = some key)⟩

/-- **Where no two runs are between the check and the creation of one notification, what a run
creates is still missing.** -/
theorem fresh_of_apart (windowMs : ℤ) (dockets : List Docket) (teams : List Team)
    (users : List User) {events : List (Event Action Other)}
    (h : Admits (step (program windowMs)) Apart events (initial dockets teams users)) :
    Admits (step (program windowMs)) Fresh events (initial dockets teams users) :=
  h.imp (apart_step windowMs)
    (fun event _ hholds _ => fresh_of_missing (fun r => (hholds.own r).2) event)
    (apart_initial windowMs dockets teams users)

/-! ## Two runs at once -/

def overdue : Docket where
  caseId := "CASE-20260521-00001"
  firmId := "65f000000000000000000001"
  dueDate := some 0
  status := "OPEN"
  assignedToXID := some "X000001"
  workbasketId := none
  deletedAt := none
  caseId_ne := by decide
  caseId_trimmed := by decide
  firmId_trimmed := by decide

/-- Both runs find no notification of the docket, and both create one. -/
theorem due_notifications_sound_fails :
    ¬ Sound (run (step (program 86400000))
      [.act 0 (.call 0), .act 1 (.call 0), .act 0 .findDockets, .act 1 .findDockets,
        .act 0 .check, .act 1 .check, .act 0 .create, .act 1 .create]
      (initial [overdue] [] [])) :=
  fun h => absurd h.once (by decide)

end Docketra.DueNotifications
