import Docketra.Docket
import Docketra.Lib.FirstOfKey
import Docketra.SlaCalendar

/-!
# Calendar reminders

A run of `processFirmCalendarReminders` of `services/docketDueNotification.service.js` reads the
entries of the compliance calendars that are due in the next 30 days, and reminds the active users
of the firm of those whose reminder date is the day of the run, unless they have been reminded
already. The schema of notifications does not admit the type of these reminders, and
`createNotification` swallows the error, so that nobody is ever reminded (`arrives_iff`).

With a schema that admits it, every user has one reminder, as soon as there is a run on each day
(`reminders_admitted`). It is of the day that is asked for when the lead is a whole number, and the
entry has one of its own: `Number(null)` is 0, so that an entry without one is not given the lead of
its firm (`arrives_admitted_iff`).

A run takes no time, and nothing else writes reminders. Times are in milliseconds, and two due dates
have one key when they are the same time.
-/

namespace Docketra.CalendarReminders

open Calendar FirstOfKey
open SlaCalendar (dayMs dateOf isoDate)

/-! ## Days -/

/-- The UTC day of a time, counted from the one of the epoch. -/
def dayOf (t : ℤ) : ℤ := t / dayMs

/-- `setUTCHours(0, 0, 0, 0)`. -/
def startOfDay (t : ℤ) : ℤ := dayOf t * dayMs

/-- `setUTCHours(23, 59, 59, 999)`. -/
def endOfDay (t : ℤ) : ℤ := startOfDay t + dayMs - 1

/-- `getUTCDate`. -/
def getUTCDate (t : ℤ) : ℤ := (dateOf (dayOf t)).day

/-- `addDays`: `setUTCDate` cuts off the fraction of the day of the month. -/
def addDays (date : ℤ) (days : ℚ) : ℤ :=
  date + (truncate (getUTCDate date + days) - getUTCDate date) * dayMs

theorem dayOf_add_days (t days : ℤ) : dayOf (t + days * dayMs) = dayOf t + days := by
  have hne : dayMs ≠ 0 := by decide
  rw [dayOf, dayOf, Int.add_mul_ediv_right _ _ hne]

/-- The day that a number of days leads to. -/
theorem dayOf_addDays (date : ℤ) (days : ℚ) :
    dayOf (addDays date days) =
      dayOf date + (truncate (getUTCDate date + days) - getUTCDate date) :=
  dayOf_add_days date _

theorem addDays_intCast (date days : ℤ) : addDays date days = date + days * dayMs := by
  rw [addDays, ← Int.cast_add, truncate_intCast, add_sub_cancel_left]

/-! ## Documents -/

def CALENDAR_TAG : String := "compliance-calendar"

/-- A number of a document, which may be missing or null. -/
abbrev Number := Option (Option ℚ)

/-- `Number(value)`, and `none` for `NaN`. -/
def Number.read : Number → Option ℚ
  | none => none
  | some none => some 0
  | some (some q) => some q

/-- A task with a due date. -/
structure Entry where
  _id : ObjectId
  firmId : ObjectId
  title : String
  dueDate : ℤ
  tags : List String
  status : String
  calendarEntryType : Option String
  reminderDaysBefore : Number
  deletedAt : Option ℤ
  deriving DecidableEq, Repr

structure Firm where
  _id : ObjectId
  calendarReminderLeadDays : Number
  deriving DecidableEq, Repr

/-- A user, whose xID is as the schema casts it. -/
structure User where
  firmId : ObjectId
  xID : String
  status : String
  isActive : Bool
  deletedAt : Option ℤ
  xID_ne : xID ≠ ""
  xID_cast : castXID xID = xID

def User.isActiveUser (user : User) : Bool :=
  user.status != "deleted" && user.isActive && user.deletedAt.isNone

/-- What a reminder is looked for by. -/
structure Key where
  firmId : ObjectId
  userId : String
  calendarEntryId : ObjectId
  dueDateKey : ℤ
  deriving DecidableEq, Repr

def keyOf (entry : Entry) (userId : String) : Key where
  firmId := entry.firmId
  userId := userId
  calendarEntryId := entry._id
  dueDateKey := entry.dueDate

structure Reminder where
  key : Key
  type : String
  title : String
  message : String
  calendarEntryType : String
  reminderDaysBefore : ℚ
  createdAt : ℤ
  deriving DecidableEq, Repr

/-- A run, with what its queries find. -/
structure Run where
  now : ℤ
  tasks : List Entry
  firms : List Firm
  users : List User

/-! ## A run -/

def FIRM_CALENDAR_REMINDER : String := "FIRM_CALENDAR_REMINDER"

/-- The types that the schema of notifications admits. -/
def NOTIFICATION_TYPES : List String :=
  ["DOCKET_ASSIGNED", "STATUS_CHANGED", "COMMENT_ADDED", "DOCKET_REASSIGNED",
    "DOCKET_ROUTED_TO_WORKBASKET", "QC_RETURNED", "PENDED_DOCKET_REOPENED", "CLIENT_UPLOAD",
    "SLA_BREACHED", "DOCKET_DUE_SOON", "DOCKET_OVERDUE"]

/-- `normalizeFirmSettings(firm.settings.firm).calendarReminderLeadDays`. -/
def firmLeadDays (firm : Option Firm) : ℚ :=
  ((firm.bind fun firm => firm.calendarReminderLeadDays.read).filter (0 ≤ ·)).getD 3

/-- `leadDays`. -/
def leadDays (firm : Option Firm) (entry : Entry) : ℚ :=
  entry.reminderDaysBefore.read.getD (firmLeadDays firm)

def reminderDate (firm : Option Firm) (entry : Entry) : ℤ :=
  startOfDay (addDays entry.dueDate (-leadDays firm entry))

section run

variable (types : List String) (run : Run)

def firmOf (firmId : ObjectId) : Option Firm := run.firms.find? fun firm => firm._id == firmId

/-- The entries that the query finds. -/
def isRead (entry : Entry) : Bool :=
  entry.tags.contains CALENDAR_TAG && startOfDay run.now ≤ entry.dueDate &&
    entry.dueDate ≤ endOfDay (addDays (startOfDay run.now) 30) && entry.status != "cancelled" &&
    entry.deletedAt.isNone

/-- The entry is to be reminded of in this run. -/
def isDue (entry : Entry) : Bool :=
  reminderDate (firmOf run entry.firmId) entry == startOfDay run.now

def validEntries : List Entry := (run.tasks.filter (isRead run)).filter (isDue run)

/-- `usersByFirm.get(firmId)`. -/
def usersOf (firmId : ObjectId) : List User :=
  run.users.filter fun user => user.firmId == firmId && user.isActiveUser

/-- The reminder of a user. -/
def reminderOf (entry : Entry) (user : User) : Reminder where
  key := keyOf entry (castXID user.xID)
  type := FIRM_CALENDAR_REMINDER
  title :=
    if entry.calendarEntryType = some "birthday" then "Birthday reminder"
    else "Important date reminder"
  message := trim (entry.title ++ (" is on " ++
    String.ofList ((isoDate (dayOf entry.dueDate)).toList.take 10) ++ "."))
  calendarEntryType := (orElse entry.calendarEntryType (some "important_date")).getD ""
  reminderDaysBefore := leadDays (firmOf run entry.firmId) entry
  createdAt := run.now

/-- `createNotification` finds the recipient, and the schema admits the type. What it throws is
logged only. -/
def creates (reminder : Reminder) : Bool :=
  reminder.key.userId != "" && reminder.title != "" && reminder.message != "" &&
    run.users.any (fun user => user.xID == reminder.key.userId &&
      user.firmId == reminder.key.firmId && user.status != "deleted" && user.deletedAt.isNone) &&
    types.contains reminder.type

def createNotification (reminder : Reminder) : Option Reminder :=
  if creates types run reminder then some reminder else none

/-- A turn of the loop over the users. -/
def remind (entry : Entry) (sent : List Reminder) (user : User) : List Reminder :=
  let reminder := reminderOf run entry user
  if reminder.key.userId = "" then sent
  else if sent.any fun other => other.key = reminder.key then sent
  else sent ++ (createNotification types run reminder).toList

/-- `processFirmCalendarReminders`: the reminders that are stored afterwards. -/
def processFirmCalendarReminders (sent : List Reminder) : List Reminder :=
  (validEntries run).foldl
    (fun sent entry => (usersOf run entry.firmId).foldl (remind types run entry) sent) sent

end run

/-- The reminders that are stored after several runs, one after the other. -/
def stored (types : List String) (runs : List Run) : List Reminder :=
  runs.foldl (fun sent run => processFirmCalendarReminders types run sent) []

/-! ## A run as a loop over its reminders -/

/-- The reminders that a run looks for, in their order. -/
def candidates (run : Run) : List Reminder :=
  (validEntries run).flatMap fun entry => (usersOf run entry.firmId).map (reminderOf run entry)

section run

variable {types : List String} {run : Run}

theorem foldl_remind (entry : Entry) (users : List User) (sent : List Reminder) :
    users.foldl (remind types run entry) sent =
      keep Reminder.key (creates types run) sent (users.map (reminderOf run entry)) := by
  induction users generalizing sent with
  | nil => rfl
  | cons user users ih =>
    have hne : (reminderOf run entry user).key.userId ≠ "" := by
      have hcast : (reminderOf run entry user).key.userId = user.xID := user.xID_cast
      rw [hcast]
      exact user.xID_ne
    rw [List.foldl_cons, ih, List.map_cons, keep, remind, if_neg hne, createNotification]
    split_ifs
    · rfl
    · rfl
    · rw [Option.toList_none, List.append_nil]

theorem processFirmCalendarReminders_eq (sent : List Reminder) :
    processFirmCalendarReminders types run sent =
      keep Reminder.key (creates types run) sent (candidates run) := by
  rw [processFirmCalendarReminders, candidates]
  induction validEntries run generalizing sent with
  | nil => rfl
  | cons entry entries ih =>
    rw [List.foldl_cons, ih, foldl_remind, List.flatMap_cons, keep_append]

end run

/-! ## What is asked -/

section property

variable (types : List String) (runs : List Run) (firm : Option Firm) (entry : Entry)

/-- A user of the firm is active in all runs. -/
def ActiveIn (firmId : ObjectId) (xID : String) : Prop :=
  ∀ run ∈ runs, ∃ user ∈ run.users,
    user.xID = xID ∧ user.firmId = firmId ∧ user.isActiveUser = true

/-- The reminders of an entry that a user has. -/
def remindersOf (sent : List Reminder) (xID : String) : List Reminder :=
  sent.filter fun reminder => reminder.key = keyOf entry xID

/-- The lead that is asked for: the entry's own, or that of the firm. -/
def askedLeadDays : ℚ := entry.reminderDaysBefore.join.getD (firmLeadDays firm)

/-- Every active user has one reminder of the entry, of the day that is its lead before its due
date. -/
def Arrives : Prop :=
  ∀ xID, ActiveIn runs entry.firmId xID →
    (remindersOf entry (stored types runs) xID).map
        (fun reminder => (dayOf reminder.createdAt : ℚ)) =
      [dayOf entry.dueDate - askedLeadDays firm entry]

/-- The entry is there unchanged from 30 days before its due date on, under the settings of its
firm, with numbers that the schemas admit, and there is a run on each of these days. -/
structure Scheduled : Prop where
  lead : ∀ days, entry.reminderDaysBefore.join = some days → 0 ≤ days ∧ days ≤ 30
  firmLead : firmLeadDays firm ≤ 30
  tagged : CALENDAR_TAG ∈ entry.tags
  notCancelled : entry.status ≠ "cancelled"
  notDeleted : entry.deletedAt = none
  firm : ∀ run ∈ runs, firmOf run entry.firmId = firm
  same : ∀ run ∈ runs, ∀ task ∈ run.tasks, task._id = entry._id → task = entry
  there : ∀ run ∈ runs, dayOf entry.dueDate - 30 ≤ dayOf run.now → entry ∈ run.tasks
  daily : ∀ day, dayOf entry.dueDate - 30 ≤ day → day ≤ dayOf entry.dueDate →
    ∃ run ∈ runs, dayOf run.now = day

end property

/-! ## The type of the reminders -/

/-- A schema without the type stores no reminder. -/
theorem stored_of_unlisted {types : List String} (htypes : FIRM_CALENDAR_REMINDER ∉ types)
    (runs : List Run) : stored types runs = [] := by
  have hstep (run : Run) (sent : List Reminder) :
      processFirmCalendarReminders types run sent = sent := by
    rw [processFirmCalendarReminders_eq]
    refine keep_of_unwanted fun reminder hreminder => ?_
    obtain ⟨entry, -, hentry⟩ := List.mem_flatMap.mp hreminder
    obtain ⟨user, -, rfl⟩ := List.mem_map.mp hentry
    have htype : types.contains (reminderOf run entry user).type = false :=
      Bool.eq_false_iff.mpr fun h => htypes (List.contains_iff_mem.mp h)
    rw [creates, htype, Bool.and_false]
  rw [stored]
  induction runs with
  | nil => rfl
  | cons run runs ih => rw [List.foldl_cons, hstep, ih]

theorem type_unlisted : FIRM_CALENDAR_REMINDER ∉ NOTIFICATION_TYPES := by decide

/-- Reminders arrive, whatever the runs are, only for a firm without active users. -/
theorem arrives_iff (runs : List Run) (firm : Option Firm) (entry : Entry) :
    Arrives NOTIFICATION_TYPES runs firm entry ↔
      ∀ xID, ¬ActiveIn runs entry.firmId xID := by
  constructor
  · intro h xID hactive
    have harrived := h xID hactive
    rw [stored_of_unlisted type_unlisted] at harrived
    exact absurd harrived.symm (List.cons_ne_nil _ _)
  · exact fun h xID hactive => absurd hactive (h xID)

/-! ## With the type admitted -/

/-- The day that an entry is reminded of. -/
def reminderDay (firm : Option Firm) (entry : Entry) : ℤ :=
  dayOf (addDays entry.dueDate (-leadDays firm entry))

section admitted

variable {types : List String} {runs : List Run} {run : Run} {firm : Option Firm} {entry : Entry}
  {sent : List Reminder} {xID : String}

theorem isDue_iff (hfirm : firmOf run entry.firmId = firm) :
    isDue run entry = true ↔ reminderDay firm entry = dayOf run.now := by
  have hne : dayMs ≠ 0 := by decide
  rw [isDue, beq_iff_eq, hfirm, reminderDate, startOfDay, startOfDay]
  exact mul_left_inj' hne

theorem leadDays_range (h : Scheduled runs firm entry) :
    0 ≤ leadDays firm entry ∧ leadDays firm entry ≤ 30 := by
  have hfirm : 0 ≤ firmLeadDays firm := by
    rw [firmLeadDays]
    cases hlead : (firm.bind fun firm => firm.calendarReminderLeadDays.read).filter (0 ≤ ·) with
    | none => decide
    | some days => exact of_decide_eq_true (Option.filter_eq_some_iff.mp hlead).2
  have hlead := h.lead
  rw [leadDays]
  match hnumber : entry.reminderDaysBefore with
  | none => exact ⟨hfirm, h.firmLead⟩
  | some none => exact ⟨le_rfl, by norm_num [Number.read]⟩
  | some (some days) => exact hlead days (by rw [hnumber]; rfl)

/-- The reminder is of one of the last 30 days up to the due date. -/
theorem reminderDay_range (h : Scheduled runs firm entry) :
    dayOf entry.dueDate - 30 ≤ reminderDay firm entry ∧
      reminderDay firm entry ≤ dayOf entry.dueDate := by
  obtain ⟨hlow, hhigh⟩ := leadDays_range h
  have hle : truncate (getUTCDate entry.dueDate + -leadDays firm entry) ≤
      getUTCDate entry.dueDate := by
    rw [← truncate_intCast (getUTCDate entry.dueDate)]
    exact truncate_mono (by rw [truncate_intCast]; linarith)
  have hge : getUTCDate entry.dueDate - 30 ≤
      truncate (getUTCDate entry.dueDate + -leadDays firm entry) := by
    rw [← truncate_intCast (getUTCDate entry.dueDate - 30)]
    refine truncate_mono ?_
    push_cast
    linarith
  rw [reminderDay, dayOf_addDays]
  omega

/-- On its day, an entry is among those that are read. -/
theorem isRead_of_reminderDay (h : Scheduled runs firm entry)
    (hday : reminderDay firm entry = dayOf run.now) : isRead run entry = true := by
  obtain ⟨hlow, hhigh⟩ := reminderDay_range h
  have hthirty : addDays (startOfDay run.now) 30 = startOfDay run.now + 30 * dayMs :=
    addDays_intCast _ 30
  have hend : endOfDay (addDays (startOfDay run.now) 30) =
      (dayOf run.now + 30) * dayMs + dayMs - 1 := by
    have hne : dayMs ≠ 0 := by decide
    have hstart : dayOf (startOfDay run.now) = dayOf run.now := Int.mul_ediv_cancel _ hne
    rw [hthirty, endOfDay, startOfDay, dayOf_add_days, hstart]
  have hfrom : dayOf run.now * dayMs ≤ entry.dueDate := by
    simp only [dayOf, dayMs] at *
    omega
  have hto : entry.dueDate ≤ (dayOf run.now + 30) * dayMs + dayMs - 1 := by
    simp only [dayOf, dayMs] at *
    omega
  rw [isRead, hend, startOfDay]
  simp only [Bool.and_eq_true, decide_eq_true_eq, bne_iff_ne, ne_eq, Option.isNone_iff_eq_none]
  exact ⟨⟨⟨⟨List.contains_iff_mem.mpr h.tagged, hfrom⟩, hto⟩, h.notCancelled⟩, h.notDeleted⟩

theorem mem_candidates {reminder : Reminder} :
    reminder ∈ candidates run ↔ ∃ task ∈ validEntries run, ∃ user ∈ usersOf run task.firmId,
      reminderOf run task user = reminder := by
  simp only [candidates, List.mem_flatMap, List.mem_map]

/-- A reminder of an entry that a run looks for is made on the day of the entry. -/
theorem day_of_candidate (h : Scheduled runs firm entry) (hrun : run ∈ runs) {reminder : Reminder}
    (hreminder : reminder ∈ candidates run)
    (hkey : reminder.key = keyOf entry xID) :
    reminderDay firm entry = dayOf run.now ∧ reminder.createdAt = run.now := by
  obtain ⟨task, htask, user, -, rfl⟩ := mem_candidates.mp hreminder
  obtain ⟨hread, hdue⟩ := List.mem_filter.mp htask
  obtain rfl := h.same run hrun task (List.mem_of_mem_filter hread)
    (congrArg Key.calendarEntryId hkey)
  exact ⟨(isDue_iff (h.firm run hrun)).mp hdue, rfl⟩

theorem message_ne (entry : Entry) (user : User) : (reminderOf run entry user).message ≠ "" := by
  have hspace : isWhitespace 'i' = false := by decide
  rw [reminderOf, ne_eq, trim_eq_empty, isBlank, String.toList_append, List.all_append,
    String.toList_append, List.all_append]
  simp [hspace]

/-- The reminder of an active user is created where the schema admits its type. -/
theorem creates_reminderOf {user : User} (huser : user ∈ run.users)
    (hfirm : user.firmId = entry.firmId) (hisActive : user.isActiveUser = true)
    (htypes : FIRM_CALENDAR_REMINDER ∈ types) :
    creates types run (reminderOf run entry user) = true := by
  have hcast : castXID user.xID = user.xID := user.xID_cast
  have htitle : (reminderOf run entry user).title ≠ "" := by
    dsimp only [reminderOf]
    split_ifs <;> decide
  have hrecipient : run.users.any (fun other =>
      other.xID == (reminderOf run entry user).key.userId &&
        other.firmId == (reminderOf run entry user).key.firmId && other.status != "deleted" &&
          other.deletedAt.isNone) = true := by
    obtain ⟨⟨hstatus, -⟩, hdeleted⟩ := by
      simpa only [User.isActiveUser, Bool.and_eq_true] using hisActive
    refine List.any_eq_true.mpr ⟨user, huser, ?_⟩
    rw [hstatus, hdeleted]
    simp [reminderOf, keyOf, hcast, hfirm]
  have huserId : (reminderOf run entry user).key.userId ≠ "" := by
    rw [reminderOf, hcast]
    exact user.xID_ne
  have hlisted : types.contains (reminderOf run entry user).type = true :=
    List.contains_iff_mem.mpr htypes
  rw [creates, hrecipient, hlisted]
  simp [htitle, huserId, message_ne entry user]

/-- On its day, a run looks for the reminder of an active user, and creates it. -/
theorem creates_of_day (h : Scheduled runs firm entry) (hrun : run ∈ runs)
    (htypes : FIRM_CALENDAR_REMINDER ∈ types) (hactive : ActiveIn runs entry.firmId xID)
    (hday : reminderDay firm entry = dayOf run.now) :
    ∃ reminder ∈ candidates run, creates types run reminder = true ∧
      reminder.key = keyOf entry xID := by
  obtain ⟨user, huser, rfl, hfirm, hisActive⟩ := hactive run hrun
  have hthere : entry ∈ run.tasks := by
    refine h.there run hrun ?_
    rw [← hday]
    exact (reminderDay_range h).1
  have hvalid : entry ∈ validEntries run :=
    List.mem_filter.mpr ⟨List.mem_filter.mpr ⟨hthere, isRead_of_reminderDay h hday⟩,
      (isDue_iff (h.firm run hrun)).mpr hday⟩
  have hmember : user ∈ usersOf run entry.firmId :=
    List.mem_filter.mpr ⟨huser, by rw [hfirm, beq_self_eq_true, Bool.true_and, hisActive]⟩
  refine ⟨reminderOf run entry user, mem_candidates.mpr ⟨entry, hvalid, user, hmember, rfl⟩,
    creates_reminderOf huser hfirm hisActive htypes, ?_⟩
  rw [reminderOf, user.xID_cast]

/-- A user has one reminder of an entry, of its day. -/
def Reminded (firm : Option Firm) (entry : Entry) (sent : List Reminder) (xID : String) : Prop :=
  ∃ reminder, remindersOf entry sent xID = [reminder] ∧
    dayOf reminder.createdAt = reminderDay firm entry

/-- What a run adds to the reminders of a user. -/
theorem remindersOf_run (sent : List Reminder) :
    remindersOf entry (processFirmCalendarReminders types run sent) xID =
      if remindersOf entry sent xID = [] then
        ((candidates run).find? fun reminder => creates types run reminder &&
          reminder.key = keyOf entry xID).toList
      else remindersOf entry sent xID := by
  have hnil : remindersOf entry sent xID = [] ↔ ¬∃ a ∈ sent, a.key = keyOf entry xID := by
    rw [remindersOf, List.filter_eq_nil_iff]
    simp only [decide_eq_true_eq, not_exists, not_and]
  rw [processFirmCalendarReminders_eq, remindersOf, filter_keep]
  by_cases hsome : ∃ a ∈ sent, a.key = keyOf entry xID
  · rw [if_pos hsome, if_neg (fun h => hnil.mp h hsome)]
    rfl
  · rw [if_neg hsome, if_pos (hnil.mpr hsome)]

theorem reminded_run (h : Reminded firm entry sent xID) :
    Reminded firm entry (processFirmCalendarReminders types run sent) xID := by
  obtain ⟨reminder, hsent, hday⟩ := h
  refine ⟨reminder, ?_, hday⟩
  rw [remindersOf_run, hsent, if_neg (List.cons_ne_nil _ _)]

/-- A run on another day adds nothing. -/
theorem remindersOf_otherDay (h : Scheduled runs firm entry) (hrun : run ∈ runs)
    (hsent : remindersOf entry sent xID = []) (hday : reminderDay firm entry ≠ dayOf run.now) :
    remindersOf entry (processFirmCalendarReminders types run sent) xID = [] := by
  have hnone : ((candidates run).find? fun reminder => creates types run reminder &&
      reminder.key = keyOf entry xID) = none := by
    refine List.find?_eq_none.mpr fun reminder hreminder hfound => ?_
    obtain ⟨-, hkey⟩ := Bool.and_eq_true_iff.mp hfound
    exact hday (day_of_candidate h hrun hreminder (of_decide_eq_true hkey)).1
  rw [remindersOf_run, if_pos hsent, hnone, Option.toList_none]

/-- A run on the day of the entry reminds of it. -/
theorem reminded_of_day (h : Scheduled runs firm entry) (hrun : run ∈ runs)
    (htypes : FIRM_CALENDAR_REMINDER ∈ types) (hactive : ActiveIn runs entry.firmId xID)
    (hsent : remindersOf entry sent xID = []) (hday : reminderDay firm entry = dayOf run.now) :
    Reminded firm entry (processFirmCalendarReminders types run sent) xID := by
  obtain ⟨other, hother, hcreates, hkey⟩ := creates_of_day h hrun htypes hactive hday
  cases hfind : (candidates run).find? fun reminder => creates types run reminder &&
      reminder.key = keyOf entry xID with
  | none =>
    refine absurd ?_ (List.find?_eq_none.mp hfind other hother)
    rw [hcreates, hkey, decide_eq_true rfl, Bool.and_self]
  | some reminder =>
    have hfound := List.find?_some hfind
    obtain ⟨-, hreminderKey⟩ := Bool.and_eq_true_iff.mp hfound
    obtain ⟨-, hcreated⟩ := day_of_candidate h hrun (List.mem_of_find?_eq_some hfind)
      (of_decide_eq_true hreminderKey)
    refine ⟨reminder, ?_, ?_⟩
    · rw [remindersOf_run, if_pos hsent, hfind, Option.toList_some]
    · rw [hcreated, hday]

/-- With the type admitted, every active user is reminded once, on the day of the entry. -/
theorem reminders_admitted (h : Scheduled runs firm entry)
    (htypes : FIRM_CALENDAR_REMINDER ∈ types) (hactive : ActiveIn runs entry.firmId xID) :
    Reminded firm entry (stored types runs) xID := by
  have hreminded (later : List Run) (sent : List Reminder) (hsent : Reminded firm entry sent xID) :
      Reminded firm entry
        (later.foldl (fun sent run => processFirmCalendarReminders types run sent) sent) xID := by
    induction later generalizing sent with
    | nil => exact hsent
    | cons run later ih => exact ih _ (reminded_run hsent)
  have hrest (later : List Run) (hlater : later ⊆ runs)
      (hday : ∃ run ∈ later, dayOf run.now = reminderDay firm entry) (sent : List Reminder)
      (hsent : remindersOf entry sent xID = []) : Reminded firm entry
        (later.foldl (fun sent run => processFirmCalendarReminders types run sent) sent) xID := by
    induction later generalizing sent with
    | nil =>
      obtain ⟨run, hrun, -⟩ := hday
      exact absurd hrun List.not_mem_nil
    | cons run later ih =>
      obtain ⟨hrun, hlater⟩ := List.cons_subset.mp hlater
      rw [List.foldl_cons]
      by_cases hnow : reminderDay firm entry = dayOf run.now
      · exact hreminded later _ (reminded_of_day h hrun htypes hactive hsent hnow)
      · obtain ⟨other, hother, hotherDay⟩ := hday
        obtain rfl | hother := List.mem_cons.mp hother
        · exact absurd hotherDay.symm hnow
        · exact ih hlater ⟨other, hother, hotherDay⟩ _ (remindersOf_otherDay h hrun hsent hnow)
  obtain ⟨hlow, hhigh⟩ := reminderDay_range h
  exact hrest runs (List.Subset.refl runs) (h.daily _ hlow hhigh) [] rfl

/-- The day is the one that is asked for exactly when the lead is a whole number, and the entry has
its own, or the lead of the firm is 0. -/
theorem reminderDay_eq_iff :
    (reminderDay firm entry : ℚ) = dayOf entry.dueDate - askedLeadDays firm entry ↔
      (∃ n : ℤ, askedLeadDays firm entry = n) ∧
        (entry.reminderDaysBefore = some none → firmLeadDays firm = 0) := by
  have hday := dayOf_addDays entry.dueDate (-leadDays firm entry)
  match hnumber : entry.reminderDaysBefore with
  | some none =>
    -- `Number(null)` is 0, whatever the lead of the firm is.
    have hlead : leadDays firm entry = 0 := by
      rw [leadDays, hnumber]
      rfl
    have hasked : askedLeadDays firm entry = firmLeadDays firm := by
      rw [askedLeadDays, hnumber]
      rfl
    rw [hlead, neg_zero, add_zero, truncate_intCast, sub_self, add_zero] at hday
    rw [reminderDay, hlead, neg_zero, hday, hasked]
    constructor
    · intro h
      have hzero : firmLeadDays firm = 0 := by linarith
      exact ⟨⟨0, by rw [hzero, Int.cast_zero]⟩, fun _ => hzero⟩
    · rintro ⟨-, hzero⟩
      rw [hzero rfl, sub_zero]
  | none | some (some days) =>
    have hlead : leadDays firm entry = askedLeadDays firm entry := by
      rw [leadDays, askedLeadDays, hnumber]
      rfl
    -- The lead is the one that is asked for, and the day is cut to a whole number.
    rw [reminderDay, hday, hlead]
    constructor
    · intro h
      refine ⟨⟨getUTCDate entry.dueDate -
        truncate (getUTCDate entry.dueDate + -askedLeadDays firm entry), ?_⟩, by simp⟩
      push_cast at h ⊢
      linarith
    · rintro ⟨⟨n, hn⟩, -⟩
      rw [hn, ← sub_eq_add_neg, ← Int.cast_sub, truncate_intCast]
      push_cast
      ring

/-- With the type admitted, reminders arrive for entries with a whole lead of their own. -/
theorem arrives_admitted_iff (h : Scheduled runs firm entry)
    (htypes : FIRM_CALENDAR_REMINDER ∈ types) :
    Arrives types runs firm entry ↔
      (∃ xID, ActiveIn runs entry.firmId xID) → (∃ n : ℤ, askedLeadDays firm entry = n) ∧
        (entry.reminderDaysBefore = some none → firmLeadDays firm = 0) := by
  rw [← reminderDay_eq_iff]
  -- Each active user has one reminder, of the day that the code computes.
  have hdays {xID : String} (hactive : ActiveIn runs entry.firmId xID) :
      (remindersOf entry (stored types runs) xID).map
        (fun reminder => (dayOf reminder.createdAt : ℚ)) = [(reminderDay firm entry : ℚ)] := by
    obtain ⟨reminder, hreminder, hday⟩ := reminders_admitted h htypes hactive
    rw [hreminder, List.map_singleton, hday]
  constructor
  · rintro harrives ⟨xID, hactive⟩
    have hasked := harrives xID hactive
    rw [hdays hactive] at hasked
    exact List.head_eq_of_cons_eq hasked
  · intro hasked xID hactive
    rw [hdays hactive, hasked ⟨xID, hactive⟩]

end admitted

/-! ## A filing date -/

/-- A firm with reminders one day ahead. -/
def calendarFirm : Firm where
  _id := ⟨"f1"⟩
  calendarReminderLeadDays := some (some 1)

/-- An entry that is due at 9 o'clock on the day 20512, with a lead of three days. -/
def filingDate : Entry where
  _id := ⟨"k1"⟩
  firmId := ⟨"f1"⟩
  title := "GST filing"
  dueDate := 20512 * dayMs + 9 * 60 * 60 * 1000
  tags := [CALENDAR_TAG]
  status := "pending"
  calendarEntryType := some "important_date"
  reminderDaysBefore := some (some 3)
  deletedAt := none

def firmUser : User where
  firmId := ⟨"f1"⟩
  xID := "X000001"
  status := "active"
  isActive := true
  deletedAt := none
  xID_ne := by decide
  xID_cast := by decide

/-- The run of a day. -/
def runOfDay (i : ℕ) : Run where
  now := (20482 + i) * dayMs
  tasks := [filingDate]
  firms := [calendarFirm]
  users := [firmUser]

def dailyRuns : List Run := (List.range 31).map runOfDay

theorem scheduled_filingDate : Scheduled dailyRuns (some calendarFirm) filingDate := by
  have hdue : dayOf filingDate.dueDate = 20512 := by decide
  have hnow (i : ℕ) : dayOf (runOfDay i).now = 20482 + i :=
    Int.mul_ediv_cancel _ (by decide : dayMs ≠ 0)
  have hrun {run : Run} (h : run ∈ dailyRuns) : ∃ i, runOfDay i = run := by
    obtain ⟨i, -, hi⟩ := List.mem_map.mp h
    exact ⟨i, hi⟩
  refine ⟨?_, by decide, by decide, by decide, rfl, ?_, ?_, ?_, ?_⟩
  · intro days hdays
    obtain rfl : (3 : ℚ) = days := Option.some.inj hdays
    exact ⟨by decide, by decide⟩
  · intro run h
    obtain ⟨i, rfl⟩ := hrun h
    rfl
  · intro run h task htask _
    obtain ⟨i, rfl⟩ := hrun h
    exact List.mem_singleton.mp htask
  · intro run h _
    obtain ⟨i, rfl⟩ := hrun h
    exact List.mem_singleton_self filingDate
  · intro day hlow hhigh
    rw [hdue] at hlow hhigh
    refine ⟨runOfDay (day - 20482).toNat, List.mem_map_of_mem (List.mem_range.mpr (by omega)), ?_⟩
    rw [hnow]
    omega

/-- Its one user is not reminded. -/
theorem arrives_fails :
    Scheduled dailyRuns (some calendarFirm) filingDate ∧
      ActiveIn dailyRuns filingDate.firmId "X000001" ∧
      ¬Arrives NOTIFICATION_TYPES dailyRuns (some calendarFirm) filingDate := by
  have hactive : ActiveIn dailyRuns filingDate.firmId "X000001" := by
    intro run h
    obtain ⟨i, -, rfl⟩ := List.mem_map.mp h
    exact ⟨firmUser, List.mem_singleton_self firmUser, rfl, rfl, rfl⟩
  refine ⟨scheduled_filingDate, hactive, fun h => ?_⟩
  have harrived := h "X000001" hactive
  rw [stored_of_unlisted type_unlisted] at harrived
  exact absurd harrived.symm (List.cons_ne_nil _ _)

end Docketra.CalendarReminders
