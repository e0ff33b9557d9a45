import Docketra.Lib.Calendar
import Docketra.Lib.Numerals
import Docketra.Text

/-!
# The calendar of the deadlines

`services/caseSla.service.js` counts a deadline in the business time of a firm. `normalizeConfig`
makes a calendar of a configuration: the hours of a day, the working days of a week, and the dates
that are holidays or worked on all the same. `calculateDueDate` aligns a start to the business time,
and takes the minutes from there, day by day.

The dates and the clock are Luxon's. A zone is what is asked of it: its offset at an instant, and the
instant of a local time. The instant of a text that is no date of the short form is the one of `new
Date`.
-/

namespace Docketra.SlaCalendar

open Calendar Numerals

/-- The milliseconds of a day. -/
def dayMs : ℤ := 24 * 60 * 60 * 1000

/-- `MS_PER_MINUTE`. -/
def msPerMinute : ℤ := 60 * 1000

/-- `MAX_CALENDAR_DAYS_LOOKAHEAD`. -/
def maxCalendarDaysLookahead : ℕ := 370

/-! ## Zones -/

/-- A time zone, in milliseconds. -/
structure Zone where
  /-- The offset at an instant. -/
  offset : ℤ → ℤ
  /-- The instant of a local time, with the offset that is tried first. -/
  instantOf : ℤ → ℤ → ℤ

/-- The zone `UTC`. -/
def Zone.utc : Zone := ⟨fun _ => 0, fun localTime _ => localTime⟩

/-- A zone without offset changes. -/
def Zone.IsFixed (zone : Zone) : Prop :=
  ∃ offset, (∀ t, zone.offset t = offset) ∧
    ∀ localTime, zone.instantOf localTime offset = localTime - offset

/-- The local time of an instant. -/
def Zone.localTime (zone : Zone) (t : ℤ) : ℤ := t + zone.offset t

/-- The local day of an instant, counted from the one of the epoch. -/
def Zone.day (zone : Zone) (t : ℤ) : ℤ := zone.localTime t / dayMs

/-- A local time in place of the one of an instant. -/
def Zone.set (zone : Zone) (t localTime : ℤ) : ℤ := zone.instantOf localTime (zone.offset t)

/-- What is asked of Luxon and of the platform. -/
structure Platform where
  /-- The zone of a name, when there is one. -/
  zone : String → Option Zone
  /-- The instant that `new Date` reads in a text. -/
  parseDate : String → Option ℤ

/-- The zone of a calendar. -/
def Platform.zoneOf (P : Platform) (timezone : String) : Zone := (P.zone timezone).getD Zone.utc

/-! ## Dates -/

/-- The date of a day that is counted from the one of the epoch, a Thursday. -/
def dateOf (day : ℤ) : Day := (firstOf (12 * 1970)).add day

/-- `weekday`: 1 is Monday. -/
def weekday (day : ℤ) : ℤ := (day + 3) % 7 + 1

/-- A year of four digits. -/
def isShortYear (year : ℤ) : Bool := 0 ≤ year ∧ year ≤ 9999

/-- The year of `toISODate`: one that has more than four digits has six and a sign. -/
def isoYear (year : ℤ) : List Char :=
  if isShortYear year then padded 4 year.natAbs
  else (if 0 ≤ year then '+' else '-') :: padded 6 year.natAbs

/-- `toISODate`. -/
def isoDate (day : ℤ) : String :=
  String.ofList (isoYear (dateOf day).year ++ '-' ::
    (padded 2 (monthOf (dateOf day).month + 1).toNat ++ '-' :: padded 2 (dateOf day).day))

/-- `/^\d{4}-\d{2}-\d{2}$/`. -/
def isDateKey (s : String) : Bool :=
  match s.toList with
  | [a, b, c, d, '-', e, f, '-', g, h] => [a, b, c, d, e, f, g, h].all Char.isDigit
  | _ => false

/-- An entry of a list of dates: a text, or another value as the instant that `new Date` makes of
it, or a value that is no date. -/
inductive DateEntry where
  | text (s : String)
  | instant (t : ℤ)
  | other
  deriving DecidableEq, Repr

/-- The instant of an entry. The empty text is none. -/
def DateEntry.instant? (P : Platform) : DateEntry → Option ℤ
  | .text s => if s = "" then none else P.parseDate s
  | .instant t => some t
  | .other => none

/-- `toDateKey`. -/
def toDateKey (P : Platform) (zone : Zone) (value : DateEntry) : String :=
  ((value.instant? P).map fun t => isoDate (zone.day t)).getD ""

/-- The key of an entry of a list. A text of the short form is its own key. -/
def entryKey (P : Platform) (zone : Zone) : DateEntry → String
  | .text s => if isDateKey (trim s) then trim s else toDateKey P zone (.text s)
  | value => toDateKey P zone value

/-- `normalizeDateKeyList`. -/
def normalizeDateKeyList (P : Platform) (zone : Zone) (dates : Option (List DateEntry)) :
    List String :=
  (((dates.getD []).map (entryKey P zone)).filter (· ≠ "")).eraseDups

/-! ## Times of a day -/

/-- A time of a day. -/
structure Time where
  hour : ℕ
  minute : ℕ
  hour_le : hour ≤ 23
  minute_le : minute ≤ 59
  deriving DecidableEq, Repr

/-- `(hour * 60) + minute`. -/
def Time.minutes (time : Time) : ℕ := time.hour * 60 + time.minute

/-- The number of two digits. -/
def twoDigits (a b : Char) : ℕ := Nat.ofDigitChars 10 [a, b] 0

/-- The time that a text of two digits, a colon and two digits states. -/
def readTime (s : String) : Option Time :=
  match s.toList with
  | [a, b, ':', c, d] =>
    if [a, b, c, d].all Char.isDigit then
      if h : twoDigits a b ≤ 23 ∧ twoDigits c d ≤ 59 then
        some ⟨twoDigits a b, twoDigits c d, h.1, h.2⟩
      else none
    else none
  | _ => none

/-- `parseTime`. A value that is no text is `none`. -/
def parseTime (value : Option String) (fallback : Time) : Time :=
  (value.bind readTime).getD fallback

/-- The text of a time. -/
def Time.text (time : Time) : String :=
  String.ofList (padded 2 time.hour ++ ':' :: padded 2 time.minute)

/-- `'10:00'`. -/
def defaultStart : Time := ⟨10, 0, by decide, by decide⟩

/-- `'18:00'`. -/
def defaultEnd : Time := ⟨18, 0, by decide, by decide⟩

/-! ## Configurations -/

/-- A configuration, as `normalizeConfig` reads it. -/
structure ConfigInput where
  /-- What `Number` makes of a duration that is not falsy. A number that is not finite is `none`. -/
  tatDurationMinutes : Option (Option ℚ) := none
  businessStartTime : Option String := none
  businessEndTime : Option String := none
  /-- What `Number` makes of the entries. -/
  workingDays : Option (List (Option ℚ)) := none
  holidayDates : Option (List DateEntry) := none
  nonWorkingDates : Option (List DateEntry) := none
  workingDateOverrides : Option (List DateEntry) := none
  timezone : Option String := none
  deriving DecidableEq, Repr

/-- A calendar, as `normalizeConfig` returns it. -/
structure Config where
  tatDurationMinutes : ℕ
  businessStartTime : String
  businessEndTime : String
  businessStart : Time
  businessEnd : Time
  workingDays : List ℚ
  holidayDates : List String
  workingDateOverrides : List String
  timezone : String
  deriving DecidableEq, Repr

/-- `clampMinutes`, of a number that may not be finite. -/
def clampMinutes (value : Option ℚ) : ℕ := (value.map fun q => ⌊q⌋.toNat).getD 0

/-- `DEFAULT_SLA_CONFIG.workingDays`. -/
def defaultWorkingDays : List ℚ := [1, 2, 3, 4, 5]

/-- The entries that are from 1 to 7, each once. -/
def daysInRange (days : List (Option ℚ)) : List ℚ :=
  ((days.filterMap id).filter fun day => 1 ≤ day ∧ day ≤ 7).eraseDups

/-- `normalizeWorkingDays`. -/
def normalizeWorkingDays (days : Option (List (Option ℚ))) : List ℚ :=
  if daysInRange (days.getD []) = [] then defaultWorkingDays else daysInRange (days.getD [])

/-- `timezone`: the name of a zone, or `UTC`. -/
def normalizeTimezone (P : Platform) (timezone : Option String) : String :=
  (timezone.filter fun name => (P.zone name).isSome).getD "UTC"

/-- `start` of `normalizeConfig`. -/
def ConfigInput.start (config : ConfigInput) : Time :=
  parseTime config.businessStartTime defaultStart

/-- `end` of `normalizeConfig`. -/
def ConfigInput.finish (config : ConfigInput) : Time := parseTime config.businessEndTime defaultEnd

/-- `safeEnd` of `normalizeConfig`. -/
def ConfigInput.safeEnd (config : ConfigInput) : Time :=
  if config.start.minutes < config.finish.minutes then config.finish else defaultEnd

/-- `config.holidayDates || config.nonWorkingDates`. -/
def ConfigInput.holidays (config : ConfigInput) : Option (List DateEntry) :=
  config.holidayDates.or config.nonWorkingDates

/-- `normalizeConfig`. -/
def normalizeConfig (P : Platform) (config : ConfigInput) : Config :=
  let timezone := normalizeTimezone P config.timezone
  let zone := P.zoneOf timezone
  { tatDurationMinutes := clampMinutes (config.tatDurationMinutes.getD (some 480))
    businessStartTime := config.start.text
    businessEndTime := config.safeEnd.text
    businessStart := config.start
    businessEnd := config.safeEnd
    workingDays := normalizeWorkingDays config.workingDays
    holidayDates := normalizeDateKeyList P zone config.holidays
    workingDateOverrides := normalizeDateKeyList P zone config.workingDateOverrides
    timezone }

/-- A calendar as a configuration. A duration of 0 minutes is falsy. -/
def Config.input (config : Config) : ConfigInput where
  tatDurationMinutes :=
    if config.tatDurationMinutes = 0 then none else some (some config.tatDurationMinutes)
  businessStartTime := some config.businessStartTime
  businessEndTime := some config.businessEndTime
  workingDays := some (config.workingDays.map some)
  holidayDates := some (config.holidayDates.map .text)
  workingDateOverrides := some (config.workingDateOverrides.map .text)
  timezone := some config.timezone

/-! ## Business time -/

/-- A working day of a calendar. -/
def Config.isWorkingDay (config : Config) (day : ℤ) : Bool :=
  if isoDate day ∈ config.workingDateOverrides then true
  else if isoDate day ∈ config.holidayDates then false
  else (weekday day : ℚ) ∈ config.workingDays

section Clock

variable (zone : Zone) (config : Config)

/-- `isWorkingDateTime`. -/
def isWorkingDateTime (t : ℤ) : Bool := config.isWorkingDay (zone.day t)

/-- The instant of a time of the same local day. -/
def atTime (time : Time) (t : ℤ) : ℤ :=
  zone.set t (zone.day t * dayMs + time.minutes * msPerMinute)

/-- `atBusinessStart`. -/
def atBusinessStart (t : ℤ) : ℤ := atTime zone config.businessStart t

/-- `atBusinessEnd`. -/
def atBusinessEnd (t : ℤ) : ℤ := atTime zone config.businessEnd t

/-- `plus({ days: 1 })`. -/
def plusDay (t : ℤ) : ℤ := zone.set t (zone.localTime t + dayMs)

/-- `startOf('day')`. -/
def startOfDay (t : ℤ) : ℤ := zone.set t (zone.day t * dayMs)

/-- The start of the business hours of the next day. -/
def nextDayStart (t : ℤ) : ℤ := atBusinessStart zone config (startOfDay zone (plusDay zone t))

/-- The loop of `moveToNextWorkingDayStart`, with the attempts that are left. -/
def seekWorkingDay : ℕ → ℤ → ℤ
  | 0, next => next
  | attempts + 1, next =>
    if isWorkingDateTime zone config next then next
    else seekWorkingDay attempts (nextDayStart zone config next)

/-- `moveToNextWorkingDayStart`. -/
def moveToNextWorkingDayStart (t : ℤ) : ℤ :=
  seekWorkingDay zone config 370 (nextDayStart zone config t)

/-- The loop of `alignToBusinessTime`, with the attempts that are left. -/
def alignLoop : ℕ → ℤ → ℤ
  | 0, current => atBusinessStart zone config current
  | attempts + 1, current =>
    if ¬isWorkingDateTime zone config current then
      alignLoop attempts (moveToNextWorkingDayStart zone config current)
    else if current < atBusinessStart zone config current then atBusinessStart zone config current
    else if atBusinessEnd zone config current ≤ current then
      alignLoop attempts (moveToNextWorkingDayStart zone config current)
    else current

/-- `alignToBusinessTime`. -/
def alignToBusinessTime (t : ℤ) : ℤ := alignLoop zone config maxCalendarDaysLookahead t

/-- The whole minutes that are left of the business hours of a day. -/
def available (t : ℤ) : ℕ := ((atBusinessEnd zone config t - t) / msPerMinute).toNat

/-- The loop of `calculateDueDate`, with the rounds that the safety counter leaves. It ends with the
minutes that it has not consumed. -/
def consumeLoop : ℕ → ℤ → ℕ → ℤ × ℕ
  | 0, current, remaining => (current, remaining)
  | safety + 1, current, remaining =>
    if remaining = 0 then (current, remaining)
    else if available zone config current = 0 then
      consumeLoop safety (moveToNextWorkingDayStart zone config current) remaining
    else
      let consumed := min remaining (available zone config current)
      let current := current + consumed * msPerMinute
      if 0 < remaining - consumed then
        consumeLoop safety (moveToNextWorkingDayStart zone config current) (remaining - consumed)
      else consumeLoop safety current (remaining - consumed)

/-- The minutes of the business hours, or 1 where they are none. -/
def minutesPerDay : ℕ := max 1 (config.businessEnd.minutes - config.businessStart.minutes)

/-- The initial value of `safetyCounter`. -/
def safetyCounter (remaining : ℕ) : ℕ :=
  maxCalendarDaysLookahead + (remaining + minutesPerDay config - 1) / minutesPerDay config

/-- Where the loop of `calculateDueDate` ends, and the minutes that are left. -/
def consume (startTime : ℤ) (minutes : ℕ) : ℤ × ℕ :=
  consumeLoop zone config (safetyCounter config minutes) (alignToBusinessTime zone config startTime)
    minutes

end Clock

/-- The zone of a normalized calendar. -/
def Config.zone (P : Platform) (config : Config) : Zone := P.zoneOf config.timezone

/-- `calculateDueDate`. -/
def calculateDueDate (P : Platform) (startTime : ℤ) (durationMinutes : Option ℚ)
    (configInput : ConfigInput) : ℤ :=
  let config := normalizeConfig P configInput
  let remaining := clampMinutes durationMinutes
  if remaining = 0 then alignToBusinessTime (config.zone P) config startTime
  else (consume (config.zone P) config startTime remaining).1

end Docketra.SlaCalendar
