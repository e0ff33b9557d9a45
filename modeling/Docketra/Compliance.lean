import Docketra.Docket
import Docketra.Lib.Calendar

/-!
# Compliance obligations

`services/complianceTemplateGeneration.service.js`, up to the candidates: a template recurs with a
frequency, applies to the clients of some entity types, and yields one candidate for each period of
a range and each client that it applies to. The candidate carries the key that a docket made of it
is to be found by.

An update of a template runs no validator, so that a template is any document of the schema's types.
The numbers that a date is computed from may be fractional.
-/

namespace Docketra.Compliance

open Calendar

/-! ## Templates and clients -/

/-- `Number(x || fallback)`. -/
def numberOr (x : Option ℚ) (fallback : ℚ) : ℚ :=
  match x with
  | none => fallback
  | some q => if q = 0 then fallback else q

/-- `String(x || fallback)`. -/
def textOr (x : Option String) (fallback : String) : String := (orElse x (some fallback)).getD ""

/-- `recurrencePattern`. -/
structure RecurrencePattern where
  frequency : Option String := some "monthly"
  interval : Option ℚ := some 1
  startMonth : Option ℚ := some 1
  deriving DecidableEq, Repr

/-- `dueDateRule`. -/
structure DueDateRule where
  mode : Option String := some "day_of_next_month"
  dayOfMonth : Option ℚ := some 20
  monthOffset : Option ℚ := some 1
  fixedMonth : Option ℚ := none
  deriving DecidableEq, Repr

/-- An item of `defaultChecklist`. -/
structure TemplateChecklistItem where
  title : String
  description : String := ""
  required : Bool := true
  dueOffsetDays : Option ℚ := some 0
  sortOrder : Option ℤ := some 0
  deriving DecidableEq, Repr

/-- A link of `defaultSop`. -/
structure SopLink where
  title : String
  url : String
  description : String := ""
  type : Option String := some "reference"
  sortOrder : Option ℤ := some 0
  deriving DecidableEq, Repr

/-- `defaultSop`. -/
structure Sop where
  title : String := ""
  body : String := ""
  format : Option String := some "markdown"
  links : List SopLink := []
  deriving DecidableEq, Repr

/-- A document of `ComplianceObligationTemplate.model.js`. -/
structure Template where
  _id : ObjectId
  name : String
  obligationType : Option String := some "OTHER"
  applicableEntityTypes : List String := []
  recurrencePattern : RecurrencePattern := {}
  dueDateRule : DueDateRule := {}
  internalBufferDays : Option ℚ := some 3
  defaultChecklist : List TemplateChecklistItem := []
  defaultSop : Sop := {}
  defaultAssigneeXID : Option String := none
  defaultReviewerXID : Option String := none
  defaultApproverXID : Option String := none
  docketCategoryId : Option ObjectId := none
  docketSubcategoryId : Option String := none
  isActive : Bool := true
  expectedMinutes : Option ℤ := some 0
  estimatedBudget : Option ℤ := some 0
  deriving DecidableEq, Repr

/-- A text of the form that `generateNextClientId` gives: `C` and digits. -/
def isGenerated (s : String) : Bool :=
  match s.toList with
  | 'C' :: digits => digits.all Char.isDigit
  | _ => false

/-- A `clientId`. Only the server makes one, and the field is immutable. -/
structure ClientId where
  text : String
  generated : isGenerated text = true
  deriving DecidableEq, Repr

/-- What the service reads of a Client document. -/
structure Client where
  clientId : ClientId
  businessName : Option String := none
  /-- `clientFactSheet.basicInfo.entityType`. -/
  entityType : Option String := none
  status : String := "ACTIVE"
  isInternal : Bool := false
  deriving DecidableEq, Repr

/-- `normalizeEntityType`. -/
def normalizeEntityType (value : Option String) : String := toLowerCase (trim (value.getD ""))

/-- `isTemplateApplicableToEntityType`. -/
def isTemplateApplicableToEntityType (template : Template) (entityType : Option String) : Bool :=
  let configured := (template.applicableEntityTypes.map fun item =>
    normalizeEntityType (some item)).filter (· ≠ "")
  if configured = [] then true
  else "all" ∈ configured ∨ normalizeEntityType entityType ∈ configured

/-! ## Dates -/

def startOfUtcMonth (value : Day) : Day := dateUTC value.year (monthOf value.month) 1

def endOfUtcMonth (value : Day) : Day := dateUTC value.year (monthOf value.month + 1) 0

def addUtcDays (value : Day) (days : ℚ) : Day :=
  dateUTC value.year (monthOf value.month) (value.day + days)

def addUtcMonths (value : Day) (months : ℚ) : Day :=
  dateUTC value.year (monthOf value.month + months) 1

def clampDay (year : ℤ) (monthZeroBased dayOfMonth : ℚ) : Day :=
  let last := endOfUtcMonth (dateUTC year monthZeroBased 1)
  let safeDay := max 1 (min (numberOr (some dayOfMonth) 1) last.day)
  dateUTC year monthZeroBased safeDay

/-- `String(n).padStart(2, '0')`. -/
def padStart2 (n : ℤ) : String :=
  let s := toString n
  if s.length < 2 then "0" ++ s else s

def periodKeyFromStart (value : Day) : String :=
  toString value.year ++ "-" ++ padStart2 (monthOf value.month + 1)

/-- The short name of a month in the `en-US` locale. -/
def monthName (month : ℤ) : String :=
  ["Jan", "Feb", "Mar", "Apr", "May", "Jun", "Jul", "Aug", "Sep", "Oct", "Nov", "Dec"].getD
    (monthOf month).toNat ""

def formatMonthPeriod (value : Day) : String := monthName value.month ++ "-" ++ toString value.year

/-! ## Periods -/

@[ext] structure Period where
  periodStart : Day
  periodEnd : Day
  deriving DecidableEq, Repr

/-- `recurrencePattern?.frequency`, as the functions below compare it. -/
def RecurrencePattern.frequencyText (r : RecurrencePattern) : String :=
  toLowerCase (textOr r.frequency "monthly")

/-- `interval` of `expandRecurringPeriods`. -/
def RecurrencePattern.intervalNumber (r : RecurrencePattern) : ℚ := max 1 (numberOr r.interval 1)

/-- `monthsSpan` of `expandRecurringPeriods`. -/
def RecurrencePattern.monthsSpan (r : RecurrencePattern) : ℚ :=
  if r.frequencyText = "quarterly" then 3 * r.intervalNumber
  else if r.frequencyText = "yearly" then 12 * r.intervalNumber
  else r.intervalNumber

/-- `configuredStartMonth` of `expandRecurringPeriods`. -/
def RecurrencePattern.configuredStartMonth (r : RecurrencePattern) : ℚ :=
  max 1 (min 12 (numberOr r.startMonth 1)) - 1

/-- The first value of `cursor` in `expandRecurringPeriods`. -/
def RecurrencePattern.firstCursor (r : RecurrencePattern) (normalizedStart : Day) : Day :=
  if r.frequencyText = "quarterly" then
    dateUTC normalizedStart.year ((monthOf normalizedStart.month / 3 * 3 : ℤ) : ℚ) 1
  else if r.frequencyText = "yearly" then
    let year := if r.configuredStartMonth < monthOf normalizedStart.month
      then normalizedStart.year + 1 else normalizedStart.year
    dateUTC year r.configuredStartMonth 1
  else normalizedStart

/-- The rounds of the loop of `expandRecurringPeriods` from a cursor on, so many at most. -/
def periodsFrom (normalizedStart normalizedEnd : Day) (monthsSpan : ℚ) : ℕ → Day → List Period
  | 0, _ => []
  | rounds + 1, cursor =>
    if cursor ≤ normalizedEnd then
      let nextPeriodStart := addUtcMonths cursor monthsSpan
      let rest := periodsFrom normalizedStart normalizedEnd monthsSpan rounds nextPeriodStart
      if normalizedStart ≤ cursor ∧ cursor ≤ normalizedEnd
      then ⟨cursor, addUtcDays nextPeriodStart (-1)⟩ :: rest
      else rest
    else []

/-- The number of rounds that there can be: each moves the cursor by a month or more. -/
def roundsFrom (cursor normalizedEnd : Day) : ℕ := (normalizedEnd.month - cursor.month + 1).toNat

/-- `expandRecurringPeriods`. -/
def expandRecurringPeriods (recurrencePattern : RecurrencePattern) (rangeStart rangeEnd : Day) :
    List Period :=
  let normalizedStart := startOfUtcMonth rangeStart
  let normalizedEnd := startOfUtcMonth rangeEnd
  let cursor := recurrencePattern.firstCursor normalizedStart
  periodsFrom normalizedStart normalizedEnd recurrencePattern.monthsSpan
    (roundsFrom cursor normalizedEnd) cursor

/-! ## Candidates -/

/-- `computeStatutoryDueDate`. -/
def computeStatutoryDueDate (period : Period) (dueDateRule : DueDateRule) : Day :=
  let mode := toLowerCase (textOr dueDateRule.mode "day_of_next_month")
  let dayOfMonth := max 1 (min 28 (numberOr dueDateRule.dayOfMonth 20))
  let periodEnd := period.periodEnd
  if mode = "fixed_day_month" then
    let fixedMonth :=
      max 1 (min 12 (numberOr dueDateRule.fixedMonth (monthOf periodEnd.month + 1)))
    clampDay periodEnd.year (fixedMonth - 1) dayOfMonth
  else
    let monthOffset := if mode = "day_of_month_after_period"
      then max 0 (numberOr dueDateRule.monthOffset 1) else 1
    let dueMonthStart :=
      addUtcMonths (dateUTC periodEnd.year (monthOf periodEnd.month) 1) monthOffset
    clampDay dueMonthStart.year (monthOf dueMonthStart.month) dayOfMonth

/-- `computeInternalDueDate`. -/
def computeInternalDueDate (statutoryDueDate : Day) (internalBufferDays : Option ℚ) : Day :=
  addUtcDays statutoryDueDate (-max 0 (numberOr internalBufferDays 0))

/-- `buildObligationPeriodLabel`. -/
def buildObligationPeriodLabel (periodStart : Day) (recurrencePattern : RecurrencePattern) :
    String :=
  if recurrencePattern.frequencyText = "quarterly" then
    "Q" ++ toString (monthOf periodStart.month / 3 + 1) ++ "-" ++ toString periodStart.year
  else if recurrencePattern.frequencyText = "yearly" then
    let endYear := toString (periodStart.year + 1)
    "FY " ++ toString periodStart.year ++ "-" ++
      String.ofList (endYear.toList.drop (endYear.length - 2))
  else formatMonthPeriod periodStart

/-- An element of the list that `buildGenerationCandidates` returns. -/
structure Candidate where
  template : Template
  client : Client
  periodStart : Day
  periodEnd : Day
  periodKey : String
  periodLabel : String
  statutoryDueDate : Day
  internalDueDate : Day
  idempotencyKey : String
  deriving DecidableEq, Repr

/-- `template.obligationType || 'OTHER'`, in lower case. -/
def Template.obligationKey (template : Template) : String :=
  toLowerCase (textOr template.obligationType "OTHER")

/-- The template applies to the client. -/
def Template.appliesTo (template : Template) (client : Client) : Bool :=
  isTemplateApplicableToEntityType template client.entityType

/-- The candidate of a template, a client, and a period. -/
def generationCandidate (template : Template) (client : Client) (period : Period) : Candidate :=
  let statutoryDueDate := computeStatutoryDueDate period template.dueDateRule
  let periodKey := periodKeyFromStart period.periodStart
  { template := template
    client := client
    periodStart := period.periodStart
    periodEnd := period.periodEnd
    periodKey := periodKey
    periodLabel := buildObligationPeriodLabel period.periodStart template.recurrencePattern
    statutoryDueDate := statutoryDueDate
    internalDueDate := computeInternalDueDate statutoryDueDate template.internalBufferDays
    idempotencyKey := "compliance:" ++ client.clientId.text ++ ":" ++ template.obligationKey ++
      ":" ++ periodKey }

/-- The candidates of one template. -/
def templateCandidates (clients : List Client) (rangeStart rangeEnd : Day) (template : Template) :
    List Candidate :=
  let periods := expandRecurringPeriods template.recurrencePattern rangeStart rangeEnd
  clients.flatMap fun client =>
    if template.appliesTo client then periods.map (generationCandidate template client) else []

/-- `buildGenerationCandidates`. -/
def buildGenerationCandidates (templates : List Template) (clients : List Client)
    (rangeStart rangeEnd : Day) : List Candidate :=
  templates.flatMap (templateCandidates clients rangeStart rangeEnd)

end Docketra.Compliance
