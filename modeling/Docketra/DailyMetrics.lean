import Docketra.Lib.Counts
import Docketra.Identifiers
import Docketra.Docket
import Mathlib.Data.Int.Order.Basic
import Mathlib.Data.List.AList
import Mathlib.Algebra.Field.Rat

/-!
# Daily metrics

`services/tenantCaseMetrics.service.js` counts the dockets of a tenant for a day, in one aggregation
with an expression for each figure. A job stores the figures of every firm in a summary, and a report
adds up the rows of a range of days.

The figures mean what they say exactly when the dockets are `Counted`, and the job counts the dockets
of a firm exactly when it has none, since it passes the code of the firm, and a docket has the id
(`figures_mean_iff`). What is stored for a day is what a report on that day returns.
-/

namespace Docketra.DailyMetrics

open Counts
open Identifiers (isHex24)

/-! ## Dockets and firms -/

/-- What the aggregation reads of a Case document. -/
structure Docket where
  firmId : String
  status : CaseStatus := .OPEN
  createdAt : Date := 0
  dueDate : Option Date := none
  resolvedAt : Option Date := none
  deletedAt : Option Date := none
  deriving DecidableEq, Repr

/-- The stored words of `Firm.status`: those of the schema, and the ones that its comment names. -/
inductive FirmStatus where
  | pending_setup | active | suspended | ACTIVE | SUSPENDED | INACTIVE
  deriving DecidableEq, Repr

/-- The words of `Firm.bootstrapStatus`. -/
inductive BootstrapStatus where
  | PENDING | COMPLETED | FAILED
  deriving DecidableEq, Repr

/-- `/^FIRM\d{3,}$/`. -/
def isFirmCode (code : String) : Bool :=
  code.toList.take 4 = ['F', 'I', 'R', 'M'] && (code.toList.drop 4).all Char.isDigit &&
    3 ≤ (code.toList.drop 4).length

/-- A firm. Its `_id` is an ObjectId, and `firmId` its code. -/
structure Firm where
  id : String
  firmId : String
  status : FirmStatus := .pending_setup
  bootstrapStatus : BootstrapStatus := .PENDING
  id_hex : isHex24 id = true
  firmId_code : isFirmCode firmId = true

/-- The id of a firm is not its code. -/
theorem Firm.id_ne_firmId (firm : Firm) : firm.id ≠ firm.firmId := by
  intro heq
  have hhex := firm.id_hex
  have hcode := firm.firmId_code
  rw [heq, isHex24, Bool.and_eq_true, List.all_eq_true] at hhex
  simp only [isFirmCode, Bool.and_eq_true, decide_eq_true_eq] at hcode
  have hmem : 'I' ∈ firm.firmId.toList := by
    have htake : 'I' ∈ firm.firmId.toList.take 4 := by
      rw [hcode.1.1]
      decide
    exact List.mem_of_mem_take htake
  exact absurd (hhex.2 _ hmem) (by decide)

/-! ## The figures of a day -/

/-- The milliseconds of a day. -/
def dayMs : ℤ := 24 * 60 * 60 * 1000

/-- `normalizeUtcDate`. -/
def normalizeUtcDate (dateInput : Date) : Date := dateInput / dayMs * dayMs

/-- `getDateBoundsUtc`: the start of a day, and of the next one. -/
def getDateBoundsUtc (dateInput : Date) : Date × Date :=
  (normalizeUtcDate dateInput, normalizeUtcDate dateInput + dayMs)

/-- The figures of a row. -/
structure Figures where
  totalCases : ℕ := 0
  openCases : ℕ := 0
  pendedCases : ℕ := 0
  filedCases : ℕ := 0
  resolvedCases : ℕ := 0
  pendingApprovals : ℕ := 0
  overdueCases : ℕ := 0
  /-- An exact fraction, where the database has a double. -/
  avgResolutionTimeSeconds : ℚ := 0
  casesCreatedToday : ℕ := 0
  casesResolvedToday : ℕ := 0
  deriving DecidableEq

/-- The first `$match`. An aggregation does not cast, and the soft-delete plugin adds `deletedAt`. -/
def selected (tenantId : String) (dayEnd : Date) (store : List Docket) : List Docket :=
  store.filter fun docket =>
    docket.firmId = tenantId && docket.createdAt < dayEnd && docket.deletedAt = none

/-- `{ $lt: ['$dueDate', end] }`. A missing date comes before every date. -/
def ltDueDate (dayEnd : Date) (docket : Docket) : Bool := docket.dueDate.all fun due => due < dayEnd

/-- The times that `$avg` is over. A missing `resolvedAt` makes a difference that it skips. -/
def resolutionTime (docket : Docket) : Option ℤ :=
  if docket.status = .RESOLVED then
    docket.resolvedAt.map fun resolvedAt => resolvedAt - docket.createdAt
  else none

/-- `$avg`, with the division by 1000. It is 0 where there is nothing to average. -/
def averageSeconds (times : List ℤ) : ℚ := (times.sum : ℚ) / times.length / 1000

/-- `computeTenantDailyMetrics`, of which the tenant and the day make the key of the row. -/
def computeTenantDailyMetrics (tenantId : String) (dateInput : Date) (store : List Docket) :
    Figures :=
  let bounds := getDateBoundsUtc dateInput
  let dockets := selected tenantId bounds.2 store
  { totalCases := dockets.length
    -- `FILED` is open here, and the words between open and resolved are not.
    openCases := dockets.countP fun docket =>
      docket.status ∈ [CaseStatus.OPEN, .PENDING, .FILED]
    pendedCases := dockets.countP fun docket => docket.status = .PENDING
    filedCases := dockets.countP fun docket => docket.status = .FILED
    resolvedCases := dockets.countP fun docket => docket.status = .RESOLVED
    pendingApprovals := dockets.countP fun docket =>
      docket.status ∈ [CaseStatus.REVIEWED, .UNDER_REVIEW]
    overdueCases := dockets.countP fun docket =>
      ltDueDate bounds.2 docket && docket.status ≠ .RESOLVED
    avgResolutionTimeSeconds := averageSeconds (dockets.filterMap resolutionTime)
    casesCreatedToday := dockets.countP fun docket =>
      bounds.1 ≤ docket.createdAt && docket.createdAt < bounds.2
    casesResolvedToday := dockets.countP fun docket =>
      docket.status = .RESOLVED &&
        docket.resolvedAt.any fun resolvedAt => bounds.1 ≤ resolvedAt && resolvedAt < bounds.2 }

/-! ## The summary -/

/-- The rows of `TenantCaseMetricsDaily`, by the keys of its unique index. -/
abbrev Summary := AList fun _ : String × Date => Figures

/-- `upsertTenantDailyMetrics`. The schema trims the tenant. -/
def upsertTenantDailyMetrics (tenantId : String) (dateInput : Date) (store : List Docket)
    (summary : Summary) : Summary :=
  summary.insert (trim tenantId, normalizeUtcDate dateInput)
    (computeTenantDailyMetrics tenantId dateInput store)

/-- The tenants of `runDailyAggregationJob`. -/
def jobTenants (firms : List Firm) : List Firm :=
  firms.filter fun firm => firm.status = .ACTIVE && firm.bootstrapStatus = .COMPLETED

/-- The tenant id that the job passes for a firm. -/
def jobTenantId (firm : Firm) : String := firm.firmId

/-- `runDailyAggregationJob`. The tenants of a batch have rows of their own, so their order does not
matter. -/
def runDailyAggregationJob (firms : List Firm) (dateInput : Date) (store : List Docket)
    (summary : Summary) : Summary :=
  (jobTenants firms).foldl
    (fun rows firm => upsertTenantDailyMetrics (jobTenantId firm) dateInput store rows) summary

/-- The rows of a range of days. -/
def rowsInRange (tenantId : String) (fromDate toDate : Date) (summary : Summary) : List Figures :=
  (summary.entries.filter fun row =>
    row.1.1 = trim tenantId && fromDate ≤ row.1.2 && row.1.2 ≤ toDate).map (·.2)

/-- A step of the `reduce`. -/
def Figures.add (acc row : Figures) : Figures where
  totalCases := acc.totalCases + row.totalCases
  openCases := acc.openCases + row.openCases
  pendedCases := acc.pendedCases + row.pendedCases
  filedCases := acc.filedCases + row.filedCases
  resolvedCases := acc.resolvedCases + row.resolvedCases
  pendingApprovals := acc.pendingApprovals + row.pendingApprovals
  overdueCases := acc.overdueCases + row.overdueCases
  avgResolutionTimeSeconds := acc.avgResolutionTimeSeconds + row.avgResolutionTimeSeconds
  casesCreatedToday := acc.casesCreatedToday + row.casesCreatedToday
  casesResolvedToday := acc.casesResolvedToday + row.casesResolvedToday

/-- What `getTenantMetricsByRange` returns. -/
structure RangeMetrics where
  fromDate : Date
  toDate : Date
  days : ℤ
  rowsCount : ℕ
  aggregate : Figures
  deriving DecidableEq

/-- `MAX_DASHBOARD_RANGE_DAYS`. -/
def maxDashboardRangeDays : ℤ := 365

/-- `getTenantMetricsByRange`. -/
def getTenantMetricsByRange (tenantId : String) (fromDateInput toDateInput : Date)
    (allowLongRange : Bool) (summary : Summary) : Except String RangeMetrics :=
  let fromDate := (getDateBoundsUtc fromDateInput).1
  let toDate := (getDateBoundsUtc toDateInput).1
  let diff := (toDate - fromDate) / dayMs
  if diff < 0 then .error "Invalid date range: fromDate must be before toDate"
  else if !allowLongRange && maxDashboardRangeDays < diff then
    .error "Date range exceeds 365 days"
  else
    let rows := rowsInRange tenantId fromDate toDate summary
    let aggregate := rows.foldl Figures.add {}
    let divisor := if rows.length = 0 then 1 else rows.length
    .ok
      { fromDate, toDate
        days := diff + 1
        rowsCount := rows.length
        aggregate :=
          { aggregate with
            avgResolutionTimeSeconds := aggregate.avgResolutionTimeSeconds / (divisor : ℚ) } }

/-! ## What the figures mean -/

/-- A docket that is neither resolved nor filed. -/
def isUnfinished (docket : Docket) : Bool := docket.status ∉ [CaseStatus.RESOLVED, .FILED]

/-- A docket with a due date before the end of the day. -/
def isDueBefore (dayEnd : Date) (docket : Docket) : Bool :=
  docket.dueDate.any fun due => due < dayEnd

/-- The figures of a day mean what they say of the dockets that a tenant has by its end. -/
structure FiguresMean (tenantId : String) (dateInput : Date) (store : List Docket) : Prop where
  totalCases : (computeTenantDailyMetrics tenantId dateInput store).totalCases =
    (selected tenantId (getDateBoundsUtc dateInput).2 store).length
  overdueCases : (computeTenantDailyMetrics tenantId dateInput store).overdueCases =
    (selected tenantId (getDateBoundsUtc dateInput).2 store).countP fun docket =>
      isDueBefore (getDateBoundsUtc dateInput).2 docket && isUnfinished docket
  openCases : (computeTenantDailyMetrics tenantId dateInput store).openCases =
    (selected tenantId (getDateBoundsUtc dateInput).2 store).countP isUnfinished
  accounts : (computeTenantDailyMetrics tenantId dateInput store).openCases +
      (computeTenantDailyMetrics tenantId dateInput store).resolvedCases +
      (computeTenantDailyMetrics tenantId dateInput store).filedCases =
    (computeTenantDailyMetrics tenantId dateInput store).totalCases
  overdue_le_open : (computeTenantDailyMetrics tenantId dateInput store).overdueCases ≤
    (computeTenantDailyMetrics tenantId dateInput store).openCases

/-- The id that the job passes for a firm selects the dockets with the firm's id. -/
def JobSelects (firm : Firm) (dateInput : Date) (store : List Docket) : Prop :=
  selected (jobTenantId firm) (getDateBoundsUtc dateInput).2 store =
    selected firm.id (getDateBoundsUtc dateInput).2 store

/-- A report on the day of a row returns the figures of the row. -/
def ReturnsTheDay (tenantId : String) (dateInput : Date) (store : List Docket) (summary : Summary) :
    Prop :=
  (getTenantMetricsByRange tenantId dateInput dateInput false
      (upsertTenantDailyMetrics tenantId dateInput store summary)).map (·.aggregate) =
    .ok (computeTenantDailyMetrics tenantId dateInput store)

/-- The dockets on which the expressions count what they stand for. -/
structure Counted (dayEnd : Date) (dockets : List Docket) : Prop where
  /-- Filed dockets are counted as open, and the other words are not. -/
  others : dockets.countP (fun docket => docket.status = .FILED) =
    dockets.countP fun docket =>
      docket.status ∉ [CaseStatus.OPEN, .PENDING, .FILED, .RESOLVED]
  /-- A docket without a due date is counted as overdue until it is resolved. -/
  dated : ∀ docket ∈ dockets, docket.status ≠ .RESOLVED → docket.dueDate ≠ none
  /-- A filed docket is counted as overdue. -/
  filed : ∀ docket ∈ dockets, docket.status = .FILED → isDueBefore dayEnd docket = false

/-! ## The figures -/

section

variable {dayEnd : Date} {dockets : List Docket}

/-- The open dockets are counted right exactly when the filed ones are as many as those of the words
that no counter names. -/
theorem openCases_iff :
    dockets.countP (fun docket => docket.status ∈ [CaseStatus.OPEN, .PENDING, .FILED]) =
        dockets.countP isUnfinished ↔
      dockets.countP (fun docket => docket.status = .FILED) =
        dockets.countP fun docket =>
          docket.status ∉ [CaseStatus.OPEN, .PENDING, .FILED, .RESOLVED] := by
  have hfiled : (fun docket : Docket =>
      decide (docket.status ∈ [CaseStatus.OPEN, .PENDING, .FILED]) && !isUnfinished docket) =
      fun docket => decide (docket.status = .FILED) := by
    -- One status at a time: the words of the counter against those that are left.
    funext docket
    unfold isUnfinished
    cases docket.status <;> decide
  have hother : (fun docket : Docket =>
      isUnfinished docket && !decide (docket.status ∈ [CaseStatus.OPEN, .PENDING, .FILED])) =
      fun docket =>
        decide (docket.status ∉ [CaseStatus.OPEN, .PENDING, .FILED, .RESOLVED]) := by
    funext docket
    unfold isUnfinished
    cases docket.status <;> decide
  rw [countP_eq_iff, hfiled, hother]

/-- The overdue dockets are counted right exactly when each docket that is not resolved has a due
date, and no filed docket was due. -/
theorem overdueCases_iff :
    dockets.countP (fun docket => ltDueDate dayEnd docket && docket.status ≠ .RESOLVED) =
        dockets.countP (fun docket => isDueBefore dayEnd docket && isUnfinished docket) ↔
      (∀ docket ∈ dockets, docket.status ≠ .RESOLVED → docket.dueDate ≠ none) ∧
        ∀ docket ∈ dockets, docket.status = .FILED → isDueBefore dayEnd docket = false := by
  have himp : ∀ docket ∈ dockets, (isDueBefore dayEnd docket && isUnfinished docket) = true →
      (ltDueDate dayEnd docket && docket.status ≠ .RESOLVED) = true := by
    intro docket _ h
    obtain ⟨hdue, hopen⟩ := Bool.and_eq_true_iff.mp h
    have hstatus := of_decide_eq_true hopen
    rw [List.mem_cons, not_or] at hstatus
    rw [isDueBefore, Option.any_eq_true] at hdue
    obtain ⟨due, hsome, hlt⟩ := hdue
    rw [Bool.and_eq_true, ltDueDate, hsome]
    exact ⟨hlt, decide_eq_true hstatus.1⟩
  rw [eq_comm, countP_eq_iff_of_imp himp, ← forall₂_and]
  refine forall₂_congr fun docket _ => ?_
  unfold ltDueDate isDueBefore isUnfinished
  rcases docket with ⟨_, status, _, dueDate, _, _⟩
  -- A missing date comes before the end of every day, whatever the status.
  cases dueDate with
  | none => cases status <;> simp
  | some due => cases status <;> simp

/-- Every docket is unfinished, resolved or filed. -/
theorem length_eq_counts :
    dockets.countP isUnfinished + dockets.countP (fun docket => docket.status = .RESOLVED) +
      dockets.countP (fun docket => docket.status = .FILED) = dockets.length := by
  induction dockets with
  | nil => rfl
  | cons docket dockets ih =>
    rw [List.length_cons, ← ih]
    obtain ⟨firmId, status, createdAt, dueDate, resolvedAt, deletedAt⟩ := docket
    cases status <;> simp [isUnfinished] <;> omega

end

/-- The figures of a tenant mean what they say exactly when its dockets are counted. -/
theorem figures_iff (tenantId : String) (dateInput : Date) (store : List Docket) :
    FiguresMean tenantId dateInput store ↔
      Counted (getDateBoundsUtc dateInput).2
        (selected tenantId (getDateBoundsUtc dateInput).2 store) := by
  constructor
  · intro h
    obtain ⟨hdated, hfiled⟩ := overdueCases_iff.mp h.overdueCases
    exact ⟨openCases_iff.mp h.openCases, hdated, hfiled⟩
  · intro h
    have hopen := openCases_iff.mpr h.others
    have hoverdue := overdueCases_iff.mpr ⟨h.dated, h.filed⟩
    refine ⟨rfl, hoverdue, hopen, ?_, ?_⟩
    · simp only [computeTenantDailyMetrics, hopen]
      exact length_eq_counts
    · simp only [computeTenantDailyMetrics, hopen, hoverdue]
      exact List.countP_mono_left fun docket _ h => (Bool.and_eq_true_iff.mp h).2

/-! ## The job -/

/-- No firm with a status of the schema is one of the job's tenants. -/
theorem jobTenants_eq_nil {firms : List Firm}
    (h : ∀ firm ∈ firms, firm.status ∈ [FirmStatus.pending_setup, .active, .suspended]) :
    jobTenants firms = [] := by
  rw [jobTenants, List.filter_eq_nil_iff]
  intro firm hmem hjob
  have hstatus : firm.status = .ACTIVE := of_decide_eq_true (Bool.and_eq_true_iff.mp hjob).1
  have hword := h firm hmem
  rw [hstatus] at hword
  revert hword
  decide

/-- On such firms the job stores nothing. -/
theorem runDailyAggregationJob_eq_self {firms : List Firm} (dateInput : Date)
    (store : List Docket) (summary : Summary)
    (h : ∀ firm ∈ firms, firm.status ∈ [FirmStatus.pending_setup, .active, .suspended]) :
    runDailyAggregationJob firms dateInput store summary = summary := by
  rw [runDailyAggregationJob, jobTenants_eq_nil h, List.foldl_nil]

/-- The tenant id of the job selects the dockets of the firm exactly when no docket of that time has
the firm's id, and none its code. -/
theorem jobSelects_iff (firm : Firm) (dateInput : Date) (store : List Docket) :
    JobSelects firm dateInput store ↔
      ∀ docket ∈ store, docket.createdAt < (getDateBoundsUtc dateInput).2 →
        docket.deletedAt = none → docket.firmId ≠ firm.id ∧ docket.firmId ≠ firm.firmId := by
  have hmem (tenantId : String) (docket : Docket) :
      docket ∈ selected tenantId (getDateBoundsUtc dateInput).2 store ↔
        docket ∈ store ∧ docket.firmId = tenantId ∧
          docket.createdAt < (getDateBoundsUtc dateInput).2 ∧ docket.deletedAt = none := by
    simp only [selected, List.mem_filter, Bool.and_eq_true, decide_eq_true_eq, and_assoc]
  constructor
  · intro h docket hstore htime hlive
    constructor
    · intro hid
      have hin := (hmem firm.id docket).mpr ⟨hstore, hid, htime, hlive⟩
      rw [← h] at hin
      exact firm.id_ne_firmId (hid.symm.trans ((hmem firm.firmId docket).mp hin).2.1)
    · intro hcode
      have hin := (hmem firm.firmId docket).mpr ⟨hstore, hcode, htime, hlive⟩
      have hjob : docket ∈ selected firm.id (getDateBoundsUtc dateInput).2 store := h ▸ hin
      exact firm.id_ne_firmId (((hmem firm.id docket).mp hjob).2.1.symm.trans hcode)
  · intro h
    have hnone (tenantId : String) (htenant : tenantId = firm.id ∨ tenantId = firm.firmId) :
        selected tenantId (getDateBoundsUtc dateInput).2 store = [] := by
      rw [List.eq_nil_iff_forall_not_mem]
      intro docket hin
      obtain ⟨hstore, hid, htime, hlive⟩ := (hmem tenantId docket).mp hin
      obtain ⟨hne, hne'⟩ := h docket hstore htime hlive
      rcases htenant with htenant | htenant
      · exact hne (hid.trans htenant)
      · exact hne' (hid.trans htenant)
    rw [JobSelects, jobTenantId, hnone _ (Or.inr rfl), hnone _ (Or.inl rfl)]

/-! ## The report -/

/-- Adding a row to nothing gives the row. -/
theorem Figures.add_empty (row : Figures) : Figures.add {} row = row := by
  simp [Figures.add]

/-- The row of a day is the only one that a report on that day finds. -/
theorem rowsInRange_insert (tenantId : String) (date : Date) (row : Figures) (summary : Summary) :
    rowsInRange tenantId date date (summary.insert (trim tenantId, date) row) = [row] := by
  rw [rowsInRange, AList.entries_insert, List.filter_cons]
  have hothers : (List.kerase (trim tenantId, date) summary.entries).filter (fun entry =>
      entry.1.1 = trim tenantId && date ≤ entry.1.2 && entry.1.2 ≤ date) = [] := by
    rw [List.filter_eq_nil_iff]
    intro entry hmem hkey
    simp only [Bool.and_eq_true, decide_eq_true_eq] at hkey
    have hdate : entry.1.2 = date := le_antisymm hkey.2 hkey.1.2
    have hentry : entry.1 = (trim tenantId, date) := Prod.ext hkey.1.1 hdate
    have hkeys := List.mem_keys_of_mem hmem
    rw [hentry] at hkeys
    exact List.notMem_keys_kerase (trim tenantId, date) summary.nodupKeys hkeys
  rw [hothers]
  simp

/-- A report on a day returns what was stored for it. -/
theorem returnsTheDay (tenantId : String) (dateInput : Date) (store : List Docket)
    (summary : Summary) : ReturnsTheDay tenantId dateInput store summary := by
  have hrows := rowsInRange_insert tenantId (normalizeUtcDate dateInput)
    (computeTenantDailyMetrics tenantId dateInput store) summary
  have hdiff : (normalizeUtcDate dateInput - normalizeUtcDate dateInput) / dayMs = 0 := by
    rw [Int.sub_self, Int.zero_ediv]
  unfold ReturnsTheDay getTenantMetricsByRange upsertTenantDailyMetrics
  simp only [getDateBoundsUtc, hdiff, hrows]
  simp [Figures.add_empty, Except.map, maxDashboardRangeDays, div_one]

/-! ## When the metrics mean what they say -/

/-- The figures of a firm mean what they say exactly when its dockets are counted, the job's id
selects them exactly when there are none, and the report returns the row of its day. -/
theorem figures_mean_iff (firm : Firm) (tenantId : String) (dateInput : Date)
    (store : List Docket) (summary : Summary) :
    (FiguresMean tenantId dateInput store ↔
        Counted (getDateBoundsUtc dateInput).2
          (selected tenantId (getDateBoundsUtc dateInput).2 store)) ∧
      (JobSelects firm dateInput store ↔
        ∀ docket ∈ store, docket.createdAt < (getDateBoundsUtc dateInput).2 →
          docket.deletedAt = none → docket.firmId ≠ firm.id ∧ docket.firmId ≠ firm.firmId) ∧
      ReturnsTheDay tenantId dateInput store summary :=
  ⟨figures_iff tenantId dateInput store, jobSelects_iff firm dateInput store,
    returnsTheDay tenantId dateInput store summary⟩

/-- The firm of the counterexample. -/
def someFirm : Firm where
  id := "0123456789abcdef01234567"
  firmId := "FIRM001"
  id_hex := by decide
  firmId_code := by decide

/-- A docket in progress without a due date is overdue, and not open. The job counts it nowhere. -/
theorem figures_mean_fails :
    ¬ FiguresMean someFirm.id 0 [{ firmId := someFirm.id, status := .IN_PROGRESS }] ∧
      ¬ JobSelects someFirm 0 [{ firmId := someFirm.id, status := .IN_PROGRESS }] := by
  constructor
  · intro h
    have hle := h.overdue_le_open
    revert hle
    decide
  · unfold JobSelects
    decide

end Docketra.DailyMetrics
