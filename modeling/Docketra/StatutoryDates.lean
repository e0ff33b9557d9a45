import Docketra.PeriodRanges

/-!
# Statutory due dates

`computeStatutoryDueDate` gives a period its due date by the rule of the template, and
`computeInternalDueDate` takes the buffer off it. The day is the one of the rule, and the internal
date is never later.

The month goes wrong in two ways. A `monthOffset` of 0 is taken for none, and counts as 1. A fixed
month is looked for in the year in which the period ends, and so is over already when it does not
come after the period's last month there; without a `fixedMonth` it is that month itself. The due
date is right exactly when neither happens (`due_right_iff`).
-/

namespace Docketra.Compliance

open Calendar

/-! ## What a due date is to be -/

/-- What the schema admits of a rule and a buffer. -/
structure WithinBounds (rule : DueDateRule) (buffer : Option ℚ) : Prop where
  mode : ∀ mode ∈ rule.mode,
    mode ∈ ["day_of_next_month", "day_of_month_after_period", "fixed_day_month"]
  dayOfMonth : ∀ day ∈ rule.dayOfMonth, 1 ≤ day ∧ day ≤ 28
  monthOffset : ∀ offset ∈ rule.monthOffset, 0 ≤ offset ∧ offset ≤ 24
  fixedMonth : ∀ month ∈ rule.fixedMonth, 1 ≤ month ∧ month ≤ 12
  buffer : ∀ days ∈ buffer, 0 ≤ days ∧ days ≤ 120

/-- The mode of a rule. -/
def DueDateRule.modeText (rule : DueDateRule) : String :=
  toLowerCase (textOr rule.mode "day_of_next_month")

/-- The months of the offset, as the rule states them. -/
def DueDateRule.wholeOffset (rule : DueDateRule) : ℤ := ⌊rule.monthOffset.getD 1⌋

/-- The place of the fixed month in its year. Without one it is that of the period's last month. -/
def DueDateRule.fixedPlace (rule : DueDateRule) (last : ℤ) : ℤ :=
  (rule.fixedMonth.map fun month => ⌊month⌋ - 1).getD (monthOf last)

/-- The rule designates a month for a period that ends with `last`. -/
def DueDateRule.Designates (rule : DueDateRule) (last month : ℤ) : Prop :=
  if rule.modeText = "fixed_day_month" then monthOf month = rule.fixedPlace last
  else if rule.modeText = "day_of_month_after_period" then month = last + rule.wholeOffset
  else month = last + 1

/-- The due dates of a period are right. -/
structure DueRight (period : Period) (rule : DueDateRule) (buffer : Option ℚ) : Prop where
  after : ¬computeStatutoryDueDate period rule ≤ period.periodEnd
  month : rule.Designates period.periodEnd.month (computeStatutoryDueDate period rule).month
  day : ((computeStatutoryDueDate period rule).day : ℤ) =
    min ⌊rule.dayOfMonth.getD 20⌋ (daysInMonth (computeStatutoryDueDate period rule).month)
  internal : computeInternalDueDate (computeStatutoryDueDate period rule) buffer ≤
    computeStatutoryDueDate period rule

/-- A month is of a year that is read as it is, and not as one from 1900 on. -/
def HasYear (month : ℤ) : Prop := monthStart month = month

instance (month : ℤ) : Decidable (HasYear month) := inferInstanceAs (Decidable (_ = _))

/-- The condition on a rule, for a period that ends with `last`. -/
def DueDateRule.FallsAfter (rule : DueDateRule) (last : ℤ) : Prop :=
  if rule.modeText = "fixed_day_month" then
    -- The fixed month comes after the period's last month in the same year.
    last < 12 * fullYear (yearOf last) + rule.fixedPlace last
  else if rule.modeText = "day_of_month_after_period" then
    1 ≤ rule.wholeOffset ∧ HasYear last ∧ HasYear (last + rule.wholeOffset)
  else HasYear last ∧ HasYear (last + 1)

instance (rule : DueDateRule) (last : ℤ) : Decidable (rule.FallsAfter last) :=
  inferInstanceAs (Decidable (ite _ _ (ite _ _ _)))

/-! ## Days of a month -/

theorem monthStart_monthStart (a : ℤ) : monthStart (monthStart a) = monthStart a := by
  rcases monthStart_outside a with hneg | hle
  · exact monthStart_of_neg hneg
  · exact monthStart_of_le hle

theorem le_monthStart (a : ℤ) : a ≤ monthStart a := by
  have hyear := le_fullYear (yearOf a)
  have hsum := year_add_month a
  unfold monthStart
  omega

theorem monthOf_monthStart (a : ℤ) : monthOf (monthStart a) = monthOf a := by
  have hmonth := monthOf_bounds a
  unfold monthStart monthOf at *
  omega

/-- The days of a month, by their number. -/
theorem firstOf_add {month : ℤ} {n : ℕ} (hn : n + 1 ≤ daysInMonth month) :
    (firstOf month).add n = ⟨month, n + 1, Nat.le_add_left 1 n, hn⟩ := by
  induction n with
  | zero => rfl
  | succ n ih =>
    have hprev : Day.next^[n] (firstOf month) = ⟨month, n + 1, Nat.le_add_left 1 n, by omega⟩ :=
      ih (by omega)
    show Day.next^[n + 1] (firstOf month) = _
    rw [Function.iterate_succ_apply', hprev, Day.next, dif_pos hn]

theorem month_prev_le (d : Day) : d.prev.month ≤ d.month := by
  unfold Day.prev
  split_ifs
  · exact le_rfl
  · exact Int.sub_le_self d.month Int.one_nonneg

theorem month_prev_iterate_le (n : ℕ) (d : Day) : (Day.prev^[n] d).month ≤ d.month := by
  induction n with
  | zero => exact le_rfl
  | succ n ih =>
    rw [Function.iterate_succ_apply']
    exact le_trans (month_prev_le _) ih

/-- Days before the first of a month are in earlier months. -/
theorem month_firstOf_add_negSucc (month : ℤ) (n : ℕ) :
    ((firstOf month).add (.negSucc n)).month < month := by
  show (Day.prev^[n + 1] (firstOf month)).month < month
  rw [Function.iterate_succ_apply]
  have hprev : (firstOf month).prev = lastOf (month - 1) := rfl
  have hle := month_prev_iterate_le n (firstOf month).prev
  rw [hprev] at hle ⊢
  exact lt_of_le_of_lt hle (show month - 1 < month by omega)

/-- The day before the first of a month, as `Date.UTC` reads the month. -/
theorem addUtcDays_firstOf (month : ℤ) :
    addUtcDays (firstOf month) (-1) = lastOf (monthStart month - 1) := by
  have hzero : ((firstOf month).day + (-1) : ℚ) = ((0 : ℤ) : ℚ) := by
    show ((1 : ℕ) : ℚ) + (-1) = _
    norm_num
  show dateUTC (yearOf month) (monthOf month : ℤ) _ = _
  rw [hzero, dateUTC, truncate_intCast, truncate_intCast]
  rfl

theorem endOfUtcMonth_eq (d : Day) : endOfUtcMonth d = lastOf (monthStart d.month) := by
  have hmonth : ((monthOf d.month : ℤ) : ℚ) + 1 = ((monthOf d.month + 1 : ℤ) : ℚ) := by
    push_cast
    ring
  have hzero : (0 : ℚ) = ((0 : ℤ) : ℚ) := by norm_num
  have hsum : 12 * fullYear d.year + (monthOf d.month + 1) = monthStart d.month + 1 := by
    show 12 * fullYear (yearOf d.month) + (monthOf d.month + 1) = _
    unfold monthStart
    omega
  rw [endOfUtcMonth, hmonth, hzero, dateUTC, truncate_intCast, truncate_intCast, hsum]
  show lastOf (monthStart d.month + 1 - 1) = _
  rw [add_sub_cancel_right]

/-- A day of a month, cut to a whole one, and to the last one. -/
theorem clampDay_eq {year : ℤ} {month day : ℚ} {target : ℤ}
    (htarget : 12 * fullYear year + truncate month = target) (hfixed : monthStart target = target)
    (hday : 1 ≤ day) :
    (clampDay year month day).month = target ∧
      ((clampDay year month day).day : ℤ) = min ⌊day⌋ (daysInMonth target) := by
  have hfirst : dateUTC year month 1 = firstOf target := by rw [dateUTC_one, htarget]
  have hlast : (endOfUtcMonth (dateUTC year month 1)).day = daysInMonth target := by
    rw [hfirst, endOfUtcMonth_eq, firstOf_month, hfixed]
    rfl
  have hnumber : numberOr (some day) 1 = day := if_neg (by rintro rfl; norm_num at hday)
  have hlow : (1 : ℚ) ≤ daysInMonth target := by exact_mod_cast one_le_daysInMonth target
  have hsafe : max 1 (min day (daysInMonth target : ℚ)) = min day (daysInMonth target) :=
    max_eq_right (le_min hday hlow)
  have hfloor : ⌊min day (daysInMonth target : ℚ)⌋ = min ⌊day⌋ (daysInMonth target) := by
    rw [Int.floor_mono.map_min, Int.floor_natCast]
  obtain ⟨n, hn⟩ : ∃ n : ℕ, min ⌊day⌋ (daysInMonth target : ℤ) = n + 1 := by
    have hone : 1 ≤ ⌊day⌋ := Int.le_floor.mpr (by exact_mod_cast hday)
    have hdays := one_le_daysInMonth target
    exact ⟨(min ⌊day⌋ (daysInMonth target : ℤ) - 1).toNat, by omega⟩
  have htruncate : truncate (min day (daysInMonth target : ℚ)) - 1 = (n : ℤ) := by
    rw [truncate_of_nonneg (le_trans zero_le_one (le_min hday hlow)), hfloor, hn]
    omega
  have hclamp : clampDay year month day = (firstOf target).add n := by
    simp only [clampDay, hlast, hnumber, hsafe]
    rw [dateUTC, htarget, htruncate]
  have hdays : n + 1 ≤ daysInMonth target := by omega
  rw [hclamp, firstOf_add hdays]
  exact ⟨rfl, by rw [hn]; rfl⟩

/-- So many days before a day come no later, where its year is read as it is. -/
theorem addUtcDays_le {d : Day} (hyear : HasYear d.month) {days : ℚ} (hdays : days ≤ 0) :
    addUtcDays d days ≤ d := by
  have hle : truncate ((d.day : ℚ) + days) ≤ d.day := by
    have hsum : (d.day : ℚ) + days ≤ ((d.day : ℤ) : ℚ) := by
      push_cast
      linarith
    unfold truncate
    split_ifs
    · exact Int.floor_le_iff.mpr (lt_of_le_of_lt hsum (by push_cast; linarith))
    · exact Int.ceil_le.mpr hsum
  have hmonth : 12 * fullYear d.year + monthOf d.month = d.month := hyear
  have hdate : addUtcDays d days = (firstOf d.month).add (truncate (d.day + days) - 1) := by
    rw [addUtcDays, dateUTC, truncate_intCast, hmonth]
  rw [hdate]
  rcases hoffset : truncate ((d.day : ℚ) + days) - 1 with n | n
  · have hday : (n : ℤ) + 1 ≤ d.day := by
      have hsame : truncate ((d.day : ℚ) + days) - 1 = n := hoffset
      omega
    have hfits : n + 1 ≤ daysInMonth d.month := by
      have hlast := d.day_le
      omega
    show (firstOf d.month).add n ≤ d
    rw [firstOf_add hfits]
    exact Or.inr ⟨rfl, by exact_mod_cast hday⟩
  · exact Or.inl (month_firstOf_add_negSucc d.month n)

/-! ## The rules -/

section

variable {rule : DueDateRule} {buffer : Option ℚ} {p : Period}

/-- The day of the month of a rule. -/
def DueDateRule.dayNumber (rule : DueDateRule) : ℚ := max 1 (min 28 (numberOr rule.dayOfMonth 20))

theorem WithinBounds.dayNumber_eq (h : WithinBounds rule buffer) :
    rule.dayNumber = rule.dayOfMonth.getD 20 := by
  unfold DueDateRule.dayNumber
  cases hday : rule.dayOfMonth with
  | none =>
    show max 1 (min 28 20) = (20 : ℚ)
    norm_num
  | some day =>
    obtain ⟨hlow, hhigh⟩ := h.dayOfMonth day hday
    have hnumber : numberOr (some day) 20 = day := if_neg (by rintro rfl; norm_num at hlow)
    rw [hnumber, min_eq_right hhigh, max_eq_right hlow]
    rfl

theorem one_le_dayNumber (rule : DueDateRule) : 1 ≤ rule.dayNumber := le_max_left _ _

/-- The whole months that the code adds to a period's last month. -/
def DueDateRule.addedMonths (rule : DueDateRule) : ℤ :=
  if rule.modeText = "day_of_month_after_period" then
    ⌊max 0 (numberOr rule.monthOffset 1)⌋
  else 1

/-- The month in which the code puts the due date. -/
def DueDateRule.dueMonth (rule : DueDateRule) (last : ℤ) : ℤ :=
  if rule.modeText = "fixed_day_month" then
    monthStart (12 * yearOf last + rule.fixedPlace last)
  else monthStart (monthStart last + rule.addedMonths)

theorem WithinBounds.fixedPlace_bounds (h : WithinBounds rule buffer) (last : ℤ) :
    0 ≤ rule.fixedPlace last ∧ rule.fixedPlace last < 12 := by
  unfold DueDateRule.fixedPlace
  cases hmonth : rule.fixedMonth with
  | none => exact monthOf_bounds last
  | some month =>
    obtain ⟨hlow, hhigh⟩ := h.fixedMonth month hmonth
    have hone : 1 ≤ ⌊month⌋ := Int.le_floor.mpr (by exact_mod_cast hlow)
    have htwelve : ⌊month⌋ ≤ 12 := by
      have hle := Int.floor_mono hhigh
      rwa [show ⌊(12 : ℚ)⌋ = 12 from Int.floor_natCast 12] at hle
    show 0 ≤ ⌊month⌋ - 1 ∧ ⌊month⌋ - 1 < 12
    omega

/-- A month of a year, by its place. -/
theorem monthStart_fixed {year place : ℤ} (h : 0 ≤ place ∧ place < 12) :
    monthStart (12 * year + place) = 12 * fullYear year + place := by
  have hyear : yearOf (12 * year + place) = year := by
    show (12 * year + place) / 12 = year
    omega
  have hplace : monthOf (12 * year + place) = place := by
    show (12 * year + place) % 12 = place
    omega
  rw [monthStart, hyear, hplace]

/-- The number of the fixed month, as the code computes it. -/
theorem WithinBounds.truncate_fixedMonth (h : WithinBounds rule buffer) (last : ℤ) :
    truncate (max 1 (min 12 (numberOr rule.fixedMonth (monthOf last + 1))) - 1) =
      rule.fixedPlace last := by
  unfold DueDateRule.fixedPlace
  cases hmonth : rule.fixedMonth with
  | none =>
    obtain ⟨hlow, hhigh⟩ := monthOf_bounds last
    have hone : (1 : ℚ) ≤ (monthOf last + 1 : ℤ) := by exact_mod_cast Int.le_add_of_nonneg_left hlow
    have htwelve : ((monthOf last + 1 : ℤ) : ℚ) ≤ 12 := by exact_mod_cast hhigh
    have hcast : ((monthOf last : ℤ) : ℚ) + 1 = ((monthOf last + 1 : ℤ) : ℚ) := by push_cast; rfl
    show truncate (max 1 (min 12 ((monthOf last : ℚ) + 1)) - 1) = monthOf last
    rw [hcast, min_eq_right htwelve, max_eq_right hone, ← hcast, add_sub_cancel_right,
      truncate_intCast]
  | some month =>
    obtain ⟨hlow, hhigh⟩ := h.fixedMonth month hmonth
    have hnumber : numberOr (some month) (monthOf last + 1) = month :=
      if_neg (by rintro rfl; norm_num at hlow)
    rw [hnumber, min_eq_right hhigh, max_eq_right hlow, truncate_of_nonneg (by linarith)]
    show ⌊month - 1⌋ = ⌊month⌋ - 1
    exact Int.floor_sub_one month

/-- The months that the code adds to a period's last month. -/
def DueDateRule.offsetNumber (rule : DueDateRule) : ℚ :=
  if rule.modeText = "day_of_month_after_period" then max 0 (numberOr rule.monthOffset 1) else 1

theorem floor_offsetNumber (rule : DueDateRule) : ⌊rule.offsetNumber⌋ = rule.addedMonths := by
  unfold DueDateRule.offsetNumber DueDateRule.addedMonths
  split_ifs
  · rfl
  · exact Int.floor_one

theorem offsetNumber_nonneg (rule : DueDateRule) : 0 ≤ rule.offsetNumber := by
  unfold DueDateRule.offsetNumber
  split_ifs
  · exact le_max_left _ _
  · exact zero_le_one

/-- Some whole and some fractional months after the first of a month that is read as it is. -/
theorem addUtcMonths_firstOf_add {month : ℤ} (hyear : HasYear month) {months : ℚ}
    (hmonths : 0 ≤ months) : addUtcMonths (firstOf month) months = firstOf (month + ⌊months⌋) := by
  have hplace := (monthOf_bounds month).1
  have hnonneg : (0 : ℚ) ≤ monthOf month + months := by
    have hcast : (0 : ℚ) ≤ monthOf month := by exact_mod_cast hplace
    linarith
  have hsum : 12 * fullYear (yearOf month) + monthOf month = month := hyear
  rw [addUtcMonths, dateUTC_one, firstOf_month, truncate_of_nonneg hnonneg, Int.floor_intCast_add,
    ← Int.add_assoc]
  show firstOf (12 * fullYear (yearOf month) + monthOf month + ⌊months⌋) = _
  rw [hsum]

theorem computeStatutoryDueDate_fixed (hmode : rule.modeText = "fixed_day_month") :
    computeStatutoryDueDate p rule = clampDay p.periodEnd.year
      (max 1 (min 12 (numberOr rule.fixedMonth (monthOf p.periodEnd.month + 1))) - 1)
      rule.dayNumber := if_pos hmode

theorem computeStatutoryDueDate_shifted (hmode : rule.modeText ≠ "fixed_day_month") :
    computeStatutoryDueDate p rule =
      clampDay (yearOf (monthStart p.periodEnd.month + rule.addedMonths))
        (monthOf (monthStart p.periodEnd.month + rule.addedMonths)) rule.dayNumber := by
  have hstart : dateUTC p.periodEnd.year (monthOf p.periodEnd.month) 1 =
      firstOf (monthStart p.periodEnd.month) := by
    rw [dateUTC_one, truncate_intCast]
    rfl
  have hshift := addUtcMonths_firstOf_add (monthStart_monthStart p.periodEnd.month)
    (offsetNumber_nonneg rule)
  rw [floor_offsetNumber, ← hstart] at hshift
  have hcode : computeStatutoryDueDate p rule =
      clampDay (addUtcMonths (dateUTC p.periodEnd.year (monthOf p.periodEnd.month) 1)
          rule.offsetNumber).year
        (monthOf (addUtcMonths (dateUTC p.periodEnd.year (monthOf p.periodEnd.month) 1)
          rule.offsetNumber).month) rule.dayNumber := if_neg hmode
  rw [hcode, hshift]
  rfl

/-- The due date is the day of the rule in the month that the code computes. -/
theorem WithinBounds.statutory_eq (h : WithinBounds rule buffer) :
    (computeStatutoryDueDate p rule).month = rule.dueMonth p.periodEnd.month ∧
      ((computeStatutoryDueDate p rule).day : ℤ) =
        min ⌊rule.dayOfMonth.getD 20⌋ (daysInMonth (rule.dueMonth p.periodEnd.month)) := by
  rw [← h.dayNumber_eq]
  unfold DueDateRule.dueMonth
  split_ifs with hmode
  · rw [computeStatutoryDueDate_fixed hmode]
    refine clampDay_eq ?_ (monthStart_monthStart _) (one_le_dayNumber rule)
    rw [h.truncate_fixedMonth, monthStart_fixed (h.fixedPlace_bounds _)]
    rfl
  · rw [computeStatutoryDueDate_shifted hmode]
    refine clampDay_eq ?_ (monthStart_monthStart _) (one_le_dayNumber rule)
    rw [truncate_intCast]
    rfl

/-! ## When the due dates are right -/

theorem le_lastOf_iff {d : Day} {month : ℤ} : d ≤ lastOf month ↔ d.month ≤ month := by
  constructor
  · exact Day.month_le
  · intro h
    rcases lt_or_eq_of_le h with hlt | heq
    · exact Or.inl hlt
    · refine Or.inr ⟨heq, ?_⟩
      show d.day ≤ daysInMonth month
      rw [← heq]
      exact d.day_le

/-- A period ends with the last day of a month. -/
theorem end_eq_lastOf {r : RecurrencePattern} {rangeStart rangeEnd : Day}
    (hp : p ∈ expandRecurringPeriods r rangeStart rangeEnd) :
    p.periodEnd = lastOf p.periodEnd.month := by
  rw [end_of_mem_expandRecurringPeriods hp, addUtcMonths_first, addUtcDays_firstOf]
  rfl

theorem hasYear_dueMonth (rule : DueDateRule) (last : ℤ) : HasYear (rule.dueMonth last) := by
  unfold DueDateRule.dueMonth
  split_ifs <;> exact monthStart_monthStart _

/-- The code adds the offset of the rule, unless that is less than one month. -/
theorem addedMonths_eq (hmode : rule.modeText = "day_of_month_after_period")
    (hone : 1 ≤ rule.wholeOffset) : rule.addedMonths = rule.wholeOffset := by
  unfold DueDateRule.addedMonths DueDateRule.wholeOffset at *
  rw [if_pos hmode]
  cases hoffset : rule.monthOffset with
  | none =>
    show ⌊max 0 (1 : ℚ)⌋ = ⌊(1 : ℚ)⌋
    rw [max_eq_right zero_le_one]
  | some offset =>
    rw [hoffset] at hone
    have hle : (1 : ℚ) ≤ offset := by exact_mod_cast Int.le_floor.mp hone
    have hnumber : numberOr (some offset) 1 = offset := if_neg (by rintro rfl; norm_num at hle)
    rw [hnumber, max_eq_right (le_trans zero_le_one hle)]
    rfl

/-- Months that are added come to the month that is meant exactly where the years are read as they
are. -/
theorem monthStart_add_eq_iff {last months : ℤ} :
    monthStart (monthStart last + months) = last + months ↔
      HasYear last ∧ HasYear (last + months) := by
  have hlast := le_monthStart last
  have hsum := le_monthStart (monthStart last + months)
  constructor
  · intro h
    have hyear : monthStart last = last := by omega
    rw [hyear] at h
    exact ⟨hyear, h⟩
  · rintro ⟨hyear, h⟩
    rw [show monthStart last = last from hyear]
    exact h

/-- The code's month comes after the period and is the one that the rule designates exactly when the
rule meets the condition. -/
theorem WithinBounds.dueMonth_iff (h : WithinBounds rule buffer) (last : ℤ) :
    last < rule.dueMonth last ∧ rule.Designates last (rule.dueMonth last) ↔
      rule.FallsAfter last := by
  unfold DueDateRule.Designates DueDateRule.FallsAfter DueDateRule.dueMonth
  split_ifs with hfixed hafter
  · obtain ⟨hlow, hhigh⟩ := h.fixedPlace_bounds last
    have hplace : monthOf (monthStart (12 * yearOf last + rule.fixedPlace last)) =
        rule.fixedPlace last := by
      rw [monthOf_monthStart]
      show (12 * yearOf last + rule.fixedPlace last) % 12 = _
      omega
    rw [and_iff_left hplace, monthStart_fixed ⟨hlow, hhigh⟩]
  · constructor
    · rintro ⟨hlt, hmonth⟩
      have hone : 1 ≤ rule.wholeOffset := by omega
      rw [addedMonths_eq hafter hone] at hmonth
      exact ⟨hone, monthStart_add_eq_iff.mp hmonth⟩
    · rintro ⟨hone, hyears⟩
      rw [addedMonths_eq hafter hone, monthStart_add_eq_iff.mpr hyears]
      exact ⟨by omega, rfl⟩
  · have hadded : rule.addedMonths = 1 := if_neg hafter
    rw [hadded, monthStart_add_eq_iff]
    refine and_iff_right_of_imp fun hyears => ?_
    rw [monthStart_add_eq_iff.mpr hyears]
    exact Int.lt_succ last

end

/-- The due dates of a period are right exactly when the rule meets the condition: a fixed month
comes after the period in the year in which it ends, or an offset is of a month or more. -/
theorem due_right_iff {r : RecurrencePattern} {rangeStart rangeEnd : Day} {p : Period}
    (hp : p ∈ expandRecurringPeriods r rangeStart rangeEnd) {rule : DueDateRule} {buffer : Option ℚ}
    (hbounds : WithinBounds rule buffer) :
    DueRight p rule buffer ↔ rule.FallsAfter p.periodEnd.month := by
  obtain ⟨hmonth, hday⟩ := hbounds.statutory_eq (p := p)
  have hafter : ¬computeStatutoryDueDate p rule ≤ p.periodEnd ↔
      p.periodEnd.month < rule.dueMonth p.periodEnd.month := by
    rw [end_eq_lastOf hp, le_lastOf_iff, ← end_eq_lastOf hp, hmonth, not_le]
  have hinternal : computeInternalDueDate (computeStatutoryDueDate p rule) buffer ≤
      computeStatutoryDueDate p rule := by
    refine addUtcDays_le ?_ (neg_nonpos.mpr (le_max_left _ _))
    rw [hmonth]
    exact hasYear_dueMonth rule _
  rw [← hbounds.dueMonth_iff, ← hafter]
  constructor
  · intro h
    have hdesignates := h.month
    rw [hmonth] at hdesignates
    exact ⟨h.after, hdesignates⟩
  · rintro ⟨hlate, hdesignates⟩
    refine ⟨hlate, ?_, ?_, hinternal⟩
    · rw [hmonth]
      exact hdesignates
    · rw [hday, hmonth]

/-- January 2026. -/
def januaryPeriod : Period := ⟨firstOf 24312, lastOf 24312⟩

/-- The return for January, in February. -/
theorem due_right_monthly : DueRight januaryPeriod {} (some 3) := by
  have hp : januaryPeriod ∈ expandRecurringPeriods {} (firstOf 24312) (firstOf 24312) := by
    decide +kernel
  have hbounds : WithinBounds {} (some 3) := by
    constructor <;> decide
  exact (due_right_iff hp hbounds).mpr (by decide)

/-- The last quarter of 2025. -/
def lastQuarter : Period := ⟨firstOf 24309, lastOf 24311⟩

/-- With a fixed month of January the last quarter of 2025 is due in January 2025, and with an
offset of 0 in January 2026. -/
theorem due_right_fails :
    lastQuarter ∈ expandRecurringPeriods { frequency := some "quarterly" } (firstOf 24309)
        (firstOf 24309) ∧
      ¬DueRight lastQuarter { mode := some "fixed_day_month", fixedMonth := some 1 } (some 3) ∧
      ¬DueRight lastQuarter
        { mode := some "day_of_month_after_period", monthOffset := some 0 } (some 3) := by
  refine ⟨by decide +kernel, ?_, ?_⟩
  · rintro ⟨hafter, -, -, -⟩
    revert hafter
    decide +kernel
  · rintro ⟨-, hmonth, -, -⟩
    revert hmonth
    unfold DueDateRule.Designates
    decide +kernel

end Docketra.Compliance
