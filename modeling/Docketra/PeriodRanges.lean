import Mathlib.Data.Multiset.Bind
import Docketra.Lib.Orbits
import Docketra.Periods

/-!
# The periods of a range and of its parts

The cursor of `expandRecurringPeriods` starts where the range puts it: at the first month of the
range, at the start of its quarter, or at the next start of a year. From there it moves by the whole
months of the span. The periods of a range are therefore those of its two parts exactly when the
cursor of the second part is in phase with the one that comes from the first (`InPhase`). A span of
one month, of three for a quarter, or of twelve for a year keeps every cursor in phase
(`inPhase_of_wholeSpan`).

`Date.UTC` counts the years 0 to 99 from 1900. Where a range comes near them, the cursors have to be
followed; from the year 100 on, the phase is a matter of residues.
-/

namespace Docketra.Compliance

open Calendar Orbits

/-- The periods of a range of months. -/
def periodsOf (r : RecurrencePattern) (a b : ℤ) : List Period :=
  expandRecurringPeriods r (firstOf a) (firstOf b)

/-- The month that `startOfUtcMonth` gives for the days of a month. -/
def monthStart (a : ℤ) : ℤ := 12 * fullYear (yearOf a) + monthOf a

namespace RecurrencePattern

/-- The month of the first cursor of a range. -/
def firstMonth (r : RecurrencePattern) (a : ℤ) : ℤ := (r.firstCursor (firstOf (monthStart a))).month

/-- The month that the cursor moves to. -/
def nextMonth (r : RecurrencePattern) (c : ℤ) : ℤ := (addUtcMonths (firstOf c) r.monthsSpan).month

/-- The whole months of the span. -/
def wholeSpan (r : RecurrencePattern) : ℤ := ⌊r.monthsSpan⌋

/-- The period that starts at a cursor. -/
def periodAt (r : RecurrencePattern) (c : ℤ) : Period :=
  ⟨firstOf c, addUtcDays (addUtcMonths (firstOf c) r.monthsSpan) (-1)⟩

/-- The month of the first period of a range, if the range has one. -/
def startFrom (r : RecurrencePattern) (a : ℤ) : ℤ :=
  reach r.nextMonth (monthStart a) (r.firstMonth a)

end RecurrencePattern

/-- The periods of a range are those of its part up to `m`, and then those of the rest. -/
def Additive (r : RecurrencePattern) (a m b : ℤ) : Prop :=
  periodsOf r a b = periodsOf r a m ++ periodsOf r (m + 1) b

instance (r : RecurrencePattern) (a m b : ℤ) : Decidable (Additive r a m b) :=
  inferInstanceAs (Decidable (_ = _))

/-- The cursor that comes from the first part of a range is in phase with that of the rest: their
distance is a multiple of the span, or both are beyond the range. -/
def InPhase (r : RecurrencePattern) (a m b : ℤ) : Prop :=
  if 1200 ≤ a then
    r.wholeSpan ∣ r.firstMonth (m + 1) - r.firstMonth a ∨
      b < nextOf r.wholeSpan (m + 1) (r.firstMonth a) ∧
        b < nextOf r.wholeSpan (m + 1) (r.firstMonth (m + 1))
  -- Before the year 100 a month may be read as one of 1900 years later, beyond the range's end.
  else if monthStart m ≤ monthStart b then
    reach r.nextMonth (monthStart m + 1) (r.startFrom a) = r.startFrom (m + 1) ∨
      monthStart b < reach r.nextMonth (monthStart m + 1) (r.startFrom a) ∧
        monthStart b < r.startFrom (m + 1)
  else
    monthStart m < reach r.nextMonth (monthStart b + 1) (r.startFrom a) ∧
      monthStart b < r.startFrom (m + 1)

/-! ## The cursors -/

theorem firstOf_le_firstOf {a b : ℤ} : firstOf a ≤ firstOf b ↔ a ≤ b := by
  show a < b ∨ a = b ∧ 1 ≤ 1 ↔ a ≤ b
  omega

theorem startOfUtcMonth_eq (d : Day) : startOfUtcMonth d = firstOf (monthStart d.month) := by
  rw [startOfUtcMonth, dateUTC_one, truncate_intCast]
  rfl

/-- The days of a month are all the same to the range. -/
theorem expandRecurringPeriods_eq (r : RecurrencePattern) (rangeStart rangeEnd : Day) :
    expandRecurringPeriods r rangeStart rangeEnd = periodsOf r rangeStart.month rangeEnd.month := by
  simp only [periodsOf, expandRecurringPeriods, startOfUtcMonth_eq, firstOf_month]

theorem lt_nextMonth (r : RecurrencePattern) (c : ℤ) : c < r.nextMonth c :=
  lt_addUtcMonths (firstOf c) (one_le_monthsSpan r)

theorem addUtcMonths_firstOf (r : RecurrencePattern) (c : ℤ) :
    addUtcMonths (firstOf c) r.monthsSpan = firstOf (r.nextMonth c) :=
  addUtcMonths_first _ _

/-- The rounds of the loop are the places of the cursor, without those before the range. -/
theorem periodsFrom_eq (r : RecurrencePattern) (start bound : ℤ) : ∀ (rounds : ℕ) (c : ℤ),
    periodsFrom (firstOf start) (firstOf bound) r.monthsSpan rounds (firstOf c) =
      ((placesWithin r.nextMonth bound rounds c).filter (start ≤ ·)).map r.periodAt
  | 0, _ => rfl
  | rounds + 1, c => by
    have ih := periodsFrom_eq r start bound rounds (r.nextMonth c)
    have hperiod : (⟨firstOf c, addUtcDays (firstOf (r.nextMonth c)) (-1)⟩ : Period) =
        r.periodAt c := by rw [RecurrencePattern.periodAt, addUtcMonths_firstOf]
    rw [periodsFrom_round, addUtcMonths_firstOf, ih, placesWithin]
    simp only [firstOf_le_firstOf]
    by_cases hbound : c ≤ bound
    · by_cases hstart : start ≤ c
      · rw [if_pos hbound, if_pos ⟨hstart, hbound⟩, if_pos hbound,
          List.filter_cons_of_pos (by simpa using hstart), List.map_cons, hperiod]
      · rw [if_pos hbound, if_neg (fun h => hstart h.1), if_pos hbound,
          List.filter_cons_of_neg (by simpa using hstart)]
    · rw [if_neg hbound, if_neg hbound]
      rfl

/-- The periods of a range start at the places of its cursor. -/
theorem periodsOf_eq (r : RecurrencePattern) (a b : ℤ) :
    periodsOf r a b = (upTo r.nextMonth (monthStart b) (r.startFrom a)).map r.periodAt := by
  have hfirst : r.firstCursor (firstOf (monthStart a)) = firstOf (r.firstMonth a) := by
    have h := firstCursor_first r (firstOf a)
    rw [startOfUtcMonth_eq, firstOf_month] at h
    exact h
  rw [RecurrencePattern.startFrom, ← upTo_filter (lt_nextMonth r)]
  simp only [periodsOf, expandRecurringPeriods, startOfUtcMonth_eq, firstOf_month, hfirst,
    periodsFrom_eq, roundsFrom]
  rfl

theorem periodAt_injective (r : RecurrencePattern) : Function.Injective r.periodAt := by
  intro c d h
  exact congrArg (fun p : Period => p.periodStart.month) h

/-- The first period of a range does not start before the range. -/
theorem monthStart_le_startFrom (r : RecurrencePattern) (a : ℤ) : monthStart a ≤ r.startFrom a :=
  le_reach (lt_nextMonth r) _ _

/-! ## The two parts of a range -/

/-- A range has the periods of its parts when the cursors agree from the second part on. -/
theorem additive_iff_of_le (r : RecurrencePattern) {a m b : ℤ} (h : monthStart m ≤ monthStart b) :
    Additive r a m b ↔
      reach r.nextMonth (monthStart m + 1) (r.startFrom a) = r.startFrom (m + 1) ∨
        monthStart b < reach r.nextMonth (monthStart m + 1) (r.startFrom a) ∧
          monthStart b < r.startFrom (m + 1) := by
  have hf := lt_nextMonth r
  rw [Additive, periodsOf_eq, periodsOf_eq, periodsOf_eq, ← List.map_append,
    (List.map_injective_iff.mpr (periodAt_injective r)).eq_iff, upTo_split hf h,
    List.append_cancel_left_eq, upTo_eq_upTo_iff hf]

/-- Where the end of the first part is read as a later month than the end of the range, there must
be no period after the latter. -/
theorem additive_iff_of_lt (r : RecurrencePattern) {a m b : ℤ} (h : monthStart b < monthStart m) :
    Additive r a m b ↔
      monthStart m < reach r.nextMonth (monthStart b + 1) (r.startFrom a) ∧
        monthStart b < r.startFrom (m + 1) := by
  have hf := lt_nextMonth r
  rw [Additive, periodsOf_eq, periodsOf_eq, periodsOf_eq, ← List.map_append,
    (List.map_injective_iff.mpr (periodAt_injective r)).eq_iff, upTo_split hf h.le,
    List.append_assoc, eq_comm, List.append_right_eq_self, List.append_eq_nil_iff,
    upTo_eq_nil_iff hf, upTo_eq_nil_iff hf]

/-! ## From the year 100 on -/

theorem fullYear_of_le {year : ℤ} (h : 100 ≤ year) : fullYear year = year := if_neg (by omega)

theorem year_add_month (a : ℤ) : 12 * yearOf a + monthOf a = a := Int.mul_ediv_add_emod a 12

theorem monthOf_bounds (a : ℤ) : 0 ≤ monthOf a ∧ monthOf a < 12 :=
  ⟨Int.emod_nonneg a (by omega), Int.emod_lt_of_pos a (by omega)⟩

theorem hundred_le_yearOf {a : ℤ} (h : 1200 ≤ a) : 100 ≤ yearOf a := by
  have := year_add_month a
  have := monthOf_bounds a
  omega

theorem monthStart_of_le {a : ℤ} (h : 1200 ≤ a) : monthStart a = a := by
  rw [monthStart, fullYear_of_le (hundred_le_yearOf h), year_add_month]

/-- The fraction of a number that is not negative is cut off. -/
theorem truncate_of_nonneg {q : ℚ} (h : 0 ≤ q) : truncate q = ⌊q⌋ := if_pos h

theorem one_le_wholeSpan (r : RecurrencePattern) : 1 ≤ r.wholeSpan :=
  Int.le_floor.mpr (by exact_mod_cast one_le_monthsSpan r)

/-- From the year 100 on, the cursor moves by the whole months of the span. -/
theorem nextMonth_of_le (r : RecurrencePattern) {c : ℤ} (h : 1200 ≤ c) :
    r.nextMonth c = c + r.wholeSpan := by
  have hmonth := (monthOf_bounds c).1
  have hspan := one_le_monthsSpan r
  have hnonneg : (0 : ℚ) ≤ monthOf c + r.monthsSpan := by
    have : (0 : ℚ) ≤ monthOf c := by exact_mod_cast hmonth
    linarith
  have hyear := year_add_month c
  show (addUtcMonths (firstOf c) r.monthsSpan).month = _
  rw [addUtcMonths, dateUTC_one, firstOf_month, firstOf_month, truncate_of_nonneg hnonneg,
    Int.floor_intCast_add]
  show 12 * fullYear (yearOf c) + _ = _
  rw [fullYear_of_le (hundred_le_yearOf h), RecurrencePattern.wholeSpan]
  omega

theorem configuredStartMonth_bounds (r : RecurrencePattern) :
    0 ≤ ⌊r.configuredStartMonth⌋ ∧ ⌊r.configuredStartMonth⌋ < 12 := by
  have hlow : (1 : ℚ) ≤ max 1 (min 12 (numberOr r.startMonth 1)) := le_max_left _ _
  have hhigh : max 1 (min 12 (numberOr r.startMonth 1)) ≤ (12 : ℚ) :=
    max_le (by norm_num) (min_le_left _ _)
  constructor
  · refine Int.le_floor.mpr ?_
    rw [RecurrencePattern.configuredStartMonth]
    push_cast
    linarith
  · refine Int.floor_lt.mpr ?_
    rw [RecurrencePattern.configuredStartMonth]
    push_cast
    linarith

/-- The first cursor of a range, by the frequency of the pattern. -/
theorem firstMonth_of_le (r : RecurrencePattern) {a : ℤ} (h : 1200 ≤ a) :
    r.firstMonth a =
      if r.frequencyText = "quarterly" then a - monthOf a % 3
      else if r.frequencyText = "yearly" then
        12 * (if ⌊r.configuredStartMonth⌋ < monthOf a then yearOf a + 1 else yearOf a) +
          ⌊r.configuredStartMonth⌋
      else a := by
  have hyear := hundred_le_yearOf h
  have hsum := year_add_month a
  have hfirst : (firstOf a).year = yearOf a := rfl
  have hfloor := (configuredStartMonth_bounds r).1
  have hstart : truncate r.configuredStartMonth = ⌊r.configuredStartMonth⌋ :=
    truncate_of_nonneg (le_trans (by exact_mod_cast hfloor) (Int.floor_le r.configuredStartMonth))
  unfold RecurrencePattern.firstMonth RecurrencePattern.firstCursor
  simp only [monthStart_of_le h, firstOf_month, hfirst, Int.floor_lt]
  by_cases hquarterly : r.frequencyText = "quarterly"
  · rw [if_pos hquarterly, if_pos hquarterly, dateUTC_one, firstOf_month, truncate_intCast,
      fullYear_of_le hyear]
    omega
  · rw [if_neg hquarterly, if_neg hquarterly]
    by_cases hyearly : r.frequencyText = "yearly"
    · rw [if_pos hyearly, if_pos hyearly, dateUTC_one, firstOf_month, hstart]
      by_cases hnext : r.configuredStartMonth < monthOf a
      · rw [if_pos hnext, fullYear_of_le (by omega)]
      · rw [if_neg hnext, fullYear_of_le hyear]
    · rw [if_neg hyearly, if_neg hyearly, firstOf_month]

/-- The first cursor of a range is less than a span away from its first month. -/
theorem firstMonth_bounds (r : RecurrencePattern) {a : ℤ} (h : 1200 ≤ a) :
    1200 ≤ r.firstMonth a ∧ r.firstMonth a < a + r.wholeSpan := by
  have hsum := year_add_month a
  have hmonth := monthOf_bounds a
  have hyear := hundred_le_yearOf h
  have hstart := configuredStartMonth_bounds r
  have hspan := one_le_wholeSpan r
  rw [firstMonth_of_le r h]
  by_cases hquarterly : r.frequencyText = "quarterly"
  · rw [if_pos hquarterly]
    omega
  · rw [if_neg hquarterly]
    by_cases hyearly : r.frequencyText = "yearly"
    · have htwelve : 12 ≤ r.wholeSpan := by
        have hinterval := one_le_intervalNumber r
        refine Int.le_floor.mpr ?_
        rw [RecurrencePattern.monthsSpan, if_neg hquarterly, if_pos hyearly]
        push_cast
        linarith
      rw [if_pos hyearly]
      split_ifs with hnext
      · omega
      · omega
    · rw [if_neg hyearly]
      omega

/-- From the year 100 on, the first period starts where a cursor that moves by the span comes to. -/
theorem reach_firstMonth (r : RecurrencePattern) {a : ℤ} (h : 1200 ≤ a) (x : ℤ) :
    reach r.nextMonth x (r.firstMonth a) = nextOf r.wholeSpan x (r.firstMonth a) := by
  have hspan := one_le_wholeSpan r
  exact reach_of_fixed (lt_nextMonth r) (by omega) (fun _ => nextMonth_of_le r) x _
    (firstMonth_bounds r h).1

/-- A range has the periods of its parts exactly when their cursors are in phase. -/
theorem additive_iff (r : RecurrencePattern) {a m b : ℤ} (ham : a ≤ m) (hmb : m < b) :
    Additive r a m b ↔ InPhase r a m b := by
  unfold InPhase
  by_cases ha : 1200 ≤ a
  · have hspan := one_le_wholeSpan r
    have hm := monthStart_of_le (show 1200 ≤ m by omega)
    have hm' := monthStart_of_le (show 1200 ≤ m + 1 by omega)
    have hb := monthStart_of_le (show 1200 ≤ b by omega)
    have hfirst := firstMonth_bounds r ha
    have hsecond := firstMonth_bounds r (show 1200 ≤ m + 1 by omega)
    have hfromA : reach r.nextMonth (m + 1) (r.startFrom a) =
        nextOf r.wholeSpan (m + 1) (r.firstMonth a) := by
      rw [RecurrencePattern.startFrom, reach_reach (lt_nextMonth r), monthStart_of_le ha,
        max_eq_right (by omega), reach_firstMonth r ha]
    have hfromM : r.startFrom (m + 1) = nextOf r.wholeSpan (m + 1) (r.firstMonth (m + 1)) := by
      rw [RecurrencePattern.startFrom, hm', reach_firstMonth r (by omega)]
    rw [if_pos ha, additive_iff_of_le r (by omega), hm, hb, hfromA, hfromM,
      nextOf_eq_iff (by omega) (by omega) (by omega)]
  · rw [if_neg ha]
    by_cases hle : monthStart m ≤ monthStart b
    · rw [if_pos hle, additive_iff_of_le r hle]
    · rw [if_neg hle, additive_iff_of_lt r (by omega)]

/-! ## Patterns that are always in phase -/

/-- The months by which the cursors of a frequency lie apart. -/
def RecurrencePattern.unit (r : RecurrencePattern) : ℤ :=
  if r.frequencyText = "quarterly" then 3 else if r.frequencyText = "yearly" then 12 else 1

/-- Two first cursors are whole units apart. -/
theorem unit_dvd (r : RecurrencePattern) {a b : ℤ} (ha : 1200 ≤ a) (hb : 1200 ≤ b) :
    r.unit ∣ r.firstMonth b - r.firstMonth a := by
  have hsumA := year_add_month a
  have hsumB := year_add_month b
  rw [firstMonth_of_le r ha, firstMonth_of_le r hb, RecurrencePattern.unit]
  by_cases hquarterly : r.frequencyText = "quarterly"
  · simp only [if_pos hquarterly]
    omega
  · simp only [if_neg hquarterly]
    by_cases hyearly : r.frequencyText = "yearly"
    · simp only [if_pos hyearly]
      split_ifs <;> omega
    · simp only [if_neg hyearly]
      exact one_dvd _

/-- A unit later the first cursor is a unit later. -/
theorem firstMonth_add_unit (r : RecurrencePattern) {a : ℤ} (ha : 1200 ≤ a) :
    r.firstMonth (a + r.unit) = r.firstMonth a + r.unit := by
  have hsumA := year_add_month a
  have hmonthA := monthOf_bounds a
  have hsumB := year_add_month (a + r.unit)
  have hmonthB := monthOf_bounds (a + r.unit)
  have hunit : 0 ≤ r.unit := by
    unfold RecurrencePattern.unit
    split_ifs <;> omega
  rw [firstMonth_of_le r ha, firstMonth_of_le r (by omega)]
  unfold RecurrencePattern.unit at hsumB hmonthB ⊢
  by_cases hquarterly : r.frequencyText = "quarterly"
  · simp only [if_pos hquarterly] at hsumB hmonthB ⊢
    omega
  · simp only [if_neg hquarterly] at hsumB hmonthB ⊢
    by_cases hyearly : r.frequencyText = "yearly"
    · simp only [if_pos hyearly] at hsumB hmonthB ⊢
      split_ifs <;> omega
    · simp only [if_neg hyearly]

/-- The interval is not less than 1, so the span is not less than a unit. -/
theorem unit_le_wholeSpan (r : RecurrencePattern) : r.unit ≤ r.wholeSpan := by
  have hinterval := one_le_intervalNumber r
  refine Int.le_floor.mpr ?_
  unfold RecurrencePattern.unit RecurrencePattern.monthsSpan
  split_ifs
  all_goals
    push_cast
    linarith

/-- The patterns whose span is one unit are those in phase wherever a range is cut, from the year
100 on. -/
theorem inPhase_always_iff (r : RecurrencePattern) :
    (∀ a m b, 1200 ≤ a → a ≤ m → m < b → InPhase r a m b) ↔ r.wholeSpan = r.unit := by
  have hle := unit_le_wholeSpan r
  have hpos : 1 ≤ r.unit := by
    unfold RecurrencePattern.unit
    split_ifs <;> omega
  constructor
  · intro h
    -- A range that is cut a unit after its start, and goes on past the next places of both cursors.
    have hcut := h 1200 (1200 + r.unit - 1)
      (max (1200 + r.unit) (nextOf r.wholeSpan (1200 + r.unit) (r.firstMonth 1200)))
      le_rfl (by omega) (by omega)
    rw [InPhase, if_pos le_rfl, sub_add_cancel, firstMonth_add_unit r le_rfl,
      add_sub_cancel_left] at hcut
    rcases hcut with hdvd | ⟨hbeyond, -⟩
    · have := Int.le_of_dvd (by omega) hdvd
      omega
    · omega
  · intro hunit a m b ha ham _
    rw [InPhase, if_pos ha, hunit]
    exact .inl (unit_dvd r ha (by omega))

/-! ## Month by month -/

/-- The months of a range, one after another. -/
def months (a b : ℤ) : List ℤ := (List.range (b - a + 1).toNat).map fun i : ℕ => a + i

/-- The periods follow one another: each starts on the day after the end of the one before. -/
def Gapless (periods : List Period) : Prop :=
  periods.IsChain fun p q => q.periodStart = p.periodEnd.next

/-- What a template generates for a range of months. -/
def generated (template : Template) (clients : List Client) (a b : ℤ) : List Candidate :=
  templateCandidates clients (firstOf a) (firstOf b) template

/-- Within a range, the periods of a template do not depend on how they are asked for. -/
structure RangeAdditive (template : Template) (a b : ℤ) : Prop where
  splits : ∀ x m y, a ≤ x → x ≤ m → m < y → y ≤ b → Additive template.recurrencePattern x m y
  /-- Month by month, the same obligations are generated. -/
  monthly : ∀ clients x y, a ≤ x → x ≤ y → y ≤ b →
    ((months x y).flatMap fun month => generated template clients month month).Perm
      (generated template clients x y)
  gapless : ∀ x y, a ≤ x → x ≤ y → y ≤ b → Gapless (periodsOf template.recurrencePattern x y)

theorem months_self (a : ℤ) : months a a = [a] := by
  have hone : (a - a + 1).toNat = 1 := by omega
  rw [months, hone]
  simp

theorem months_cons {a b : ℤ} (h : a < b) : months a b = a :: months (a + 1) b := by
  have hrounds : (b - a + 1).toNat = (b - (a + 1) + 1).toNat + 1 := by omega
  rw [months, hrounds, List.range_succ_eq_map, List.map_cons, List.map_map, months]
  refine congrArg₂ List.cons (by simp) (List.map_congr_left fun i _ => ?_)
  simp only [Function.comp_apply]
  push_cast
  ring

section

variable {r : RecurrencePattern} {a b : ℤ}

/-- A range that may be cut after every month has the periods of its months. -/
theorem periodsOf_months (hab : a ≤ b) (h : ∀ x, a ≤ x → x < b → Additive r x x b) :
    periodsOf r a b = (months a b).flatMap fun x => periodsOf r x x := by
  generalize hn : (b - a).toNat = n
  induction n generalizing a with
  | zero =>
    obtain rfl : a = b := by omega
    rw [months_self, List.flatMap_singleton]
  | succ n ih =>
    have hlt : a < b := by omega
    have hcut : periodsOf r a b = periodsOf r a a ++ periodsOf r (a + 1) b := h a le_rfl hlt
    have hrest := ih (a := a + 1) (by omega) (fun x hx => h x (by omega)) (by omega)
    rw [hcut, hrest, months_cons hlt, List.flatMap_cons]

/-- The month that a year's number is read as is none of the years 0 to 99. -/
theorem monthStart_outside (a : ℤ) : monthStart a < 0 ∨ 1200 ≤ monthStart a := by
  have hmonth := monthOf_bounds a
  unfold monthStart fullYear
  split_ifs <;> omega

theorem monthStart_of_neg (h : a < 0) : monthStart a = a := by
  have hsum := year_add_month a
  have hmonth := monthOf_bounds a
  rw [monthStart, fullYear, if_neg (by omega), hsum]

theorem nonneg_of_monthStart (h : 0 ≤ monthStart b) : 0 ≤ b := by
  by_contra hneg
  rw [monthStart_of_neg (by omega)] at h
  omega

/-- The day before the first of a month that is read as it is. -/
theorem addUtcDays_prev {c : ℤ} (h : c < 0 ∨ 1200 ≤ c) :
    (addUtcDays (firstOf c) (-1)).next = firstOf c := by
  have hsum := year_add_month c
  have hmonth := monthOf_bounds c
  have hstart : 12 * fullYear (yearOf c) + monthOf c = c := by
    rw [fullYear, if_neg (by omega), hsum]
  have hdays : truncate ((firstOf c).day + (-1) : ℚ) - 1 = .negSucc 0 := by
    have hzero : ((firstOf c).day + (-1) : ℚ) = ((0 : ℤ) : ℚ) := by
      show ((1 : ℕ) : ℚ) + (-1) = _
      norm_num
    rw [hzero, truncate_intCast]
    rfl
  have hlast : addUtcDays (firstOf c) (-1) = lastOf (c - 1) := by
    show dateUTC (yearOf c) (monthOf c : ℤ) _ = _
    rw [dateUTC, truncate_intCast, hstart, hdays]
    rfl
  rw [hlast, Day.next, dif_neg (by show ¬daysInMonth (c - 1) + 1 ≤ daysInMonth (c - 1); omega)]
  show firstOf (c - 1 + 1) = firstOf c
  rw [sub_add_cancel]

/-- The periods of a cursor follow one another while it comes to no month of the years 0 to 99. -/
theorem gapless_upTo (bound c : ℤ)
    (h : ∀ y ∈ upTo r.nextMonth bound (r.nextMonth c), y < 0 ∨ 1200 ≤ y) :
    Gapless ((upTo r.nextMonth bound c).map r.periodAt) := by
  have hf := lt_nextMonth r
  revert h
  refine along hf (x := bound + 1)
    (P := fun c => (∀ y ∈ upTo r.nextMonth bound (r.nextMonth c), y < 0 ∨ 1200 ≤ y) →
      Gapless ((upTo r.nextMonth bound c).map r.periodAt))
    (fun c hc _ => ?_) (fun c hc ih h => ?_) c
  · rw [upTo_of_lt (by omega)]
    exact List.isChain_nil
  · rw [upTo_of_le hf (by omega)]
    rcases le_or_gt (r.nextMonth c) bound with hle | hgt
    · have hrest : Gapless ((upTo r.nextMonth bound (r.nextMonth c)).map r.periodAt) := by
        refine ih fun y hy => h y ?_
        rw [upTo_of_le hf hle]
        exact List.mem_cons_of_mem _ hy
      rw [upTo_of_le hf hle] at h hrest ⊢
      refine List.isChain_cons_cons.mpr ⟨?_, hrest⟩
      show firstOf (r.nextMonth c) =
        (addUtcDays (addUtcMonths (firstOf c) r.monthsSpan) (-1)).next
      rw [addUtcMonths_firstOf, addUtcDays_prev (h _ List.mem_cons_self)]
    · rw [upTo_of_lt hgt]
      exact List.isChain_singleton _

/-- A range that may be cut anywhere has no gaps. -/
theorem gapless_periodsOf (h : ∀ m, a ≤ m → m < b → Additive r a m b) :
    Gapless (periodsOf r a b) := by
  have hf := lt_nextMonth r
  rw [periodsOf_eq]
  refine gapless_upTo _ _ fun y hy => ?_
  by_contra hyears
  obtain ⟨hnext, hbound⟩ := bounds_of_mem_upTo hf hy
  have hstart := monthStart_le_startFrom r a
  have hstep := hf (r.startFrom a)
  -- The cursor comes from before the year 0, so the range may be cut there.
  have ha : a < 0 := by
    by_contra hnonneg
    have hle : 1200 ≤ monthStart a := by
      rcases monthStart_outside a with hneg | hle
      · unfold monthStart fullYear at hneg
        have hsum := year_add_month a
        have hmonth := monthOf_bounds a
        split_ifs at hneg <;> omega
      · exact hle
    omega
  have hb := nonneg_of_monthStart (b := b) (by omega)
  have hmem : r.periodAt y ∈ periodsOf r a b := by
    rw [periodsOf_eq, upTo_of_le hf (by omega : r.startFrom a ≤ monthStart b)]
    exact List.mem_map_of_mem (List.mem_cons_of_mem _ hy)
  have hcut : periodsOf r a b = periodsOf r a (-1) ++ periodsOf r 0 b :=
    h (-1) (by omega) (by omega)
  rw [hcut, periodsOf_eq, periodsOf_eq] at hmem
  rcases List.mem_append.mp hmem with hmem | hmem
  · obtain ⟨z, hz, hzy⟩ := List.mem_map.mp hmem
    obtain rfl := periodAt_injective r hzy
    have hlast := (bounds_of_mem_upTo hf hz).2
    rw [monthStart_of_neg (by omega)] at hlast
    omega
  · obtain ⟨z, hz, hzy⟩ := List.mem_map.mp hmem
    obtain rfl := periodAt_injective r hzy
    have hfirst := (bounds_of_mem_upTo hf hz).1
    have hzero := monthStart_le_startFrom r 0
    have hread : monthStart 0 = 22800 := by decide
    omega

end

/-- A range whose periods are those of its months generates what its months do. -/
theorem generated_months {template : Template} {a b : ℤ}
    (h : periodsOf template.recurrencePattern a b =
      (months a b).flatMap fun x => periodsOf template.recurrencePattern x x)
    (clients : List Client) :
    ((months a b).flatMap fun x => generated template clients x x).Perm
      (generated template clients a b) := by
  have hgenerated : ∀ x y, generated template clients x y = clients.flatMap fun client =>
      if template.appliesTo client then
        (periodsOf template.recurrencePattern x y).map (generationCandidate template client)
      else [] := fun _ _ => rfl
  have hclient : ∀ client, (if template.appliesTo client then
        (periodsOf template.recurrencePattern a b).map (generationCandidate template client)
      else []) = (months a b).flatMap fun x => if template.appliesTo client then
        (periodsOf template.recurrencePattern x x).map (generationCandidate template client)
      else [] := by
    intro client
    rw [h]
    split_ifs
    · rw [List.map_flatMap]
    · simp
  simp only [hgenerated, hclient]
  -- The months and the clients are gone through in the other order.
  rw [← Multiset.coe_eq_coe, ← Multiset.coe_bind, ← Multiset.coe_bind]
  simp only [← Multiset.coe_bind]
  exact Multiset.bind_bind _ _

/-- The periods of a range are those of its two parts exactly when the cursors are in phase, and all
the ways to ask for the periods within a range agree exactly when this is so wherever one is cut. -/
theorem ranges_additive_iff (template : Template) {a m b : ℤ} (ham : a ≤ m) (hmb : m < b) :
    (Additive template.recurrencePattern a m b ↔ InPhase template.recurrencePattern a m b) ∧
      (RangeAdditive template a b ↔ ∀ x m y, a ≤ x → x ≤ m → m < y → y ≤ b →
        InPhase template.recurrencePattern x m y) := by
  refine ⟨additive_iff _ ham hmb, ?_, ?_⟩
  · intro h x m y hax hxm hmy hyb
    exact (additive_iff _ hxm hmy).mp (h.splits x m y hax hxm hmy hyb)
  · intro h
    have hsplits : ∀ x m y, a ≤ x → x ≤ m → m < y → y ≤ b →
        Additive template.recurrencePattern x m y :=
      fun x m y hax hxm hmy hyb => (additive_iff _ hxm hmy).mpr (h x m y hax hxm hmy hyb)
    refine ⟨hsplits, fun clients x y hax hxy hyb => ?_, fun x y hax _ hyb => ?_⟩
    · exact generated_months (periodsOf_months hxy fun z hxz hzy =>
        hsplits z z y (by omega) le_rfl hzy hyb) clients
    · exact gapless_periodsOf fun z hxz hzy => hsplits x z y hax hxz hzy hyb

/-- A monthly template. -/
def monthlyTemplate : Template where
  _id := ⟨"t1"⟩
  name := "Monthly return"

theorem ranges_additive_monthly :
    Additive monthlyTemplate.recurrencePattern 24312 24312 24314 ∧
      RangeAdditive monthlyTemplate 24312 24314 := by
  have hphase : ∀ x m y, 24312 ≤ x → x ≤ m → m < y → y ≤ 24314 →
      InPhase monthlyTemplate.recurrencePattern x m y :=
    fun x m y hx hm hy _ =>
      (inPhase_always_iff _).mpr (by decide) x m y (by omega) hm hy
  have h := ranges_additive_iff monthlyTemplate (show (24312 : ℤ) ≤ 24312 by omega)
    (show (24312 : ℤ) < 24314 by omega)
  exact ⟨h.1.mpr (hphase _ _ _ le_rfl le_rfl (by omega) le_rfl), h.2.mpr hphase⟩

/-- What the schema admits of a pattern. -/
def RecurrencePattern.Admitted (r : RecurrencePattern) : Prop :=
  (∀ frequency ∈ r.frequency, frequency ∈ ["monthly", "quarterly", "yearly"]) ∧
    (∀ interval ∈ r.interval, 1 ≤ interval ∧ interval ≤ 12) ∧
    ∀ startMonth ∈ r.startMonth, 1 ≤ startMonth ∧ startMonth ≤ 12

instance (r : RecurrencePattern) : Decidable r.Admitted :=
  inferInstanceAs (Decidable (_ ∧ _ ∧ _))

/-- Every second month: the range from January to March 2026 has periods that start in January and
in March, and its months, asked for one by one, have one each. -/
theorem ranges_additive_fails :
    RecurrencePattern.Admitted { interval := some 2 } ∧
      ¬Additive { interval := some 2 } 24312 24312 24314 := by
  decide +kernel

end Docketra.Compliance
