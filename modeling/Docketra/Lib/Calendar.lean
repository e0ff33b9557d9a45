import Mathlib.Algebra.Order.Ring.Int
import Mathlib.Data.Rat.Floor

/-!
# The calendar

Days of the Gregorian calendar, carried back before its introduction. Months are numbered from
January of year 0. A day is a month and a day of that month, so that no day is without its date,
and the order of the days is the lexicographic one.

`dateUTC` builds a day of a year, a month, and a day of the month which may be fractional, negative,
or past the end of what they count: the parts are cut to whole numbers, and then carried over.
-/

namespace Calendar

/-- A leap year. -/
def isLeapYear (year : ℤ) : Bool := year % 4 = 0 ∧ (year % 100 ≠ 0 ∨ year % 400 = 0)

/-- The year of a month. -/
def yearOf (month : ℤ) : ℤ := month / 12

/-- The place of a month in its year: 0 is January. -/
def monthOf (month : ℤ) : ℤ := month % 12

/-- The number of days of a month. -/
def daysInMonth (month : ℤ) : ℕ :=
  if monthOf month = 1 then if isLeapYear (yearOf month) then 29 else 28
  else if monthOf month ∈ [3, 5, 8, 10] then 30
  else 31

theorem one_le_daysInMonth (month : ℤ) : 1 ≤ daysInMonth month := by
  unfold daysInMonth
  split_ifs <;> omega

/-- A day of the calendar. -/
@[ext] structure Day where
  month : ℤ
  /-- The day of the month, from 1 on. -/
  day : ℕ
  one_le_day : 1 ≤ day
  day_le : day ≤ daysInMonth month
  deriving DecidableEq, Repr

/-- The year of a day. -/
def Day.year (d : Day) : ℤ := yearOf d.month

/-- The first day of a month. -/
def firstOf (month : ℤ) : Day := ⟨month, 1, le_rfl, one_le_daysInMonth month⟩

/-- The last day of a month. -/
def lastOf (month : ℤ) : Day := ⟨month, daysInMonth month, one_le_daysInMonth month, le_rfl⟩

/-- The day after. -/
def Day.next (d : Day) : Day :=
  if h : d.day + 1 ≤ daysInMonth d.month then ⟨d.month, d.day + 1, by omega, h⟩
  else firstOf (d.month + 1)

/-- The day before. -/
def Day.prev (d : Day) : Day :=
  if h : 1 ≤ d.day - 1 then ⟨d.month, d.day - 1, h, le_trans (Nat.sub_le _ _) d.day_le⟩
  else lastOf (d.month - 1)

/-- So many days later, or earlier when the number is negative. -/
def Day.add (d : Day) : ℤ → Day
  | .ofNat n => Day.next^[n] d
  | .negSucc n => Day.prev^[n + 1] d

instance : LE Day := ⟨fun a b => a.month < b.month ∨ a.month = b.month ∧ a.day ≤ b.day⟩

instance (a b : Day) : Decidable (a ≤ b) :=
  inferInstanceAs (Decidable (a.month < b.month ∨ a.month = b.month ∧ a.day ≤ b.day))

theorem Day.month_le {a b : Day} (h : a ≤ b) : a.month ≤ b.month := by
  rcases h with h | h
  · exact h.le
  · exact h.1.le

@[simp] theorem firstOf_month (month : ℤ) : (firstOf month).month = month := rfl

@[simp] theorem Day.add_zero (d : Day) : d.add 0 = d := rfl

/-! ## Dates of numbers -/

/-- The whole number that is left of a number when its fraction is cut off. -/
def truncate (q : ℚ) : ℤ := if 0 ≤ q then ⌊q⌋ else ⌈q⌉

/-- The years 0 to 99 count from 1900. -/
def fullYear (year : ℤ) : ℤ := if 0 ≤ year ∧ year ≤ 99 then 1900 + year else year

/-- The day of a year, a month of it, counted from 0, and a day of the month, counted from 1. -/
def dateUTC (year : ℤ) (month day : ℚ) : Day :=
  (firstOf (12 * fullYear year + truncate month)).add (truncate day - 1)

@[simp] theorem truncate_intCast (n : ℤ) : truncate n = n := by
  unfold truncate
  split_ifs
  · exact Int.floor_intCast n
  · exact Int.ceil_intCast n

@[simp] theorem truncate_one : truncate 1 = 1 := truncate_intCast 1

/-- Cutting off a fraction keeps the order with the whole numbers from 0 on. -/
theorem le_truncate {n : ℤ} {q : ℚ} (hn : 0 ≤ n) (h : n ≤ q) : n ≤ truncate q := by
  have hq : 0 ≤ q := le_trans (by exact_mod_cast hn) h
  rw [truncate, if_pos hq]
  exact Int.le_floor.mpr h

/-- Cutting off fractions keeps the order. -/
theorem truncate_mono {p q : ℚ} (h : p ≤ q) : truncate p ≤ truncate q := by
  unfold truncate
  split_ifs with hp hq hq
  · exact Int.floor_le_floor h
  · exact absurd (le_trans hp h) hq
  · have hneg : ⌈p⌉ ≤ 0 := Int.ceil_le.mpr (by exact_mod_cast (not_le.mp hp).le)
    exact le_trans hneg (Int.floor_nonneg.mpr hq)
  · exact Int.ceil_le_ceil h

theorem le_fullYear (year : ℤ) : year ≤ fullYear year := by
  unfold fullYear
  split_ifs <;> omega

/-- The first day of a month, by its year and place in it. -/
theorem dateUTC_one (year : ℤ) (month : ℚ) :
    dateUTC year month 1 = firstOf (12 * fullYear year + truncate month) := by
  rw [dateUTC, truncate_one, sub_self, Day.add_zero]

end Calendar
