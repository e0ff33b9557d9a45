import Docketra.Compliance

/-!
# The periods of a range

Each round of the loop of `expandRecurringPeriods` moves the cursor by a month or more
(`lt_addUtcMonths`), so that the loop ends, within the rounds that `roundsFrom` counts
(`periodsFrom_of_le`). The periods start on first days, and no two of them in one month.
-/

namespace Docketra.Compliance

open Calendar

theorem one_le_intervalNumber (r : RecurrencePattern) : 1 ≤ r.intervalNumber := le_max_left _ _

/-- The cursor moves by a month or more. -/
theorem one_le_monthsSpan (r : RecurrencePattern) : 1 ≤ r.monthsSpan := by
  have h := one_le_intervalNumber r
  unfold RecurrencePattern.monthsSpan
  split_ifs <;> linarith

/-- A month or more later is in a later month. -/
theorem lt_addUtcMonths (d : Day) {months : ℚ} (h : 1 ≤ months) :
    d.month < (addUtcMonths d months).month := by
  have hmonth : 0 ≤ monthOf d.month := Int.emod_nonneg _ (by omega)
  have hle : monthOf d.month + 1 ≤ truncate (monthOf d.month + months) := by
    refine le_truncate (by omega) ?_
    push_cast
    linarith
  have hyear := le_fullYear d.year
  have hd : 12 * d.year + monthOf d.month = d.month := Int.mul_ediv_add_emod d.month 12
  rw [addUtcMonths, dateUTC_one, firstOf_month]
  omega

/-- A date of the first day of a month is its month's first day. -/
theorem addUtcMonths_first (d : Day) (months : ℚ) :
    addUtcMonths d months = firstOf (addUtcMonths d months).month := by
  rw [addUtcMonths, dateUTC_one, firstOf_month]

theorem firstCursor_first (r : RecurrencePattern) (d : Day) :
    r.firstCursor (startOfUtcMonth d) = firstOf (r.firstCursor (startOfUtcMonth d)).month := by
  unfold RecurrencePattern.firstCursor startOfUtcMonth
  split_ifs <;> rw [dateUTC_one, firstOf_month]

/-- A round is left for a cursor that is not past the end. -/
theorem one_le_roundsFrom {cursor normalizedEnd : Day} (h : cursor ≤ normalizedEnd) :
    1 ≤ roundsFrom cursor normalizedEnd := by
  have hmonth := Day.month_le h
  unfold roundsFrom
  omega

section

variable {normalizedStart normalizedEnd : Day} {monthsSpan : ℚ}

/-- One round of the loop. -/
theorem periodsFrom_round (rounds : ℕ) (cursor : Day) :
    periodsFrom normalizedStart normalizedEnd monthsSpan (rounds + 1) cursor =
      if cursor ≤ normalizedEnd then
        if normalizedStart ≤ cursor ∧ cursor ≤ normalizedEnd then
          ⟨cursor, addUtcDays (addUtcMonths cursor monthsSpan) (-1)⟩ ::
            periodsFrom normalizedStart normalizedEnd monthsSpan rounds
              (addUtcMonths cursor monthsSpan)
        else periodsFrom normalizedStart normalizedEnd monthsSpan rounds
          (addUtcMonths cursor monthsSpan)
      else [] := rfl

/-- After a round, one round less is left. -/
theorem roundsFrom_addUtcMonths (hspan : 1 ≤ monthsSpan) {cursor : Day} {rounds : ℕ}
    (h : roundsFrom cursor normalizedEnd ≤ rounds + 1) :
    roundsFrom (addUtcMonths cursor monthsSpan) normalizedEnd ≤ rounds := by
  have hmonth := lt_addUtcMonths cursor hspan
  unfold roundsFrom at h ⊢
  omega

/-- The loop ends: one round more than `roundsFrom` counts adds nothing. -/
theorem periodsFrom_succ (hspan : 1 ≤ monthsSpan) : ∀ (rounds : ℕ) (cursor : Day),
    roundsFrom cursor normalizedEnd ≤ rounds →
      periodsFrom normalizedStart normalizedEnd monthsSpan (rounds + 1) cursor =
        periodsFrom normalizedStart normalizedEnd monthsSpan rounds cursor
  | 0, cursor, h => by
    have hpast : ¬cursor ≤ normalizedEnd := fun hle => by
      have := one_le_roundsFrom hle
      omega
    rw [periodsFrom_round, if_neg hpast, periodsFrom]
  | rounds + 1, cursor, h => by
    have ih := periodsFrom_succ hspan rounds _ (roundsFrom_addUtcMonths hspan h)
    rw [periodsFrom_round, ih, periodsFrom_round]

/-- The loop ends: rounds beyond those that `roundsFrom` counts add nothing. -/
theorem periodsFrom_of_le (hspan : 1 ≤ monthsSpan) {cursor : Day} {rounds : ℕ}
    (h : roundsFrom cursor normalizedEnd ≤ rounds) :
    periodsFrom normalizedStart normalizedEnd monthsSpan rounds cursor =
      periodsFrom normalizedStart normalizedEnd monthsSpan (roundsFrom cursor normalizedEnd)
        cursor := by
  induction rounds, h using Nat.le_induction with
  | base => rfl
  | succ rounds h ih => rw [periodsFrom_succ hspan rounds cursor h, ih]

/-- No period starts before the cursor, or elsewhere than on a first day. -/
theorem start_of_mem_periodsFrom (hspan : 1 ≤ monthsSpan) {p : Period} :
    ∀ {rounds : ℕ} {cursor : Day}, cursor = firstOf cursor.month →
      p ∈ periodsFrom normalizedStart normalizedEnd monthsSpan rounds cursor →
      cursor.month ≤ p.periodStart.month ∧ p.periodStart = firstOf p.periodStart.month
  | 0, _, _, hp => absurd hp List.not_mem_nil
  | rounds + 1, cursor, hcursor, hp => by
    have ih : p ∈ periodsFrom normalizedStart normalizedEnd monthsSpan rounds
        (addUtcMonths cursor monthsSpan) → (addUtcMonths cursor monthsSpan).month ≤
          p.periodStart.month ∧ p.periodStart = firstOf p.periodStart.month :=
      start_of_mem_periodsFrom hspan (addUtcMonths_first cursor monthsSpan)
    have hmonth := lt_addUtcMonths cursor hspan
    rw [periodsFrom_round] at hp
    split_ifs at hp with hle hin
    · rcases List.mem_cons.mp hp with rfl | hp
      · exact ⟨le_rfl, hcursor⟩
      · exact ⟨by have := (ih hp).1; omega, (ih hp).2⟩
    · exact ⟨by have := (ih hp).1; omega, (ih hp).2⟩
    · exact absurd hp List.not_mem_nil

/-- The periods start one after another, and each ends where its start puts it. -/
theorem pairwise_periodsFrom (hspan : 1 ≤ monthsSpan) :
    ∀ {rounds : ℕ} {cursor : Day}, cursor = firstOf cursor.month →
      (periodsFrom normalizedStart normalizedEnd monthsSpan rounds cursor).Pairwise
        fun p q => p.periodStart.month < q.periodStart.month
  | 0, _, _ => List.Pairwise.nil
  | rounds + 1, cursor, _ => by
    have hnext := addUtcMonths_first cursor monthsSpan
    have ih : (periodsFrom normalizedStart normalizedEnd monthsSpan rounds
        (addUtcMonths cursor monthsSpan)).Pairwise
          fun p q => p.periodStart.month < q.periodStart.month :=
      pairwise_periodsFrom hspan hnext
    have hmonth := lt_addUtcMonths cursor hspan
    rw [periodsFrom_round]
    split_ifs
    · refine List.pairwise_cons.mpr ⟨fun q hq => ?_, ih⟩
      have := (start_of_mem_periodsFrom hspan hnext hq).1
      show cursor.month < q.periodStart.month
      omega
    · exact ih
    · exact List.Pairwise.nil

/-- A period ends on the day before the next one may start. -/
theorem end_of_mem_periodsFrom {p : Period} : ∀ {rounds : ℕ} {cursor : Day},
    p ∈ periodsFrom normalizedStart normalizedEnd monthsSpan rounds cursor →
      p.periodEnd = addUtcDays (addUtcMonths p.periodStart monthsSpan) (-1)
  | 0, _, hp => absurd hp List.not_mem_nil
  | rounds + 1, cursor, hp => by
    rw [periodsFrom_round] at hp
    split_ifs at hp with hle hin
    · rcases List.mem_cons.mp hp with rfl | hp
      · rfl
      · exact end_of_mem_periodsFrom hp
    · exact end_of_mem_periodsFrom hp
    · exact absurd hp List.not_mem_nil

end

section

variable {r : RecurrencePattern} {rangeStart rangeEnd : Day} {p : Period}

/-- A period starts on the first day of a month. -/
theorem start_of_mem_expandRecurringPeriods
    (hp : p ∈ expandRecurringPeriods r rangeStart rangeEnd) :
    p.periodStart = firstOf p.periodStart.month :=
  (start_of_mem_periodsFrom (one_le_monthsSpan r) (firstCursor_first r rangeStart) hp).2

/-- The start of a period of a template decides the end. -/
theorem end_of_mem_expandRecurringPeriods
    (hp : p ∈ expandRecurringPeriods r rangeStart rangeEnd) :
    p.periodEnd = addUtcDays (addUtcMonths p.periodStart r.monthsSpan) (-1) :=
  end_of_mem_periodsFrom hp

/-- Two periods of a template that start in one month are one period. -/
theorem period_ext {q : Period} {rangeStart' rangeEnd' : Day}
    (hp : p ∈ expandRecurringPeriods r rangeStart rangeEnd)
    (hq : q ∈ expandRecurringPeriods r rangeStart' rangeEnd')
    (h : p.periodStart.month = q.periodStart.month) : p = q := by
  have hstart : p.periodStart = q.periodStart := by
    rw [start_of_mem_expandRecurringPeriods hp, start_of_mem_expandRecurringPeriods hq, h]
  have hend : p.periodEnd = q.periodEnd := by
    rw [end_of_mem_expandRecurringPeriods hp, end_of_mem_expandRecurringPeriods hq, hstart]
  exact Period.ext hstart hend

/-- No two periods of a range start in one month. -/
theorem nodup_expandRecurringPeriods (r : RecurrencePattern) (rangeStart rangeEnd : Day) :
    (expandRecurringPeriods r rangeStart rangeEnd).Nodup := by
  have h : (expandRecurringPeriods r rangeStart rangeEnd).Pairwise
      fun p q => p.periodStart.month < q.periodStart.month :=
    pairwise_periodsFrom (one_le_monthsSpan r) (firstCursor_first r rangeStart)
  exact h.imp fun {p q} hlt heq => by
    rw [heq] at hlt
    exact absurd hlt (lt_irrefl _)

end

end Docketra.Compliance
