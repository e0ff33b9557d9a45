import Docketra.Lib.WorkingTime
import Docketra.SlaCalendar

/-!
# Due dates

In a zone without offset changes the business hours of a calendar are the working time of
`WorkingTime`: the loops of `alignToBusinessTime` and of `calculateDueDate` find the place where the
work is entered, and the one that is so many minutes ahead of it (`calculateDueDate_eq`). The safety
counters do not stop them, since there is a working day among any 370.

So a due date is in the business hours, the business time up to it is what was asked for
(`due_counts`), and due dates compose and keep the order of their starts and durations
(`due_composes`).
-/

namespace Docketra.SlaCalendar

open WorkingTime

/-- Of any 370 days in a row, one is a working day. -/
def Config.WorksEveryYear (config : Config) : Prop :=
  ∀ day : ℤ, ∃ k : ℕ, k < 370 ∧ config.isWorkingDay (day + k) = true

/-- The calendars of which the due dates are counted: the hours are in order, there are working
days, and the zone has one offset. -/
structure Regular (P : Platform) (config : Config) : Prop where
  opens : config.businessStart.minutes < config.businessEnd.minutes
  works : config.WorksEveryYear
  zone : (config.zone P).IsFixed

/-- The safety counter allows for a first round, and for those of whole days. -/
theorem safetyCounter_rounds (config : Config) (n : ℕ) :
    ∃ rounds, safetyCounter config n = rounds + 1 ∧ n ≤ rounds * minutesPerDay config := by
  have hper : 0 < minutesPerDay config := Nat.le_max_left _ _
  have hceil := Nat.lt_div_mul_add (a := n + minutesPerDay config - 1) hper
  refine ⟨369 + (n + minutesPerDay config - 1) / minutesPerDay config, ?_, ?_⟩
  · unfold safetyCounter maxCalendarDaysLookahead
    omega
  · rw [Nat.add_mul]
    omega

/-! ## The hours of a calendar -/

/-- The first working day from a day on, among so many. -/
def Config.seekDay (config : Config) : ℕ → ℤ → ℤ
  | 0, day => day
  | n + 1, day => if config.isWorkingDay day then day else config.seekDay n (day + 1)

/-- The search finds a working day, when there is one, and passes over none. -/
theorem seekDay_spec (config : Config) : ∀ (n k : ℕ) (day : ℤ), k ≤ n →
    config.isWorkingDay (day + k) = true →
    config.isWorkingDay (config.seekDay n day) = true ∧ day ≤ config.seekDay n day ∧
      ∀ e, day ≤ e → e < config.seekDay n day → config.isWorkingDay e = false := by
  intro n
  induction n with
  | zero =>
    intro k day hk hwork
    obtain rfl : k = 0 := by omega
    rw [Int.natCast_zero, Int.add_zero] at hwork
    refine ⟨hwork, Int.le_refl _, fun e hle hlt => ?_⟩
    unfold Config.seekDay at hlt
    omega
  | succ n ih =>
    intro k day hk hwork
    unfold Config.seekDay
    split
    · next hday => exact ⟨hday, Int.le_refl _, fun e hle hlt => by omega⟩
    · next hday =>
      have hk' : k ≠ 0 := fun hzero => hday (by
        rwa [hzero, Int.natCast_zero, Int.add_zero] at hwork)
      have hsucc : day + 1 + ((k - 1 : ℕ) : ℤ) = day + k := by omega
      obtain ⟨hfound, hle, hpast⟩ := ih (k - 1) (day + 1) (by omega) (by rwa [hsucc])
      refine ⟨hfound, by omega, fun e he hlt => ?_⟩
      obtain rfl | hafter := Int.le_iff_eq_or_lt.mp he
      · exact Bool.eq_false_of_not_eq_true hday
      · exact hpast e hafter hlt

theorem minutes_lt (time : Time) : time.minutes < 24 * 60 := by
  have hhour := time.hour_le
  have hminute := time.minute_le
  unfold Time.minutes
  omega

/-- The next working day is found. -/
theorem seekDay_works {config : Config} (works : config.WorksEveryYear) (day : ℤ) :
    config.isWorkingDay (config.seekDay 370 (day + 1)) = true ∧
      day < config.seekDay 370 (day + 1) ∧
      ∀ e, day < e → e < config.seekDay 370 (day + 1) → config.isWorkingDay e = false := by
  obtain ⟨k, hk, hwork⟩ := works (day + 1)
  exact seekDay_spec config 370 k (day + 1) (Nat.le_of_lt hk) hwork

/-- The working time of a calendar. -/
def hours (config : Config) (opens : config.businessStart.minutes < config.businessEnd.minutes)
    (works : config.WorksEveryYear) : Hours where
  dayLength := dayMs
  opening := config.businessStart.minutes * msPerMinute
  unit := msPerMinute
  units := config.businessEnd.minutes - config.businessStart.minutes
  working := config.isWorkingDay
  next day := config.seekDay 370 (day + 1)
  opening_nonneg := Int.mul_nonneg (Int.natCast_nonneg _) (by decide)
  unit_pos := by decide
  units_pos := by omega
  closing_lt := by
    have hclose := minutes_lt config.businessEnd
    unfold msPerMinute dayMs
    omega
  lt_next day := (seekDay_works works day).2.1
  working_next day := (seekDay_works works day).1
  resting day := (seekDay_works works day).2.2

section Regular

variable {zone : Zone} {config : Config} {offset : ℤ}
  (opens : config.businessStart.minutes < config.businessEnd.minutes)
  (works : config.WorksEveryYear)
  (hoffset : ∀ t, zone.offset t = offset)
  (hinstant : ∀ localTime, zone.instantOf localTime offset = localTime - offset)

theorem width_hours : (hours config opens works).width =
    config.businessEnd.minutes * msPerMinute - config.businessStart.minutes * msPerMinute := by
  have hunits : ((hours config opens works).units : ℤ) =
      config.businessEnd.minutes - config.businessStart.minutes := by
    simp only [hours]
    omega
  rw [Hours.width, hunits]
  exact Int.sub_mul _ _ _

include hoffset in
theorem localTime_eq (t : ℤ) : zone.localTime t = t + offset := by
  rw [Zone.localTime, hoffset]

include hoffset in
theorem day_eq (t : ℤ) : zone.day t = (t + offset) / dayMs := by
  rw [Zone.day, localTime_eq hoffset]

include hoffset hinstant in
theorem set_eq (t localTime : ℤ) : zone.set t localTime = localTime - offset := by
  rw [Zone.set, hoffset, hinstant]

include hoffset in
theorem day_sub (localTime : ℤ) : zone.day (localTime - offset) = localTime / dayMs := by
  rw [day_eq hoffset, Int.sub_add_cancel]

include hoffset hinstant in
theorem atTime_eq (time : Time) (t : ℤ) : atTime zone time t =
    zone.day t * dayMs + time.minutes * msPerMinute - offset :=
  set_eq hoffset hinstant _ _

/-! ## Places on the clock -/

include hoffset in
theorem day_place {d x : ℤ} (hx : 0 ≤ x) (hwidth : x ≤ (hours config opens works).width) :
    zone.day ((hours config opens works).tick d x - offset) = d := by
  rw [day_sub hoffset]
  exact (Hours.ediv_tick hx hwidth).1

include hoffset hinstant in
theorem atBusinessStart_eq (t : ℤ) : atBusinessStart zone config t =
    (hours config opens works).tick (zone.day t) 0 - offset := by
  rw [atBusinessStart, atTime_eq hoffset hinstant, Hours.tick, Int.add_zero]
  rfl

include hoffset hinstant in
theorem atBusinessEnd_eq (t : ℤ) : atBusinessEnd zone config t =
    (hours config opens works).tick (zone.day t) (hours config opens works).width - offset := by
  rw [atBusinessEnd, atTime_eq hoffset hinstant, width_hours opens works, Hours.tick]
  simp only [hours]
  omega

include hoffset hinstant in
theorem nextDayStart_eq (t : ℤ) : nextDayStart zone config t =
    (hours config opens works).tick (zone.day t + 1) 0 - offset := by
  have hplus : zone.day (plusDay zone t) = zone.day t + 1 := by
    rw [plusDay, set_eq hoffset hinstant, day_sub hoffset, Zone.day]
    exact Int.add_ediv_of_dvd_right (Int.dvd_refl dayMs)
  have hstart : zone.day (startOfDay zone (plusDay zone t)) = zone.day t + 1 := by
    rw [startOfDay, set_eq hoffset hinstant, day_sub hoffset, hplus]
    exact Int.mul_ediv_cancel _ (by decide)
  rw [nextDayStart, atBusinessStart_eq opens works hoffset hinstant, hstart]

include hoffset hinstant in
theorem seekWorkingDay_eq (n : ℕ) : ∀ day,
    seekWorkingDay zone config n ((hours config opens works).tick day 0 - offset) =
      (hours config opens works).tick (config.seekDay n day) 0 - offset := by
  induction n with
  | zero => exact fun day => rfl
  | succ n ih =>
    intro day
    have hday := day_place opens works hoffset (d := day) (Int.le_refl 0)
      (Int.le_of_lt Hours.width_pos)
    rw [seekWorkingDay, isWorkingDateTime, hday, Config.seekDay]
    split
    · rfl
    · rw [nextDayStart_eq opens works hoffset hinstant, hday]
      exact ih (day + 1)

include hoffset hinstant in
/-- The next working day of the code is the one of the hours. -/
theorem moveToNextWorkingDayStart_eq (t : ℤ) : moveToNextWorkingDayStart zone config t =
    (hours config opens works).tick ((hours config opens works).next (zone.day t)) 0 - offset := by
  rw [moveToNextWorkingDayStart, nextDayStart_eq opens works hoffset hinstant]
  exact seekWorkingDay_eq opens works hoffset hinstant 370 (zone.day t + 1)

/-! ## The aligned start -/

include hoffset hinstant in
/-- A place in the business hours is aligned already. -/
theorem alignLoop_place {d x : ℤ} (n : ℕ) (hd : config.isWorkingDay d = true) (hx : 0 ≤ x)
    (hwidth : x < (hours config opens works).width) :
    alignLoop zone config (n + 1) ((hours config opens works).tick d x - offset) =
      (hours config opens works).tick d x - offset := by
  have hday := day_place opens works hoffset (d := d) hx (Int.le_of_lt hwidth)
  have hwork :
      isWorkingDateTime zone config ((hours config opens works).tick d x - offset) = true := by
    rw [isWorkingDateTime, hday, hd]
  have hopen := atBusinessStart_eq opens works hoffset hinstant
    ((hours config opens works).tick d x - offset)
  have hclose := atBusinessEnd_eq opens works hoffset hinstant
    ((hours config opens works).tick d x - offset)
  rw [hday] at hopen hclose
  unfold Hours.tick at hopen hclose ⊢
  unfold Hours.tick at hwork
  rw [alignLoop, if_neg (not_not_intro hwork), if_neg (by omega), if_neg (by omega)]

include hoffset hinstant in
/-- The alignment enters the working time. -/
theorem alignLoop_eq (n : ℕ) (t : ℤ) : alignLoop zone config (n + 2) t =
    (hours config opens works).tick ((hours config opens works).enter (t + offset)).1
      ((hours config opens works).enter (t + offset)).2 - offset := by
  have hday : (t + offset) / (hours config opens works).dayLength = zone.day t :=
    (day_eq hoffset t).symm
  have hself := Hours.tick_self (H := hours config opens works) (t + offset)
  have hmove := moveToNextWorkingDayStart_eq opens works hoffset hinstant t
  have hnext := alignLoop_place opens works hoffset hinstant n
    ((hours config opens works).working_next (zone.day t)) (Int.le_refl 0) Hours.width_pos
  have hopen := atBusinessStart_eq opens works hoffset hinstant t
  have hclose := atBusinessEnd_eq opens works hoffset hinstant t
  rw [hday] at hself
  rw [alignLoop, Hours.enter, hday]
  by_cases hwork : isWorkingDateTime zone config t = true
  · have hworking : ¬(hours config opens works).working (zone.day t) = false :=
      fun hfalse => Bool.noConfusion (hwork.symm.trans hfalse)
    rw [if_neg (not_not_intro hwork)]
    by_cases hover : (hours config opens works).width ≤
        (t + offset) % (hours config opens works).dayLength - (hours config opens works).opening
    · -- the business hours of the day are over
      have hwidth := Hours.width_pos (H := hours config opens works)
      have hlate : ¬t < atBusinessStart zone config t := by
        unfold Hours.tick at hself hopen
        omega
      have hend : atBusinessEnd zone config t ≤ t := by
        unfold Hours.tick at hself hclose
        omega
      rw [if_pos (Or.inr hover), if_neg hlate, if_pos hend, hmove, hnext]
    · rw [if_neg (not_or.mpr ⟨hworking, hover⟩)]
      by_cases hearly : t < atBusinessStart zone config t
      · -- they have not begun
        have hbefore : (t + offset) % (hours config opens works).dayLength -
            (hours config opens works).opening ≤ 0 := by
          unfold Hours.tick at hself hopen
          omega
        rw [if_pos hearly, hopen, Int.max_eq_left hbefore]
      · -- the instant is within them, and stays where it is
        have hafter : 0 ≤ (t + offset) % (hours config opens works).dayLength -
            (hours config opens works).opening := by
          unfold Hours.tick at hself hopen
          omega
        have hend : ¬atBusinessEnd zone config t ≤ t := by
          unfold Hours.tick at hself hclose
          omega
        rw [if_neg hearly, if_neg hend, Int.max_eq_right hafter, hself, Int.add_sub_cancel]
  · -- the business hours are those of the working day that follows
    have hresting : (hours config opens works).working (zone.day t) = false :=
      Bool.eq_false_of_not_eq_true hwork
    rw [if_pos hwork, if_pos (Or.inl hresting), hmove, hnext]

/-! ## The minutes ahead -/

include hoffset hinstant in
theorem available_place {d x : ℤ} (hx : 0 ≤ x) (hwidth : x ≤ (hours config opens works).width) :
    available zone config ((hours config opens works).tick d x - offset) =
      (hours config opens works).room x := by
  have hleft : atBusinessEnd zone config ((hours config opens works).tick d x - offset) -
      ((hours config opens works).tick d x - offset) = (hours config opens works).width - x := by
    rw [atBusinessEnd_eq opens works hoffset hinstant,
      day_place opens works hoffset hx hwidth]
    unfold Hours.tick
    omega
  rw [available, hleft]
  rfl

theorem consumeLoop_zero (n : ℕ) (t : ℤ) : consumeLoop zone config n t 0 = (t, 0) := by
  cases n with
  | zero => rfl
  | succ n => rfl

theorem tick_add (H : Hours) (d x y o : ℤ) : H.tick d x - o + y = H.tick d (x + y) - o := by
  unfold Hours.tick
  omega

include hoffset hinstant in
/-- A round of the loop: the minutes end within the day, or what there is of it is taken. -/
theorem consumeLoop_place {d x : ℤ} (safety : ℕ) {n : ℕ} (hn : 0 < n) (hx : 0 ≤ x)
    (hwidth : x ≤ (hours config opens works).width) :
    consumeLoop zone config (safety + 1) ((hours config opens works).tick d x - offset) n =
      if n ≤ (hours config opens works).room x then
        ((hours config opens works).tick d (x + n * msPerMinute) - offset, 0)
      else consumeLoop zone config safety
        ((hours config opens works).tick ((hours config opens works).next d) 0 - offset)
        (n - (hours config opens works).room x) := by
  have hmove {y : ℤ} (hy : 0 ≤ y) (hyw : y ≤ (hours config opens works).width) :
      moveToNextWorkingDayStart zone config ((hours config opens works).tick d y - offset) =
        (hours config opens works).tick ((hours config opens works).next d) 0 - offset := by
    rw [moveToNextWorkingDayStart_eq opens works hoffset hinstant,
      day_place opens works hoffset hy hyw]
  have hroom := Hours.room_bounds hwidth
  have hunit : (hours config opens works).unit = msPerMinute := rfl
  rw [hunit] at hroom
  rw [consumeLoop, if_neg (by omega), available_place opens works hoffset hinstant hx hwidth]
  by_cases hempty : (hours config opens works).room x = 0
  · rw [if_pos hempty, if_neg (by omega), hmove hx hwidth, hempty, Nat.sub_zero]
  · rw [if_neg hempty]
    dsimp only
    rw [tick_add]
    by_cases hle : n ≤ (hours config opens works).room x
    · rw [if_pos hle, Nat.min_eq_left hle, Nat.sub_self, if_neg (by omega), consumeLoop_zero]
    · have hused : 0 ≤ ((hours config opens works).room x : ℤ) * msPerMinute :=
        Int.mul_nonneg (by omega) (by decide)
      rw [if_neg hle, Nat.min_eq_right (by omega), if_pos (by omega), hmove (by omega) hroom.1]

include hoffset hinstant in
/-- From the opening of a day, the loop advances by the minutes in as many rounds as there are days
in them. -/
theorem consumeLoop_opening (safety : ℕ) : ∀ (n : ℕ) (d : ℤ),
    n ≤ safety * (hours config opens works).units →
    consumeLoop zone config safety ((hours config opens works).tick d 0 - offset) n =
      ((hours config opens works).tick ((hours config opens works).advance n d 0).1
        ((hours config opens works).advance n d 0).2 - offset, 0) := by
  -- by induction on the rounds that are left: each one takes a whole day, or the rest
  induction safety with
  | zero =>
    intro n d hn
    obtain rfl : n = 0 := by omega
    rw [consumeLoop_zero, Hours.advance_of_le (Nat.zero_le _), Int.natCast_zero, Int.zero_mul,
      Int.add_zero]
  | succ safety ih =>
    intro n d hn
    rw [Nat.add_mul, Nat.one_mul] at hn
    rcases Nat.eq_zero_or_pos n with rfl | hpos
    · rw [consumeLoop_zero, Hours.advance_of_le (Nat.zero_le _), Int.natCast_zero, Int.zero_mul,
        Int.add_zero]
    · rw [consumeLoop_place opens works hoffset hinstant safety hpos (Int.le_refl 0)
        (Int.le_of_lt Hours.width_pos)]
      have hroom := Hours.room_zero (H := hours config opens works)
      split
      · next hle =>
        rw [Hours.advance_of_le hle]
        rfl
      · next hlt =>
        rw [Hours.advance_of_lt (Nat.lt_of_not_le hlt)]
        exact ih _ _ (by omega)

theorem units_hours : (hours config opens works).units = minutesPerDay config := by
  unfold minutesPerDay
  simp only [hours]
  omega

include hoffset hinstant in
/-- The safety counter leaves the loop its rounds. -/
theorem consumeLoop_advance {d x : ℤ} (n : ℕ) (hx : 0 ≤ x)
    (hwidth : x ≤ (hours config opens works).width) :
    consumeLoop zone config (safetyCounter config n)
      ((hours config opens works).tick d x - offset) n =
      ((hours config opens works).tick ((hours config opens works).advance n d x).1
        ((hours config opens works).advance n d x).2 - offset, 0) := by
  rcases Nat.eq_zero_or_pos n with rfl | hpos
  · rw [consumeLoop_zero, Hours.advance_of_le (Nat.zero_le _), Int.natCast_zero, Int.zero_mul,
      Int.add_zero]
  · obtain ⟨rounds, hrounds, henough⟩ := safetyCounter_rounds config n
    rw [← units_hours opens works] at henough
    rw [hrounds, consumeLoop_place opens works hoffset hinstant rounds hpos hx hwidth]
    split
    · next hle =>
      rw [Hours.advance_of_le hle]
      rfl
    · next hlt =>
      rw [Hours.advance_of_lt (Nat.lt_of_not_le hlt)]
      exact consumeLoop_opening opens works hoffset hinstant rounds _ _ (by omega)

include hoffset hinstant in
/-- The aligned start is where the work is entered. -/
theorem alignToBusinessTime_eq (t : ℤ) : alignToBusinessTime zone config t =
    (hours config opens works).deadline 0 (t + offset) - offset := by
  rw [Hours.deadline_zero]
  exact alignLoop_eq opens works hoffset hinstant 368 t

include hoffset hinstant in
/-- Where the loop ends is the deadline of the minutes, and none of them is left. -/
theorem consume_eq (t : ℤ) (n : ℕ) : consume zone config t n =
    ((hours config opens works).deadline n (t + offset) - offset, 0) := by
  have hbounds := Hours.enter_bounds (H := hours config opens works) (t + offset)
  rw [consume, alignToBusinessTime_eq opens works hoffset hinstant,
    Hours.deadline_zero]
  exact consumeLoop_advance opens works hoffset hinstant n hbounds.1 (Int.le_of_lt hbounds.2)

/-! ## Business time -/

/-- An instant in the business hours of a working day. -/
def IsBusinessTime (zone : Zone) (config : Config) (t : ℤ) : Prop :=
  isWorkingDateTime zone config t = true ∧
    atBusinessStart zone config t ≤ t ∧ t < atBusinessEnd zone config t

instance (zone : Zone) (config : Config) (t : ℤ) : Decidable (IsBusinessTime zone config t) :=
  inferInstanceAs (Decidable (_ ∧ _ ∧ _))

/-- The milliseconds of business time from an instant to another one. -/
noncomputable def businessTime (zone : Zone) (config : Config) (s t : ℤ) : ℕ :=
  ((Finset.Ico s t).filter (IsBusinessTime zone config)).card

include hoffset hinstant in
theorem isBusinessTime_iff (t : ℤ) :
    IsBusinessTime zone config t ↔ (hours config opens works).IsAtWork (t + offset) := by
  have hday : (t + offset) / (hours config opens works).dayLength = zone.day t :=
    (day_eq hoffset t).symm
  have hself := Hours.tick_self (H := hours config opens works) (t + offset)
  have hopen := atBusinessStart_eq opens works hoffset hinstant t
  have hclose := atBusinessEnd_eq opens works hoffset hinstant t
  rw [hday] at hself
  unfold Hours.tick at hself hopen hclose
  unfold IsBusinessTime Hours.IsAtWork
  rw [hday]
  refine and_congr Iff.rfl ?_
  omega

include hoffset hinstant in
theorem businessTime_eq (s t : ℤ) : businessTime zone config (s - offset) (t - offset) =
    (hours config opens works).elapsed s t := by
  unfold businessTime Hours.elapsed
  refine Finset.card_nbij' (· + offset) (· - offset) ?_ ?_ ?_ ?_
  · intro u hu
    rw [Finset.mem_coe, Finset.mem_filter, Finset.mem_Ico] at hu
    rw [Finset.mem_coe, Finset.mem_filter, Finset.mem_Ico]
    dsimp only
    refine ⟨by omega, ?_⟩
    exact (isBusinessTime_iff opens works hoffset hinstant u).mp hu.2
  · intro u hu
    rw [Finset.mem_coe, Finset.mem_filter, Finset.mem_Ico] at hu
    rw [Finset.mem_coe, Finset.mem_filter, Finset.mem_Ico]
    dsimp only
    refine ⟨by omega, ?_⟩
    rw [isBusinessTime_iff opens works hoffset hinstant, Int.sub_add_cancel]
    exact hu.2
  · exact fun u _ => Int.add_sub_cancel u offset
  · exact fun u _ => Int.sub_add_cancel u offset

end Regular

/-! ## Due dates -/

theorem clampMinutes_natCast (n : ℕ) : clampMinutes (some (n : ℚ)) = n := by
  change ⌊(n : ℚ)⌋.toNat = n
  rw [Int.floor_natCast, Int.toNat_natCast]

/-- A calendar that works on Mondays, without holidays, works every year. -/
theorem worksEveryYear_of_monday {config : Config} (hholidays : config.holidayDates = [])
    (hmonday : 1 ∈ config.workingDays) : config.WorksEveryYear := by
  intro day
  refine ⟨(-(day + 3) % 7).toNat, by omega, ?_⟩
  have hweekday : weekday (day + (-(day + 3) % 7).toNat) = 1 := by
    unfold weekday
    omega
  unfold Config.isWorkingDay
  rw [hholidays, hweekday, if_neg List.not_mem_nil]
  split
  · rfl
  · exact decide_eq_true (by exact_mod_cast hmonday)

/-- A platform that knows `UTC`. -/
def utcOnly : Platform where
  zone name := if name = "UTC" then some .utc else none
  parseDate _ := none

theorem regular_default : Regular utcOnly (normalizeConfig utcOnly {}) where
  opens := by decide
  works := worksEveryYear_of_monday rfl (by decide)
  zone := ⟨0, fun _ => rfl, fun localTime => (Int.sub_zero localTime).symm⟩

section Calendars

variable {P : Platform} {input : ConfigInput}

/-- The due date is the deadline of the minutes in the working time of the calendar. -/
theorem calculateDueDate_eq (h : Regular P (normalizeConfig P input)) :
    ∃ offset, (∀ t, ((normalizeConfig P input).zone P).offset t = offset) ∧
      (∀ localTime, ((normalizeConfig P input).zone P).instantOf localTime offset =
        localTime - offset) ∧
      ∀ (start : ℤ) (n : ℕ), calculateDueDate P start (some (n : ℚ)) input =
        (hours (normalizeConfig P input) h.opens h.works).deadline n (start + offset) - offset := by
  obtain ⟨offset, hoffset, hinstant⟩ := h.zone
  refine ⟨offset, hoffset, hinstant, fun start n => ?_⟩
  rw [calculateDueDate, clampMinutes_natCast]
  split
  · next hzero => rw [hzero, alignToBusinessTime_eq h.opens h.works hoffset hinstant]
  · rw [consume_eq h.opens h.works hoffset hinstant]

/-- A due date counts the minutes of a duration from a start. -/
structure DueCounts (P : Platform) (config : Config) (start : ℤ) (n : ℕ) (due : ℤ) : Prop where
  working : isWorkingDateTime (config.zone P) config due = true
  opened : atBusinessStart (config.zone P) config due ≤ due
  closed : due ≤ atBusinessEnd (config.zone P) config due
  least : n * msPerMinute ≤
    businessTime (config.zone P) config (alignToBusinessTime (config.zone P) config start) due
  less : businessTime (config.zone P) config (alignToBusinessTime (config.zone P) config start) due <
    (n + 1) * msPerMinute
  exact : msPerMinute ∣ (config.zone P).localTime start →
    businessTime (config.zone P) config (alignToBusinessTime (config.zone P) config start) due =
      n * msPerMinute

/-- A due date is in the business hours of a working day, and counts the minutes. -/
theorem due_counts (h : Regular P (normalizeConfig P input)) (start : ℤ) (n : ℕ) :
    DueCounts P (normalizeConfig P input) start n
      (calculateDueDate P start (some (n : ℚ)) input) := by
  obtain ⟨offset, hoffset, hinstant, heq⟩ := calculateDueDate_eq h
  obtain ⟨d, x, hplace, hwork, hx, hwidth⟩ :=
    (hours (normalizeConfig P input) h.opens h.works).deadline_bounds n (start + offset)
  obtain ⟨hleast, hless, hexact⟩ :=
    Hours.elapsed_deadline (H := hours (normalizeConfig P input) h.opens h.works) n (start + offset)
  have hday := day_place h.opens h.works hoffset (d := d) hx hwidth
  have helapsed := businessTime_eq h.opens h.works hoffset hinstant
    ((hours (normalizeConfig P input) h.opens h.works).deadline 0 (start + offset))
    ((hours (normalizeConfig P input) h.opens h.works).deadline n (start + offset))
  rw [← alignToBusinessTime_eq h.opens h.works hoffset hinstant] at helapsed
  rw [heq start n]
  -- The place of the due date gives where it is, and the working time up to it what it counts.
  refine ⟨?_, ?_, ?_, ?_, ?_, fun hwhole => ?_⟩
  · rw [hplace, isWorkingDateTime, hday]
    exact hwork
  · rw [atBusinessStart_eq h.opens h.works hoffset hinstant, hplace, hday]
    unfold Hours.tick
    omega
  · rw [atBusinessEnd_eq h.opens h.works hoffset hinstant, hplace, hday]
    unfold Hours.tick
    omega
  · rw [helapsed]
    exact hleast
  · rw [helapsed]
    exact hless
  · rw [localTime_eq hoffset] at hwhole
    rw [helapsed]
    refine hexact (Hours.unit_dvd_enter ?_ ?_ hwhole)
    · have hday : msPerMinute ∣ dayMs := by decide
      exact hday
    · exact Int.dvd_mul_left _ _

/-- Over a weekend. -/
theorem due_counts_weekend :
    DueCounts utcOnly (normalizeConfig utcOnly {}) 1767373200000 90
      (calculateDueDate utcOnly 1767373200000 (some (90 : ℕ)) {}) :=
  due_counts regular_default 1767373200000 90

/-- The first Friday of 2026, at 17:00: the 90 minutes end on Monday, at 10:30. -/
example : calculateDueDate utcOnly 1767373200000 (some (90 : ℕ)) {} = 1767609000000 := by
  decide

/-- Due dates compose, and keep the order of the starts and of the durations. -/
theorem due_composes (h : Regular P (normalizeConfig P input)) {s t : ℤ} (hst : s ≤ t) (a : ℕ)
    {b : ℕ} (hb : 0 < b) :
    calculateDueDate P s (some ((a + b : ℕ) : ℚ)) input =
        calculateDueDate P (calculateDueDate P s (some (a : ℚ)) input) (some (b : ℚ)) input ∧
      calculateDueDate P s (some (a : ℚ)) input ≤ calculateDueDate P t (some (a : ℚ)) input ∧
      calculateDueDate P s (some (a : ℚ)) input ≤
        calculateDueDate P s (some ((a + b : ℕ) : ℚ)) input := by
  obtain ⟨offset, -, -, heq⟩ := calculateDueDate_eq h
  simp only [heq, Int.sub_add_cancel]
  have hstart := Hours.deadline_mono (H := hours (normalizeConfig P input) h.opens h.works) (n := a)
    (s := s + offset) (t := t + offset) (by omega)
  have hunits := Hours.deadline_mono_units (H := hours (normalizeConfig P input) h.opens h.works)
    (Nat.le_add_right a b) (s + offset)
  exact ⟨by rw [Hours.deadline_add a hb], by omega, by omega⟩

end Calendars

theorem due_composes_weekend :
    calculateDueDate utcOnly 1767373200000 (some ((60 + 30 : ℕ) : ℚ)) {} =
        calculateDueDate utcOnly
          (calculateDueDate utcOnly 1767373200000 (some ((60 : ℕ) : ℚ)) {})
          (some ((30 : ℕ) : ℚ)) {} ∧
      calculateDueDate utcOnly 1767373200000 (some ((60 : ℕ) : ℚ)) {} ≤
        calculateDueDate utcOnly 1767384000000 (some ((60 : ℕ) : ℚ)) {} ∧
      calculateDueDate utcOnly 1767373200000 (some ((60 : ℕ) : ℚ)) {} ≤
        calculateDueDate utcOnly 1767373200000 (some ((60 + 30 : ℕ) : ℚ)) {} :=
  due_composes regular_default (by decide) 60 (by decide)

end Docketra.SlaCalendar
