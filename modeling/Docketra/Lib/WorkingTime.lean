import Mathlib.Algebra.Order.Group.Nat
import Mathlib.Algebra.Order.Ring.Int
import Mathlib.Data.Int.ConditionallyCompleteOrder
import Mathlib.Data.Int.Interval
import Mathlib.Logic.Function.Iterate
import Mathlib.Order.ConditionallyCompleteLattice.Basic

/-!
# Working time

Time is a line of whole ticks, cut into days of one length. A working day is at work for some units
of time from its opening on, and each day has a working day after it.

The `deadline` some units of working time ahead is counted from where the work is `enter`ed: within
the day as far as it has room, where a part of a unit that is left at its end is dropped, and then
over the working days that follow (`advance`). Deadlines add up (`deadline_add`) and keep the order
of their starts and units (`deadline_mono`, `deadline_mono_units`), and the time at work up to one is
what was asked for, and the part that was dropped (`elapsed_deadline`).
-/

namespace WorkingTime

/-- The hours of work: days of a length, of which a working day is at work for some units from an
offset on, and the working day after a day. -/
structure Hours where
  dayLength : ℤ
  opening : ℤ
  unit : ℤ
  units : ℕ
  working : ℤ → Bool
  next : ℤ → ℤ
  opening_nonneg : 0 ≤ opening
  unit_pos : 0 < unit
  units_pos : 0 < units
  /-- The work ends before the day does. -/
  closing_lt : opening + units * unit < dayLength
  lt_next : ∀ d, d < next d
  working_next : ∀ d, working (next d) = true
  /-- No working day is passed over. -/
  resting : ∀ d e, d < e → e < next d → working e = false

namespace Hours

variable (H : Hours)

/-- The ticks of a working day's work. -/
def width : ℤ := H.units * H.unit

/-- The tick at an offset from the opening of a day. -/
def tick (d x : ℤ) : ℤ := d * H.dayLength + H.opening + x

/-- A tick of the work of a working day. -/
def IsAtWork (t : ℤ) : Prop :=
  H.working (t / H.dayLength) = true ∧ H.opening ≤ t % H.dayLength ∧
    t % H.dayLength < H.opening + H.width

instance (t : ℤ) : Decidable (H.IsAtWork t) := inferInstanceAs (Decidable (_ ∧ _ ∧ _))

/-- The time at work from a tick to another one. -/
noncomputable def elapsed (s t : ℤ) : ℕ := ((Finset.Ico s t).filter H.IsAtWork).card

/-- The whole units from an offset to the end of the work. -/
def room (x : ℤ) : ℕ := ((H.width - x) / H.unit).toNat

/-- The day and the offset at which the work is entered at or after a tick. -/
def enter (t : ℤ) : ℤ × ℤ :=
  if H.working (t / H.dayLength) = false ∨ H.width ≤ t % H.dayLength - H.opening then
    (H.next (t / H.dayLength), 0)
  else (t / H.dayLength, max 0 (t % H.dayLength - H.opening))

/-- The day and the offset that are so many units ahead. -/
def advance (n : ℕ) (d x : ℤ) : ℤ × ℤ :=
  if n ≤ H.room x then (d, x + n * H.unit)
  else
    (H.next^[(n - H.room x - 1) / H.units + 1] d, ((n - H.room x - 1) % H.units + 1 : ℕ) * H.unit)

/-- The deadline so many units after the work is entered from a tick. -/
def deadline (n : ℕ) (t : ℤ) : ℤ :=
  let entered := H.enter t
  let ahead := H.advance n entered.1 entered.2
  H.tick ahead.1 ahead.2

variable {H} {d e x y : ℤ}

theorem width_pos : 0 < H.width :=
  Int.mul_pos (Int.natCast_pos.mpr H.units_pos) H.unit_pos

theorem dayLength_pos : 0 < H.dayLength := by
  have hopening := H.opening_nonneg
  have hwidth := H.width_pos
  have hclosing := H.closing_lt
  unfold width at hwidth
  omega

/-- A tick of a day, up to the end of its work, by the day and the offset. -/
theorem ediv_tick (hx : 0 ≤ x) (hwidth : x ≤ H.width) :
    H.tick d x / H.dayLength = d ∧ H.tick d x % H.dayLength = H.opening + x := by
  have hclosing := H.closing_lt
  have hopening := H.opening_nonneg
  have hlen := dayLength_pos (H := H)
  unfold width at hwidth
  rw [Int.ediv_emod_unique hlen]
  refine ⟨?_, by omega, by omega⟩
  rw [Int.mul_comm]
  unfold tick
  omega

theorem tick_self (t : ℤ) :
    H.tick (t / H.dayLength) (t % H.dayLength - H.opening) = t := by
  have hsum := Int.mul_ediv_add_emod t H.dayLength
  rw [Int.mul_comm] at hsum
  unfold tick
  omega

/-! ## Room -/

/-- The units that there is room for end within the work, and one more does not. -/
theorem room_bounds (hx : x ≤ H.width) :
    x + H.room x * H.unit ≤ H.width ∧ H.width < x + (H.room x + 1) * H.unit := by
  have hunit := H.unit_pos
  have hnonneg : 0 ≤ (H.width - x) / H.unit := Int.ediv_nonneg (by omega) (by omega)
  have hroom : (H.room x : ℤ) = (H.width - x) / H.unit := Int.toNat_of_nonneg hnonneg
  have hlow := Int.ediv_mul_le (H.width - x) (Int.ne_of_gt hunit)
  have hhigh := Int.lt_ediv_add_one_mul_self (H.width - x) hunit
  rw [hroom]
  omega

theorem room_eq {n : ℕ} (hlow : x + n * H.unit ≤ H.width) (hhigh : H.width < x + (n + 1) * H.unit) :
    H.room x = n := by
  have hunit := H.unit_pos
  rw [Int.add_mul, Int.one_mul] at hhigh
  have hdiv : (H.width - x) / H.unit = n := by
    have hcomm := Int.mul_comm H.unit n
    rw [Int.ediv_eq_iff_of_pos hunit]
    omega
  rw [room, hdiv, Int.toNat_natCast]

theorem room_zero : H.room 0 = H.units := by
  have hunit := H.unit_pos
  refine room_eq ?_ ?_
  · unfold width
    omega
  · rw [Int.add_mul, Int.one_mul]
    unfold width
    omega

/-- Where some units are used, so many are left. -/
theorem room_add {n : ℕ} (hx : x ≤ H.width) (hn : n ≤ H.room x) :
    H.room (x + n * H.unit) = H.room x - n := by
  obtain ⟨hlow, hhigh⟩ := room_bounds hx
  obtain ⟨k, hk⟩ := Nat.exists_eq_add_of_le hn
  rw [hk, Nat.add_sub_cancel_left]
  rw [hk] at hlow hhigh
  push_cast at hlow hhigh
  refine room_eq ?_ ?_
  · rw [Int.add_mul] at hlow
    omega
  · rw [Int.add_assoc, Int.add_mul] at hhigh
    omega

/-- Some units of a day's work. -/
theorem room_units {n : ℕ} (hn : n ≤ H.units) : H.room (n * H.unit) = H.units - n := by
  have hroom := room_add (H := H) (x := 0) (n := n) (Int.le_of_lt width_pos) (by rwa [room_zero])
  rwa [Int.zero_add, room_zero] at hroom

/-! ## The deadline -/

theorem advance_of_le {n : ℕ} (h : n ≤ H.room x) : H.advance n d x = (d, x + n * H.unit) :=
  if_pos h

/-- The units that the day has no room for are those of the working days after it. -/
theorem advance_of_lt {n : ℕ} (h : H.room x < n) :
    H.advance n d x = H.advance (n - H.room x) (H.next d) 0 := by
  have hunits := H.units_pos
  obtain ⟨m, hm⟩ : ∃ m, n - H.room x = m + 1 := ⟨n - H.room x - 1, by omega⟩
  have hleft : H.advance n d x =
      (H.next^[m / H.units + 1] d, (m % H.units + 1 : ℕ) * H.unit) := by
    rw [advance, if_neg (Nat.not_le.mpr h), hm, Nat.add_sub_cancel]
  rw [hleft, hm, advance, room_zero]
  split
  · next hle =>
    rw [Nat.div_eq_of_lt hle, Nat.mod_eq_of_lt hle, Function.iterate_one, Int.zero_add]
  · next hlt =>
    -- a whole day of work is one more day and the same offset
    obtain ⟨k, hk⟩ : ∃ k, m = k + H.units := ⟨m - H.units, by omega⟩
    have hrest : m + 1 - H.units - 1 = k := by omega
    rw [hrest, hk, Nat.add_div_right k hunits, Nat.add_mod_right, Function.iterate_succ_apply]

theorem working_advance {n : ℕ} (hd : H.working d = true) :
    H.working (H.advance n d x).1 = true := by
  unfold advance
  split
  · exact hd
  · rw [Function.iterate_succ_apply']
    exact H.working_next _

theorem advance_bounds {n : ℕ} (hx : 0 ≤ x) (hwidth : x ≤ H.width) :
    0 ≤ (H.advance n d x).2 ∧ (H.advance n d x).2 ≤ H.width := by
  have hunit := H.unit_pos
  unfold advance
  split
  · next hle =>
    have hroom := (room_bounds hwidth).1
    have hused : (n : ℤ) * H.unit ≤ H.room x * H.unit :=
      Int.mul_le_mul_of_nonneg_right (by omega) (by omega)
    have hnonneg : 0 ≤ (n : ℤ) * H.unit := Int.mul_nonneg (by omega) (by omega)
    dsimp only
    omega
  · dsimp only
    have hmod := Nat.mod_lt (n - H.room x - 1) H.units_pos
    constructor
    · exact Int.mul_nonneg (by omega) (by omega)
    · exact Int.mul_le_mul_of_nonneg_right (by omega) (by omega)

/-- From the opening of a day, the second part of the units is counted from where the first one
ends. -/
theorem advance_add_zero (a b : ℕ) : ∀ d, H.advance (a + b) d 0 =
    H.advance b (H.advance a d 0).1 (H.advance a d 0).2 := by
  -- by induction on the first part: it is within the day, or a whole day is taken from it
  induction a using Nat.strongRecOn with
  | ind a ih =>
    intro d
    have hunits := H.units_pos
    have hzero := room_zero (H := H)
    by_cases ha : a ≤ H.units
    · rw [advance_of_le (n := a) (by omega), Int.zero_add]
      dsimp only
      have hroom := room_units (H := H) ha
      by_cases hb : a + b ≤ H.units
      · rw [advance_of_le (by omega), advance_of_le (by omega)]
        push_cast
        rw [Int.zero_add, Int.add_mul]
      · have hrest : a + b - H.room 0 = b - H.room (a * H.unit) := by omega
        rw [advance_of_lt (n := a + b) (by omega), advance_of_lt (n := b) (by omega), hrest]
    · have hrest : a + b - H.room 0 = (a - H.room 0) + b := by omega
      rw [advance_of_lt (by omega), advance_of_lt (n := a) (by omega), hrest]
      exact ih (a - H.room 0) (by omega) (H.next d)

/-- The units ahead are counted in parts. -/
theorem advance_add (a b : ℕ) (hx : x ≤ H.width) : H.advance (a + b) d x =
    H.advance b (H.advance a d x).1 (H.advance a d x).2 := by
  by_cases ha : a ≤ H.room x
  · rw [advance_of_le ha]
    dsimp only
    have hroom := room_add hx ha
    by_cases hb : a + b ≤ H.room x
    · rw [advance_of_le hb, advance_of_le (by omega)]
      push_cast
      rw [Int.add_mul, Int.add_assoc]
    · have hrest : a + b - H.room x = b - H.room (x + a * H.unit) := by omega
      rw [advance_of_lt (n := a + b) (by omega), advance_of_lt (n := b) (by omega), hrest]
  · have hrest : a + b - H.room x = (a - H.room x) + b := by omega
    rw [advance_of_lt (by omega), advance_of_lt (n := a) (by omega), hrest]
    exact advance_add_zero (a - H.room x) b (H.next d)

/-- At the end of a day's work the next unit is one of the next working day. -/
theorem advance_width {n : ℕ} (hn : 0 < n) :
    H.advance n d H.width = H.advance n (H.next d) 0 := by
  have hroom : H.room H.width = 0 := by
    unfold room
    rw [Int.sub_self, Int.zero_ediv, Int.toNat_zero]
  rw [advance_of_lt (by omega), hroom, Nat.sub_zero]

/-! ## The order of the deadlines -/

/-- A place on an earlier day is earlier. -/
theorem tick_lt_tick (hde : d < e) (hx : x ≤ H.width) (hy : 0 ≤ y) : H.tick d x < H.tick e y := by
  have hclosing := H.closing_lt
  have hopening := H.opening_nonneg
  have hdays : (d + 1) * H.dayLength ≤ e * H.dayLength :=
    Int.mul_le_mul_of_nonneg_right (by omega) (Int.le_of_lt dayLength_pos)
  rw [Int.add_mul, Int.one_mul] at hdays
  unfold tick
  unfold width at hx
  omega

theorem le_next_iterate (k : ℕ) : ∀ d, d ≤ H.next^[k] d := by
  induction k with
  | zero => exact fun d => Int.le_refl d
  | succ k ih =>
    intro d
    rw [Function.iterate_succ_apply]
    exact Int.le_trans (Int.le_of_lt (H.lt_next d)) (ih (H.next d))

/-- A place is not after the places ahead of it. -/
theorem tick_le_tick_advance {n : ℕ} (hx : 0 ≤ x) (hwidth : x ≤ H.width) :
    H.tick d x ≤ H.tick (H.advance n d x).1 (H.advance n d x).2 := by
  have hbounds := advance_bounds (n := n) (d := d) hx hwidth
  unfold advance at hbounds ⊢
  split
  · next hle =>
    have hnonneg : 0 ≤ (n : ℤ) * H.unit :=
      Int.mul_nonneg (by omega) (Int.le_of_lt H.unit_pos)
    unfold tick
    dsimp only
    omega
  · next hlt =>
    rw [if_neg hlt] at hbounds
    refine Int.le_of_lt (tick_lt_tick ?_ hwidth hbounds.1)
    rw [Function.iterate_succ_apply]
    exact Int.lt_of_lt_of_le (H.lt_next d) (le_next_iterate _ _)

theorem tick_zero_le_advance (n : ℕ) (d : ℤ) :
    H.tick d 0 ≤ H.tick (H.advance n d 0).1 (H.advance n d 0).2 :=
  tick_le_tick_advance (Int.le_refl 0) (Int.le_of_lt width_pos)

/-- More units end no earlier. -/
theorem tick_advance_mono_units {m n : ℕ} (hmn : m ≤ n) (hx : 0 ≤ x) (hwidth : x ≤ H.width) :
    H.tick (H.advance m d x).1 (H.advance m d x).2 ≤
      H.tick (H.advance n d x).1 (H.advance n d x).2 := by
  obtain ⟨k, hk⟩ := Nat.exists_eq_add_of_le hmn
  have hbounds := advance_bounds (n := m) (d := d) hx hwidth
  rw [hk, advance_add m k hwidth]
  exact tick_le_tick_advance hbounds.1 hbounds.2

theorem room_antitone (hxy : x ≤ y) : H.room y ≤ H.room x :=
  Int.toNat_le_toNat (Int.ediv_le_ediv H.unit_pos (by omega))

/-- From a later place of a day, the units end no earlier. -/
theorem tick_advance_mono_offset {n : ℕ} (hx : 0 ≤ x) (hxy : x ≤ y) (hwidth : y ≤ H.width) :
    H.tick (H.advance n d x).1 (H.advance n d x).2 ≤
      H.tick (H.advance n d y).1 (H.advance n d y).2 := by
  have hroom := room_antitone (H := H) hxy
  by_cases hn : n ≤ H.room x
  · by_cases hm : n ≤ H.room y
    · rw [advance_of_le hn, advance_of_le hm]
      unfold tick
      dsimp only
      omega
    · -- the one stays within the day that the other one leaves
      have hleft := advance_bounds (n := n) (d := d) hx (Int.le_trans hxy hwidth)
      have hopen := tick_zero_le_advance (H := H) (n - H.room y) (H.next d)
      rw [advance_of_lt (x := y) (by omega)]
      rw [advance_of_le hn] at hleft ⊢
      exact Int.le_trans (Int.le_of_lt (tick_lt_tick (H.lt_next d) hleft.2 (Int.le_refl 0))) hopen
  · rw [advance_of_lt (x := x) (by omega), advance_of_lt (x := y) (by omega)]
    exact tick_advance_mono_units (by omega) (Int.le_refl 0) (Int.le_of_lt width_pos)

/-- A working day after a day is not before the next working day. -/
theorem next_le {e : ℤ} (hde : d < e) (he : H.working e = true) : H.next d ≤ e := by
  by_contra hlt
  have hrest := H.resting d e hde (by omega)
  rw [he] at hrest
  exact Bool.noConfusion hrest

/-- The units that are left at a place end no later than as many from the next opening. -/
theorem tick_advance_le_next {n : ℕ} (hx : 0 ≤ x) (hwidth : x ≤ H.width) :
    H.tick (H.advance n d x).1 (H.advance n d x).2 ≤
      H.tick (H.advance n (H.next d) 0).1 (H.advance n (H.next d) 0).2 := by
  have hopen := tick_zero_le_advance (H := H) n (H.next d)
  by_cases hn : n ≤ H.room x
  · have hbounds := advance_bounds (n := n) (d := d) hx hwidth
    rw [advance_of_le hn] at hbounds ⊢
    exact Int.le_trans (Int.le_of_lt (tick_lt_tick (H.lt_next d) hbounds.2 (Int.le_refl 0))) hopen
  · rw [advance_of_lt (by omega)]
    exact tick_advance_mono_units (by omega) (Int.le_refl 0) (Int.le_of_lt width_pos)

theorem tick_advance_mono_day {n : ℕ} (hy : 0 ≤ y) (hyw : y ≤ H.width) :
    ∀ {d e x : ℤ}, d < e → H.working e = true → 0 ≤ x → x ≤ H.width →
    H.tick (H.advance n d x).1 (H.advance n d x).2 ≤
      H.tick (H.advance n e y).1 (H.advance n e y).2 := by
  -- by induction on the days between: the next working day is the later one, or is before it
  intro d e x hde he
  induction hk : (e - d).toNat using Nat.strongRecOn generalizing d x with
  | ind k ih =>
    intro hx hwidth
    have hnext := next_le hde he
    have hlt := H.lt_next d
    refine Int.le_trans (tick_advance_le_next hx hwidth) ?_
    obtain heq | hbefore := Int.le_iff_eq_or_lt.mp hnext
    · rw [heq]
      exact tick_advance_mono_offset (Int.le_refl 0) hy hyw
    · exact ih (e - H.next d).toNat (by omega) hbefore rfl (Int.le_refl 0)
        (Int.le_of_lt width_pos)

/-- From a later place, the units end no earlier. -/
theorem tick_advance_mono {n : ℕ} {e : ℤ} (he : H.working e = true) (hx : 0 ≤ x)
    (hxw : x ≤ H.width) (hy : 0 ≤ y) (hyw : y ≤ H.width) (hle : H.tick d x ≤ H.tick e y) :
    H.tick (H.advance n d x).1 (H.advance n d x).2 ≤
      H.tick (H.advance n e y).1 (H.advance n e y).2 := by
  obtain hlt | heq | hgt := Int.lt_trichotomy d e
  · exact tick_advance_mono_day hy hyw hlt he hx hxw
  · rw [heq] at hle ⊢
    unfold tick at hle
    exact tick_advance_mono_offset hx (by omega) hyw
  · have hback := tick_lt_tick hgt hyw hx
    omega

/-! ## Entering the work -/

theorem working_enter (t : ℤ) : H.working (H.enter t).1 = true := by
  unfold enter
  split
  · exact H.working_next _
  · next h => exact Bool.eq_true_of_not_eq_false fun hfalse => h (Or.inl hfalse)

theorem enter_bounds (t : ℤ) : 0 ≤ (H.enter t).2 ∧ (H.enter t).2 < H.width := by
  have hwidth := width_pos (H := H)
  unfold enter
  split
  · exact ⟨Int.le_refl 0, hwidth⟩
  · dsimp only
    omega

/-- A place in the work is entered where it is. -/
theorem enter_tick (hd : H.working d = true) (hx : 0 ≤ x) (hwidth : x < H.width) :
    H.enter (H.tick d x) = (d, x) := by
  obtain ⟨hday, htime⟩ := ediv_tick (H := H) (d := d) hx (Int.le_of_lt hwidth)
  have hsub : H.opening + x - H.opening = x := by omega
  have hstay : ¬(H.working d = false ∨ H.width ≤ x) := by
    rw [hd]
    simp only [Bool.true_eq_false, false_or]
    omega
  rw [enter, hday, htime, hsub, if_neg hstay, Int.max_eq_right hx]

/-- At the end of a day's work, the work is entered with the next working day. -/
theorem enter_tick_width : H.enter (H.tick d H.width) = (H.next d, 0) := by
  obtain ⟨hday, htime⟩ := ediv_tick (H := H) (d := d) (Int.le_of_lt width_pos) (Int.le_refl _)
  have hsub : H.opening + H.width - H.opening = H.width := by omega
  rw [enter, hday, htime, hsub, if_pos (Or.inr (Int.le_refl _))]

/-- The work is not entered before the tick. -/
theorem le_tick_enter (t : ℤ) : t ≤ H.tick (H.enter t).1 (H.enter t).2 := by
  have hlen := dayLength_pos (H := H)
  have hself := tick_self (H := H) t
  unfold enter
  split
  · have hmod := Int.emod_lt_of_pos t hlen
    have hopening := H.opening_nonneg
    have hdays : (t / H.dayLength + 1) * H.dayLength ≤ H.next (t / H.dayLength) * H.dayLength :=
      Int.mul_le_mul_of_nonneg_right (H.lt_next _) (Int.le_of_lt hlen)
    rw [Int.add_mul, Int.one_mul] at hdays
    unfold tick at hself ⊢
    dsimp only
    omega
  · unfold tick at hself ⊢
    dsimp only
    omega

/-- The work is entered at the first of its places from the tick on. -/
theorem tick_enter_le {t : ℤ} (he : H.working e = true) (hy : 0 ≤ y) (hyw : y < H.width)
    (hle : t ≤ H.tick e y) : H.tick (H.enter t).1 (H.enter t).2 ≤ H.tick e y := by
  have hlen := dayLength_pos (H := H)
  have hself := tick_self (H := H) t
  have hday : t / H.dayLength ≤ e := by
    rw [← (ediv_tick (d := e) hy (Int.le_of_lt hyw)).1]
    exact Int.ediv_le_ediv hlen hle
  obtain heq | hlt := Int.le_iff_eq_or_lt.mp hday
  · -- on the day of the place: the work is not over yet
    rw [heq] at hself
    have hstay : ¬(H.working (t / H.dayLength) = false ∨
        H.width ≤ t % H.dayLength - H.opening) := by
      rw [heq, he]
      simp only [Bool.true_eq_false, false_or]
      unfold tick at hself hle
      omega
    rw [enter, if_neg hstay, heq]
    unfold tick at hself hle ⊢
    dsimp only
    omega
  · have hnext := next_le hlt he
    have hopening : H.tick (H.next (t / H.dayLength)) 0 ≤ H.tick e y := by
      have hdays := Int.mul_le_mul_of_nonneg_right hnext (Int.le_of_lt hlen)
      unfold tick
      omega
    unfold enter
    split
    · exact hopening
    · next hstay =>
      refine Int.le_of_lt (tick_lt_tick hlt ?_ hy)
      dsimp only
      omega

theorem tick_enter_mono {s t : ℤ} (hst : s ≤ t) :
    H.tick (H.enter s).1 (H.enter s).2 ≤ H.tick (H.enter t).1 (H.enter t).2 :=
  tick_enter_le (working_enter t) (enter_bounds t).1 (enter_bounds t).2
    (Int.le_trans hst (le_tick_enter t))

/-! ## The time at work -/

theorem elapsed_add {s t u : ℤ} (hst : s ≤ t) (htu : t ≤ u) :
    H.elapsed s u = H.elapsed s t + H.elapsed t u := by
  unfold elapsed
  rw [← Finset.Ico_union_Ico_eq_Ico hst htu, Finset.filter_union, Finset.card_union_of_disjoint]
  exact Finset.disjoint_filter_filter (Finset.Ico_disjoint_Ico_consecutive s t u)

/-- Within a working day all of the time is at work. -/
theorem elapsed_within (hd : H.working d = true) (hx : 0 ≤ x) (hxy : x ≤ y) (hy : y ≤ H.width) :
    (H.elapsed (H.tick d x) (H.tick d y) : ℤ) = y - x := by
  have hall : ∀ t ∈ Finset.Ico (H.tick d x) (H.tick d y), H.IsAtWork t := by
    intro t ht
    rw [Finset.mem_Ico] at ht
    obtain ⟨z, rfl⟩ : ∃ z, t = H.tick d z := ⟨t - H.tick d 0, by unfold tick; omega⟩
    unfold tick at ht
    obtain ⟨hday, htime⟩ := ediv_tick (H := H) (d := d) (x := z) (by omega) (by omega)
    unfold IsAtWork
    rw [hday, htime]
    exact ⟨hd, by omega, by omega⟩
  rw [elapsed, Finset.filter_true_of_mem hall, Int.card_Ico]
  unfold tick
  omega

/-- None of the time between two working days is. -/
theorem elapsed_between : H.elapsed (H.tick d H.width) (H.tick (H.next d) 0) = 0 := by
  rw [elapsed, Finset.card_eq_zero, Finset.filter_eq_empty_iff]
  intro t ht hwork
  rw [Finset.mem_Ico] at ht
  obtain ⟨hday, hopen, hclose⟩ := hwork
  have hlen := dayLength_pos (H := H)
  have hsum := Int.mul_ediv_add_emod t H.dayLength
  rw [Int.mul_comm] at hsum
  unfold tick at ht
  have hafter : d < t / H.dayLength := by
    by_contra hle
    have hmul := Int.mul_le_mul_of_nonneg_right (Int.not_lt.mp hle) (Int.le_of_lt hlen)
    omega
  have hbefore : t / H.dayLength < H.next d := by
    by_contra hle
    have hmul := Int.mul_le_mul_of_nonneg_right (Int.not_lt.mp hle) (Int.le_of_lt hlen)
    omega
  have hrest := H.resting d _ hafter hbefore
  rw [hday] at hrest
  exact Bool.noConfusion hrest

/-- The time at work over the end of a day is what is left of the day, and the time of the working
days after it. -/
theorem elapsed_over {n : ℕ} (hd : H.working d = true) (hx : 0 ≤ x) (hxw : x ≤ H.width) :
    (H.elapsed (H.tick d x) (H.tick (H.advance n (H.next d) 0).1 (H.advance n (H.next d) 0).2) : ℤ) =
      H.width - x + H.elapsed (H.tick (H.next d) 0)
        (H.tick (H.advance n (H.next d) 0).1 (H.advance n (H.next d) 0).2) := by
  have hday : H.tick d x ≤ H.tick d H.width := by
    unfold tick
    omega
  have hnight : H.tick d H.width ≤ H.tick (H.next d) 0 :=
    Int.le_of_lt (tick_lt_tick (H.lt_next d) (Int.le_refl _) (Int.le_refl 0))
  have hahead := tick_zero_le_advance (H := H) n (H.next d)
  have hwithin := elapsed_within hd hx hxw (Int.le_refl _)
  rw [elapsed_add hday (Int.le_trans hnight hahead), elapsed_add hnight hahead, elapsed_between]
  push_cast
  omega

/-- From the opening of a working day, the time at work is what was asked for. -/
theorem elapsed_advance_zero (n : ℕ) : ∀ d, H.working d = true →
    (H.elapsed (H.tick d 0) (H.tick (H.advance n d 0).1 (H.advance n d 0).2) : ℤ) = n * H.unit := by
  -- by induction on the units: they are within the day, or a whole day is taken from them
  induction n using Nat.strongRecOn with
  | ind n ih =>
    intro d hd
    have hunits := H.units_pos
    have hzero := room_zero (H := H)
    by_cases hn : n ≤ H.room 0
    · have hbounds := advance_bounds (H := H) (n := n) (d := d) (Int.le_refl 0)
        (Int.le_of_lt width_pos)
      rw [advance_of_le hn] at hbounds ⊢
      rw [elapsed_within hd (Int.le_refl 0) hbounds.1 hbounds.2]
      omega
    · obtain ⟨m, hm⟩ := Nat.exists_eq_add_of_le (Nat.le_of_not_le hn)
      have hrest : n - H.room 0 = m := by omega
      have hih := ih m (by omega) (H.next d) (H.working_next d)
      rw [advance_of_lt (by omega), hrest, elapsed_over hd (Int.le_refl 0) (Int.le_of_lt width_pos),
        hih, hm, hzero]
      unfold width
      push_cast
      rw [Int.add_mul]
      omega

/-- The time at work up to a deadline is what was asked for, and less than a unit more, which is
none from where whole units are left of the day. -/
theorem elapsed_advance (n : ℕ) (hd : H.working d = true) (hx : 0 ≤ x) (hxw : x ≤ H.width) :
    ∃ lost : ℤ, (H.elapsed (H.tick d x) (H.tick (H.advance n d x).1 (H.advance n d x).2) : ℤ) =
      n * H.unit + lost ∧ 0 ≤ lost ∧ lost < H.unit ∧ (H.unit ∣ x → lost = 0) := by
  have hunit := H.unit_pos
  by_cases hn : n ≤ H.room x
  · have hbounds := advance_bounds (n := n) (d := d) hx hxw
    have hnonneg : 0 ≤ (n : ℤ) * H.unit := Int.mul_nonneg (by omega) (by omega)
    rw [advance_of_le hn] at hbounds ⊢
    refine ⟨0, ?_, Int.le_refl 0, hunit, fun _ => rfl⟩
    rw [elapsed_within hd hx (by omega) hbounds.2]
    omega
  · obtain ⟨m, hm⟩ := Nat.exists_eq_add_of_le (Nat.le_of_not_le hn)
    have hrest : n - H.room x = m := by omega
    obtain ⟨hlow, hhigh⟩ := room_bounds hxw
    rw [Int.add_mul, Int.one_mul] at hhigh
    refine ⟨H.width - x - H.room x * H.unit, ?_, by omega, by omega, fun hdvd => ?_⟩
    · rw [advance_of_lt (by omega), hrest, elapsed_over hd hx hxw,
        elapsed_advance_zero m (H.next d) (H.working_next d), hm]
      push_cast
      rw [Int.add_mul]
      omega
    · have hwidth : H.unit ∣ H.width := Int.dvd_mul_left _ _
      have hwhole : H.unit ∣ H.width - x - H.room x * H.unit :=
        Int.dvd_sub (Int.dvd_sub hwidth hdvd) (Int.dvd_mul_left _ _)
      exact Int.eq_zero_of_dvd_of_nonneg_of_lt (by omega) (by omega) hwhole

/-! ## Deadlines -/

theorem deadline_zero (t : ℤ) : H.deadline 0 t = H.tick (H.enter t).1 (H.enter t).2 := by
  unfold deadline
  dsimp only
  rw [advance_of_le (Nat.zero_le _), Int.natCast_zero, Int.zero_mul, Int.add_zero]

/-- A deadline is set from the one of the first part of its units. -/
theorem deadline_add (a : ℕ) {b : ℕ} (hb : 0 < b) (t : ℤ) :
    H.deadline (a + b) t = H.deadline b (H.deadline a t) := by
  have hentered := enter_bounds (H := H) t
  have hwork : H.working (H.advance a (H.enter t).1 (H.enter t).2).1 = true :=
    working_advance (working_enter t)
  have hbounds := advance_bounds (n := a) (d := (H.enter t).1) hentered.1
    (Int.le_of_lt hentered.2)
  unfold deadline
  dsimp only
  rw [advance_add a b (Int.le_of_lt hentered.2)]
  obtain hend | hwithin := Int.le_iff_eq_or_lt.mp hbounds.2
  · rw [hend, enter_tick_width, advance_width hb]
  · rw [enter_tick hwork hbounds.1 hwithin]

theorem deadline_mono {n : ℕ} {s t : ℤ} (hst : s ≤ t) : H.deadline n s ≤ H.deadline n t :=
  tick_advance_mono (working_enter t) (enter_bounds s).1 (Int.le_of_lt (enter_bounds s).2)
    (enter_bounds t).1 (Int.le_of_lt (enter_bounds t).2) (tick_enter_mono hst)

theorem deadline_mono_units {m n : ℕ} (hmn : m ≤ n) (t : ℤ) : H.deadline m t ≤ H.deadline n t :=
  tick_advance_mono_units hmn (enter_bounds t).1 (Int.le_of_lt (enter_bounds t).2)

/-- A deadline is on a working day, in the work or at its end. -/
theorem deadline_bounds (n : ℕ) (t : ℤ) :
    ∃ d x, H.deadline n t = H.tick d x ∧ H.working d = true ∧ 0 ≤ x ∧ x ≤ H.width :=
  have hbounds := advance_bounds (enter_bounds t).1 (Int.le_of_lt (enter_bounds t).2)
  ⟨_, _, rfl, working_advance (working_enter t), hbounds.1, hbounds.2⟩

theorem unit_dvd_enter {t : ℤ} (hday : H.unit ∣ H.dayLength) (hopening : H.unit ∣ H.opening)
    (ht : H.unit ∣ t) : H.unit ∣ (H.enter t).2 := by
  have hsum := Int.mul_ediv_add_emod t H.dayLength
  have hrest : H.unit ∣ t % H.dayLength := by
    rw [← Int.sub_eq_iff_eq_add'.mpr hsum.symm]
    exact Int.dvd_sub ht (Int.dvd_mul_of_dvd_left hday)
  have htime : H.unit ∣ t % H.dayLength - H.opening := Int.dvd_sub hrest hopening
  unfold enter
  split
  · exact Int.dvd_zero _
  · dsimp only
    rcases Int.le_total 0 (t % H.dayLength - H.opening) with h | h
    · rwa [Int.max_eq_right h]
    · rw [Int.max_eq_left h]
      exact Int.dvd_zero _

/-- The time at work from where the work is entered to a deadline is the one of its units, and less
than a unit more. -/
theorem elapsed_deadline (n : ℕ) (t : ℤ) :
    n * H.unit ≤ H.elapsed (H.deadline 0 t) (H.deadline n t) ∧
      H.elapsed (H.deadline 0 t) (H.deadline n t) < (n + 1) * H.unit ∧
      (H.unit ∣ (H.enter t).2 → (H.elapsed (H.deadline 0 t) (H.deadline n t) : ℤ) = n * H.unit) := by
  obtain ⟨lost, hsum, hnonneg, hlt, hexact⟩ := elapsed_advance n
    (working_enter (H := H) t) (enter_bounds t).1 (Int.le_of_lt (enter_bounds t).2)
  rw [deadline_zero, Int.add_mul, Int.one_mul]
  unfold deadline
  dsimp only
  refine ⟨by omega, by omega, fun hdvd => ?_⟩
  rw [hsum, hexact hdvd, Int.add_zero]

end Hours

end WorkingTime
