import Mathlib.Algebra.Order.Field.Power
import Mathlib.Data.Int.Log
import Mathlib.Data.Rat.Floor
import Mathlib.Tactic.Linarith
import Mathlib.Tactic.NormNum
import Mathlib.Tactic.Positivity

/-!
# Fractions as doubles

The result of an operation on doubles is the exact fraction, rounded to 53 binary digits, and to
the even one of two that are as near. `toDouble` does it for fractions that are not negative, without
a bound on the exponent. Rounding is monotone (`toDouble_mono`), so that a bound on a result is found
by rounding the bound; and the rounding of a given fraction is computed from its exponent
(`toDouble_eq`).
-/

namespace DoubleFractions

/-! ## Rounding to a whole number -/

/-- The nearest whole number, and of two the even one. -/
def roundEven (q : ℚ) : ℤ :=
  let below := ⌊q⌋
  if q - below < 1 / 2 then below
  else if 1 / 2 < q - below then below + 1
  else if below % 2 = 0 then below else below + 1

theorem floor_le_roundEven (q : ℚ) : ⌊q⌋ ≤ roundEven q := by
  simp only [roundEven]
  split_ifs <;> omega

theorem roundEven_le (q : ℚ) : roundEven q ≤ ⌊q⌋ + 1 := by
  simp only [roundEven]
  split_ifs <;> omega

theorem roundEven_mono {p q : ℚ} (h : p ≤ q) : roundEven p ≤ roundEven q := by
  rcases (Int.floor_le_floor h).lt_or_eq with hlt | heq
  · -- A whole number lies between the two.
    calc roundEven p ≤ ⌊p⌋ + 1 := roundEven_le p
      _ ≤ ⌊q⌋ := hlt
      _ ≤ roundEven q := floor_le_roundEven q
  · simp only [roundEven, heq]
    have hdiff : p - ⌊q⌋ ≤ q - ⌊q⌋ := sub_le_sub_right h _
    split_ifs <;> first | omega | linarith

theorem roundEven_intCast (n : ℤ) : roundEven n = n := by
  simp only [roundEven, Int.floor_intCast, sub_self]
  rw [if_pos (by norm_num)]

/-- Of a fraction that is nearer to a whole number than to any other, this is the nearest. -/
theorem roundEven_eq {q : ℚ} {n : ℤ} (h : (n : ℚ) - 1 / 2 < q) (h' : q < n + 1 / 2) :
    roundEven q = n := by
  rcases le_or_gt (n : ℚ) q with hle | hlt
  · have hfloor : ⌊q⌋ = n := Int.floor_eq_iff.mpr ⟨hle, by linarith⟩
    simp only [roundEven, hfloor]
    rw [if_pos (by linarith)]
  · have hfloor : ⌊q⌋ = n - 1 :=
      Int.floor_eq_iff.mpr ⟨by push_cast; linarith, by push_cast; linarith⟩
    simp only [roundEven, hfloor]
    rw [if_neg (by push_cast; linarith), if_pos (by push_cast; linarith)]
    omega

/-! ## Rounding to 53 binary digits -/

/-- The exponent of the last of 53 binary digits. -/
def exponent (q : ℚ) : ℤ := Int.log 2 q - 52

/-- The nearest double. -/
def toDouble (q : ℚ) : ℚ := roundEven (q / 2 ^ exponent q) * 2 ^ exponent q

theorem two_zpow_pos (e : ℤ) : (0 : ℚ) < 2 ^ e := zpow_pos (by norm_num) e

theorem toDouble_zero : toDouble 0 = 0 := by
  have h := roundEven_intCast 0
  rw [Int.cast_zero] at h
  rw [toDouble, zero_div, h, Int.cast_zero, zero_mul]

/-- The rounding of a fraction whose exponent is given, as a whole number of its last digits. -/
theorem toDouble_eq {q : ℚ} {e n : ℤ} (hlow : (2 : ℚ) ^ (e + 52) ≤ q) (hhigh : q < 2 ^ (e + 53))
    (h : ((n : ℚ) - 1 / 2) * 2 ^ e < q) (h' : q < (n + 1 / 2) * 2 ^ e) :
    toDouble q = n * 2 ^ e := by
  have hpos : 0 < q := (two_zpow_pos _).trans_le hlow
  have hexponent : exponent q = e := by
    have hle : e + 52 ≤ Int.log 2 q :=
      (Int.zpow_le_iff_le_log (by decide) hpos).mp (by exact_mod_cast hlow)
    have hlt : Int.log 2 q < e + 53 :=
      (Int.lt_zpow_iff_log_lt (by decide) hpos).mp (by exact_mod_cast hhigh)
    unfold exponent
    omega
  rw [toDouble, hexponent, roundEven_eq]
  · rwa [lt_div_iff₀ (two_zpow_pos e)]
  · rwa [div_lt_iff₀ (two_zpow_pos e)]

/-- The rounding lies between the powers of two around the fraction. -/
theorem toDouble_le_zpow (q : ℚ) : toDouble q ≤ 2 ^ (Int.log 2 q + 1) := by
  have hlt : q < 2 ^ (Int.log 2 q + 1) := Int.lt_zpow_succ_log_self (by decide) q
  have hsplit : (2 : ℚ) ^ (Int.log 2 q + 1) = 2 ^ (53 : ℕ) * 2 ^ exponent q := by
    rw [← zpow_natCast, ← zpow_add₀ (by norm_num), exponent]
    congr 1
    push_cast
    omega
  have hscaled : q / 2 ^ exponent q ≤ ((2 ^ 53 : ℤ) : ℚ) := by
    rw [div_le_iff₀ (two_zpow_pos _), Int.cast_pow, Int.cast_ofNat, ← hsplit]
    exact hlt.le
  have hround : roundEven (q / 2 ^ exponent q) ≤ 2 ^ 53 := by
    have hmono := roundEven_mono hscaled
    rwa [roundEven_intCast] at hmono
  have hcast : (roundEven (q / 2 ^ exponent q) : ℚ) ≤ 2 ^ (53 : ℕ) := by exact_mod_cast hround
  rw [hsplit, toDouble]
  exact mul_le_mul_of_nonneg_right hcast (two_zpow_pos _).le

theorem zpow_le_toDouble {q : ℚ} (hq : 0 < q) : (2 : ℚ) ^ Int.log 2 q ≤ toDouble q := by
  have hle : (2 : ℚ) ^ Int.log 2 q ≤ q := Int.zpow_log_le_self (by decide) hq
  have hsplit : (2 : ℚ) ^ Int.log 2 q = 2 ^ (52 : ℕ) * 2 ^ exponent q := by
    rw [← zpow_natCast, ← zpow_add₀ (by norm_num), exponent]
    congr 1
    push_cast
    omega
  have hscaled : ((2 ^ 52 : ℤ) : ℚ) ≤ q / 2 ^ exponent q := by
    rw [le_div_iff₀ (two_zpow_pos _), Int.cast_pow, Int.cast_ofNat, ← hsplit]
    exact hle
  have hround : 2 ^ 52 ≤ roundEven (q / 2 ^ exponent q) := by
    have hmono := roundEven_mono hscaled
    rwa [roundEven_intCast] at hmono
  have hcast : (2 : ℚ) ^ (52 : ℕ) ≤ roundEven (q / 2 ^ exponent q) := by exact_mod_cast hround
  rw [hsplit, toDouble]
  exact mul_le_mul_of_nonneg_right hcast (two_zpow_pos _).le

theorem toDouble_nonneg {q : ℚ} (hq : 0 ≤ q) : 0 ≤ toDouble q := by
  rcases hq.eq_or_lt with rfl | hpos
  · exact toDouble_zero.ge
  · exact (two_zpow_pos _).le.trans (zpow_le_toDouble hpos)

/-- A greater fraction is not rounded to less. -/
theorem toDouble_mono {p q : ℚ} (hp : 0 ≤ p) (h : p ≤ q) : toDouble p ≤ toDouble q := by
  rcases hp.eq_or_lt with rfl | hpos
  · rw [toDouble_zero]
    exact toDouble_nonneg h
  · have hlog : Int.log 2 p ≤ Int.log 2 q := Int.log_mono_right hpos h
    rcases hlog.lt_or_eq with hlt | heq
    · -- A power of two lies between the two.
      calc toDouble p ≤ 2 ^ (Int.log 2 p + 1) := toDouble_le_zpow p
        _ ≤ 2 ^ Int.log 2 q := zpow_le_zpow_right₀ (by norm_num) hlt
        _ ≤ toDouble q := zpow_le_toDouble (hpos.trans_le h)
    · have hexponent : exponent p = exponent q := by rw [exponent, exponent, heq]
      have hscaled : p / 2 ^ exponent q ≤ q / 2 ^ exponent q :=
        div_le_div_of_nonneg_right h (two_zpow_pos _).le
      have hcast : (roundEven (p / 2 ^ exponent q) : ℚ) ≤ roundEven (q / 2 ^ exponent q) := by
        exact_mod_cast roundEven_mono hscaled
      rw [toDouble, toDouble, hexponent]
      exact mul_le_mul_of_nonneg_right hcast (two_zpow_pos _).le

end DoubleFractions
