import Mathlib.Algebra.Group.Nat.Defs
import Mathlib.Data.List.Basic
import Mathlib.Data.Nat.Notation
import Mathlib.Tactic.Common

/-!
# Numerals of a least width

The decimal numeral of a number, filled up with zeros in front to a width. The number is read back
from it (`value_padded`), and below a power of ten the width is exact and the order of the numerals,
as texts, is the order of the numbers (`padded_lt_iff`). Beyond it, neither is.
-/

namespace Numerals

/-- `digits.padStart(width, '0')`. -/
def padStart (width : ℕ) (digits : List Char) : List Char :=
  List.replicate (width - digits.length) '0' ++ digits

/-- The numeral of a number, of at least a width. -/
def padded (width n : ℕ) : List Char := padStart width (Nat.toDigits 10 n)

theorem isDigit_of_mem_padded {width n : ℕ} {c : Char} (h : c ∈ padded width n) :
    c.isDigit = true := by
  unfold padded padStart at h
  rcases List.mem_append.mp h with h | h
  · rw [List.eq_of_mem_replicate h]
    decide
  · exact Nat.isDigit_of_mem_toDigits (by decide) (by decide) h

/-- A number is read back from its numeral. -/
theorem value_padded (width n : ℕ) : Nat.ofDigitChars 10 (padded width n) 0 = n := by
  unfold padded padStart
  rw [Nat.ofDigitChars_append, Nat.ofDigitChars_replicate_zero, Nat.mul_zero,
    Nat.ofDigitChars_ten_toDigits]

theorem padded_injective {width m n : ℕ} (h : padded width m = padded width n) : m = n :=
  calc m = Nat.ofDigitChars 10 (padded width m) 0 := (value_padded width m).symm
    _ = Nat.ofDigitChars 10 (padded width n) 0 := by rw [h]
    _ = n := value_padded width n

theorem length_padded (width n : ℕ) :
    (padded width n).length = max width (Nat.toDigits 10 n).length := by
  unfold padded padStart
  rw [List.length_append, List.length_replicate]
  omega

/-- The width is exact below a power of ten. -/
theorem length_padded_eq_iff {width n : ℕ} (hwidth : 0 < width) :
    (padded width n).length = width ↔ n < 10 ^ width := by
  rw [length_padded, ← Nat.length_toDigits_le_iff (by decide) hwidth]
  omega

theorem le_length_padded (width n : ℕ) : width ≤ (padded width n).length := by
  rw [length_padded]
  omega

/-! ## The order -/

/-- The last digits of a number, as many as the width. -/
def fixed : ℕ → ℕ → List Char
  | 0, _ => []
  | width + 1, n => fixed width (n / 10) ++ [(n % 10).digitChar]

theorem length_fixed (width n : ℕ) : (fixed width n).length = width := by
  induction width generalizing n with
  | zero => rfl
  | succ width ih => rw [fixed, List.length_append, ih, List.length_singleton]

theorem fixed_zero (width : ℕ) : fixed width 0 = List.replicate width '0' := by
  induction width with
  | zero => rfl
  | succ width ih =>
    rw [fixed, Nat.zero_div, ih, List.replicate_succ']
    rfl

theorem padded_eq_fixed {width n : ℕ} (h : n < 10 ^ (width + 1)) :
    padded (width + 1) n = fixed (width + 1) n := by
  induction width generalizing n with
  | zero =>
    have hn : n < 10 := by simpa using h
    rw [padded, Nat.toDigits_of_lt_base hn, fixed, Nat.mod_eq_of_lt hn]
    rfl
  | succ width ih =>
    rw [fixed]
    by_cases hn : n < 10
    · rw [padded, Nat.toDigits_of_lt_base hn, Nat.div_eq_of_lt hn, fixed_zero,
        Nat.mod_eq_of_lt hn]
      rfl
    · have hdiv : n / 10 < 10 ^ (width + 1) := by
        rw [Nat.pow_succ] at h
        omega
      have hlength : width + 1 + 1 - ((Nat.toDigits 10 (n / 10)).length + 1) =
          width + 1 - (Nat.toDigits 10 (n / 10)).length := by
        omega
      rw [← ih hdiv, padded, padded, padStart, padStart,
        Nat.toDigits_of_base_le (by decide) (by omega)]
      simp only [List.length_append, List.length_singleton, hlength, List.append_assoc]

theorem append_singleton_lt_iff {a b : List Char} {x y : Char} (h : a.length = b.length) :
    a ++ [x] < b ++ [y] ↔ a < b ∨ a = b ∧ x < y := by
  induction a generalizing b with
  | nil =>
    rw [List.length_nil] at h
    rw [List.eq_nil_of_length_eq_zero h.symm, List.nil_append, List.nil_append,
      List.cons_lt_cons_iff]
    simp
  | cons c a ih =>
    cases b with
    | nil => cases h
    | cons d b =>
      rw [List.cons_append, List.cons_append, List.cons_lt_cons_iff, List.cons_lt_cons_iff,
        ih (Nat.succ.inj h), List.cons_eq_cons]
      tauto

theorem digitChar_lt_iff : ∀ m n : Fin 10,
    (m : ℕ).digitChar < (n : ℕ).digitChar ↔ (m : ℕ) < n := by
  decide

theorem fixed_injective {width m n : ℕ} (hm : m < 10 ^ width) (hn : n < 10 ^ width)
    (h : fixed width m = fixed width n) : m = n := by
  cases width with
  | zero =>
    rw [Nat.pow_zero] at hm hn
    omega
  | succ width =>
    rw [← padded_eq_fixed hm, ← padded_eq_fixed hn] at h
    exact padded_injective h

theorem fixed_lt_iff {width m n : ℕ} (hm : m < 10 ^ width) (hn : n < 10 ^ width) :
    fixed width m < fixed width n ↔ m < n := by
  induction width generalizing m n with
  | zero =>
    rw [Nat.pow_zero] at hm hn
    rw [Nat.lt_one_iff.mp hm, Nat.lt_one_iff.mp hn]
    simp [fixed]
  | succ width ih =>
    rw [Nat.pow_succ] at hm hn
    have hm' : m / 10 < 10 ^ width := by omega
    have hn' : n / 10 < 10 ^ width := by omega
    have hdigits := digitChar_lt_iff ⟨m % 10, Nat.mod_lt m (by decide)⟩
      ⟨n % 10, Nat.mod_lt n (by decide)⟩
    rw [fixed, fixed, append_singleton_lt_iff (by rw [length_fixed, length_fixed]), ih hm' hn',
      hdigits]
    constructor
    · rintro (h | ⟨h, hlast⟩)
      · omega
      · have heq := fixed_injective hm' hn' h
        dsimp only at hlast
        omega
    · intro h
      by_cases hdiv : m / 10 < n / 10
      · exact .inl hdiv
      · have heq : m / 10 = n / 10 := by omega
        refine .inr ⟨by rw [heq], ?_⟩
        dsimp only
        omega

/-- Numerals of one width are in the order of their numbers. -/
theorem padded_lt_iff {width m n : ℕ} (hwidth : 0 < width) (hm : m < 10 ^ width)
    (hn : n < 10 ^ width) : padded width m < padded width n ↔ m < n := by
  cases width with
  | zero => cases hwidth
  | succ width => rw [padded_eq_fixed hm, padded_eq_fixed hn, fixed_lt_iff hm hn]

end Numerals
