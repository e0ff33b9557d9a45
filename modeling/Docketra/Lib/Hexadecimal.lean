import Mathlib.Algebra.Group.Nat.Defs
import Mathlib.Data.List.Induction
import Mathlib.Data.Nat.Notation
import Mathlib.Tactic.Common

/-!
# Hexadecimal numerals

A numeral is read with digits in either case and with leading zeros, and `Nat.toDigits 16` writes the
one in lower case without them. A number is read back from it (`value_toDigits`).
-/

namespace Hexadecimal

/-- A hexadecimal digit, in either case. -/
def isHexDigit (c : Char) : Bool :=
  (48 ≤ c.toNat && c.toNat ≤ 57) || (97 ≤ c.toNat && c.toNat ≤ 102) ||
    (65 ≤ c.toNat && c.toNat ≤ 70)

/-- The value of a hexadecimal digit. -/
def digitValue (c : Char) : ℕ :=
  if c.toNat ≤ 57 then c.toNat - 48
  else if 97 ≤ c.toNat then c.toNat - 87
  else c.toNat - 55

/-- The number that a numeral is read as. -/
def value (digits : List Char) : ℕ := digits.foldl (fun n c => 16 * n + digitValue c) 0

theorem value_concat (digits : List Char) (c : Char) :
    value (digits ++ [c]) = 16 * value digits + digitValue c := by
  rw [value, List.foldl_append]
  rfl

theorem digitValue_lt {c : Char} (h : isHexDigit c = true) : digitValue c < 16 := by
  simp only [isHexDigit, Bool.or_eq_true, Bool.and_eq_true,
    decide_eq_true_eq] at h
  unfold digitValue
  split_ifs <;> omega

/-- A numeral of `k` digits is below the `k`-th power. -/
theorem value_lt {digits : List Char} (h : ∀ c ∈ digits, isHexDigit c = true) :
    value digits < 16 ^ digits.length := by
  induction digits using List.reverseRecOn with
  | nil => exact Nat.one_pos
  | append_singleton digits c ih =>
    have hdigits := ih fun d hd => h d (List.mem_append_left _ hd)
    have hc := digitValue_lt (h c (List.mem_append_right _ (List.mem_singleton_self c)))
    rw [value_concat, List.length_append, List.length_singleton, Nat.pow_succ]
    omega

theorem isHexDigit_digitChar : ∀ n < 16, isHexDigit n.digitChar = true := by decide

theorem digitValue_digitChar : ∀ n < 16, digitValue n.digitChar = n := by decide

theorem isHexDigit_of_mem_toDigits {n : ℕ} {c : Char} (h : c ∈ Nat.toDigits 16 n) :
    isHexDigit c = true := by
  induction n using Nat.strongRecOn with
  | _ n ih =>
    rw [Nat.toDigits_eq_if (by decide)] at h
    split_ifs at h with hn
    · rw [List.mem_singleton.mp h]
      exact isHexDigit_digitChar n hn
    · rcases List.mem_append.mp h with h | h
      · exact ih (n / 16) (by omega) h
      · rw [List.mem_singleton.mp h]
        exact isHexDigit_digitChar (n % 16) (Nat.mod_lt n (by decide))

/-- A number is read back from its numeral. -/
theorem value_toDigits (n : ℕ) : value (Nat.toDigits 16 n) = n := by
  induction n using Nat.strongRecOn with
  | _ n ih =>
    rw [Nat.toDigits_eq_if (by decide)]
    split_ifs with hn
    · exact (Nat.zero_add _).trans (digitValue_digitChar n hn)
    · rw [value_concat, ih (n / 16) (by omega), digitValue_digitChar _ (Nat.mod_lt n (by decide))]
      omega

theorem toDigits_injective {m n : ℕ} (h : Nat.toDigits 16 m = Nat.toDigits 16 n) : m = n :=
  calc m = value (Nat.toDigits 16 m) := (value_toDigits m).symm
    _ = value (Nat.toDigits 16 n) := by rw [h]
    _ = n := value_toDigits n

end Hexadecimal
