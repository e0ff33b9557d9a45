import Mathlib.Data.Int.Notation
import Docketra.Text

/-!
# Numbers as texts

What JavaScript makes of a whole number in a text, in decimal, with a sign where it is negative.
The number is read back from it, and it has no character that the case or the white space of the
text around it matters to.
-/

namespace Docketra

/-- The characters from the sign to the digit nine, which numbers are written with. -/
def isNumeric (c : Char) : Bool := 45 ≤ c.toNat ∧ c.toNat ≤ 57

theorem isNumeric_iff {c : Char} : isNumeric c = true ↔ 45 ≤ c.toNat ∧ c.toNat ≤ 57 := by
  rw [isNumeric, decide_eq_true_eq]

theorem isNumeric_of_isDigit {c : Char} (h : c.isDigit = true) : isNumeric c = true := by
  rw [Char.isDigit, Bool.and_eq_true, decide_eq_true_eq, decide_eq_true_eq] at h
  have hlow : 48 ≤ c.toNat := h.1
  have hhigh : c.toNat ≤ 57 := h.2
  exact isNumeric_iff.mpr ⟨by omega, hhigh⟩

/-- Lower-casing leaves a number. -/
theorem toLower_of_isNumeric {c : Char} (h : isNumeric c = true) : c.toLower = c := by
  rw [isNumeric_iff] at h
  rw [← Char.toNat_inj, toNat_toLower, if_neg (by omega)]

theorem not_isWhitespace_of_isNumeric {c : Char} (h : isNumeric c = true) :
    isWhitespace c = false := by
  rw [isNumeric_iff] at h
  rw [← Bool.not_eq_true]
  simp only [isWhitespace, Bool.or_eq_true, Bool.and_eq_true, beq_iff_eq, decide_eq_true_eq]
  omega

/-- The text of a number has no separator in it. -/
theorem colon_notMem_of_isNumeric {l : List Char} (h : ∀ c ∈ l, isNumeric c = true) : ':' ∉ l :=
  fun hmem => absurd (h _ hmem) (by decide)

theorem toList_toString_nat (n : ℕ) : (toString n).toList = Nat.toDigits 10 n := Nat.toList_repr

theorem isDigit_of_mem_toString_nat {n : ℕ} {c : Char} (hc : c ∈ (toString n).toList) :
    c.isDigit = true := by
  rw [toList_toString_nat] at hc
  exact Nat.isDigit_of_mem_toDigits (by decide) (by decide) hc

/-- A number is read back from its text. -/
theorem toString_nat_injective {m n : ℕ} (h : toString m = toString n) : m = n := by
  have hdigits : Nat.toDigits 10 m = Nat.toDigits 10 n := by
    rw [← toList_toString_nat, ← toList_toString_nat, h]
  rw [← Nat.ofDigitChars_toDigits (by decide) (by decide) (n := m) (b := 10), hdigits,
    Nat.ofDigitChars_toDigits (by decide) (by decide)]

theorem toString_negSucc (n : ℕ) : toString (Int.negSucc n) = "-" ++ toString (n + 1) := rfl

theorem isNumeric_of_mem_toString : ∀ {n : ℤ} {c : Char}, c ∈ (toString n).toList →
    isNumeric c = true
  | .ofNat n, c, hc => isNumeric_of_isDigit (isDigit_of_mem_toString_nat (n := n) hc)
  | .negSucc n, c, hc => by
    rw [toString_negSucc, String.toList_append] at hc
    rcases List.mem_append.mp hc with hc | hc
    · rw [show c = '-' by simpa using hc]
      rfl
    · exact isNumeric_of_isDigit (isDigit_of_mem_toString_nat hc)

/-- The text of a number from 0 on starts with no sign. -/
theorem toString_nat_ne_negSucc (m n : ℕ) : toString m ≠ toString (Int.negSucc n) := by
  intro h
  have hsign : '-' ∈ (toString m).toList := by
    rw [h, toString_negSucc, String.toList_append]
    exact List.mem_append_left _ (by decide)
  exact absurd (isDigit_of_mem_toString_nat hsign) (by decide)

theorem toString_int_injective : ∀ {m n : ℤ}, toString m = toString n → m = n
  | .ofNat _, .ofNat _, h => congrArg Int.ofNat (toString_nat_injective h)
  | .ofNat m, .negSucc n, h => absurd h (toString_nat_ne_negSucc m n)
  | .negSucc m, .ofNat n, h => absurd h.symm (toString_nat_ne_negSucc n m)
  | .negSucc m, .negSucc n, h => by
    rw [toString_negSucc, toString_negSucc, ← String.toList_inj, String.toList_append,
      String.toList_append] at h
    have hnat := toString_nat_injective (String.toList_inj.mp (List.append_cancel_left h))
    rw [Nat.succ.inj hnat]

end Docketra
