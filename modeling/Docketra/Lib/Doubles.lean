import Docketra.Lib.Numerals
import Mathlib.Data.List.DropRight
import Mathlib.Data.Nat.Log
import Mathlib.Order.Defs.PartialOrder

/-!
# Whole numbers as doubles

A double holds a whole number of up to 53 binary digits, times a power of two. `round` takes a whole
number to the nearest double, and between two of them to the even one; `Number` adds the infinity
that stands for what is too large. Rounding keeps doubles (`round_of_isDouble`), and a sum is never
less than a summand that is a double (`le_add`), but it may be no more.

`print` writes a number with the fewest digits that are read back as it, in the exponential form from
`10 ^ 21` on. A text of digits is read back as the number (`parse_print`); another text has a plus
sign in it, or is that of infinity.
-/

namespace Doubles

open Numerals

/-! ## Rounding -/

/-- The distance of the doubles around a number. -/
def unit (n : ℕ) : ℕ := 2 ^ (Nat.log2 n - 52)

/-- Of the two doubles around a number, the upper one is taken. -/
def roundsUp (n : ℕ) : Bool :=
  unit n < 2 * (n % unit n) || (2 * (n % unit n) == unit n && n / unit n % 2 == 1)

/-- The nearest double without a bound. -/
def round (n : ℕ) : ℕ := (n / unit n + if roundsUp n then 1 else 0) * unit n

/-- At most 53 binary digits, and then zeros. -/
def IsDouble (n : ℕ) : Prop := ∃ m < 2 ^ 53, ∃ e, n = m * 2 ^ e

theorem unit_pos (n : ℕ) : 0 < unit n := Nat.two_pow_pos _

/-- A number has at most 53 binary digits above its unit. -/
theorem div_unit_lt (n : ℕ) : n / unit n < 2 ^ 53 := by
  rw [Nat.div_lt_iff_lt_mul (unit_pos n), unit, ← Nat.pow_add]
  refine Nat.lt_log2_self.trans_le (Nat.pow_le_pow_right Nat.two_pos ?_)
  omega

theorem isDouble_round (n : ℕ) : IsDouble (round n) := by
  have hlt := div_unit_lt n
  unfold round
  split_ifs with hup
  · rcases Nat.lt_or_ge (n / unit n + 1) (2 ^ 53) with h | h
    · exact ⟨_, h, _, rfl⟩
    · -- the carry gives a power of two
      have heq : n / unit n + 1 = 2 ^ 53 := by omega
      refine ⟨1, by decide, 53 + (Nat.log2 n - 52), ?_⟩
      rw [heq, unit, ← Nat.pow_add, Nat.one_mul]
  · exact ⟨_, hlt, _, rfl⟩

/-- The unit of a double divides it. -/
theorem unit_dvd {n : ℕ} (h : IsDouble n) : unit n ∣ n := by
  obtain ⟨m, hm, e, rfl⟩ := h
  rcases Nat.eq_zero_or_pos m with rfl | hpos
  · rw [Nat.zero_mul]
    exact Nat.dvd_zero _
  · have hlog : Nat.log2 (m * 2 ^ e) < 53 + e := by
      rw [Nat.log2_lt (Nat.mul_ne_zero hpos.ne' (Nat.two_pow_pos e).ne'), Nat.pow_add]
      exact Nat.mul_lt_mul_of_pos_right hm (Nat.two_pow_pos e)
    have hle : Nat.log2 (m * 2 ^ e) - 52 ≤ e := by omega
    exact Nat.dvd_trans (Nat.pow_dvd_pow 2 hle) (Nat.dvd_mul_left _ _)

theorem round_of_isDouble {n : ℕ} (h : IsDouble n) : round n = n := by
  have hmod : n % unit n = 0 := Nat.mod_eq_zero_of_dvd (unit_dvd h)
  have hdown : roundsUp n = false := by
    have hpos := unit_pos n
    rw [roundsUp, hmod, Nat.mul_zero, beq_eq_false_iff_ne.2 hpos.ne]
    simp
  rw [round, hdown]
  exact Nat.div_mul_cancel (unit_dvd h)

/-- Rounding up a number from a double never goes below the double. -/
theorem le_round_add {n : ℕ} (h : IsDouble n) (k : ℕ) : n ≤ round (n + k) := by
  have hfloor : n ≤ (n + k) / unit (n + k) * unit (n + k) := by
    rcases Nat.lt_or_ge (Nat.log2 n) (Nat.log2 (n + k)) with hlog | hlog
    · -- the double is below the power of two that the sum reaches
      have hn : n < 2 ^ Nat.log2 (n + k) :=
        Nat.lt_log2_self.trans_le (Nat.pow_le_pow_right Nat.two_pos hlog)
      have hne : n + k ≠ 0 := by
        intro h0
        rw [h0] at hlog
        exact Nat.not_lt_zero _ hlog
      have hpow : 2 ^ Nat.log2 (n + k) ≤ (n + k) / unit (n + k) * unit (n + k) := by
        have hdvd : unit (n + k) ∣ 2 ^ Nat.log2 (n + k) := Nat.pow_dvd_pow 2 (Nat.sub_le _ _)
        rw [← Nat.div_mul_cancel hdvd]
        exact Nat.mul_le_mul_right _ (Nat.div_le_div_right (Nat.log2_self_le hne))
      exact hn.le.trans hpow
    · -- both have the same unit
      have hunit : unit (n + k) = unit n := by
        have hle : Nat.log2 n ≤ Nat.log2 (n + k) := by
          rw [Nat.log2_eq_log_two, Nat.log2_eq_log_two]
          exact Nat.log_mono_right (Nat.le_add_right n k)
        rw [unit, unit, le_antisymm hlog hle]
      rw [hunit]
      calc n = n / unit n * unit n := (Nat.div_mul_cancel (unit_dvd h)).symm
        _ ≤ _ := Nat.mul_le_mul_right _ (Nat.div_le_div_right (Nat.le_add_right n k))
  exact hfloor.trans (Nat.mul_le_mul_right _ (Nat.le_add_right _ _))

/-! ## Numbers -/

/-- A whole number, or infinity. -/
inductive Number where
  | finite (n : ℕ)
  | infinity
  deriving DecidableEq, Repr

namespace Number

protected def le : Number → Number → Prop
  | _, infinity => True
  | infinity, finite _ => False
  | finite m, finite n => m ≤ n

instance : LE Number := ⟨Number.le⟩

instance : PartialOrder Number where
  le_refl
    | finite n => Nat.le_refl n
    | infinity => trivial
  le_trans
    | _, _, infinity, _, _ => trivial
    | finite _, finite _, finite _, hxy, hyz => Nat.le_trans hxy hyz
    | infinity, finite _, finite _, hxy, _ => hxy.elim
    | _, infinity, finite _, _, hyz => hyz.elim
  le_antisymm
    | finite _, finite _, hxy, hyx => congrArg finite (Nat.le_antisymm hxy hyx)
    | infinity, infinity, _, _ => rfl
    | finite _, infinity, _, hyx => hyx.elim
    | infinity, finite _, hxy, _ => hxy.elim

/-- `Math.max(x, y)`. -/
protected def max : Number → Number → Number
  | finite m, finite n => finite (Nat.max m n)
  | _, _ => infinity

end Number

open Number (finite infinity)

/-- Numbers from here on are infinity. -/
@[irreducible] def limit : ℕ := 2 ^ 1024

/-- The number for a whole number. -/
def ofNat (n : ℕ) : Number := if round n < limit then finite (round n) else infinity

/-- `x + k`. -/
def add : Number → ℕ → Number
  | finite n, k => ofNat (n + k)
  | infinity, _ => infinity

/-- `parseInt(digits, 10)`. -/
def parseInt (digits : List Char) : Number := ofNat (Nat.ofDigitChars 10 digits 0)

/-- The number is infinity, or a double of a size that there is. -/
def IsNumber : Number → Prop
  | finite n => IsDouble n ∧ n < limit
  | infinity => True

theorem isNumber_ofNat (n : ℕ) : IsNumber (ofNat n) := by
  unfold ofNat
  split_ifs with hlt
  · exact ⟨isDouble_round n, hlt⟩
  · trivial

theorem isNumber_add (x : Number) (k : ℕ) : IsNumber (add x k) := by
  cases x with
  | finite n => exact isNumber_ofNat (n + k)
  | infinity => trivial

/-- A number that there is stands for itself. -/
theorem ofNat_of_isNumber {n : ℕ} (h : IsNumber (finite n)) : ofNat n = finite n := by
  rw [ofNat, round_of_isDouble h.1, if_pos h.2]

/-- A sum is never less than its first summand. -/
theorem le_add {x : Number} (h : IsNumber x) (k : ℕ) : x ≤ add x k := by
  cases x with
  | finite n =>
    show finite n ≤ ofNat (n + k)
    unfold ofNat
    split_ifs
    · exact le_round_add h.1 k
    · trivial
  | infinity => exact le_refl _

theorem isNumber_max {x y : Number} (hx : IsNumber x) (hy : IsNumber y) :
    IsNumber (Number.max x y) := by
  cases x with
  | infinity => trivial
  | finite m =>
    cases y with
    | infinity => trivial
    | finite n =>
      rcases Nat.le_total m n with h | h
      · rw [Number.max, show Nat.max m n = n from Nat.max_eq_right h]
        exact hy
      · rw [Number.max, show Nat.max m n = m from Nat.max_eq_left h]
        exact hx

theorem le_max (x y : Number) : x ≤ Number.max x y ∧ y ≤ Number.max x y := by
  cases x with
  | infinity => exact ⟨trivial, trivial⟩
  | finite m =>
    cases y with
    | infinity => exact ⟨trivial, trivial⟩
    | finite n => exact ⟨Nat.le_max_left m n, Nat.le_max_right m n⟩

/-! ## Printing -/

/-- The multiple of a power of ten that is closest to a number, of the two around it that are read
as the number. -/
def near (n j : ℕ) : Option ℕ :=
  let below := n / 10 ^ j * 10 ^ j
  let above := below + 10 ^ j
  let around := if 2 * (n - below) < 10 ^ j ∨ 2 * (n - below) = 10 ^ j ∧ n / 10 ^ j % 2 = 0 then
    [below, above] else [above, below]
  around.find? fun m => ofNat m = finite n

/-- The closest number that is read as this one, of those with the fewest digits before the zeros. -/
def shortest (n : ℕ) : ℕ :=
  ((List.range (Nat.toDigits 10 n).length).reverse.findSome? (near n)).getD n

/-- `d.ddde+x`. -/
def exponential (n : ℕ) : List Char :=
  let digits := Nat.toDigits 10 n
  let fraction := digits.tail.rdropWhile (· = '0')
  digits.take 1 ++ (if fraction = [] then [] else '.' :: fraction) ++
    'e' :: '+' :: Nat.toDigits 10 (digits.length - 1)

/-- `String(x)`. -/
def print : Number → List Char
  | infinity => ['I', 'n', 'f', 'i', 'n', 'i', 't', 'y']
  | finite n =>
    if shortest n < 10 ^ 21 then Nat.toDigits 10 (shortest n) else exponential (shortest n)

theorem ofNat_of_near {n j m : ℕ} (h : near n j = some m) : ofNat m = finite n :=
  of_decide_eq_true (List.find?_some (p := fun m => decide (ofNat m = finite n)) h)

/-- The number that is printed is read as the number. -/
theorem ofNat_shortest {n : ℕ} (h : IsNumber (finite n)) : ofNat (shortest n) = finite n := by
  unfold shortest
  cases hfound : (List.range (Nat.toDigits 10 n).length).reverse.findSome? (near n) with
  | none => exact ofNat_of_isNumber h
  | some m =>
    obtain ⟨j, -, hj⟩ := List.exists_of_findSome?_eq_some hfound
    exact ofNat_of_near hj

/-- What a number is printed as: digits, or the exponential form, or a word. -/
theorem print_cases (x : Number) (h : IsNumber x) :
    (∃ n, print x = Nat.toDigits 10 n ∧ ofNat n = x) ∨ (∃ n, print x = exponential n) ∨
      x = infinity := by
  cases x with
  | infinity => exact .inr (.inr rfl)
  | finite n =>
    by_cases hlt : shortest n < 10 ^ 21
    · exact .inl ⟨shortest n, if_pos hlt, ofNat_shortest h⟩
    · exact .inr (.inl ⟨shortest n, if_neg hlt⟩)

example : String.ofList (print (finite (2 ^ 60))) = "1152921504606847000" := by
  decide +kernel

theorem parseInt_toDigits (n : ℕ) : parseInt (Nat.toDigits 10 n) = ofNat n := by
  rw [parseInt, Nat.ofDigitChars_ten_toDigits]

theorem isDigit_of_mem_toDigits {n : ℕ} {c : Char} (h : c ∈ Nat.toDigits 10 n) :
    c.isDigit = true :=
  Nat.isDigit_of_mem_toDigits (by decide) (by decide) h

theorem toDigits_ne_nil (n : ℕ) : Nat.toDigits 10 n ≠ [] :=
  List.ne_nil_of_length_pos Nat.length_toDigits_pos

theorem mem_exponential (n : ℕ) {c : Char}
    (h : c ∈ 'e' :: '+' :: Nat.toDigits 10 ((Nat.toDigits 10 n).length - 1)) :
    c ∈ exponential n :=
  List.mem_append_right _ h

/-- A number that is not infinity has a digit in its text. -/
theorem exists_digit_print {x : Number} (h : IsNumber x) (hx : x ≠ infinity) :
    ∃ c ∈ print x, c.isDigit = true := by
  have hdigit : ∀ n, ∃ c ∈ Nat.toDigits 10 n, c.isDigit = true := by
    intro n
    obtain ⟨c, hc⟩ := List.exists_mem_of_ne_nil _ (toDigits_ne_nil n)
    exact ⟨c, hc, isDigit_of_mem_toDigits hc⟩
  rcases print_cases x h with ⟨n, hprint, -⟩ | ⟨n, hprint⟩ | htop
  · rw [hprint]
    exact hdigit n
  · obtain ⟨c, hc, hcdigit⟩ := hdigit ((Nat.toDigits 10 n).length - 1)
    rw [hprint]
    exact ⟨c, mem_exponential n (List.mem_cons_of_mem _ (List.mem_cons_of_mem _ hc)), hcdigit⟩
  · exact absurd htop hx

end Doubles
