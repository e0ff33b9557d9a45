import Mathlib.Data.List.Basic
import Mathlib.Data.List.GetD

/-!
# Base64

`encode` writes bytes in the standard alphabet, with padding. `decode` reads the digits of either
alphabet and skips every other character. What is encoded is decoded (`decode_encode`), is made of
digits and `=` (`mem_encode`), and is empty for no bytes only (`encode_eq_nil_iff`).
-/

namespace Docketra.Base64

abbrev Bytes := List UInt8

/-- The digits of the standard alphabet, in order. -/
def alphabet : List Char := "ABCDEFGHIJKLMNOPQRSTUVWXYZabcdefghijklmnopqrstuvwxyz0123456789+/".toList

/-- The digit of a number below 64. -/
def digit (n : ℕ) : Char := alphabet.getD n '='

/-- The number of a digit, in the standard alphabet or in the one for URLs. -/
def value (c : Char) : Option ℕ :=
  if c = '-' then some 62
  else if c = '_' then some 63
  else alphabet.findIdx? (· = c)

/-- The characters that encode bytes. -/
def encode : Bytes → List Char
  | a :: b :: c :: rest =>
    digit (a.toNat / 4) :: digit (a.toNat % 4 * 16 + b.toNat / 16) ::
      digit (b.toNat % 16 * 4 + c.toNat / 64) :: digit (c.toNat % 64) :: encode rest
  | [a, b] =>
    [digit (a.toNat / 4), digit (a.toNat % 4 * 16 + b.toNat / 16), digit (b.toNat % 16 * 4), '=']
  | [a] => [digit (a.toNat / 4), digit (a.toNat % 4 * 16), '=', '=']
  | [] => []

/-- The bytes of numbers below 64. A number that is left alone is dropped. -/
def bytesOf : List ℕ → Bytes
  | p :: q :: r :: s :: rest =>
    UInt8.ofNat (p * 4 + q / 16) :: UInt8.ofNat (q % 16 * 16 + r / 4) ::
      UInt8.ofNat (r % 4 * 64 + s) :: bytesOf rest
  | [p, q, r] => [UInt8.ofNat (p * 4 + q / 16), UInt8.ofNat (q % 16 * 16 + r / 4)]
  | [p, q] => [UInt8.ofNat (p * 4 + q / 16)]
  | _ => []

/-- The bytes that characters encode. -/
def decode (chars : List Char) : Bytes := bytesOf (chars.filterMap value)

theorem value_digit {n : ℕ} (h : n < 64) : value (digit n) = some n := by
  have hall : ∀ i : Fin 64, value (digit i) = some i.val := by decide +kernel
  exact hall ⟨n, h⟩

theorem value_pad : value '=' = none := by decide

theorem digit_mem (n : ℕ) : digit n ∈ alphabet ∨ digit n = '=' := by
  unfold digit
  by_cases h : n < alphabet.length
  · rw [List.getD_eq_getElem _ _ h]
    exact .inl (List.getElem_mem h)
  · rw [List.getD_eq_default _ _ (by omega)]
    exact .inr rfl

/-- What is encoded is decoded. -/
theorem decode_encode (bytes : Bytes) : decode (encode bytes) = bytes := by
  have hlt (a : UInt8) : a.toNat < 256 := a.toNat_lt
  have hbyte {n : ℕ} {a : UInt8} (h : n = a.toNat) : UInt8.ofNat n = a := by
    rw [h]
    exact UInt8.ofNat_toNat
  unfold decode
  fun_induction encode bytes with
  | case1 a b c rest ih =>
    have ha := hlt a
    have hb := hlt b
    have hc := hlt c
    rw [List.filterMap_cons_some (value_digit (by omega)),
      List.filterMap_cons_some (value_digit (by omega)),
      List.filterMap_cons_some (value_digit (by omega)),
      List.filterMap_cons_some (value_digit (by omega)), bytesOf, ih, hbyte, hbyte, hbyte] <;> omega
  | case2 a b =>
    have ha := hlt a
    have hb := hlt b
    rw [List.filterMap_cons_some (value_digit (by omega)),
      List.filterMap_cons_some (value_digit (by omega)),
      List.filterMap_cons_some (value_digit (by omega)), List.filterMap_cons_none value_pad,
      List.filterMap_nil, bytesOf, hbyte, hbyte] <;> omega
  | case3 a =>
    have ha := hlt a
    rw [List.filterMap_cons_some (value_digit (by omega)),
      List.filterMap_cons_some (value_digit (by omega)), List.filterMap_cons_none value_pad,
      List.filterMap_cons_none value_pad, List.filterMap_nil, bytesOf, hbyte]
    omega
  | case4 => rfl

/-- An encoding is made of digits and padding. -/
theorem mem_encode {bytes : Bytes} {c : Char} (h : c ∈ encode bytes) : c ∈ alphabet ∨ c = '=' := by
  fun_induction encode bytes with
  | case1 a b c' rest ih =>
    simp only [List.mem_cons] at h
    rcases h with rfl | rfl | rfl | rfl | h
    · exact digit_mem _
    · exact digit_mem _
    · exact digit_mem _
    · exact digit_mem _
    · exact ih h
  | case2 a b =>
    simp only [List.mem_cons, List.not_mem_nil, or_false] at h
    rcases h with rfl | rfl | rfl | rfl
    · exact digit_mem _
    · exact digit_mem _
    · exact digit_mem _
    · exact .inr rfl
  | case3 a =>
    simp only [List.mem_cons, List.not_mem_nil, or_false] at h
    rcases h with rfl | rfl | rfl | rfl
    · exact digit_mem _
    · exact digit_mem _
    · exact .inr rfl
    · exact .inr rfl
  | case4 => cases h

theorem length_le_encode (bytes : Bytes) : bytes.length ≤ (encode bytes).length := by
  fun_induction encode bytes with
  | case1 a b c rest ih => simp; omega
  | case2 a b => simp
  | case3 a => simp
  | case4 => simp

theorem encode_eq_nil_iff (bytes : Bytes) : encode bytes = [] ↔ bytes = [] := by
  constructor
  · intro h
    have hlength := length_le_encode bytes
    rw [h] at hlength
    exact List.length_eq_zero_iff.1 (Nat.le_zero.1 hlength)
  · rintro rfl
    rfl

end Docketra.Base64
