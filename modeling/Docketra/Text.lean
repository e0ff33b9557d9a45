import Mathlib.Data.List.Basic
import Mathlib.Data.List.DropRight

/-!
# Strings and optional strings

The string operations that the services use on xIDs, comments, and identifiers. `trim` follows
`String.prototype.trim`, whose white space is listed in `isWhitespace`. `toUpperCase` is exact on
ASCII text, which xIDs and identifiers are made of.

An optional string is a document field that may be absent, `null`, or text. JavaScript's tests on
such a field are `truthy` (`if (x)`) and `hasText` (`x && String(x).trim() !== ''`), and `||` is
`orElse`.
-/

namespace Docketra

/-- The white space and line terminators that `trim` removes, by code point. -/
def isWhitespace (c : Char) : Bool :=
  let n := c.toNat
  n == 0x20 || (0x9 ≤ n && n ≤ 0xd) || n == 0xa0 || n == 0x1680 || (0x2000 ≤ n && n ≤ 0x200a) ||
    n == 0x2028 || n == 0x2029 || n == 0x202f || n == 0x205f || n == 0x3000 || n == 0xfeff

/-- `trim`, on the list of characters. -/
def trimList (l : List Char) : List Char :=
  (l.dropWhile isWhitespace).rdropWhile isWhitespace

/-- `s.trim()`. -/
def trim (s : String) : String := String.ofList (trimList s.toList)

/-- `s.toUpperCase()`. -/
def toUpperCase (s : String) : String := String.ofList (s.toList.map Char.toUpper)

/-- `s.toLowerCase()`, likewise. -/
def toLowerCase (s : String) : String := String.ofList (s.toList.map Char.toLower)

/-- A string with no character but white space. -/
def isBlank (s : String) : Bool := s.toList.all isWhitespace

/-- The code point of an upper-cased character. -/
theorem toNat_toUpper (c : Char) :
    c.toUpper.toNat = if 97 ≤ c.toNat ∧ c.toNat ≤ 122 then c.toNat - 32 else c.toNat := by
  have hval : c.val.toNat = c.toNat := rfl
  unfold Char.toUpper
  split_ifs with h h' h'
  -- The addition is modulo `2 ^ 32`, and the difference of the two letters is `-32`.
  · show (c.val + ('A'.val - 'a'.val)).toNat = c.toNat - 32
    rw [UInt32.toNat_add, hval]
    have : ('A'.val - 'a'.val : UInt32).toNat = 2 ^ 32 - 32 := by decide
    omega
  · exact absurd h h'
  · exact absurd h' h
  · rfl

/-- Upper-casing a character twice is upper-casing it. -/
theorem toUpper_toUpper (c : Char) : c.toUpper.toUpper = c.toUpper := by
  rw [← Char.toNat_inj]
  simp only [toNat_toUpper]
  split_ifs <;> omega

/-- The code point of a lower-cased character. -/
theorem toNat_toLower (c : Char) :
    c.toLower.toNat = if 65 ≤ c.toNat ∧ c.toNat ≤ 90 then c.toNat + 32 else c.toNat := by
  have hval : c.val.toNat = c.toNat := rfl
  unfold Char.toLower
  split_ifs with h h' h'
  · show (c.val + ('a'.val - 'A'.val)).toNat = c.toNat + 32
    rw [UInt32.toNat_add, hval]
    have : ('a'.val - 'A'.val : UInt32).toNat = 32 := by decide
    omega
  · exact absurd h h'
  · exact absurd h' h
  · rfl

/-- Lower-casing a character twice is lower-casing it. -/
theorem toLower_toLower (c : Char) : c.toLower.toLower = c.toLower := by
  rw [← Char.toNat_inj]
  simp only [toNat_toLower]
  split_ifs <;> omega

/-- Lower-casing changes no white space and makes none. -/
theorem isWhitespace_toLower (c : Char) : isWhitespace c.toLower = isWhitespace c := by
  rw [Bool.eq_iff_iff]
  simp only [isWhitespace, toNat_toLower, Bool.or_eq_true, Bool.and_eq_true, beq_iff_eq,
    decide_eq_true_eq]
  split_ifs <;> omega

/-- Upper-casing changes no white space and makes none. -/
theorem isWhitespace_toUpper (c : Char) : isWhitespace c.toUpper = isWhitespace c := by
  rw [Bool.eq_iff_iff]
  simp only [isWhitespace, toNat_toUpper, Bool.or_eq_true, Bool.and_eq_true, beq_iff_eq,
    decide_eq_true_eq]
  split_ifs <;> omega

/-- Trimming commutes with a map that leaves the white space as it is. -/
theorem trimList_map {f : Char → Char} (hf : ∀ c, isWhitespace (f c) = isWhitespace c)
    (l : List Char) : trimList (l.map f) = (trimList l).map f := by
  have hcomp : isWhitespace ∘ f = isWhitespace := funext hf
  simp only [trimList, List.rdropWhile, List.dropWhile_map, hcomp, ← List.map_reverse]

/-- What is left after the leading white space starts with no white space. -/
theorem not_isWhitespace_of_dropWhile {l m : List Char} {c : Char}
    (h : l.dropWhile isWhitespace = c :: m) : isWhitespace c ≠ true := by
  intro hc
  have hid := List.dropWhile_idempotent (p := isWhitespace) (l := l)
  rw [h, List.dropWhile_cons_of_pos hc] at hid
  have hlen := (List.dropWhile_suffix isWhitespace (l := m)).length_le
  rw [hid, List.length_cons] at hlen
  omega

/-- Trimming leaves nothing exactly when there is nothing but white space. -/
theorem trimList_eq_nil (l : List Char) : trimList l = [] ↔ l.all isWhitespace = true := by
  rw [trimList, List.rdropWhile_eq_nil_iff, List.all_eq_true]
  constructor
  · intro h
    cases hl : l.dropWhile isWhitespace with
    | nil => exact List.dropWhile_eq_nil_iff.mp hl
    | cons c m =>
      rw [hl] at h
      exact absurd (h c List.mem_cons_self) (not_isWhitespace_of_dropWhile hl)
  · intro h c hc
    exact h c ((List.dropWhile_suffix _).subset hc)

/-- Trimming twice is trimming. -/
theorem trimList_trimList (l : List Char) : trimList (trimList l) = trimList l := by
  have hdrop : (trimList l).dropWhile isWhitespace = trimList l := by
    cases hl : l.dropWhile isWhitespace with
    | nil => simp [trimList, hl]
    | cons c m =>
      obtain ⟨t, ht⟩ : trimList l <+: c :: m := by
        rw [trimList, hl]
        exact List.rdropWhile_prefix isWhitespace (c :: m)
      -- What is left starts with the character that the leading white space has stopped at.
      cases htl : trimList l with
      | nil => rfl
      | cons a k =>
        rw [htl, List.cons_append] at ht
        rw [List.dropWhile_cons_of_neg]
        rw [(List.cons.inj ht).1]
        exact not_isWhitespace_of_dropWhile hl
  rw [trimList, hdrop, trimList, List.rdropWhile_idempotent]

/-- Trimming leaves what neither starts nor ends with white space. -/
theorem trimList_eq_self {l : List Char} (hhead : ∀ c ∈ l.head?, isWhitespace c = false)
    (hlast : ∀ c ∈ l.getLast?, isWhitespace c = false) : trimList l = l := by
  have hdrop : l.dropWhile isWhitespace = l := by
    cases l with
    | nil => rfl
    | cons c m => rw [List.dropWhile_cons_of_neg (by simp [hhead c rfl])]
  rw [trimList, hdrop, List.rdropWhile_eq_self_iff]
  intro hl
  rw [hlast _ (List.getLast?_eq_some_getLast hl)]
  exact Bool.false_ne_true

/-- Two texts are joined by a separator that the first ones have not. -/
theorem append_cons_inj_left {α : Type*} {a : α} {x₁ x₂ z₁ z₂ : List α} (h₁ : a ∉ x₁)
    (h₂ : a ∉ x₂) (h : x₁ ++ a :: z₁ = x₂ ++ a :: z₂) : x₁ = x₂ ∧ z₁ = z₂ := by
  induction x₁ generalizing x₂ with
  | nil =>
    cases x₂ with
    | nil => exact ⟨rfl, (List.cons.inj h).2⟩
    | cons b x₂ => exact absurd ((List.cons.inj h).1 ▸ List.mem_cons_self) h₂
  | cons b x₁ ih =>
    cases x₂ with
    | nil => exact absurd ((List.cons.inj h).1 ▸ List.mem_cons_self) h₁
    | cons c x₂ =>
      obtain ⟨rfl, htail⟩ := List.cons.inj h
      obtain ⟨rfl, rfl⟩ := ih (fun hm => h₁ (List.mem_cons_of_mem _ hm))
        (fun hm => h₂ (List.mem_cons_of_mem _ hm)) htail
      exact ⟨rfl, rfl⟩

/-- Two texts are joined by a separator that the second ones have not. -/
theorem append_cons_inj_right {α : Type*} {a : α} {x₁ x₂ z₁ z₂ : List α} (h₁ : a ∉ z₁)
    (h₂ : a ∉ z₂) (h : x₁ ++ a :: z₁ = x₂ ++ a :: z₂) : x₁ = x₂ ∧ z₁ = z₂ := by
  have hreverse : z₁.reverse ++ a :: x₁.reverse = z₂.reverse ++ a :: x₂.reverse := by
    simpa using congrArg List.reverse h
  obtain ⟨hz, hx⟩ := append_cons_inj_left (by simpa using h₁) (by simpa using h₂) hreverse
  exact ⟨List.reverse_injective hx, List.reverse_injective hz⟩

/-- Trimming leaves the empty string exactly when the string is blank. -/
theorem trim_eq_empty (s : String) : trim s = "" ↔ isBlank s = true := by
  rw [trim, ← String.toList_inj, String.toList_ofList, isBlank, ← trimList_eq_nil]
  simp

/-- Trimming twice is trimming. -/
theorem trim_trim (s : String) : trim (trim s) = trim s := by
  simp [trim, trimList_trimList]

/-- Upper-casing twice is upper-casing. -/
theorem toUpperCase_toUpperCase (s : String) : toUpperCase (toUpperCase s) = toUpperCase s := by
  simp only [toUpperCase, String.toList_ofList, List.map_map, Function.comp_def, toUpper_toUpper]

/-- Trimming and upper-casing commute. -/
theorem trim_toUpperCase (s : String) : trim (toUpperCase s) = toUpperCase (trim s) := by
  simp [trim, toUpperCase, trimList_map isWhitespace_toUpper]

/-- Lower-casing twice is lower-casing. -/
theorem toLowerCase_toLowerCase (s : String) : toLowerCase (toLowerCase s) = toLowerCase s := by
  simp only [toLowerCase, String.toList_ofList, List.map_map, Function.comp_def, toLower_toLower]

theorem toLowerCase_append (s t : String) :
    toLowerCase (s ++ t) = toLowerCase s ++ toLowerCase t := by
  simp [toLowerCase]

/-- Trimming and lower-casing commute. -/
theorem trim_toLowerCase (s : String) : trim (toLowerCase s) = toLowerCase (trim s) := by
  simp [trim, toLowerCase, trimList_map isWhitespace_toLower]

/-- Upper-casing changes nothing about blankness. -/
@[simp] theorem isBlank_toUpperCase (s : String) : isBlank (toUpperCase s) = isBlank s := by
  simp [isBlank, toUpperCase, Function.comp_def, isWhitespace_toUpper]

/-- Upper-casing leaves the empty string only of the empty string. -/
@[simp] theorem toUpperCase_eq_empty (s : String) : toUpperCase s = "" ↔ s = "" := by
  rw [toUpperCase, ← String.toList_inj, ← String.toList_inj, String.toList_ofList]
  simp

/-- The setter of the xID fields of the Case schema (`uppercase: true, trim: true`). -/
def castXID (s : String) : String := trim (toUpperCase s)

/-- The setter leaves the empty string exactly of a blank one. -/
theorem castXID_eq_empty (s : String) : castXID s = "" ↔ isBlank s = true := by
  rw [castXID, trim_eq_empty, isBlank_toUpperCase]

/-- The setter leaves what it has already cast. -/
theorem castXID_castXID (s : String) : castXID (castXID s) = castXID s := by
  simp only [castXID, trim_toUpperCase, trim_trim, toUpperCase_toUpperCase]

/-- `if (x)`, of a field that holds text, `null`, or nothing. -/
def truthy : Option String → Bool
  | none => false
  | some s => s != ""

/-- `x && String(x).trim() !== ''`. -/
def hasText : Option String → Bool
  | none => false
  | some s => !isBlank s

/-- `x || y`, of two such fields. -/
def orElse (x y : Option String) : Option String := if truthy x then x else y

@[simp] theorem truthy_none : truthy none = false := rfl

@[simp] theorem truthy_some (s : String) : truthy (some s) = true ↔ s ≠ "" := by
  simp [truthy]

@[simp] theorem hasText_none : hasText none = false := rfl

/-- A field with text in it is truthy. -/
theorem truthy_of_hasText {x : Option String} (h : hasText x = true) : truthy x = true := by
  cases x with
  | none => exact h
  | some s =>
    rw [truthy_some]
    rintro rfl
    exact absurd h (by decide)

/-- `x || y` is truthy when `x` is. -/
theorem truthy_orElse {x y : Option String} (h : truthy x = true) : truthy (orElse x y) = true := by
  rw [orElse, if_pos h, h]

/-- A field that the xID setter has cast is truthy exactly when it has text in it. -/
theorem truthy_castXID (s : String) : truthy (some (castXID s)) = true ↔ isBlank s = false := by
  rw [truthy_some, ne_eq, castXID_eq_empty, Bool.not_eq_true]

end Docketra
