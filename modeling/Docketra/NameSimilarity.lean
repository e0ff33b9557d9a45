import Docketra.AuditLog
import Docketra.ClientDuplicates
import Docketra.Lib.DoubleFractions
import Docketra.Lib.EditDistance

/-!
# The similarity of two names

`calculateSimilarity` in `services/clientDuplicateDetector.js` normalizes two names, and takes the
part of the longer one that the least number of edits leaves, in whole percent. The texts are lists
of code units, and the percentage is computed on doubles.

`levenshteinDistance` fills a table, each row from the one before (`nextRow_row`), and the last entry
is the edit distance (`levenshteinDistance_eq`). The similarity is between 0 and 100. Since it is
rounded, it is 100 also for names with one edit in two hundred units
(`mathRound_similarity_eq_hundred`). Names that differ only in letter case, in how much white space
there is, and in special characters have the similarity 100, as long as no white space comes to an
end of a name when the special characters are removed: the name is trimmed before
(`similarity_sound`).
-/

namespace Docketra.NameSimilarity

open AuditLog (isSpace)
open JsonText (Utf16)
open DoubleFractions EditDistance

/-! ## `normalizeString` -/

/-- `toLowerCase()`, of one unit. Of the letters that are not ASCII, the Kelvin sign and the capital
I with a dot become ASCII letters; no other becomes one, and none is white space. -/
def lowerUnit (u : UInt16) : Utf16 :=
  if 0x41 ≤ u && u ≤ 0x5A then [u + 0x20]
  else if u = 0x212A then [0x6B]
  else if u = 0x130 then [0x69, 0x307]
  else [u]

/-- `\w`. -/
def isWordUnit (u : UInt16) : Bool :=
  (0x30 ≤ u && u ≤ 0x39) || (0x41 ≤ u && u ≤ 0x5A) || (0x61 ≤ u && u ≤ 0x7A) || u = 0x5F

/-- The units that are not special characters. -/
def isKept (u : UInt16) : Bool := isWordUnit u || isSpace u

/-- `.replace(/\s+/g, ' ')`. -/
def collapseSpaces : Utf16 → Utf16
  | [] => []
  | u :: us =>
    if isSpace u then
      if us.head?.any isSpace then collapseSpaces us else 0x20 :: collapseSpaces us
    else u :: collapseSpaces us

/-- `toLowerCase()`. -/
def lower (str : Utf16) : Utf16 := str.flatMap lowerUnit

/-- `normalizeString`. -/
def normalizeString (str : Utf16) : Utf16 :=
  if str = [] then [] else collapseSpaces ((AuditLog.trim (lower str)).filter isKept)

/-! ## `levenshteinDistance` -/

section table

variable {α : Type} [DecidableEq α]

/-- The inner loop: the entries of a row after the first one, from the entry to their left and the
row before. -/
def fillRow (c : α) (left : ℕ) : List α → List ℕ → List ℕ
  | d :: str2, diagonal :: above :: previous =>
    let entry := min (min (above + 1) (left + 1)) (diagonal + cost c d)
    entry :: fillRow c entry str2 (above :: previous)
  | _, _ => []

/-- The row `matrix[i]`, from `matrix[i - 1]`. -/
def nextRow (c : α) (i : ℕ) (str2 : List α) (previous : List ℕ) : List ℕ :=
  i :: fillRow c i str2 previous

/-- The outer loop: the rows from a row on. -/
def fillMatrix (str2 : List α) : ℕ → List ℕ → List α → List (List ℕ)
  | _, row, [] => [row]
  | i, row, c :: str1 => row :: fillMatrix str2 (i + 1) (nextRow c (i + 1) str2 row) str1

/-- `levenshteinDistance`: `matrix[len1][len2]`. -/
def levenshteinDistance (str1 str2 : List α) : ℕ :=
  let matrix := fillMatrix str2 0 (List.range (str2.length + 1)) str1
  (matrix.getD str1.length []).getD str2.length 0

end table

/-! ## `calculateSimilarity` -/

/-- `Math.round`. -/
def mathRound (q : ℚ) : ℤ := ⌊q + 1 / 2⌋

/-- `((maxLength - distance) / maxLength) * 100`, each result rounded to a double. -/
def similarity (maxLength distance : ℕ) : ℚ :=
  toDouble (toDouble (((maxLength : ℚ) - distance) / maxLength) * 100)

/-- `calculateSimilarity`. -/
def calculateSimilarity (str1 str2 : Utf16) : ℤ :=
  if str1 = [] || str2 = [] then 0
  else
    let normalized1 := normalizeString str1
    let normalized2 := normalizeString str2
    if normalized1 = normalized2 then 100
    else
      let maxLength := max normalized1.length normalized2.length
      if maxLength = 0 then 100
      else mathRound (similarity maxLength (levenshteinDistance normalized1 normalized2))

/-! ## The table holds the distances -/

section table

variable {α : Type} [DecidableEq α]

/-- The row of a text: its distances from the parts of the other text, from a part that is done. All
are reversed, so that the distance goes by their last elements. -/
def row (done1 : List α) : List α → List α → List ℕ
  | done2, [] => [distance done1 done2]
  | done2, d :: str2 => distance done1 done2 :: row done1 (d :: done2) str2

theorem row_eq_cons (done1 done2 str2 : List α) :
    ∃ entries, row done1 done2 str2 = distance done1 done2 :: entries := by
  cases str2 with
  | nil => exact ⟨[], rfl⟩
  | cons d str2 => exact ⟨_, rfl⟩

/-- The inner loop makes the rest of the row of one more character. -/
theorem fillRow_row (c : α) (done1 done2 str2 : List α) :
    distance (c :: done1) done2 ::
        fillRow c (distance (c :: done1) done2) str2 (row done1 done2 str2) =
      row (c :: done1) done2 str2 := by
  induction str2 generalizing done2 with
  | nil => rfl
  | cons d str2 ih =>
    obtain ⟨entries, hentries⟩ := row_eq_cons done1 (d :: done2) str2
    have hentry := distance_cons_cons c d done1 done2
    have ih := ih (d :: done2)
    rw [row, hentries, fillRow, row, ← ih, hentries]
    simp only [hentry]

/-- The rows of the table are those of the parts of the first text. -/
theorem nextRow_row (c : α) (done1 str2 : List α) :
    nextRow c (done1.length + 1) str2 (row done1 [] str2) = row (c :: done1) [] str2 := by
  rw [← fillRow_row, distance_nil_right, nextRow, List.length_cons]

theorem range_eq_row (done2 str2 : List α) :
    List.range' done2.length (str2.length + 1) = row [] done2 str2 := by
  induction str2 generalizing done2 with
  | nil => rw [row, distance_nil_left, List.length_nil, List.range'_one]
  | cons d str2 ih =>
    have ih := ih (d :: done2)
    rw [row, distance_nil_left, ← ih, List.length_cons, List.range'_succ, List.length_cons]

theorem getD_fillMatrix (str2 done1 str1 : List α) :
    (fillMatrix str2 done1.length (row done1 [] str2) str1).getD str1.length [] =
      row (str1.reverse ++ done1) [] str2 := by
  induction str1 generalizing done1 with
  | nil => rfl
  | cons c str1 ih =>
    have ih := ih (c :: done1)
    rw [fillMatrix, nextRow_row, List.length_cons, List.getD_cons_succ]
    rw [List.length_cons] at ih
    rw [ih, List.reverse_cons, List.append_assoc, List.singleton_append]

theorem getD_row (done1 done2 str2 : List α) :
    (row done1 done2 str2).getD str2.length 0 = distance done1 (str2.reverse ++ done2) := by
  induction str2 generalizing done2 with
  | nil => rfl
  | cons d str2 ih =>
    rw [row, List.length_cons, List.getD_cons_succ, ih, List.reverse_cons, List.append_assoc,
      List.singleton_append]

/-- The last entry of the table is the edit distance. -/
theorem levenshteinDistance_eq (str1 str2 : List α) :
    levenshteinDistance str1 str2 = distance str1 str2 := by
  have hrange : List.range (str2.length + 1) = row [] [] str2 := by
    rw [List.range_eq_range']
    exact range_eq_row [] str2
  have hmatrix := getD_fillMatrix str2 [] str1
  rw [List.length_nil] at hmatrix
  simp only [levenshteinDistance]
  rw [hrange, hmatrix, getD_row, List.append_nil, List.append_nil, distance_reverse]

theorem levenshteinDistance_comm (str1 str2 : List α) :
    levenshteinDistance str1 str2 = levenshteinDistance str2 str1 := by
  rw [levenshteinDistance_eq, levenshteinDistance_eq, distance_comm]

end table

theorem matrix_eq (str1 str2 : List Char) :
    ClientDuplicates.matrix str1 str2 = distance str1 str2 := by
  fun_induction ClientDuplicates.matrix str1 str2 with
  | case1 ys => exact (distance_nil_left ys).symm
  | case2 x xs => exact (distance_nil_right (x :: xs)).symm
  | case3 x xs y ys _ ih ih' ih'' =>
    rw [distance_cons_cons, ← ih, ← ih', ← ih'']
    rfl

/-- The distance that `detectDuplicates` compares names by is the one the table holds. -/
theorem detectDuplicates_distance (str1 str2 : List Char) :
    ClientDuplicates.levenshteinDistance str1 str2 = levenshteinDistance str1 str2 := by
  rw [ClientDuplicates.levenshteinDistance, matrix_eq, distance_reverse, levenshteinDistance_eq]

/-! ## The percentage -/

theorem toDouble_one : toDouble 1 = 1 := by
  have h : toDouble 1 = (2 ^ 52 : ℤ) * 2 ^ (-52 : ℤ) :=
    toDouble_eq (by norm_num) (by norm_num) (by norm_num) (by norm_num)
  rw [h]
  norm_num

theorem toDouble_hundred : toDouble 100 = 100 := by
  have h : toDouble 100 = (100 * 2 ^ 46 : ℤ) * 2 ^ (-46 : ℤ) :=
    toDouble_eq (by norm_num) (by norm_num) (by norm_num) (by norm_num)
  rw [h]
  norm_num

/-- At one edit in two hundred units the percentage is the double 99.5. -/
theorem toDouble_at_threshold : toDouble (toDouble (199 / 200) * 100) = 199 / 2 := by
  have hpart : toDouble (199 / 200) = (8962163258467287 : ℤ) * 2 ^ (-53 : ℤ) :=
    toDouble_eq (by norm_num) (by norm_num) (by norm_num) (by norm_num)
  have hpercent : toDouble (toDouble (199 / 200) * 100) =
      (7001690045677568 : ℤ) * 2 ^ (-46 : ℤ) := by
    rw [hpart]
    exact toDouble_eq (by norm_num) (by norm_num) (by norm_num) (by norm_num)
  rw [hpercent]
  norm_num

/-- Below it, as far as a longer text of `2 ^ 46` units can be, the percentage is less. -/
theorem toDouble_below_threshold :
    toDouble (toDouble (199 / 200 - 1 / (200 * 2 ^ 46)) * 100) < 199 / 2 := by
  have hpart : toDouble (199 / 200 - 1 / (200 * 2 ^ 46)) =
      (8962163258467286 : ℤ) * 2 ^ (-53 : ℤ) :=
    toDouble_eq (by norm_num) (by norm_num) (by norm_num) (by norm_num)
  have hpercent : toDouble (toDouble (199 / 200 - 1 / (200 * 2 ^ 46)) * 100) =
      (7001690045677567 : ℤ) * 2 ^ (-46 : ℤ) := by
    rw [hpart]
    exact toDouble_eq (by norm_num) (by norm_num) (by norm_num) (by norm_num)
  rw [hpercent]
  norm_num

/-- The percentage of a part of the whole. -/
def percent (part : ℚ) : ℚ := toDouble (toDouble part * 100)

theorem percent_mono {p q : ℚ} (hp : 0 ≤ p) (h : p ≤ q) : percent p ≤ percent q := by
  have hinner := toDouble_mono hp h
  refine toDouble_mono (mul_nonneg (toDouble_nonneg hp) (by norm_num)) ?_
  linarith

theorem percent_le_hundred {p : ℚ} (hp : 0 ≤ p) (h : p ≤ 1) : percent p ≤ 100 := by
  have hone : percent 1 = 100 := by rw [percent, toDouble_one, one_mul, toDouble_hundred]
  rw [← hone]
  exact percent_mono hp h

theorem percent_nonneg {p : ℚ} (hp : 0 ≤ p) : 0 ≤ percent p :=
  toDouble_nonneg (mul_nonneg (toDouble_nonneg hp) (by norm_num))

theorem mathRound_bounds {q : ℚ} (h : 0 ≤ q) (h' : q ≤ 100) :
    0 ≤ mathRound q ∧ mathRound q ≤ 100 := by
  constructor
  · rw [mathRound, Int.le_floor]
    push_cast
    linarith
  · rw [mathRound, ← Int.lt_add_one_iff, Int.floor_lt]
    push_cast
    linarith

theorem mathRound_eq_hundred_iff {q : ℚ} (h' : q ≤ 100) : mathRound q = 100 ↔ 199 / 2 ≤ q := by
  rw [mathRound, Int.floor_eq_iff]
  push_cast
  constructor
  · rintro ⟨hle, -⟩
    linarith
  · intro h
    constructor <;> linarith

variable {maxLength editCount : ℕ}

/-- The part that the edits leave. -/
theorem part_bounds (hpos : 0 < maxLength) (hle : editCount ≤ maxLength) :
    0 ≤ ((maxLength : ℚ) - editCount) / maxLength ∧
      ((maxLength : ℚ) - editCount) / maxLength ≤ 1 := by
  have hmax : (0 : ℚ) < maxLength := by exact_mod_cast hpos
  have hcount : (editCount : ℚ) ≤ maxLength := by exact_mod_cast hle
  have hzero : (0 : ℚ) ≤ editCount := Nat.cast_nonneg editCount
  constructor
  · exact div_nonneg (by linarith) hmax.le
  · rw [div_le_one hmax]
    linarith

theorem similarity_eq_percent (maxLength editCount : ℕ) :
    similarity maxLength editCount = percent (((maxLength : ℚ) - editCount) / maxLength) := rfl

/-- With at most one edit in two hundred units the similarity is rounded to 100; with more it is
not, up to a length that no text has. -/
theorem mathRound_similarity_eq_hundred (hpos : 0 < maxLength) (hle : editCount ≤ maxLength) :
    (200 * editCount ≤ maxLength → mathRound (similarity maxLength editCount) = 100) ∧
      (mathRound (similarity maxLength editCount) = 100 →
        200 * editCount ≤ maxLength ∨ 2 ^ 46 < maxLength) := by
  obtain ⟨hnonneg, hone⟩ := part_bounds hpos hle
  have hmax : (0 : ℚ) < maxLength := by exact_mod_cast hpos
  rw [similarity_eq_percent, mathRound_eq_hundred_iff (percent_le_hundred hnonneg hone)]
  constructor
  · intro hfew
    have hfew : 200 * (editCount : ℚ) ≤ maxLength := by exact_mod_cast hfew
    have hpart : (199 / 200 : ℚ) ≤ ((maxLength : ℚ) - editCount) / maxLength := by
      rw [le_div_iff₀ hmax]
      linarith
    calc (199 / 2 : ℚ) = percent (199 / 200) := toDouble_at_threshold.symm
      _ ≤ percent (((maxLength : ℚ) - editCount) / maxLength) :=
          percent_mono (by norm_num) hpart
  · intro hpercent
    by_contra hnot
    rw [not_or, Nat.not_le, Nat.not_lt] at hnot
    obtain ⟨hmany, hshort⟩ := hnot
    have hmany : (maxLength : ℚ) + 1 ≤ 200 * editCount := by exact_mod_cast hmany
    have hshort : (maxLength : ℚ) ≤ 2 ^ 46 := by exact_mod_cast hshort
    have hpart : ((maxLength : ℚ) - editCount) / maxLength ≤ 199 / 200 - 1 / (200 * 2 ^ 46) := by
      rw [div_le_iff₀ hmax]
      linarith
    have hbelow := percent_mono hnonneg hpart
    have hthreshold := toDouble_below_threshold
    rw [← percent] at hthreshold
    linarith

/-! ## Names that differ in letter case, white space and special characters -/

/-- The texts differ only in letter case, in how much white space there is, and in special
characters, which `normalizeString` removes. -/
inductive Alike : Utf16 → Utf16 → Prop
  | refl (s : Utf16) : Alike s s
  | symm {s t : Utf16} : Alike s t → Alike t s
  | trans {s t u : Utf16} : Alike s t → Alike t u → Alike s u
  | letterCase {l : Utf16} {a b : UInt16} {r : Utf16} :
      lowerUnit a = lowerUnit b → Alike (l ++ a :: r) (l ++ b :: r)
  | special {l : Utf16} {a : UInt16} {r : Utf16} :
      (lowerUnit a).filter isKept = [] → Alike (l ++ a :: r) (l ++ r)
  | spacing {l : Utf16} {a b c : UInt16} {r : Utf16} :
      isSpace a = true → isSpace b = true → isSpace c = true →
        Alike (l ++ a :: b :: r) (l ++ c :: r)
  | front {a : UInt16} {r : Utf16} : isSpace a = true → Alike (a :: r) r
  | back {l : Utf16} {a : UInt16} : isSpace a = true → Alike (l ++ [a]) l

/-- What is left of a text in lower case without special characters. -/
def kept (str : Utf16) : Utf16 := (lower str).filter isKept

/-- A text in which no white space comes to an end when the special characters are removed. -/
def Tight (str : Utf16) : Prop :=
  AuditLog.trim ((AuditLog.trim (lower str)).filter isKept) =
    (AuditLog.trim (lower str)).filter isKept

variable {l r : Utf16} {a b c u : UInt16}

theorem kept_append (l r : Utf16) : kept (l ++ r) = kept l ++ kept r := by
  rw [kept, lower, List.flatMap_append, List.filter_append]
  rfl

theorem isKept_of_isSpace (h : isSpace a = true) : isKept a = true := by
  rw [isKept, h, Bool.or_true]

/-- Where the white space is. -/
theorem toNat_of_isSpace (h : isSpace a = true) :
    a.toNat ≤ 0x20 ∨ a.toNat = 0xA0 ∨ 0x1680 ≤ a.toNat ∧ a.toNat ≤ 0x205F ∨ 0x3000 ≤ a.toNat := by
  simp only [isSpace, Bool.or_eq_true, Bool.and_eq_true, decide_eq_true_eq,
    UInt16.le_iff_toNat_le, ← UInt16.toNat_inj, List.mem_cons, List.not_mem_nil, or_false] at h
  simp only [UInt16.reduceToNat] at h
  omega

theorem lowerUnit_of_isSpace (h : isSpace a = true) : lowerUnit a = [a] := by
  have hplace := toNat_of_isSpace h
  unfold lowerUnit
  simp only [Bool.and_eq_true, decide_eq_true_eq, UInt16.le_iff_toNat_le, ← UInt16.toNat_inj,
    UInt16.reduceToNat]
  rw [if_neg (by omega), if_neg (by omega), if_neg (by omega)]

theorem kept_space (h : isSpace a = true) (r : Utf16) : kept (a :: r) = a :: kept r := by
  rw [kept, lower, List.flatMap_cons, lowerUnit_of_isSpace h, List.singleton_append,
    List.filter_cons_of_pos (isKept_of_isSpace h)]
  rfl

/-! ### Collapsing -/

theorem collapseSpaces_space (ha : isSpace a = true) (hb : isSpace b = true) (r : Utf16) :
    collapseSpaces (a :: r) = collapseSpaces (b :: r) := by
  rw [collapseSpaces, collapseSpaces, if_pos ha, if_pos hb]

/-- Two spaces are one. -/
theorem collapseSpaces_spacing (ha : isSpace a = true) (hb : isSpace b = true)
    (hc : isSpace c = true) (l r : Utf16) :
    collapseSpaces (l ++ a :: b :: r) = collapseSpaces (l ++ c :: r) := by
  induction l with
  | nil =>
    rw [List.nil_append, List.nil_append, ← collapseSpaces_space hb hc, collapseSpaces, if_pos ha]
    exact if_pos hb
  | cons u l ih =>
    have hhead : (l ++ a :: b :: r).head?.any isSpace = (l ++ c :: r).head?.any isSpace := by
      cases l with
      | nil => exact ha.trans hc.symm
      | cons v l => rfl
    rw [List.cons_append, List.cons_append, collapseSpaces, collapseSpaces, ih, hhead]

theorem collapseSpaces_concat (hu : isSpace u = false) (l : Utf16) :
    collapseSpaces (l ++ [u]) = collapseSpaces l ++ [u] := by
  induction l with
  | nil => simp [collapseSpaces, hu]
  | cons v l ih =>
    have hhead : (l ++ [u]).head?.any isSpace = l.head?.any isSpace := by
      cases l with
      | nil => exact hu
      | cons w l => rfl
    rw [List.cons_append, collapseSpaces, collapseSpaces, ih, hhead]
    split_ifs <;> rfl

theorem collapseSpaces_concat_space (hu : isSpace u = true) (l : Utf16) :
    collapseSpaces (l ++ [u]) = collapseSpaces l ∨
      collapseSpaces (l ++ [u]) = collapseSpaces l ++ [0x20] := by
  induction l with
  | nil =>
    right
    simp [collapseSpaces, hu]
  | cons v l ih =>
    cases l with
    | nil =>
      rw [List.cons_append, List.nil_append, collapseSpaces]
      by_cases hv : isSpace v = true
      · left
        rw [if_pos hv]
        simp [collapseSpaces, hu, hv]
      · right
        rw [if_neg hv]
        simp [collapseSpaces, hu, hv]
    | cons w l =>
      have hhead : ((w :: l) ++ [u]).head?.any isSpace = (w :: l).head?.any isSpace := rfl
      rw [List.cons_append, collapseSpaces, collapseSpaces, hhead]
      rcases ih with ih | ih
      · left
        rw [ih]
      · right
        rw [ih]
        split_ifs <;> rfl

theorem dropWhile_collapseSpaces (l : Utf16) :
    (collapseSpaces l).dropWhile isSpace = collapseSpaces (l.dropWhile isSpace) := by
  induction l with
  | nil => rfl
  | cons u l ih =>
    have hblank : isSpace 0x20 = true := rfl
    by_cases hu : isSpace u = true
    · rw [collapseSpaces, if_pos hu, List.dropWhile_cons_of_pos hu]
      split_ifs
      · exact ih
      · rw [List.dropWhile_cons_of_pos hblank]
        exact ih
    · rw [List.dropWhile_cons_of_neg hu, collapseSpaces, if_neg hu, List.dropWhile_cons_of_neg hu]

theorem rdropWhile_collapseSpaces (l : Utf16) :
    (collapseSpaces l).rdropWhile isSpace = collapseSpaces (l.rdropWhile isSpace) := by
  induction l using List.reverseRecOn with
  | nil => rfl
  | append_singleton l u ih =>
    have hblank : isSpace 0x20 = true := rfl
    by_cases hu : isSpace u = true
    · rw [List.rdropWhile_concat_pos _ _ _ hu, ← ih]
      rcases collapseSpaces_concat_space hu l with h | h
      · rw [h]
      · rw [h, List.rdropWhile_concat_pos _ _ _ hblank]
    · rw [List.rdropWhile_concat_neg _ _ _ hu,
        collapseSpaces_concat (Bool.eq_false_iff.mpr hu), List.rdropWhile_concat_neg _ _ _ hu]

/-! ### Trimming -/

theorem trim_eq (l : Utf16) : AuditLog.trim l = (l.dropWhile isSpace).rdropWhile isSpace := rfl

theorem trim_collapseSpaces (l : Utf16) :
    AuditLog.trim (collapseSpaces l) = collapseSpaces (AuditLog.trim l) := by
  rw [trim_eq, trim_eq, dropWhile_collapseSpaces, rdropWhile_collapseSpaces]

theorem trim_space (ha : isSpace a = true) (r : Utf16) :
    AuditLog.trim (a :: r) = AuditLog.trim r := by
  rw [trim_eq, List.dropWhile_cons_of_pos ha, trim_eq]

theorem trim_concat_space (ha : isSpace a = true) (l : Utf16) :
    AuditLog.trim (l ++ [a]) = AuditLog.trim l := by
  rw [trim_eq, trim_eq, List.dropWhile_append]
  split_ifs with hnil
  · -- There is nothing but white space.
    have hl : l.dropWhile isSpace = [] := by simpa using hnil
    rw [hl, List.dropWhile_cons_of_pos ha]
    rfl
  · exact List.rdropWhile_concat_pos _ _ _ ha

theorem trim_append_spaces {before after : Utf16} (hbefore : ∀ u ∈ before, isSpace u = true)
    (hafter : ∀ u ∈ after, isSpace u = true) (l : Utf16) :
    AuditLog.trim (before ++ l ++ after) = AuditLog.trim l := by
  induction after using List.reverseRecOn with
  | nil =>
    rw [List.append_nil]
    induction before with
    | nil => rfl
    | cons u before ih =>
      rw [List.cons_append, trim_space (hbefore u List.mem_cons_self)]
      exact ih fun v hv => hbefore v (List.mem_cons_of_mem u hv)
  | append_singleton after u ih =>
    rw [← List.append_assoc,
      trim_concat_space (hafter u (List.mem_append_right _ (List.mem_singleton_self u)))]
    exact ih fun v hv => hafter v (List.mem_append_left _ hv)

/-- Trimming takes white space off both ends. -/
theorem exists_trim (l : Utf16) : ∃ before after : Utf16,
    (∀ u ∈ before, isSpace u = true) ∧ (∀ u ∈ after, isSpace u = true) ∧
      l = before ++ AuditLog.trim l ++ after := by
  refine ⟨l.takeWhile isSpace, (l.dropWhile isSpace).rtakeWhile isSpace,
    fun u hu => List.mem_takeWhile_imp hu, fun u hu => List.mem_rtakeWhile_imp hu, ?_⟩
  rw [trim_eq, List.append_assoc, List.rdropWhile_append_rtakeWhile,
    List.takeWhile_append_dropWhile]

/-! ### The normal form -/

/-- The text with its special characters removed first, and then its white space at the ends. -/
def canonical (str : Utf16) : Utf16 := collapseSpaces (AuditLog.trim (kept str))

theorem canonical_of_alike {s t : Utf16} (h : Alike s t) : canonical s = canonical t := by
  induction h with
  | refl s => rfl
  | symm _ ih => exact ih.symm
  | trans _ _ ih ih' => exact ih.trans ih'
  | @letterCase l a b r hab =>
    have hkept : kept (a :: r) = kept (b :: r) := by
      rw [kept, kept, lower, lower, List.flatMap_cons, List.flatMap_cons, hab]
    rw [canonical, canonical, kept_append, kept_append, hkept]
  | @special l a r ha =>
    have hkept : kept (a :: r) = kept r := by
      rw [kept, lower, List.flatMap_cons, List.filter_append, ha, List.nil_append]
      rfl
    rw [canonical, canonical, kept_append, kept_append, hkept]
  | @spacing l a b c r ha hb hc =>
    rw [canonical, canonical, ← trim_collapseSpaces, ← trim_collapseSpaces, kept_append,
      kept_append, kept_space ha, kept_space hb, kept_space hc, collapseSpaces_spacing ha hb hc]
  | @front a r ha => rw [canonical, canonical, kept_space ha, trim_space ha]
  | @back l a ha =>
    rw [canonical, canonical, kept_append, kept_space ha]
    exact congrArg collapseSpaces (trim_concat_space ha (kept l))

theorem filter_spaces {l : Utf16} (h : ∀ u ∈ l, isSpace u = true) : l.filter isKept = l :=
  List.filter_eq_self.mpr fun u hu => isKept_of_isSpace (h u hu)

/-- A name is normalized to its normal form when it is tight. -/
theorem normalizeString_of_tight {str : Utf16} (h : Tight str) :
    normalizeString str = canonical str := by
  unfold normalizeString
  split_ifs with hnil
  · rw [hnil]
    rfl
  · obtain ⟨before, after, hbefore, hafter, hlower⟩ := exists_trim (lower str)
    have hkept : kept str = before ++ (AuditLog.trim (lower str)).filter isKept ++ after := by
      have hfilter := congrArg (List.filter isKept) hlower
      rwa [List.filter_append, List.filter_append, filter_spaces hbefore, filter_spaces hafter]
        at hfilter
    rw [canonical, hkept, trim_append_spaces hbefore hafter, h]

/-! ## The measure -/

/-- The edits between the normalized names. -/
def nameEdits (str1 str2 : Utf16) : ℕ :=
  levenshteinDistance (normalizeString str1) (normalizeString str2)

/-- The length of the longer normalized name. -/
def longer (str1 str2 : Utf16) : ℕ :=
  max (normalizeString str1).length (normalizeString str2).length

variable {str1 str2 : Utf16}

theorem nameEdits_le_longer (str1 str2 : Utf16) : nameEdits str1 str2 ≤ longer str1 str2 := by
  rw [nameEdits, levenshteinDistance_eq]
  exact distance_le_max _ _

theorem nameEdits_eq_zero_iff :
    nameEdits str1 str2 = 0 ↔ normalizeString str1 = normalizeString str2 := by
  rw [nameEdits, levenshteinDistance_eq, distance_eq_zero_iff]

/-- The three results: without a name, with equal names, and by the edits. -/
theorem calculateSimilarity_cases (str1 str2 : Utf16) :
    (str1 = [] ∨ str2 = []) ∧ calculateSimilarity str1 str2 = 0 ∨
      nameEdits str1 str2 = 0 ∧ calculateSimilarity str1 str2 = 100 ∨
      0 < longer str1 str2 ∧ calculateSimilarity str1 str2 =
        mathRound (similarity (longer str1 str2) (nameEdits str1 str2)) := by
  unfold calculateSimilarity
  dsimp only
  rw [← nameEdits, ← longer]
  split_ifs with hempty hequal hzero
  · left
    simpa using hempty
  · right; left
    exact ⟨nameEdits_eq_zero_iff.mpr hequal, rfl⟩
  · right; left
    have hle := nameEdits_le_longer str1 str2
    exact ⟨by omega, rfl⟩
  · right; right
    exact ⟨by omega, rfl⟩

theorem calculateSimilarity_comm (str1 str2 : Utf16) :
    calculateSimilarity str1 str2 = calculateSimilarity str2 str1 := by
  unfold calculateSimilarity
  dsimp only
  rw [Bool.or_comm, levenshteinDistance_comm, max_comm]
  simp only [eq_comm]

theorem calculateSimilarity_bounds (str1 str2 : Utf16) :
    0 ≤ calculateSimilarity str1 str2 ∧ calculateSimilarity str1 str2 ≤ 100 := by
  obtain ⟨-, h⟩ | ⟨-, h⟩ | ⟨hpos, h⟩ := calculateSimilarity_cases str1 str2
  · omega
  · omega
  · obtain ⟨hnonneg, hone⟩ := part_bounds hpos (nameEdits_le_longer str1 str2)
    rw [h, similarity_eq_percent]
    exact mathRound_bounds (percent_nonneg hnonneg) (percent_le_hundred hnonneg hone)

/-- What the similarity 100 says of the edits. -/
theorem few_edits_of_hundred (h : calculateSimilarity str1 str2 = 100) :
    200 * nameEdits str1 str2 ≤ longer str1 str2 ∨ 2 ^ 46 < longer str1 str2 := by
  obtain ⟨-, h'⟩ | ⟨hzero, -⟩ | ⟨hpos, h'⟩ := calculateSimilarity_cases str1 str2
  · omega
  · omega
  · rw [h'] at h
    exact (mathRound_similarity_eq_hundred hpos (nameEdits_le_longer str1 str2)).2 h

/-- In names of usual length it says that they are equal. -/
theorem equal_of_hundred (hshort : longer str1 str2 < 200)
    (h : calculateSimilarity str1 str2 = 100) : normalizeString str1 = normalizeString str2 := by
  have hfew := few_edits_of_hundred h
  rw [← nameEdits_eq_zero_iff]
  omega

theorem hundred_of_few_edits (h1 : str1 ≠ []) (h2 : str2 ≠ [])
    (hfew : 200 * nameEdits str1 str2 ≤ longer str1 str2) :
    calculateSimilarity str1 str2 = 100 := by
  obtain ⟨hempty, -⟩ | ⟨-, h⟩ | ⟨hpos, h⟩ := calculateSimilarity_cases str1 str2
  · exact absurd hempty (not_or.mpr ⟨h1, h2⟩)
  · exact h
  · rw [h]
    exact (mathRound_similarity_eq_hundred hpos (nameEdits_le_longer str1 str2)).1 hfew

theorem hundred_of_alike (h1 : str1 ≠ []) (h2 : str2 ≠ []) (htight1 : Tight str1)
    (htight2 : Tight str2) (h : Alike str1 str2) : calculateSimilarity str1 str2 = 100 := by
  have hnormalized : normalizeString str1 = normalizeString str2 := by
    rw [normalizeString_of_tight htight1, normalizeString_of_tight htight2, canonical_of_alike h]
  have hzero := nameEdits_eq_zero_iff.mpr hnormalized
  exact hundred_of_few_edits h1 h2 (by omega)

/-- What the similarity of two names tells. -/
structure Sound (str1 str2 : Utf16) : Prop where
  /-- `levenshteinDistance` is the least number of edits. -/
  least : IsLeast {n | Edits n str1 str2} (levenshteinDistance str1 str2)
  symm : calculateSimilarity str1 str2 = calculateSimilarity str2 str1
  range : 0 ≤ calculateSimilarity str1 str2 ∧ calculateSimilarity str1 str2 ≤ 100
  /-- The similarity is 100 only with at most one edit in two hundred units, if the longer name has
  at most `2 ^ 46` of them. -/
  only : calculateSimilarity str1 str2 = 100 →
    200 * nameEdits str1 str2 ≤ longer str1 str2 ∨ 2 ^ 46 < longer str1 str2
  /-- So names of fewer than two hundred units with this similarity are equal when normalized. -/
  short : longer str1 str2 < 200 → calculateSimilarity str1 str2 = 100 →
    normalizeString str1 = normalizeString str2
  /-- With as few edits it is 100, for two names. -/
  full : str1 ≠ [] → str2 ≠ [] → 200 * nameEdits str1 str2 ≤ longer str1 str2 →
    calculateSimilarity str1 str2 = 100
  /-- Two names that differ only in letter case, white space and special characters have it too,
  when removing these leaves no white space at an end. -/
  alike : str1 ≠ [] → str2 ≠ [] → Tight str1 → Tight str2 → Alike str1 str2 →
    calculateSimilarity str1 str2 = 100

/-- The similarity is a sound measure of any two names, up to the rounding. -/
theorem similarity_sound (str1 str2 : Utf16) : Sound str1 str2 where
  least := by
    rw [levenshteinDistance_eq]
    exact isLeast_distance str1 str2
  symm := calculateSimilarity_comm str1 str2
  range := calculateSimilarity_bounds str1 str2
  only := few_edits_of_hundred
  short := equal_of_hundred
  full := hundred_of_few_edits
  alike := hundred_of_alike

/-! ### Names where it is not exact -/

/-- Two hundred times the letter `a`. -/
def longName : Utf16 := List.replicate 200 0x61

/-- The same, with a `b` at the end. -/
def otherLongName : Utf16 := List.replicate 199 0x61 ++ [0x62]

/-- `& Co`. -/
def company : Utf16 := [0x26, 0x20, 0x43, 0x6F]

/-- `Co`. -/
def companyName : Utf16 := [0x43, 0x6F]

theorem longName_edits : 200 * nameEdits longName otherLongName ≤ longer longName otherLongName := by
  have hname : normalizeString longName = longName := by decide +kernel
  have hother : normalizeString otherLongName = otherLongName := by decide +kernel
  have hsplit : longName = List.replicate 199 0x61 ++ [0x61] := List.replicate_succ'
  have hedit : Edits 1 longName otherLongName := by
    rw [hsplit]
    exact .next (.none _) (.substitution (List.replicate 199 0x61) 0x61 0x62 [])
  have hedits := distance_le_of_edits hedit
  rw [nameEdits, longer, hname, hother, levenshteinDistance_eq]
  have hlength : longName.length = 200 := List.length_replicate
  omega

theorem company_alike : Alike company companyName := by
  have hspecial : Alike company (0x20 :: companyName) :=
    .special (l := []) (a := 0x26) (r := 0x20 :: companyName) (by decide)
  exact hspecial.trans (.front (a := 0x20) rfl)

/-- One letter of two hundred makes no difference, one special character at the beginning does, and
so does a blank when it is the whole name. -/
theorem similarity_fails :
    (¬ ∀ str1 str2, calculateSimilarity str1 str2 = 100 →
      normalizeString str1 = normalizeString str2) ∧
    (¬ ∀ str1 str2, str1 ≠ [] → str2 ≠ [] → Alike str1 str2 →
      calculateSimilarity str1 str2 = 100) ∧
    ¬ ∀ str1 str2, Tight str1 → Tight str2 → Alike str1 str2 →
      calculateSimilarity str1 str2 = 100 := by
  refine ⟨?_, ?_, ?_⟩
  · intro h
    have hhundred := hundred_of_few_edits (by decide) (by decide) longName_edits
    have hequal := h longName otherLongName hhundred
    exact absurd hequal (by decide +kernel)
  · intro h
    have hhundred := h company companyName (by decide) (by decide) company_alike
    have hequal := equal_of_hundred (by decide) hhundred
    exact absurd hequal (by decide)
  · intro h
    have hhundred := h [0x20] [] rfl rfl (.front rfl)
    have hzero : calculateSimilarity [0x20] [] = 0 := rfl
    omega

end Docketra.NameSimilarity
