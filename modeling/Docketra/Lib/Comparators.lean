import Mathlib.Data.List.Perm.Basic
import Mathlib.Data.Int.Order.Basic

/-!
# The first of a sorted list

A sort takes a comparator: a function to the integers that is negative where its first argument goes
before its second, and positive where it goes after. The sort is stable, and its result is determined
where the comparator is consistent (`Consistent`). The comparators by a list of keys are
(`consistent_byKeys`), and the list is then ordered by the lexicographic order of the keys.

The head of the sorted list is an element that no other goes before (`le_of_head`), and two orders of
one list give heads that the comparator does not tell apart (`compare_eq_zero_of_perm`).
-/

namespace Comparators

variable {α : Type}

/-- The sort by a comparator. -/
def sort (compare : α → α → Int) (l : List α) : List α :=
  l.mergeSort fun a b => decide (compare a b ≤ 0)

/-- What a sort asks of its comparator: a total preorder, of which the sign is the side. -/
structure Consistent (compare : α → α → Int) : Prop where
  swap : ∀ a b, 0 ≤ compare a b ↔ compare b a ≤ 0
  trans : ∀ a b c, compare a b ≤ 0 → compare b c ≤ 0 → compare a c ≤ 0

theorem Consistent.total {compare : α → α → Int} (h : Consistent compare) (a b : α) :
    compare a b ≤ 0 ∨ compare b a ≤ 0 := by
  have hswap := h.swap a b
  omega

theorem Consistent.eq_zero_iff {compare : α → α → Int} (h : Consistent compare) (a b : α) :
    compare a b = 0 ↔ compare a b ≤ 0 ∧ compare b a ≤ 0 := by
  have hswap := h.swap a b
  omega

/-! ## Keys -/

/-- The comparator that puts the greater key first. -/
def descending (key : α → Int) (a b : α) : Int := key b - key a

/-- The second comparator, where the first makes no difference. -/
def thenBy (first second : α → α → Int) (a b : α) : Int :=
  if first a b ≠ 0 then first a b else second a b

/-- The comparator by the keys of a list, one after the other. -/
def byKeys : List (α → Int) → α → α → Int
  | [] => fun _ _ => 0
  | key :: keys => thenBy (descending key) (byKeys keys)

/-- The lexicographic order of the keys. -/
def LexLe : List (α → Int) → α → α → Prop
  | [], _, _ => True
  | key :: keys, a, b => key a < key b ∨ key a = key b ∧ LexLe keys a b

/-- The two have the same keys. -/
def SameKeys (keys : List (α → Int)) (a b : α) : Prop := ∀ key ∈ keys, key a = key b

theorem consistent_descending (key : α → Int) : Consistent (descending key) where
  swap a b := by
    simp only [descending]
    omega
  trans a b c hab hbc := by
    simp only [descending] at *
    omega

theorem thenBy_le_zero_iff (first second : α → α → Int) (a b : α) :
    thenBy first second a b ≤ 0 ↔ first a b < 0 ∨ first a b = 0 ∧ second a b ≤ 0 := by
  unfold thenBy
  split_ifs with h <;> omega

theorem zero_le_thenBy_iff (first second : α → α → Int) (a b : α) :
    0 ≤ thenBy first second a b ↔ 0 < first a b ∨ first a b = 0 ∧ 0 ≤ second a b := by
  unfold thenBy
  split_ifs with h <;> omega

theorem consistent_thenBy {first second : α → α → Int} (h : Consistent first)
    (h' : Consistent second) : Consistent (thenBy first second) where
  swap a b := by
    rw [thenBy_le_zero_iff, zero_le_thenBy_iff]
    have hab := h.swap a b
    have hba := h.swap b a
    have hsecond := h'.swap a b
    omega
  trans a b c hab hbc := by
    rw [thenBy_le_zero_iff] at *
    have hac := h.trans a b c (by omega) (by omega)
    rcases Int.lt_or_eq_of_le hac with hlt | heq
    · exact .inl hlt
    · -- The first comparator tells none of the three apart.
      have hca : first c a ≤ 0 := (h.swap a c).mp (by omega)
      have hba := h.trans b c a (by omega) hca
      have hcb := h.trans c a b hca (by omega)
      have hswapab := h.swap a b
      have hswapbc := h.swap b c
      exact .inr ⟨heq, h'.trans a b c (by omega) (by omega)⟩

theorem consistent_byKeys (keys : List (α → Int)) : Consistent (byKeys keys) := by
  induction keys with
  | nil => exact ⟨fun _ _ => Iff.rfl, fun _ _ _ _ _ => le_refl 0⟩
  | cons key keys ih => exact consistent_thenBy (consistent_descending key) ih

/-- By its keys, one goes before the other when its keys are the greater. -/
theorem byKeys_le_zero_iff (keys : List (α → Int)) (a b : α) :
    byKeys keys a b ≤ 0 ↔ LexLe keys b a := by
  induction keys with
  | nil => simp [byKeys, LexLe]
  | cons key keys ih =>
    rw [byKeys, thenBy_le_zero_iff, LexLe, ih, descending]
    constructor
    · rintro (h | ⟨h, hlex⟩)
      · exact .inl (by omega)
      · exact .inr ⟨by omega, hlex⟩
    · rintro (h | ⟨h, hlex⟩)
      · exact .inl (by omega)
      · exact .inr ⟨by omega, hlex⟩

theorem byKeys_eq_zero_iff (keys : List (α → Int)) (a b : α) :
    byKeys keys a b = 0 ↔ SameKeys keys a b := by
  induction keys with
  | nil => simp [byKeys, SameKeys]
  | cons key keys ih =>
    rw [SameKeys, List.forall_mem_cons, ← SameKeys, ← ih, byKeys]
    simp only [thenBy, descending]
    split_ifs with h <;> omega

/-! ## The head -/

variable {compare : α → α → Int} {l l' : List α} {a b : α}

theorem head?_sort_eq_none_iff : (sort compare l).head? = none ↔ l = [] := by
  rw [List.head?_eq_none_iff, sort, ← List.length_eq_zero_iff, List.length_mergeSort,
    List.length_eq_zero_iff]

theorem mem_of_head (h : (sort compare l).head? = some a) : a ∈ l :=
  List.mem_mergeSort.mp (List.mem_of_head? h)

/-- Nothing of the list goes before the head. -/
theorem le_of_head (hcompare : Consistent compare) (h : (sort compare l).head? = some a)
    (hb : b ∈ l) : compare a b ≤ 0 := by
  have hsorted : (sort compare l).Pairwise fun a b => decide (compare a b ≤ 0) = true := by
    apply List.pairwise_mergeSort
    · intro a b c hab hbc
      exact decide_eq_true (hcompare.trans a b c (of_decide_eq_true hab) (of_decide_eq_true hbc))
    · intro a b
      simpa using hcompare.total a b
  have hmem : b ∈ sort compare l := List.mem_mergeSort.mpr hb
  obtain ⟨tail, htail⟩ := List.head?_eq_some_iff.mp h
  rw [htail] at hsorted hmem
  rcases List.mem_cons.mp hmem with rfl | hmem
  · have hself := hcompare.total b b
    omega
  · exact of_decide_eq_true (List.rel_of_pairwise_cons hsorted hmem)

/-- The heads of two orders of one list are the same to the comparator. -/
theorem compare_eq_zero_of_perm (hcompare : Consistent compare) (hperm : l.Perm l')
    (h : (sort compare l).head? = some a) (h' : (sort compare l').head? = some b) :
    compare a b = 0 :=
  (hcompare.eq_zero_iff a b).mpr ⟨le_of_head hcompare h (hperm.mem_iff.mpr (mem_of_head h')),
    le_of_head hcompare h' (hperm.mem_iff.mp (mem_of_head h))⟩

end Comparators
