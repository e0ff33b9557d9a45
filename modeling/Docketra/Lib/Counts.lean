import Mathlib.Data.List.Basic

/-!
# Counts of two conditions

The same elements are counted by two conditions. The counts are equal exactly when as many elements
meet the first alone as the second alone (`countP_eq_iff`), and where the first condition implies the
second, exactly when no element meets the second alone (`countP_eq_iff_of_imp`).
-/

namespace Counts

variable {α : Type*} (p q : α → Bool)

/-- The elements of a count that meet another condition, and those that do not. -/
theorem countP_split (l : List α) :
    l.countP p = l.countP (fun x => p x && q x) + l.countP (fun x => p x && !q x) := by
  rw [List.countP_eq_countP_filter_add l p q, List.countP_filter, List.countP_filter]

/-- Two counts are equal exactly when as many elements meet the one condition alone as the other. -/
theorem countP_eq_iff (l : List α) :
    l.countP p = l.countP q ↔
      l.countP (fun x => p x && !q x) = l.countP (fun x => q x && !p x) := by
  have hp := countP_split p q l
  have hq := countP_split q p l
  have hboth : l.countP (fun x => q x && p x) = l.countP (fun x => p x && q x) :=
    List.countP_congr fun x _ => by rw [Bool.and_comm]
  omega

variable {p q}

/-- Where one condition implies the other, the counts are equal exactly when no element meets the
weaker one alone. -/
theorem countP_eq_iff_of_imp {l : List α} (h : ∀ x ∈ l, p x = true → q x = true) :
    l.countP p = l.countP q ↔ ∀ x ∈ l, q x = true → p x = true := by
  have hnone : l.countP (fun x => p x && !q x) = 0 := by
    rw [List.countP_eq_zero]
    intro x hx hboth
    have hp := (Bool.and_eq_true_iff.mp hboth).1
    rw [hp, h x hx hp] at hboth
    cases hboth
  rw [countP_eq_iff, hnone, eq_comm, List.countP_eq_zero]
  refine forall₂_congr fun x _ => ?_
  cases q x <;> cases p x <;> decide

end Counts
