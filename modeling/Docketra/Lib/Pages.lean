import Mathlib.Data.List.Basic

/-!
# Pages of a list

A page of a list is a window of a fixed size. The pages up to a number are the beginning of the list,
and as soon as there are enough of them the whole list, each item once (`flatMap_page_eq_self`).
-/

namespace Pages

variable {α : Type*}

/-- The page after `skipped` full ones. -/
def page (size skipped : ℕ) (l : List α) : List α := (l.drop (skipped * size)).take size

/-- The first pages are the beginning of the list. -/
theorem flatMap_page (size n : ℕ) (l : List α) :
    (List.range n).flatMap (fun skipped => page size skipped l) = l.take (n * size) := by
  induction n with
  | zero => rw [Nat.zero_mul, List.take_zero, List.range_zero, List.flatMap_nil]
  | succ n ih =>
    rw [List.range_succ, List.flatMap_append, ih, List.flatMap_singleton, Nat.succ_mul,
      List.take_add]
    rfl

/-- Enough pages are the whole list. -/
theorem flatMap_page_eq_self {size n : ℕ} {l : List α} (h : l.length ≤ n * size) :
    (List.range n).flatMap (fun skipped => page size skipped l) = l := by
  rw [flatMap_page, List.take_of_length_le h]

/-- There are items after a page exactly when the list is longer than what was skipped and the
page. -/
theorem skipped_add_length_lt_iff (size skipped : ℕ) (l : List α) :
    skipped * size + (page size skipped l).length < l.length ↔
      (skipped + 1) * size < l.length := by
  rw [page, List.length_take, List.length_drop, Nat.succ_mul]
  omega

end Pages
