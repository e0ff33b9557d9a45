import Mathlib.Data.List.Perm.Basic
import Mathlib.Data.List.Nodup

/-!
# Lists by groups

The items of a list that have the same key are a group. Where every item has one of some different
keys, the groups of these keys are together the whole list, in another order (`groups_perm`), also
when each item brings others along (`flatMap_groups_perm`).
-/

namespace Groups

variable {α β κ : Type} [DecidableEq κ] (key : α → κ)

/-- The items of a key, in order. -/
def group (k : κ) (l : List α) : List α := l.filter fun a => key a = k

variable {key} {keys : List κ} {l : List α}

theorem mem_group {k : κ} {a : α} : a ∈ group key k l ↔ a ∈ l ∧ key a = k := by
  unfold group
  rw [List.mem_filter, decide_eq_true_iff]

/-- The group of one key is not changed when the items of another one are left out. -/
theorem group_filter_ne {k k' : κ} (h : k' ≠ k) :
    group key k' (l.filter fun a => !decide (key a = k)) = group key k' l := by
  unfold group
  rw [List.filter_filter]
  refine List.filter_congr fun a _ => ?_
  by_cases ha : key a = k'
  · have hne : key a ≠ k := fun heq => h (ha.symm.trans heq)
    rw [decide_eq_true ha, decide_eq_false hne]
    rfl
  · rw [decide_eq_false ha]
    rfl

/-- The groups of different keys that every item has one of are the whole list. -/
theorem groups_perm (hkeys : keys.Nodup) (h : ∀ a ∈ l, key a ∈ keys) :
    (keys.flatMap fun k => group key k l).Perm l := by
  induction keys generalizing l with
  | nil =>
    cases l with
    | nil => exact .nil
    | cons a l => exact nomatch h a List.mem_cons_self
  | cons k ks ih =>
    obtain ⟨hk, hks⟩ := List.nodup_cons.mp hkeys
    have hrest : (ks.flatMap fun k' => group key k' l) =
        ks.flatMap fun k' => group key k' (l.filter fun a => !decide (key a = k)) := by
      refine List.flatMap_congr fun k' hk' => (group_filter_ne ?_).symm
      rintro rfl
      exact hk hk'
    have hothers : ∀ a ∈ l.filter fun a => !decide (key a = k), key a ∈ ks := by
      intro a ha
      obtain ⟨hmem, hne⟩ := List.mem_filter.mp ha
      rcases List.mem_cons.mp (h a hmem) with heq | hin
      · rw [decide_eq_true heq] at hne
        exact absurd hne Bool.false_ne_true
      · exact hin
    rw [List.flatMap_cons, hrest]
    exact ((ih hks hothers).append_left _).trans (List.filter_append_perm _ l)

/-- The groups of different keys, with what each item brings along. -/
theorem flatMap_groups_perm (hkeys : keys.Nodup) (h : ∀ a ∈ l, key a ∈ keys) (f : α → List β) :
    (keys.flatMap fun k => (group key k l).flatMap f).Perm (l.flatMap f) := by
  rw [← List.flatMap_assoc]
  exact (groups_perm hkeys h).flatMap_right f

end Groups
