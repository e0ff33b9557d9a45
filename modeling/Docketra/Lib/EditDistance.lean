import Mathlib.Data.List.Basic
import Mathlib.Data.Nat.Notation
import Mathlib.Order.Bounds.Defs
import Mathlib.Order.MinMax
import Mathlib.Tactic.Common

/-!
# Edit distance

An edit inserts, deletes or substitutes one element of a list, at any place. `distance` is the
recursion on the first elements of two lists. One edit changes the distance from any list by at most
one (`distance_le_of_edit`), so that the distance is the least number of edits that turn one list
into the other (`isLeast_distance`). From this it is symmetric, and the same for the reversed lists.
-/

namespace EditDistance

variable {α : Type}

/-! ## Edits -/

/-- One edit. -/
inductive Edit : List α → List α → Prop
  | insertion (l : List α) (a : α) (r : List α) : Edit (l ++ r) (l ++ a :: r)
  | deletion (l : List α) (a : α) (r : List α) : Edit (l ++ a :: r) (l ++ r)
  | substitution (l : List α) (a b : α) (r : List α) : Edit (l ++ a :: r) (l ++ b :: r)

/-- A number of edits, one after the other. -/
inductive Edits : ℕ → List α → List α → Prop
  | none (s : List α) : Edits 0 s s
  | next {n : ℕ} {s t u : List α} : Edits n s t → Edit t u → Edits (n + 1) s u

variable {n m : ℕ} {s t u : List α}

theorem Edit.symm (h : Edit s t) : Edit t s := by
  cases h with
  | insertion l a r => exact .deletion l a r
  | deletion l a r => exact .insertion l a r
  | substitution l a b r => exact .substitution l b a r

theorem Edit.cons (a : α) (h : Edit s t) : Edit (a :: s) (a :: t) := by
  cases h with
  | insertion l b r => exact .insertion (a :: l) b r
  | deletion l b r => exact .deletion (a :: l) b r
  | substitution l b c r => exact .substitution (a :: l) b c r

theorem Edit.reverse (h : Edit s t) : Edit s.reverse t.reverse := by
  cases h with
  | insertion l a r =>
    rw [List.reverse_append, List.reverse_append, List.reverse_cons, List.append_assoc]
    exact .insertion r.reverse a l.reverse
  | deletion l a r =>
    rw [List.reverse_append, List.reverse_append, List.reverse_cons, List.append_assoc]
    exact .deletion r.reverse a l.reverse
  | substitution l a b r =>
    rw [List.reverse_append, List.reverse_append, List.reverse_cons, List.reverse_cons,
      List.append_assoc, List.append_assoc]
    exact .substitution r.reverse a b l.reverse

theorem Edits.first (h : Edit s t) (h' : Edits n t u) : Edits (n + 1) s u := by
  induction h' with
  | none t => exact .next (.none s) h
  | next _ hedit ih => exact .next (ih h) hedit

theorem Edits.symm (h : Edits n s t) : Edits n t s := by
  induction h with
  | none s => exact .none s
  | next _ hedit ih => exact ih.first hedit.symm

theorem Edits.cons (a : α) (h : Edits n s t) : Edits n (a :: s) (a :: t) := by
  induction h with
  | none s => exact .none _
  | next _ hedit ih => exact .next ih (hedit.cons a)

theorem Edits.reverse (h : Edits n s t) : Edits n s.reverse t.reverse := by
  induction h with
  | none s => exact .none _
  | next _ hedit ih => exact .next ih hedit.reverse

theorem edits_to_nil (s : List α) : Edits s.length s [] := by
  induction s with
  | nil => exact .none []
  | cons a s ih => exact ih.first (.deletion [] a s)

/-! ## The distance -/

variable [DecidableEq α]

/-- What it costs to have one element in the place of another. -/
def cost (a b : α) : ℕ := if a = b then 0 else 1

/-- The distance: the least of a deletion, an insertion and a substitution at the front. -/
def distance : List α → List α → ℕ
  | [], t => t.length
  | a :: s, [] => (a :: s).length
  | a :: s, b :: t =>
    min (min (distance s (b :: t) + 1) (distance (a :: s) t + 1)) (distance s t + cost a b)

theorem distance_nil_left (t : List α) : distance [] t = t.length := by rw [distance]

theorem distance_nil_right (s : List α) : distance s [] = s.length := by
  cases s with
  | nil => rw [distance]
  | cons a s => rw [distance]

theorem distance_cons_cons (a b : α) (s t : List α) : distance (a :: s) (b :: t) =
    min (min (distance s (b :: t) + 1) (distance (a :: s) t + 1)) (distance s t + cost a b) := by
  rw [distance]

theorem cost_le_one (a b : α) : cost a b ≤ 1 := by
  unfold cost
  split_ifs
  · exact Nat.zero_le 1
  · exact Nat.le_refl 1

/-! ### There are as many edits -/

/-- The lists are turned into each other with as many edits as the distance. -/
theorem edits_distance (s t : List α) : Edits (distance s t) s t := by
  fun_induction distance s t with
  | case1 t => exact (edits_to_nil t).symm
  | case2 a s => exact edits_to_nil (a :: s)
  | case3 a s b t hdelete hinsert hsubstitute =>
    rcases min_choice (min (distance s (b :: t) + 1) (distance (a :: s) t + 1))
      (distance s t + cost a b) with h | h
    · rw [h]
      rcases min_choice (distance s (b :: t) + 1) (distance (a :: s) t + 1) with h' | h'
      · rw [h']
        exact hdelete.first (.deletion [] a s)
      · rw [h']
        exact .next hinsert (.insertion [] b t)
    · rw [h, cost]
      split_ifs with hab
      · rw [hab]
        exact hsubstitute.cons b
      · exact (hsubstitute.cons a).next (.substitution [] a b t)

/-! ### There are no fewer -/

theorem distance_cons_left_le (a : α) (s t : List α) :
    distance (a :: s) t ≤ distance s t + 1 := by
  cases t with
  | nil => exact Nat.le_of_eq (by rw [distance_nil_right, distance_nil_right, List.length_cons])
  | cons b t =>
    rw [distance_cons_cons]
    omega

theorem distance_insert_le (s : List α) (a : α) (t : List α) :
    distance s (a :: t) ≤ distance s t + 1 := by
  cases s with
  | nil => exact Nat.le_of_eq (by rw [distance_nil_left, distance_nil_left, List.length_cons])
  | cons b s =>
    rw [distance_cons_cons]
    omega

theorem distance_delete_le (s : List α) (a : α) (t : List α) :
    distance s t ≤ distance s (a :: t) + 1 := by
  induction s with
  | nil =>
    rw [distance_nil_left, distance_nil_left, List.length_cons]
    omega
  | cons b s ih =>
    have hcons := distance_cons_left_le b s t
    rw [distance_cons_cons]
    omega

theorem distance_substitute_le (s : List α) (a b : α) (t : List α) :
    distance s (b :: t) ≤ distance s (a :: t) + 1 := by
  induction s with
  | nil =>
    rw [distance_nil_left, distance_nil_left, List.length_cons, List.length_cons]
    omega
  | cons c s ih =>
    have hcost := cost_le_one c b
    rw [distance_cons_cons, distance_cons_cons]
    omega

/-- Where an edit changes the distance by at most one, so it does behind one more element. -/
theorem distance_behind_le {t u : List α} (h : ∀ s, distance s u ≤ distance s t + 1) (a : α)
    (s : List α) : distance s (a :: u) ≤ distance s (a :: t) + 1 := by
  induction s with
  | nil =>
    have hnil := h []
    rw [distance_nil_left, distance_nil_left] at hnil ⊢
    rw [List.length_cons, List.length_cons]
    omega
  | cons b s ih =>
    have hsame := h s
    have hcons := h (b :: s)
    rw [distance_cons_cons, distance_cons_cons]
    omega

/-- One edit changes the distance from a list by at most one. -/
theorem distance_le_of_edit (h : Edit t u) (s : List α) : distance s u ≤ distance s t + 1 := by
  have hfront : ∀ {t u : List α}, (∀ s, distance s u ≤ distance s t + 1) →
      ∀ l s, distance s (l ++ u) ≤ distance s (l ++ t) + 1 := by
    intro t u htu l
    induction l with
    | nil => exact htu
    | cons a l ih => exact distance_behind_le ih a
  cases h with
  | insertion l a r => exact hfront (fun s => distance_insert_le s a r) l s
  | deletion l a r => exact hfront (fun s => distance_delete_le s a r) l s
  | substitution l a b r => exact hfront (fun s => distance_substitute_le s a b r) l s

theorem distance_self (s : List α) : distance s s = 0 := by
  induction s with
  | nil => rw [distance_nil_left, List.length_nil]
  | cons a s ih =>
    rw [distance_cons_cons, ih, cost, if_pos rfl]
    omega

/-- The distance is no more than the number of edits. -/
theorem distance_le_of_edits (h : Edits n s t) : distance s t ≤ n := by
  induction h with
  | none s => exact Nat.le_of_eq (distance_self s)
  | next _ hedit ih => exact (distance_le_of_edit hedit _).trans (Nat.succ_le_succ ih)

/-- The distance is the least number of edits. -/
theorem isLeast_distance (s t : List α) : IsLeast {n | Edits n s t} (distance s t) :=
  ⟨edits_distance s t, fun _ h => distance_le_of_edits h⟩

theorem distance_comm (s t : List α) : distance s t = distance t s :=
  Nat.le_antisymm (distance_le_of_edits (edits_distance t s).symm)
    (distance_le_of_edits (edits_distance s t).symm)

theorem distance_reverse (s t : List α) : distance s.reverse t.reverse = distance s t := by
  refine Nat.le_antisymm (distance_le_of_edits (edits_distance s t).reverse) ?_
  have h := distance_le_of_edits (edits_distance s.reverse t.reverse).reverse
  rwa [List.reverse_reverse, List.reverse_reverse] at h

theorem distance_eq_zero_iff (s t : List α) : distance s t = 0 ↔ s = t := by
  constructor
  · intro h
    have hedits := edits_distance s t
    rw [h] at hedits
    cases hedits
    rfl
  · rintro rfl
    exact distance_self s

/-- No more edits are needed than there are places. -/
theorem distance_le_max (s t : List α) : distance s t ≤ max s.length t.length := by
  fun_induction distance s t with
  | case1 t => exact Nat.le_max_right _ _
  | case2 a s => exact Nat.le_max_left _ _
  | case3 a s b t hdelete hinsert hsubstitute =>
    have hcost := cost_le_one a b
    rw [List.length_cons, List.length_cons]
    omega

end EditDistance
