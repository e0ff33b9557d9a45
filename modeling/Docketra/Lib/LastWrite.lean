import Mathlib.Data.List.AList

/-!
# The last of several writes

Items are written one after another, each under its own key. What is under a key afterwards is the
last item that was written there (`lookup_foldl_insert`). A reference that is moved along with the
items follows them from key to key (`follow`), until it is at a key that no item left is moved from
(`follow_of_settled`).
-/

namespace LastWrite

variable {α κ ν : Type}

/-- The last item that is wanted. -/
def last (wanted : α → Bool) (l : List α) : Option α := l.reverse.find? wanted

theorem last_cons (wanted : α → Bool) (a : α) (l : List α) :
    last wanted (a :: l) = (last wanted l).or (if wanted a then some a else none) := by
  unfold last
  rw [List.reverse_cons, List.find?_append, List.find?_singleton]

theorem last_concat (wanted : α → Bool) (l : List α) (a : α) :
    last wanted (l ++ [a]) = if wanted a then some a else last wanted l := by
  unfold last
  rw [List.reverse_concat, List.find?_cons]
  cases wanted a <;> rfl

theorem mem_of_last {wanted : α → Bool} {a : α} {l : List α} (h : last wanted l = some a) :
    a ∈ l ∧ wanted a = true :=
  ⟨List.mem_reverse.1 (List.mem_of_find?_eq_some h), List.find?_some h⟩

/-- There is a last one as soon as there is one. -/
theorem exists_last {wanted : α → Bool} {a : α} {l : List α} (ha : a ∈ l)
    (hwanted : wanted a = true) : ∃ b, last wanted l = some b := by
  refine Option.isSome_iff_exists.1 ?_
  unfold last
  rw [List.find?_isSome]
  exact ⟨a, List.mem_reverse.2 ha, hwanted⟩

theorem exists_last_key [DecidableEq κ] (key : α → κ) {a : α} {k : κ} {l : List α} (ha : a ∈ l)
    (hk : key a = k) : ∃ b, last (fun b => key b = k) l = some b :=
  exists_last ha (decide_eq_true hk)

section writes

variable [DecidableEq κ] {key : α → κ} {value : α → ν}

/-- Under each key is the last item that was written there. -/
theorem lookup_foldl_insert (l : List α) (stored : AList fun _ : κ => ν) (k : κ) :
    (l.foldl (fun m a => m.insert (key a) (value a)) stored).lookup k =
      ((last (fun a => key a = k) l).map value).or (stored.lookup k) := by
  induction l generalizing stored with
  | nil => rfl
  | cons a l ih =>
    rw [List.foldl_cons, ih, last_cons]
    rcases last (fun a => decide (key a = k)) l with _ | b
    · by_cases hk : key a = k
      · rw [if_pos (decide_eq_true hk), ← hk, AList.lookup_insert]
        rfl
      · rw [if_neg (fun h => hk (of_decide_eq_true h)), AList.lookup_insert_ne (Ne.symm hk)]
        rfl
    · rfl

/-! ## References -/

/-- Where a reference ends when each item is moved from a key to another one in turn. -/
def follow (source target : α → κ) (l : List α) (k : κ) : κ :=
  l.foldl (fun k a => if k = source a then target a else k) k

variable {source target : α → κ}

theorem follow_cons (a : α) (l : List α) (k : κ) :
    follow source target (a :: l) k =
      follow source target l (if k = source a then target a else k) := rfl

/-- A reference stays when each item that is moved from its key is moved to its key. -/
theorem follow_of_settled {l : List α} {k : κ} (h : ∀ a ∈ l, source a = k → target a = k) :
    follow source target l k = k := by
  induction l with
  | nil => rfl
  | cons a l ih =>
    have hstep : (if k = source a then target a else k) = k := by
      split_ifs with hk
      · exact h a List.mem_cons_self hk.symm
      · rfl
    rw [follow_cons, hstep]
    exact ih fun b hb => h b (List.mem_cons_of_mem a hb)

/-- A reference stays when no item is moved from its key. -/
theorem follow_of_not_mem {l : List α} {k : κ} (h : ∀ a ∈ l, source a ≠ k) :
    follow source target l k = k :=
  follow_of_settled fun a ha hk => absurd hk (h a ha)

/-- A reference to an item goes where the item is moved, and on from there. -/
theorem follow_split {before after : List α} {a : α}
    (h : ∀ b ∈ before, source b ≠ source a) :
    follow source target (before ++ a :: after) (source a) =
      follow source target after (target a) := by
  have hbefore : follow source target before (source a) = source a := follow_of_not_mem h
  unfold follow at hbefore ⊢
  rw [List.foldl_append, hbefore, List.foldl_cons, if_pos rfl]

end writes

end LastWrite
