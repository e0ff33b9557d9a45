import Mathlib.Data.List.Nodup

/-!
# Records that are changed or added by key

An upsert changes the first record of a key, or adds a record where there is none. A list grows when
each of its records is carried over, in its place, to one that is related to it, and others may
follow (`Grows`); upserts that carry records over make a list grow (`grows_upsert`). What is found
under a key afterwards is determined by what was found before (`find_upsert`), and a list in which
the record is as it should be is not changed (`upsert_settled`).
-/

namespace Upserts

variable {α κ : Type} [DecidableEq κ] (key : α → κ)

/-- The first record of a key. -/
def find (k : κ) (l : List α) : Option α := l.find? fun a => key a = k

/-- The first record of a key is changed. -/
def change (k : κ) (f : α → α) : List α → List α
  | [] => []
  | a :: l => if key a = k then f a :: l else a :: change k f l

/-- The first record of a key is changed; where there is none, one is added. -/
def upsert (k : κ) (f : α → α) (fresh : α) (l : List α) : List α :=
  if (find key k l).isSome then change key k f l else l ++ [fresh]

/-- Each record of a list is carried over, and others may follow. -/
inductive Grows (R : α → α → Prop) : List α → List α → Prop where
  | added (more : List α) : Grows R [] more
  | kept {a b : α} {l m : List α} : R a b → Grows R l m → Grows R (a :: l) (b :: m)

section grows

omit [DecidableEq κ]

variable {R : α → α → Prop}

theorem Grows.refl (h : ∀ a, R a a) : ∀ l, Grows R l l
  | [] => .added []
  | a :: l => .kept (h a) (Grows.refl h l)

theorem Grows.append (h : ∀ a, R a a) (more : List α) : ∀ l, Grows R l (l ++ more)
  | [] => .added more
  | a :: l => .kept (h a) (Grows.append h more l)

theorem Grows.trans (htrans : ∀ a b c, R a b → R b c → R a c) {l m n : List α}
    (h : Grows R l m) (h' : Grows R m n) : Grows R l n := by
  induction h generalizing n with
  | added more => exact .added n
  | kept hab _ ih =>
    cases h' with
    | kept hbc h' => exact .kept (htrans _ _ _ hab hbc) (ih h')

/-- Each record is carried over. -/
theorem Grows.mem {l m : List α} (h : Grows R l m) {a : α} (ha : a ∈ l) : ∃ b ∈ m, R a b := by
  induction h with
  | added more => exact nomatch ha
  | kept hab _ ih =>
    rcases List.mem_cons.mp ha with rfl | ha
    · exact ⟨_, List.mem_cons_self, hab⟩
    · obtain ⟨b, hb, hR⟩ := ih ha
      exact ⟨b, List.mem_cons_of_mem _ hb, hR⟩

end grows

variable {key} {k : κ} {f : α → α} {fresh : α}

theorem upsert_of_some {l : List α} {a : α} (h : find key k l = some a) :
    upsert key k f fresh l = change key k f l := by
  unfold upsert
  rw [h]
  rfl

theorem upsert_of_none {l : List α} (h : find key k l = none) :
    upsert key k f fresh l = l ++ [fresh] := by
  unfold upsert
  rw [h]
  rfl

theorem mem_of_find {a : α} {l : List α} (h : find key k l = some a) : a ∈ l ∧ key a = k :=
  ⟨List.mem_of_find?_eq_some h, by simpa using List.find?_some h⟩

theorem find_eq_none {l : List α} : find key k l = none ↔ ∀ a ∈ l, key a ≠ k := by
  unfold find
  simp only [List.find?_eq_none, decide_eq_true_eq]

theorem find_cons (a : α) (l : List α) :
    find key k (a :: l) = if key a = k then some a else find key k l := by
  unfold find
  rw [List.find?_cons]
  split_ifs with h
  · rw [decide_eq_true h]
  · rw [decide_eq_false h]

/-- A record of a key is the one that is found, where the keys are different. -/
theorem find_eq_some_of_mem {l : List α} (hnodup : (l.map key).Nodup) {a : α} (ha : a ∈ l)
    (hk : key a = k) : find key k l = some a := by
  cases h : find key k l with
  | none => exact absurd hk (find_eq_none.mp h a ha)
  | some b =>
    obtain ⟨hb, hkey⟩ := mem_of_find h
    rw [List.inj_on_of_nodup_map hnodup hb ha (hkey.trans hk.symm)]

/-- What is found after a change that keeps the key. -/
theorem find_change (hkey : ∀ a, key a = k → key (f a) = k) (k' : κ) (l : List α) :
    find key k' (change key k f l) =
      if k' = k then (find key k l).map f else find key k' l := by
  induction l with
  | nil => split_ifs <;> rfl
  | cons a l ih =>
    unfold change
    by_cases ha : key a = k
    · rw [if_pos ha, find_cons, hkey a ha, find_cons, find_cons, if_pos ha, ha]
      by_cases hk : k' = k
      · rw [if_pos hk.symm, if_pos hk]
        rfl
      · rw [if_neg (Ne.symm hk), if_neg hk, if_neg (Ne.symm hk)]
    · rw [if_neg ha, find_cons, ih, find_cons, find_cons, if_neg ha]
      by_cases hk : k' = k
      · rw [if_pos hk, if_pos hk, if_neg (fun h => ha (h.trans hk))]
      · rw [if_neg hk, if_neg hk]

theorem find_append (l : List α) (a : α) :
    find key k (l ++ [a]) = (find key k l).or (if key a = k then some a else none) := by
  unfold find
  rw [List.find?_append, List.find?_singleton]
  congr 1
  split_ifs with h h' h'
  · rfl
  · exact absurd (of_decide_eq_true h) h'
  · exact absurd (decide_eq_true h') h
  · rfl

/-- What is found after an upsert. -/
theorem find_upsert (hkey : ∀ a, key a = k → key (f a) = k) (hfresh : key fresh = k) (k' : κ)
    (l : List α) : find key k' (upsert key k f fresh l) =
      if k' = k then some ((find key k l).elim fresh f) else find key k' l := by
  cases h : find key k l with
  | some a =>
    rw [upsert_of_some h, find_change hkey, h]
    rfl
  | none =>
    rw [upsert_of_none h, find_append, hfresh]
    by_cases hk : k' = k
    · rw [if_pos hk, if_pos hk.symm, hk, h]
      rfl
    · rw [if_neg hk, if_neg (Ne.symm hk), Option.or_none]

/-- A change that keeps the key keeps the keys of a list. -/
theorem map_change (hkey : ∀ a, key a = k → key (f a) = k) (l : List α) :
    (change key k f l).map key = l.map key := by
  induction l with
  | nil => rfl
  | cons a l ih =>
    unfold change
    split_ifs with ha
    · rw [List.map_cons, List.map_cons, hkey a ha, ha]
    · rw [List.map_cons, List.map_cons, ih]

theorem mem_change {l : List α} {a : α} (h : a ∈ change key k f l) :
    a ∈ l ∨ ∃ b, find key k l = some b ∧ a = f b := by
  induction l with
  | nil => exact .inl h
  | cons b l ih =>
    unfold change at h
    rw [find_cons]
    split_ifs at h ⊢ with hb
    · rcases List.mem_cons.mp h with rfl | h
      · exact .inr ⟨b, rfl, rfl⟩
      · exact .inl (List.mem_cons_of_mem _ h)
    · rcases List.mem_cons.mp h with rfl | h
      · exact .inl List.mem_cons_self
      · exact (ih h).imp_left (List.mem_cons_of_mem _)

/-- Where a record comes from after an upsert. -/
theorem mem_upsert {l : List α} {a : α} (h : a ∈ upsert key k f fresh l) :
    a ∈ l ∨ (∃ b, find key k l = some b ∧ a = f b) ∨ find key k l = none ∧ a = fresh := by
  cases hfind : find key k l with
  | some b =>
    rw [upsert_of_some hfind] at h
    have hmem := mem_change h
    rw [hfind] at hmem
    exact hmem.imp_right .inl
  | none =>
    rw [upsert_of_none hfind] at h
    rcases List.mem_append.mp h with h | h
    · exact .inl h
    · exact .inr (.inr ⟨rfl, List.mem_singleton.mp h⟩)

/-- A change that carries over the record that it finds makes a list grow. -/
theorem grows_change {R : α → α → Prop} (hrefl : ∀ a, R a a) {l : List α}
    (h : ∀ a, find key k l = some a → R a (f a)) : Grows R l (change key k f l) := by
  induction l with
  | nil => exact .added []
  | cons a l ih =>
    unfold change
    split_ifs with ha
    · exact .kept (h a (by rw [find_cons, if_pos ha])) (Grows.refl hrefl l)
    · exact .kept (hrefl a) (ih fun b hb => h b (by rw [find_cons, if_neg ha, hb]))

theorem grows_upsert {R : α → α → Prop} (hrefl : ∀ a, R a a) {l : List α}
    (h : ∀ a, find key k l = some a → R a (f a)) : Grows R l (upsert key k f fresh l) := by
  unfold upsert
  split_ifs
  · exact grows_change hrefl h
  · exact Grows.append hrefl [fresh] l

/-- A change leaves a list whose record is as it should be. -/
theorem change_settled {l : List α} (h : ∀ a, find key k l = some a → f a = a) :
    change key k f l = l := by
  induction l with
  | nil => rfl
  | cons a l ih =>
    unfold change
    split_ifs with ha
    · rw [h a (by rw [find_cons, if_pos ha])]
    · rw [ih fun b hb => h b (by rw [find_cons, if_neg ha, hb])]

theorem upsert_settled {l : List α} {a : α} (hfind : find key k l = some a) (h : f a = a) :
    upsert key k f fresh l = l := by
  rw [upsert_of_some hfind]
  refine change_settled fun b hb => ?_
  rw [← Option.some.inj (hfind.symm.trans hb)]
  exact h

end Upserts
