import Mathlib.Data.List.Basic

/-!
# The first of each key

A loop goes through a list and keeps what is wanted, unless something that was kept before has the
same key. What is kept is what was there, and of each other key the first that is wanted
(`mem_keep_iff`). Under one key there is at most what was there, or one element more
(`filter_keep`).
-/

namespace FirstOfKey

variable {α κ : Type} (key : α → κ) (wanted : α → Bool)

/-- What is kept after the list, with what was kept before it. -/
def keep [DecidableEq κ] : List α → List α → List α
  | kept, [] => kept
  | kept, a :: as =>
    if kept.any fun b => key b = key a then keep kept as
    else if wanted a then keep (kept ++ [a]) as
    else keep kept as

/-- The element is wanted, and the first of the list with its key that is. -/
def First (kept l : List α) (a : α) : Prop :=
  (∀ b ∈ kept, key b ≠ key a) ∧
    ∃ before after, l = before ++ a :: after ∧ wanted a = true ∧
      ∀ b ∈ before, wanted b = true → key b ≠ key a

variable {key wanted}

theorem first_nil {kept : List α} {a : α} : ¬ First key wanted kept [] a := by
  rintro ⟨-, before, after, h, -⟩
  exact absurd h.symm (List.append_ne_nil_of_right_ne_nil before (List.cons_ne_nil a after))

/-- An element that is passed over, or not wanted, is the first of its key no more than others. -/
theorem first_cons {kept l : List α} {a b : α}
    (h : (∃ c ∈ kept, key c = key b) ∨ wanted b = false) :
    First key wanted kept (b :: l) a ↔ First key wanted kept l a := by
  constructor
  · rintro ⟨hkept, before, after, hl, hwanted, hbefore⟩
    refine ⟨hkept, ?_⟩
    rcases List.append_eq_cons_iff.mp hl.symm with ⟨-, hhead⟩ | ⟨rest, hrest, htail⟩
    · -- the element itself is not kept
      have hab := (List.cons.inj hhead).1
      rcases h with ⟨c, hc, hkey⟩ | hnot
      · exact absurd hkey (hab ▸ hkept c hc)
      · rw [← hab, hwanted] at hnot
        cases hnot
    · exact ⟨rest, after, htail, hwanted, fun c hc => hbefore c (hrest ▸ List.mem_cons_of_mem _ hc)⟩
  · rintro ⟨hkept, before, after, hl, hwanted, hbefore⟩
    refine ⟨hkept, b :: before, after, by rw [hl]; rfl, hwanted, ?_⟩
    intro c hc hcwanted
    rcases List.mem_cons.mp hc with hcb | hc
    · rcases h with ⟨d, hd, hkey⟩ | hnot
      · rw [hcb, ← hkey]
        exact hkept d hd
      · rw [hcb, hnot] at hcwanted
        cases hcwanted
    · exact hbefore c hc hcwanted

/-- An element that is kept takes its key from those that follow. -/
theorem first_cons_of_kept {kept l : List α} {a b : α} (hnew : ∀ c ∈ kept, key c ≠ key b)
    (hwanted : wanted b = true) :
    First key wanted kept (b :: l) a ↔ a = b ∨ First key wanted (kept ++ [b]) l a := by
  constructor
  · rintro ⟨hkept, before, after, hl, hawanted, hbefore⟩
    rcases List.append_eq_cons_iff.mp hl.symm with ⟨-, hhead⟩ | ⟨rest, hrest, htail⟩
    · exact .inl (List.cons.inj hhead).1
    · have hb := hbefore b (hrest ▸ List.mem_cons_self) hwanted
      refine .inr ⟨?_, rest, after, htail, hawanted,
        fun c hc => hbefore c (hrest ▸ List.mem_cons_of_mem _ hc)⟩
      intro c hc
      rcases List.mem_append.mp hc with hc | hc
      · exact hkept c hc
      · rw [List.mem_singleton.mp hc]
        exact hb
  · rintro (rfl | ⟨hkept, before, after, hl, hawanted, hbefore⟩)
    · exact ⟨hnew, [], l, rfl, hwanted, fun c hc => absurd hc List.not_mem_nil⟩
    · refine ⟨fun c hc => hkept c (List.mem_append_left _ hc), b :: before, after,
        by rw [hl]; rfl, hawanted, ?_⟩
      intro c hc hcwanted
      rcases List.mem_cons.mp hc with rfl | hc
      · exact hkept c (List.mem_append_right _ (List.mem_singleton_self c))
      · exact hbefore c hc hcwanted

/-- What is kept is what was there, and the first of each other key. -/
theorem mem_keep_iff [DecidableEq κ] {kept l : List α} {a : α} :
    a ∈ keep key wanted kept l ↔ a ∈ kept ∨ First key wanted kept l a := by
  induction l generalizing kept with
  | nil => exact (or_iff_left first_nil).symm
  | cons b l ih =>
    unfold keep
    split_ifs with hseen hwanted
    · have hkey : ∃ c ∈ kept, key c = key b := by
        simpa only [List.any_eq_true, decide_eq_true_eq] using hseen
      rw [ih, first_cons (.inl hkey)]
    · have hnew : ∀ c ∈ kept, key c ≠ key b := by
        simpa only [List.any_eq_true, decide_eq_true_eq, not_exists, not_and] using hseen
      rw [ih, first_cons_of_kept hnew hwanted, List.mem_append, List.mem_singleton, or_assoc]
    · rw [ih, first_cons (.inr (Bool.eq_false_iff.mpr hwanted))]

/-- Nothing is added of a list in which nothing is wanted. -/
theorem keep_of_unwanted [DecidableEq κ] {kept l : List α} (h : ∀ a ∈ l, wanted a = false) :
    keep key wanted kept l = kept := by
  induction l with
  | nil => rfl
  | cons b l ih =>
    have hrest := ih fun a ha => h a (List.mem_cons_of_mem b ha)
    have hb : wanted b ≠ true := Bool.eq_false_iff.mp (h b List.mem_cons_self)
    unfold keep
    rw [if_neg hb, ite_self, hrest]

/-- Under a key is what was there, or else the first that is wanted. -/
theorem filter_keep [DecidableEq κ] (kept l : List α) (k : κ) :
    (keep key wanted kept l).filter (fun a => key a = k) =
      if ∃ a ∈ kept, key a = k then kept.filter (fun a => key a = k)
      else (l.find? fun a => wanted a && key a = k).toList := by
  induction l generalizing kept with
  | nil =>
    unfold keep
    split_ifs with hkept
    · rfl
    · exact List.filter_eq_nil_iff.mpr fun a ha hkey => hkept ⟨a, ha, of_decide_eq_true hkey⟩
  | cons b l ih =>
    have hskip (h : (wanted b && decide (key b = k)) = false) :
        (b :: l).find? (fun a => wanted a && key a = k) =
          l.find? fun a => wanted a && key a = k :=
      List.find?_cons_of_neg (Bool.eq_false_iff.mp h)
    rw [keep]
    by_cases hseen : (kept.any fun c => key c = key b) = true
    · -- an element of another key, or of one that is kept already
      rw [if_pos hseen, ih]
      split_ifs with hkept
      · rfl
      · have hb : key b ≠ k := by
          rintro rfl
          obtain ⟨c, hc, hkey⟩ := List.any_eq_true.mp hseen
          exact hkept ⟨c, hc, of_decide_eq_true hkey⟩
        rw [hskip (by rw [decide_eq_false hb, Bool.and_false])]
    rw [if_neg hseen]
    by_cases hwanted : wanted b = true
    · rw [if_pos hwanted, ih]
      by_cases hb : key b = k
      · have hnew : ¬∃ a ∈ kept, key a = k := by
          rintro ⟨a, ha, hkey⟩
          exact hseen (List.any_eq_true.mpr ⟨a, ha, decide_eq_true (hkey.trans hb.symm)⟩)
        have hnone : kept.filter (fun a => key a = k) = [] :=
          List.filter_eq_nil_iff.mpr fun a ha hkey => hnew ⟨a, ha, of_decide_eq_true hkey⟩
        rw [if_neg hnew, if_pos ⟨b, List.mem_append_right _ (List.mem_singleton_self b), hb⟩,
          List.filter_append, hnone,
          List.find?_cons_of_pos (by rw [hwanted, decide_eq_true hb, Bool.and_self])]
        simp [hb]
      · have hiff : (∃ a ∈ kept ++ [b], key a = k) ↔ ∃ a ∈ kept, key a = k := by
          simp only [List.mem_append, List.mem_singleton, or_and_right, exists_or, exists_eq_left,
            hb, or_false]
        have hfilter : (kept ++ [b]).filter (fun a => key a = k) =
            kept.filter fun a => key a = k := by
          rw [List.filter_append, List.filter_cons_of_neg (by simpa using hb), List.filter_nil,
            List.append_nil]
        rw [if_congr hiff rfl rfl, hfilter, hskip (by rw [decide_eq_false hb, Bool.and_false])]
    · rw [if_neg hwanted, ih, hskip (by rw [Bool.eq_false_iff.mpr hwanted, Bool.false_and])]

/-- A list after the other is kept in one go. -/
theorem keep_append [DecidableEq κ] (kept l l' : List α) :
    keep key wanted kept (l ++ l') = keep key wanted (keep key wanted kept l) l' := by
  induction l generalizing kept with
  | nil => rfl
  | cons b l ih =>
    rw [List.cons_append, keep, keep]
    split_ifs <;> exact ih _

end FirstOfKey
