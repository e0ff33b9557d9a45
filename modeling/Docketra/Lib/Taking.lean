import Mathlib.Data.List.Nodup

/-!
# Taking the first of each key

A list is gone through in order, and an element is taken when it is accepted and no key like its own
is there yet. Its key is there from then on. All that are wanted are taken exactly when all of them
are accepted, and their keys are fresh and distinct (`taken_eq_map_iff`).
-/

namespace Taking

variable {α κ : Type*} [DecidableEq κ] (key : α → κ) (accepts : α → Bool)

/-- Which elements are taken, where the keys in `seen` are there already. -/
def taken : List α → List κ → List Bool
  | [], _ => []
  | x :: xs, seen =>
    if accepts x = true ∧ key x ∉ seen then true :: taken xs (key x :: seen)
    else false :: taken xs seen

variable {key accepts}

theorem taken_cons_of_fresh {x : α} {xs : List α} {seen : List κ} (haccepts : accepts x = true)
    (hfresh : key x ∉ seen) :
    taken key accepts (x :: xs) seen = true :: taken key accepts xs (key x :: seen) :=
  if_pos ⟨haccepts, hfresh⟩

theorem taken_cons_of_not {x : α} {xs : List α} {seen : List κ}
    (h : ¬(accepts x = true ∧ key x ∉ seen)) :
    taken key accepts (x :: xs) seen = false :: taken key accepts xs seen :=
  if_neg h

theorem length_taken : ∀ (l : List α) (seen : List κ), (taken key accepts l seen).length = l.length
  | [], _ => rfl
  | x :: xs, seen => by
    by_cases h : accepts x = true ∧ key x ∉ seen
    · rw [taken_cons_of_fresh h.1 h.2, List.length_cons, length_taken xs, List.length_cons]
    · rw [taken_cons_of_not h, List.length_cons, length_taken xs, List.length_cons]

/-- Two lists of truth values are one list when they are as long, and true at the same places. -/
theorem eq_of_true_iff {l m : List Bool} (hlength : l.length = m.length)
    (h : ∀ i : ℕ, l[i]? = some true ↔ m[i]? = some true) : l = m := by
  refine List.ext_getElem hlength fun i hl hm => ?_
  have hi := h i
  rw [List.getElem?_eq_getElem hl, List.getElem?_eq_getElem hm, Option.some.injEq,
    Option.some.injEq] at hi
  exact Bool.eq_iff_iff.mpr hi

/-- All that are wanted are taken exactly when they are accepted, and their keys are fresh and
distinct. -/
theorem taken_eq_map_iff {wanted : α → Bool} (hwanted : ∀ x, accepts x = true → wanted x = true)
    {l : List α} {seen : List κ} : taken key accepts l seen = l.map wanted ↔
      (∀ x ∈ l, wanted x = true → accepts x = true ∧ key x ∉ seen) ∧
        ((l.filter wanted).map key).Nodup := by
  induction l generalizing seen with
  | nil => simp [taken]
  | cons x xs ih =>
    by_cases hx : wanted x = true
    · rw [List.filter_cons_of_pos hx, List.map_cons, List.map_cons, List.nodup_cons, hx]
      by_cases htake : accepts x = true ∧ key x ∉ seen
      · rw [taken_cons_of_fresh htake.1 htake.2, List.cons.injEq, ih]
        -- The key of `x` is there for the others, and is none of theirs.
        constructor
        · rintro ⟨-, hall, hnodup⟩
          refine ⟨fun y hy hwy => ?_, fun hmem => ?_, hnodup⟩
          · rcases List.mem_cons.mp hy with rfl | hy
            · exact htake
            · exact ⟨(hall y hy hwy).1, fun h => (hall y hy hwy).2 (List.mem_cons_of_mem _ h)⟩
          · obtain ⟨y, hy, hkey⟩ := List.mem_map.mp hmem
            obtain ⟨hy, hwy⟩ := List.mem_filter.mp hy
            exact (hall y hy hwy).2 (hkey ▸ List.mem_cons_self)
        · rintro ⟨hall, hnotMem, hnodup⟩
          refine ⟨rfl, fun y hy hwy => ?_, hnodup⟩
          obtain ⟨haccepts, hfresh⟩ := hall y (List.mem_cons_of_mem _ hy) hwy
          refine ⟨haccepts, fun hmem => ?_⟩
          rcases List.mem_cons.mp hmem with hkey | hmem
          · exact hnotMem (hkey ▸ List.mem_map_of_mem (List.mem_filter.mpr ⟨hy, hwy⟩))
          · exact hfresh hmem
      · rw [taken_cons_of_not htake]
        constructor
        · intro h
          cases (List.cons.inj h).1
        · rintro ⟨hall, -⟩
          exact absurd (hall x List.mem_cons_self hx) htake
    · have htake : ¬(accepts x = true ∧ key x ∉ seen) := fun h => hx (hwanted x h.1)
      rw [taken_cons_of_not htake, List.filter_cons_of_neg hx, List.map_cons,
        (Bool.not_eq_true _).mp hx, List.cons.injEq, ih]
      constructor
      · rintro ⟨-, hall, hnodup⟩
        refine ⟨fun y hy hwy => ?_, hnodup⟩
        rcases List.mem_cons.mp hy with rfl | hy
        · exact absurd hwy hx
        · exact hall y hy hwy
      · rintro ⟨hall, hnodup⟩
        exact ⟨rfl, fun y hy => hall y (List.mem_cons_of_mem _ hy), hnodup⟩

end Taking
