import Mathlib.Data.List.Basic

/-!
# Parts between separators

A text made of parts is the parts with a separator between them (`join`), and the fields of a text
are what stands between its separators, the empty ones left out (`fields`). Parts that are not empty
and hold no separator are read back from the text (`fields_join`), so that it determines them
(`join_injective`).
-/

namespace Separated

variable {α : Type} {sep : α}

/-- The parts with the separator between them. -/
def join (sep : α) (parts : List (List α)) : List α := [sep].intercalate parts

/-- What stands between the separators, and is not empty. -/
def fields [DecidableEq α] (sep : α) (text : List α) : List (List α) :=
  (text.splitOn sep).filter (· ≠ [])

/-- Parts that are not empty and hold no separator. -/
def Parts (sep : α) (parts : List (List α)) : Prop := ∀ part ∈ parts, part ≠ [] ∧ sep ∉ part

theorem Parts.append {parts parts' : List (List α)} (h : Parts sep parts) (h' : Parts sep parts') :
    Parts sep (parts ++ parts') := by
  intro part hpart
  rcases List.mem_append.mp hpart with hpart | hpart
  · exact h part hpart
  · exact h' part hpart

theorem Parts.of_subset {parts parts' : List (List α)} (h : Parts sep parts)
    (hsubset : parts' ⊆ parts) : Parts sep parts' := fun part hpart => h part (hsubset hpart)

theorem join_cons_cons (part part' : List α) (parts : List (List α)) :
    join sep (part :: part' :: parts) = part ++ sep :: join sep (part' :: parts) := by
  rw [join, List.intercalate_cons_cons, List.append_assoc]
  rfl

theorem join_cons {part : List α} {parts : List (List α)} (h : parts ≠ []) :
    join sep (part :: parts) = part ++ sep :: join sep parts := by
  obtain ⟨part', parts, rfl⟩ := List.exists_cons_of_ne_nil h
  exact join_cons_cons part part' parts

theorem join_singleton (part : List α) : join sep [part] = part := List.intercalate_singleton

theorem part_isPrefix_join (part : List α) (parts : List (List α)) :
    part <+: join sep (part :: parts) := by
  rcases Classical.em (parts = []) with rfl | hne
  · exact ⟨[], by rw [join_singleton, List.append_nil]⟩
  · exact ⟨sep :: join sep parts, (join_cons hne).symm⟩

/-- What a joined text holds is of a part, or is the separator, which stands between two. -/
theorem mem_join_iff {a : α} {parts : List (List α)} :
    a ∈ join sep parts ↔ (∃ part ∈ parts, a ∈ part) ∨ a = sep ∧ 2 ≤ parts.length := by
  induction parts with
  | nil => simp [join]
  | cons part parts ih =>
    rcases Classical.em (parts = []) with rfl | hne
    · simp [join_singleton]
    · have hlength : 0 < parts.length := List.length_pos_of_ne_nil hne
      have htwo : 2 ≤ (part :: parts).length := by
        rw [List.length_cons]
        omega
      rw [join_cons hne, List.mem_append, List.mem_cons, ih]
      simp only [List.mem_cons, exists_eq_or_imp]
      constructor
      · rintro (ha | rfl | h | ⟨rfl, -⟩)
        · exact .inl (.inl ha)
        · exact .inr ⟨rfl, htwo⟩
        · exact .inl (.inr h)
        · exact .inr ⟨rfl, htwo⟩
      · rintro ((ha | h) | ⟨rfl, -⟩)
        · exact .inl ha
        · exact .inr (.inr (.inl h))
        · exact .inr (.inl rfl)

/-- The separator stands in the text of two parts or more. -/
theorem sep_mem_join_iff {parts : List (List α)} (h : Parts sep parts) :
    sep ∈ join sep parts ↔ 2 ≤ parts.length := by
  rw [mem_join_iff]
  constructor
  · rintro (⟨part, hpart, hmem⟩ | ⟨-, hlength⟩)
    · exact absurd hmem (h part hpart).2
    · exact hlength
  · exact fun hlength => .inr ⟨rfl, hlength⟩

variable [DecidableEq α]

/-- The fields of a text are those before a separator and those after it. -/
theorem fields_append_cons (before after : List α) :
    fields sep (before ++ sep :: after) = fields sep before ++ fields sep after := by
  rw [fields, List.splitOn_append_cons_self, List.filter_append]
  rfl

theorem fields_nil : fields sep [] = [] := by simp [fields]

theorem fields_of_part {part : List α} (hne : part ≠ []) (hsep : sep ∉ part) :
    fields sep part = [part] := by
  rw [fields, List.splitOn_eq_singleton hsep]
  simpa using hne

/-- The parts are read back. -/
theorem fields_join {parts : List (List α)} (h : Parts sep parts) :
    fields sep (join sep parts) = parts := by
  induction parts with
  | nil => exact fields_nil
  | cons part parts ih =>
    obtain ⟨hne, hsep⟩ := h part List.mem_cons_self
    rcases List.eq_nil_or_concat' parts with rfl | ⟨init, last, hparts⟩
    · rw [join_singleton, fields_of_part hne hsep]
    · have hne' : parts ≠ [] := by
        rw [hparts]
        exact List.concat_ne_nil last init
      rw [join_cons hne', fields_append_cons, fields_of_part hne hsep,
        ih (h.of_subset (List.subset_cons_self part parts)), List.singleton_append]

theorem join_injective {parts parts' : List (List α)} (h : Parts sep parts)
    (h' : Parts sep parts') (heq : join sep parts = join sep parts') : parts = parts' :=
  calc parts = fields sep (join sep parts) := (fields_join h).symm
    _ = fields sep (join sep parts') := by rw [heq]
    _ = parts' := fields_join h'

/-- A text starts with a part and a separator when it is the text's first of several. -/
theorem append_sep_isPrefix_join_iff {part : List α} {parts : List (List α)} (h : Parts sep parts)
    (hsep : sep ∉ part) :
    part ++ [sep] <+: join sep parts ↔ ∃ rest, rest ≠ [] ∧ parts = part :: rest := by
  constructor
  · rintro ⟨after, hafter⟩
    rw [List.append_assoc, List.singleton_append] at hafter
    have hne : parts ≠ [] := by
      rintro rfl
      exact List.append_ne_nil_of_right_ne_nil part (List.cons_ne_nil sep after) hafter
    have hsplit : (join sep parts).splitOn sep = parts :=
      List.splitOn_intercalate sep (fun part hpart => (h part hpart).2) hne
    rw [← hafter, List.splitOn_append_cons_self_of_not_mem hsep] at hsplit
    exact ⟨after.splitOn sep, List.splitOn_ne_nil sep after, hsplit.symm⟩
  · rintro ⟨rest, hne, rfl⟩
    refine ⟨join sep rest, ?_⟩
    rw [join_cons hne, List.append_assoc, List.singleton_append]

end Separated
