import Mathlib.Data.List.DropRight
import Mathlib.Data.Nat.Notation
import Mathlib.Tactic.Common

/-!
# Bounded lists of recent entries

Entries are added to a list at the times that they carry. The list is cut now and then: to the
entries that are not older than a width, and to the last ones up to a bound. Whenever it is read,
its recent entries are the last recent ones of all that were ever added (`Tracks`), however it has
been cut before: adding keeps that (`Tracks.push`), and so does cutting (`Tracks.prune`).

The cuts commute since the entries are in the order of their times, so that both take what is at the
end (`recent_rtake`).
-/

namespace SlidingWindows

variable {α : Type} {time : α → ℕ} {width bound now now' : ℕ} {l entries history : List α} {a : α}

/-- The entries that are not older than the width. -/
def recent (time : α → ℕ) (width now : ℕ) (l : List α) : List α :=
  l.filter fun a => now - time a ≤ width

/-- The entries are in the order of their times. -/
def Ordered (time : α → ℕ) (l : List α) : Prop := l.Pairwise fun a b => time a ≤ time b

/-! ## The last of a list -/

theorem rtake_of_length_le (h : l.length ≤ bound) : l.rtake bound = l := by
  rw [List.rtake, Nat.sub_eq_zero_of_le h, List.drop_zero]

theorem rtake_cons_of_le (h : bound ≤ l.length) : (a :: l).rtake bound = l.rtake bound := by
  rw [List.rtake, List.rtake, List.length_cons, Nat.succ_sub h, List.drop_succ_cons]

/-- The last of a list are the last of its end, where that is long enough. -/
theorem rtake_append_of_le {m : List α} (h : bound ≤ m.length) :
    (l ++ m).rtake bound = m.rtake bound := by
  induction l with
  | nil => rfl
  | cons a l ih =>
    rw [List.cons_append, rtake_cons_of_le, ih]
    rw [List.length_append]
    omega

theorem rtake_suffix : l.rtake bound <:+ l := List.drop_suffix _ l

theorem mem_of_mem_rtake (h : a ∈ l.rtake bound) : a ∈ l := rtake_suffix.subset h

/-- The last of a list are found after it is cut to them. -/
theorem rtake_rtake_append (l m : List α) :
    (l.rtake bound ++ m).rtake bound = (l ++ m).rtake bound := by
  have hcut : l.drop (l.length - bound) ++ m = (l ++ m).drop (l.length - bound) :=
    (List.drop_append_of_le_length (Nat.sub_le l.length bound)).symm
  rw [List.rtake, List.rtake, List.rtake, hcut, List.drop_drop, List.length_drop,
    List.length_append]
  congr 1
  omega

theorem rtake_rtake (l : List α) : (l.rtake bound).rtake bound = l.rtake bound := by
  have h : (l.rtake bound ++ []).rtake bound = (l ++ []).rtake bound := rtake_rtake_append l []
  rwa [List.append_nil, List.append_nil] at h

/-! ## The recent entries -/

theorem recent_append (l m : List α) :
    recent time width now (l ++ m) = recent time width now l ++ recent time width now m :=
  List.filter_append l m

theorem recent_of_forall (h : ∀ a ∈ l, now - time a ≤ width) : recent time width now l = l :=
  List.filter_eq_self.mpr fun a ha => decide_eq_true (h a ha)

theorem recent_sublist : (recent time width now l).Sublist l := List.filter_sublist

/-- What is recent later is recent before. -/
theorem recent_recent (h : now ≤ now') (l : List α) :
    recent time width now' (recent time width now l) = recent time width now' l := by
  rw [recent, recent, recent, List.filter_filter]
  refine List.filter_congr fun a _ => ?_
  rw [Bool.and_eq_left_iff_imp, decide_eq_true_iff, decide_eq_true_iff]
  omega

/-- In the order of the times, the last recent entries are the recent ones of the last. -/
theorem recent_rtake (h : Ordered time l) :
    recent time width now (l.rtake bound) = (recent time width now l).rtake bound := by
  induction l with
  | nil => rw [List.rtake_nil, recent, List.filter_nil, List.rtake_nil]
  | cons a l ih =>
    obtain ⟨hfirst, hrest⟩ := List.pairwise_cons.mp h
    rcases Nat.lt_or_ge l.length bound with hlt | hle
    · have hsub : (recent time width now (a :: l)).Sublist (a :: l) := recent_sublist
      rw [rtake_of_length_le hlt, rtake_of_length_le (hsub.length_le.trans hlt)]
    · rw [rtake_cons_of_le hle]
      by_cases ha : now - time a ≤ width
      · -- The first entry is recent, and all those after it are.
        have hall : ∀ b ∈ a :: l, now - time b ≤ width := by
          intro b hb
          rcases List.mem_cons.mp hb with rfl | hb
          · exact ha
          · have hab := hfirst b hb
            omega
        rw [recent_of_forall hall, rtake_cons_of_le hle]
        exact recent_of_forall fun b hb =>
          hall b (List.mem_cons_of_mem a (mem_of_mem_rtake hb))
      · rw [ih hrest, recent, recent, List.filter_cons_of_neg (by simpa using ha)]

theorem Ordered.recent (h : Ordered time l) : Ordered time (recent time width now l) :=
  h.sublist recent_sublist

theorem Ordered.rtake (h : Ordered time l) : Ordered time (l.rtake bound) :=
  h.sublist rtake_suffix.sublist

/-! ## What the list tracks -/

/-- From now on, the recent entries are the last recent ones of the history. -/
def Tracks (time : α → ℕ) (width bound now : ℕ) (entries history : List α) : Prop :=
  ∀ t, now ≤ t → recent time width t entries = (recent time width t history).rtake bound

theorem tracks_nil : Tracks time width bound now [] [] := fun _ _ => (List.rtake_nil _).symm

theorem Tracks.later (h : Tracks time width bound now entries history) (hle : now ≤ now') :
    Tracks time width bound now' entries history := fun t ht => h t (hle.trans ht)

theorem ordered_push (hordered : Ordered time l) (hbefore : ∀ b ∈ l, time b ≤ now)
    (ha : time a = now) : Ordered time (recent time width now l ++ [a]) := by
  refine List.pairwise_append.mpr ⟨hordered.recent, List.pairwise_singleton _ a, ?_⟩
  intro b hb c hc
  rw [List.mem_singleton.mp hc, ha]
  exact hbefore b (recent_sublist.subset hb)

/-- An entry is added to the recent ones, of which the last are kept. -/
theorem Tracks.push (h : Tracks time width bound now entries history) (hle : now ≤ now')
    (hordered : Ordered time entries) (hbefore : ∀ b ∈ entries, time b ≤ now')
    (ha : time a = now') :
    Tracks time width bound now' ((recent time width now' entries ++ [a]).rtake bound)
      (history ++ [a]) := by
  intro t ht
  calc recent time width t ((recent time width now' entries ++ [a]).rtake bound)
      = (recent time width t (recent time width now' entries ++ [a])).rtake bound :=
        recent_rtake (ordered_push hordered hbefore ha)
    _ = (recent time width t entries ++ recent time width t [a]).rtake bound := by
        rw [recent_append, recent_recent ht]
    _ = ((recent time width t history).rtake bound ++ recent time width t [a]).rtake bound := by
        rw [h t (hle.trans ht)]
    _ = (recent time width t (history ++ [a])).rtake bound := by
        rw [rtake_rtake_append, recent_append]

/-- The last of the recent ones are kept. -/
theorem Tracks.prune (h : Tracks time width bound now entries history) (hle : now ≤ now')
    (hordered : Ordered time entries) :
    Tracks time width bound now' ((recent time width now' entries).rtake bound) history := by
  intro t ht
  rw [recent_rtake hordered.recent, recent_recent ht, h t (hle.trans ht),
    rtake_rtake]

/-- The list that is kept when an entry is added is read off from the history. -/
theorem Tracks.push_eq (h : Tracks time width bound now entries history) (hle : now ≤ now')
    (hordered : Ordered time entries) (hbefore : ∀ b ∈ entries, time b ≤ now')
    (ha : time a = now') :
    (recent time width now' entries ++ [a]).rtake bound =
      (recent time width now' (history ++ [a])).rtake bound := by
  rw [← h.push hle hordered hbefore ha now' (Nat.le_refl now')]
  refine (recent_of_forall ?_).symm
  intro b hb
  rcases List.mem_append.mp (mem_of_mem_rtake hb) with hb | hb
  · exact of_decide_eq_true (List.mem_filter.mp hb).2
  · rw [List.mem_singleton.mp hb, ha, Nat.sub_self]
    exact Nat.zero_le width

end SlidingWindows
