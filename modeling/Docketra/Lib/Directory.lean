import Docketra.Lib.LastWrite

/-!
# Items under several keys

A directory lists items under the keys of each, and an item replaces what was there under its keys.
What is found under a key has that key (`mem_of_get`), and something is found as soon as an item has
the key (`exists_get`). A search looks under one key, and then under another one (`search_spec`,
`search_isSome_iff`).
-/

namespace Directory

open LastWrite

variable {α κ : Type} (keys : α → List κ)

/-- The writes that make the directory of a list. -/
def entries (l : List α) : List (κ × α) := l.flatMap fun a => (keys a).map fun k => (k, a)

variable {keys} in
theorem mem_entries {l : List α} {entry : κ × α} :
    entry ∈ entries keys l ↔ entry.2 ∈ l ∧ entry.1 ∈ keys entry.2 := by
  unfold entries
  rw [List.mem_flatMap]
  constructor
  · rintro ⟨b, hb, hentry⟩
    obtain ⟨key, hkey, rfl⟩ := List.mem_map.1 hentry
    exact ⟨hb, hkey⟩
  · rintro ⟨hmem, hkey⟩
    exact ⟨entry.2, hmem, List.mem_map.2 ⟨entry.1, hkey, rfl⟩⟩

variable [DecidableEq κ]

/-- What the directory has under a key. -/
def get (l : List α) (k : κ) : Option α :=
  (last (fun entry => entry.1 = k) (entries keys l)).map Prod.snd

/-- What it has under a key, or else under another one. -/
def search (l : List α) (k k' : κ) : Option α := (get keys l k).or (get keys l k')

variable {keys} {l : List α} {a : α} {k k' : κ}

theorem mem_of_get (h : get keys l k = some a) : a ∈ l ∧ k ∈ keys a := by
  obtain ⟨entry, hlast, rfl⟩ := Option.map_eq_some_iff.1 h
  obtain ⟨hmem, hkey⟩ := mem_of_last hlast
  rw [← of_decide_eq_true hkey]
  exact mem_entries.1 hmem

theorem exists_get (ha : a ∈ l) (hk : k ∈ keys a) : ∃ b, get keys l k = some b := by
  have hentry : (k, a) ∈ entries keys l := mem_entries.2 ⟨ha, hk⟩
  obtain ⟨b, hb⟩ := exists_last_key Prod.fst hentry rfl
  exact ⟨b.2, by rw [get, hb]; rfl⟩

/-- What a search finds has one of the two keys. -/
theorem search_spec (h : search keys l k k' = some a) : a ∈ l ∧ (k ∈ keys a ∨ k' ∈ keys a) := by
  rcases Option.or_eq_some_iff.1 h with h | ⟨-, h⟩
  · exact ⟨(mem_of_get h).1, .inl (mem_of_get h).2⟩
  · exact ⟨(mem_of_get h).1, .inr (mem_of_get h).2⟩

/-- A search finds something exactly when an item has one of the two keys. -/
theorem search_isSome_iff :
    (search keys l k k').isSome ↔ ∃ a ∈ l, k ∈ keys a ∨ k' ∈ keys a := by
  constructor
  · intro h
    obtain ⟨a, ha⟩ := Option.isSome_iff_exists.1 h
    exact ⟨a, search_spec ha⟩
  · rintro ⟨a, ha, hk | hk⟩
    · obtain ⟨b, hb⟩ := exists_get ha hk
      rw [search, hb]
      rfl
    · obtain ⟨b, hb⟩ := exists_get ha hk
      rw [search, hb, Option.isSome_or]
      exact Bool.or_true _

end Directory
