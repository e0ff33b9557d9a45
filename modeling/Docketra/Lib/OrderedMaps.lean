import Mathlib.Data.List.Nodup
import Mathlib.Data.Nat.Notation

/-!
# Maps in the order of insertion

A map holds one value under each of its keys, and its entries in the order in which the keys were
set first. `set` replaces a value in its place, `delete` takes a key away, and `refresh` goes through
the entries and replaces each value or deletes its key. What is under a key after each of them is
determined by what was there before (`get_set`, `get_delete`, `get_refresh`).
-/

/-- A map, with its entries in order. -/
structure OrderedMap (κ β : Type) where
  entries : List (κ × β)
  nodup : (entries.map Prod.fst).Nodup

namespace OrderedMap

variable {κ β : Type} [DecidableEq κ]

/-- The map without entries. -/
def empty : OrderedMap κ β := ⟨[], List.nodup_nil⟩

/-- The number of entries. -/
def size (m : OrderedMap κ β) : ℕ := m.entries.length

/-- The value under a key. -/
def get (m : OrderedMap κ β) (key : κ) : Option β :=
  (m.entries.find? fun entry => entry.1 = key).map Prod.snd

/-- What is under a key is its entry. -/
theorem get_eq_some_iff {m : OrderedMap κ β} {key : κ} {value : β} :
    m.get key = some value ↔ (key, value) ∈ m.entries := by
  rw [get, Option.map_eq_some_iff]
  constructor
  · rintro ⟨⟨key', value'⟩, hfind, rfl⟩
    have hkey : key' = key := by simpa using List.find?_some hfind
    rw [← hkey]
    exact List.mem_of_find?_eq_some hfind
  · intro hmem
    cases hfind : m.entries.find? fun entry => entry.1 = key with
    | none => exact absurd (decide_eq_true rfl) (List.find?_eq_none.mp hfind _ hmem)
    | some entry =>
      have hkey : entry.1 = key := by simpa using List.find?_some hfind
      have heq : entry = (key, value) :=
        List.inj_on_of_nodup_map m.nodup (List.mem_of_find?_eq_some hfind) hmem hkey
      exact ⟨entry, rfl, by rw [heq]⟩

/-- A value is put under a key, in the place of the one that is there, or else at the end. -/
def set (m : OrderedMap κ β) (key : κ) (value : β) : OrderedMap κ β where
  entries :=
    if key ∈ m.entries.map Prod.fst then
      m.entries.map fun entry => (entry.1, if entry.1 = key then value else entry.2)
    else m.entries ++ [(key, value)]
  nodup := by
    split_ifs with h
    · rw [List.map_map]
      exact m.nodup
    · rw [List.map_append]
      refine m.nodup.append (List.nodup_singleton key) ?_
      exact List.disjoint_singleton.mpr h

/-- A key is taken away. -/
def delete (m : OrderedMap κ β) (key : κ) : OrderedMap κ β where
  entries := m.entries.filter fun entry => entry.1 ≠ key
  nodup := m.nodup.sublist (List.filter_sublist.map Prod.fst)

/-- Each entry gets another value, or its key is taken away. -/
def refresh (m : OrderedMap κ β) (f : β → Option β) : OrderedMap κ β where
  entries := m.entries.filterMap fun entry => (f entry.2).map (Prod.mk entry.1)
  nodup := by
    have hkeys : ∀ entries : List (κ × β),
        ((entries.filterMap fun entry => (f entry.2).map (Prod.mk entry.1)).map Prod.fst).Sublist
          (entries.map Prod.fst) := by
      intro entries
      induction entries with
      | nil => exact List.Sublist.slnil
      | cons entry entries ih =>
        cases hf : f entry.2 with
        | none =>
          rw [List.filterMap_cons_none (by rw [hf]; rfl), List.map_cons]
          exact ih.cons entry.1
        | some value =>
          rw [List.filterMap_cons_some (by rw [hf]; rfl), List.map_cons, List.map_cons]
          exact ih.cons_cons entry.1
    exact m.nodup.sublist (hkeys m.entries)

theorem mem_set_of_mem {m : OrderedMap κ β} {key key' : κ} {value value' : β}
    (h : key ∈ m.entries.map Prod.fst) : (key', value') ∈ (m.set key value).entries ↔
      if key' = key then value' = value else (key', value') ∈ m.entries := by
  have hset : (m.set key value).entries =
      m.entries.map fun entry => (entry.1, if entry.1 = key then value else entry.2) := if_pos h
  simp only [hset, List.mem_map, Prod.mk.injEq]
  split_ifs with hkey
  · constructor
    · rintro ⟨entry, -, hfst, hsnd⟩
      rw [if_pos (hfst.trans hkey)] at hsnd
      exact hsnd.symm
    · intro hvalue
      obtain ⟨entry, hentry, hfst⟩ := List.mem_map.mp h
      exact ⟨entry, hentry, hfst.trans hkey.symm, by rw [if_pos hfst, hvalue]⟩
  · constructor
    · rintro ⟨entry, hentry, hfst, hsnd⟩
      rw [if_neg (hfst ▸ hkey)] at hsnd
      rw [← hfst, ← hsnd]
      exact hentry
    · exact fun hmem => ⟨(key', value'), hmem, rfl, if_neg hkey⟩

theorem mem_set_of_not_mem {m : OrderedMap κ β} {key key' : κ} {value value' : β}
    (h : key ∉ m.entries.map Prod.fst) : (key', value') ∈ (m.set key value).entries ↔
      if key' = key then value' = value else (key', value') ∈ m.entries := by
  have hset : (m.set key value).entries = m.entries ++ [(key, value)] := if_neg h
  rw [hset, List.mem_append, List.mem_singleton, Prod.mk.injEq]
  split_ifs with hkey
  · rw [hkey]
    constructor
    · rintro (hmem | ⟨-, hvalue⟩)
      · exact absurd (List.mem_map_of_mem hmem) h
      · exact hvalue
    · exact fun hvalue => .inr ⟨rfl, hvalue⟩
  · constructor
    · rintro (hmem | ⟨hkey', -⟩)
      · exact hmem
      · exact absurd hkey' hkey
    · exact fun hmem => .inl hmem

/-- What is under a key after a value has been set. -/
theorem get_set (m : OrderedMap κ β) (key key' : κ) (value : β) :
    (m.set key value).get key' = if key' = key then some value else m.get key' := by
  have hentries : ∀ value', (key', value') ∈ (m.set key value).entries ↔
      if key' = key then value' = value else (key', value') ∈ m.entries := by
    intro value'
    rcases Decidable.em (key ∈ m.entries.map Prod.fst) with h | h
    · exact mem_set_of_mem h
    · exact mem_set_of_not_mem h
  refine Option.ext fun value' => ?_
  rw [get_eq_some_iff, hentries value']
  split_ifs with hkey
  · rw [Option.some.injEq, eq_comm]
  · exact get_eq_some_iff.symm

/-- What is under a key after one has been taken away. -/
theorem get_delete (m : OrderedMap κ β) (key key' : κ) :
    (m.delete key).get key' = if key' = key then none else m.get key' := by
  refine Option.ext fun value => ?_
  rw [get_eq_some_iff, delete, List.mem_filter, decide_eq_true_iff]
  split_ifs with hkey
  · exact iff_of_false (fun h => h.2 hkey) nofun
  · rw [get_eq_some_iff]
    exact and_iff_left hkey

/-- What is under a key after the entries have been gone through. -/
theorem get_refresh (m : OrderedMap κ β) (f : β → Option β) (key : κ) :
    (m.refresh f).get key = (m.get key).bind f := by
  refine Option.ext fun value => ?_
  rw [get_eq_some_iff, refresh, List.mem_filterMap, Option.bind_eq_some_iff]
  constructor
  · rintro ⟨⟨key', value'⟩, hmem, hmap⟩
    obtain ⟨value'', hf, heq⟩ := Option.map_eq_some_iff.mp hmap
    cases heq
    exact ⟨value', get_eq_some_iff.mpr hmem, hf⟩
  · rintro ⟨value', hget, hf⟩
    exact ⟨(key, value'), get_eq_some_iff.mp hget, by rw [hf]; rfl⟩

theorem size_set_le (m : OrderedMap κ β) (key : κ) (value : β) :
    (m.set key value).size ≤ m.size + 1 := by
  unfold size set
  split_ifs
  · rw [List.length_map]
    exact Nat.le_succ _
  · rw [List.length_append]
    exact Nat.le_refl _

omit [DecidableEq κ] in
theorem size_refresh_le (m : OrderedMap κ β) (f : β → Option β) : (m.refresh f).size ≤ m.size :=
  List.length_filterMap_le _ _

end OrderedMap
