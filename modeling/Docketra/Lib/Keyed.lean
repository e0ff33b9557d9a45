import Mathlib.Data.List.Nodup
import Mathlib.Data.List.Basic

/-!
# Collections with keys

A collection is a list of items with different keys. `update` applies a function to each item, which
keeps its key, and `replace` puts another item in the place of the one with its key. Updates compose
(`update_update`), and an item is unchanged by an update exactly when it is still there
(`mem_update_iff`).
-/

/-- Items with different keys. -/
structure Keyed {α κ : Type} (key : α → κ) where
  items : List α
  nodup : (items.map key).Nodup

namespace Keyed

variable {α κ : Type} {key : α → κ}

theorem ext_items {s t : Keyed key} (h : s.items = t.items) : s = t := by
  cases s
  cases t
  cases h
  rfl

/-- Applies a function to each item. -/
def update (s : Keyed key) (f : α → α) (hf : ∀ a, key (f a) = key a) : Keyed key where
  items := s.items.map f
  nodup := by
    have hkeys : (s.items.map f).map key = s.items.map key := by
      rw [List.map_map]
      exact List.map_congr_left fun a _ => hf a
    rw [hkeys]
    exact s.nodup

/-- Puts an item in the place of the one with its key. -/
def replace [DecidableEq κ] (s : Keyed key) (item : α) : Keyed key :=
  s.update (fun a => if key a = key item then item else a) fun a => by
    split_ifs with h
    · exact h.symm
    · rfl

/-- The items of two members of a collection are the same when their keys are. -/
theorem eq_of_key {s : Keyed key} {a b : α} (ha : a ∈ s.items) (hb : b ∈ s.items)
    (h : key a = key b) : a = b :=
  List.inj_on_of_nodup_map s.nodup ha hb h

/-- Each member is found by its key. -/
theorem find?_key [DecidableEq κ] (s : Keyed key) {a : α} (ha : a ∈ s.items) :
    (s.items.find? fun b => key b = key a) = some a := by
  cases hfound : s.items.find? fun b => key b = key a with
  | none => exact absurd (decide_eq_true rfl) (List.find?_eq_none.1 hfound a ha)
  | some b =>
    have hkey : key b = key a := by
      simpa only [decide_eq_true_eq] using List.find?_some hfound
    rw [eq_of_key (List.mem_of_find?_eq_some hfound) ha hkey]

/-- Where the keys are different, the first item with a member's key is the member. -/
theorem findIdx?_of_nodup [DecidableEq κ] {l : List α} (hl : (l.map key).Nodup) {a : α} {i : ℕ}
    (ha : l[i]? = some a) : (l.findIdx? fun b => key b = key a) = some i := by
  obtain ⟨hi, rfl⟩ := List.getElem?_eq_some_iff.1 ha
  refine List.findIdx?_eq_some_iff_getElem.2 ⟨hi, decide_eq_true rfl, ?_⟩
  intro j hj hkey
  have hjl : j < l.length := Nat.lt_trans hj hi
  have hsame : (l.map key)[j]? = (l.map key)[i]? := by
    rw [List.getElem?_map, List.getElem?_map, List.getElem?_eq_getElem hi,
      List.getElem?_eq_getElem hjl, Option.map_some, Option.map_some, of_decide_eq_true hkey]
  have hlt : j < (l.map key).length := by rwa [List.length_map]
  exact Nat.ne_of_lt hj ((List.getElem?_inj hlt hl).1 hsame)

/-- A change of one item that keeps its key keeps all keys. -/
theorem map_modify_of_key {l : List α} {f : α → α} (hf : ∀ a, key (f a) = key a) (i : ℕ) :
    (l.modify i f).map key = l.map key := by
  refine List.ext_getElem? fun j => ?_
  rw [List.getElem?_map, List.getElem?_map, List.getElem?_modify, Option.map_eq_map,
    Option.map_map]
  split_ifs
  · exact congrArg (l[j]?.map ·) (funext hf)
  · rfl

theorem items_update (s : Keyed key) (f : α → α) (hf : ∀ a, key (f a) = key a) :
    (s.update f hf).items = s.items.map f := rfl

/-- What is there after a replacement: the other items, and the new one when an item has its key. -/
theorem mem_replace [DecidableEq κ] {s : Keyed key} {item b : α} :
    b ∈ (s.replace item).items ↔
      b ∈ s.items ∧ key b ≠ key item ∨ b = item ∧ ∃ c ∈ s.items, key c = key item := by
  rw [replace, items_update, List.mem_map]
  constructor
  · rintro ⟨c, hc, hcb⟩
    by_cases hkey : key c = key item
    · rw [if_pos hkey] at hcb
      exact .inr ⟨hcb.symm, c, hc, hkey⟩
    · rw [if_neg hkey] at hcb
      rw [← hcb]
      exact .inl ⟨hc, hkey⟩
  · rintro (⟨hb, hkey⟩ | ⟨rfl, c, hc, hkey⟩)
    · exact ⟨b, hb, if_neg hkey⟩
    · exact ⟨c, hc, if_pos hkey⟩

theorem update_update (s : Keyed key) {f g : α → α} (hf : ∀ a, key (f a) = key a)
    (hg : ∀ a, key (g a) = key a) :
    (s.update f hf).update g hg = s.update (fun a => g (f a)) fun a => (hg _).trans (hf a) :=
  ext_items (List.map_map ..)

theorem update_congr {s : Keyed key} {f g : α → α} {hf : ∀ a, key (f a) = key a}
    {hg : ∀ a, key (g a) = key a} (h : ∀ a ∈ s.items, f a = g a) : s.update f hf = s.update g hg :=
  ext_items (List.map_congr_left h)

theorem update_eq_self {s : Keyed key} {f : α → α} {hf : ∀ a, key (f a) = key a}
    (h : ∀ a ∈ s.items, f a = a) : s.update f hf = s :=
  ext_items ((List.map_congr_left h).trans (List.map_id _))

/-- A member is still there after an update exactly when the update leaves it as it is. -/
theorem mem_update_iff {s : Keyed key} {f : α → α} (hf : ∀ a, key (f a) = key a) {a : α}
    (ha : a ∈ s.items) : a ∈ (s.update f hf).items ↔ f a = a := by
  constructor
  · intro h
    obtain ⟨b, hb, hba⟩ := List.mem_map.1 h
    have hkey : key b = key a := (hf b).symm.trans (congrArg key hba)
    rw [← eq_of_key hb ha hkey]
    exact hba.trans (eq_of_key hb ha hkey).symm
  · intro h
    exact List.mem_map.2 ⟨a, ha, h⟩

end Keyed
