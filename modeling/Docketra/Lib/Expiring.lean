import Mathlib.Logic.Function.Basic
import Mathlib.Data.Option.Basic
import Mathlib.Data.Nat.Notation
import Mathlib.Tactic.Common

/-!
# Stores whose entries expire

A store maps keys to entries, and an entry vanishes at a time that was fixed when it was written.
`live` is an entry as a reader finds it: at its expiry it is gone, whether or not anything has
removed it. The operations are those of a key-value server: `get`, `setEX`, which writes whatever
is there, `setNX`, which writes only where nothing is, and `del`.

Times are in one unit, and each operation is given the time that it happens at. A store in another
unit finds the same entries (`live_rescale`).
-/

namespace Expiring

variable {κ α : Type} [DecidableEq κ]

/-- A value, and the time at which it vanishes. -/
structure Entry (α : Type) where
  value : α
  expires : ℕ
  deriving DecidableEq, Repr

/-- A store of such entries. -/
abbrev Store (κ α : Type) := κ → Option (Entry α)

/-- The store with nothing in it. -/
def empty : Store κ α := fun _ => none

/-- An entry as it is found at a time. -/
def live (now : ℕ) (entry : Option (Entry α)) : Option (Entry α) :=
  entry.filter fun e => now < e.expires

/-- The value under a key. -/
def get (now : ℕ) (key : κ) (store : Store κ α) : Option α :=
  (live now (store key)).map Entry.value

/-- Write a value, for a time to live. -/
def setEX (now : ℕ) (key : κ) (value : α) (ttl : ℕ) (store : Store κ α) : Store κ α :=
  Function.update store key (some ⟨value, now + ttl⟩)

/-- Write a value unless there is one, and tell whether it was written. -/
def setNX (now : ℕ) (key : κ) (value : α) (ttl : ℕ) (store : Store κ α) : Bool × Store κ α :=
  if (live now (store key)).isSome then (false, store) else (true, setEX now key value ttl store)

/-- Remove whatever is under a key. -/
def del (key : κ) (store : Store κ α) : Store κ α := Function.update store key none

@[simp] theorem live_none (now : ℕ) : live now (none : Option (Entry α)) = none := rfl

/-- An entry is found exactly while its expiry is ahead. -/
@[simp] theorem live_eq_some {now : ℕ} {entry : Option (Entry α)} {e : Entry α} :
    live now entry = some e ↔ entry = some e ∧ now < e.expires := by
  simp [live, Option.filter_eq_some_iff]

/-- An entry that has just been written with a time to live is found. -/
theorem live_fresh {now ttl : ℕ} (httl : 0 < ttl) (v : α) :
    live now (some ⟨v, now + ttl⟩) = some ⟨v, now + ttl⟩ := by
  rw [live_eq_some]
  exact ⟨rfl, by simpa using httl⟩

/-- What is found is found again at the same time. -/
@[simp] theorem live_live (now : ℕ) (entry : Option (Entry α)) :
    live now (live now entry) = live now entry := by
  simp [live]

/-- What is found later is what is found now, if it has not expired meanwhile. -/
theorem live_later {now later : ℕ} (h : now ≤ later) (entry : Option (Entry α)) :
    live later (live now entry) = live later entry := by
  ext e
  simp only [live_eq_some]
  constructor
  · rintro ⟨⟨he, -⟩, hlater⟩
    exact ⟨he, hlater⟩
  · rintro ⟨he, hlater⟩
    exact ⟨⟨he, by omega⟩, hlater⟩

section rescaled

variable {β : Type} {unit : ℕ}

/-- An entry with another value, in a unit of time that is so many times as short. -/
def rescale (unit : ℕ) (f : α → β) (entry : Entry α) : Entry β :=
  ⟨f entry.value, entry.expires * unit⟩

/-- An entry is found in the one unit exactly when it is in the other. -/
theorem live_rescale (hunit : 0 < unit) (f : α → β) (now : ℕ) (entry : Option (Entry α)) :
    live (now * unit) (entry.map (rescale unit f)) = (live now entry).map (rescale unit f) := by
  have hlt (e : Entry α) : now * unit < (rescale unit f e).expires ↔ now < e.expires :=
    Nat.mul_lt_mul_right hunit
  cases entry with
  | none => rfl
  | some e =>
    simp only [live, Option.map_some, Option.filter_some, decide_eq_true_eq, hlt]
    split_ifs <;> rfl

end rescaled

@[simp] theorem setEX_same (now : ℕ) (key : κ) (v : α) (ttl : ℕ) (store : Store κ α) :
    setEX now key v ttl store key = some ⟨v, now + ttl⟩ := by
  simp [setEX]

/-- A write changes no other key. -/
theorem setEX_other {key k : κ} (h : k ≠ key) (now : ℕ) (v : α) (ttl : ℕ) (store : Store κ α) :
    setEX now key v ttl store k = store k := by
  simp [setEX, h]

@[simp] theorem del_same (key : κ) (store : Store κ α) : del key store key = none := by
  simp [del]

/-- A removal changes no other key. -/
theorem del_other {key k : κ} (h : k ≠ key) (store : Store κ α) : del key store k = store k := by
  simp [del, h]

/-- `setNX` where nothing is found writes. -/
theorem setNX_of_none {now : ℕ} {key : κ} {store : Store κ α} (h : live now (store key) = none)
    (v : α) (ttl : ℕ) : setNX now key v ttl store = (true, setEX now key v ttl store) := by
  simp [setNX, h]

/-- `setNX` where something is found writes nothing. -/
theorem setNX_of_some {now : ℕ} {key : κ} {store : Store κ α} {e : Entry α}
    (h : live now (store key) = some e) (v : α) (ttl : ℕ) :
    setNX now key v ttl store = (false, store) := by
  simp [setNX, h]

/-- `setNX` changes no other key. -/
theorem setNX_other {key k : κ} (h : k ≠ key) (now : ℕ) (v : α) (ttl : ℕ) (store : Store κ α) :
    (setNX now key v ttl store).2 k = store k := by
  unfold setNX
  split_ifs
  · rfl
  · exact setEX_other h now v ttl store

omit [DecidableEq κ] in
/-- `get` where something is found. -/
theorem get_of_some {now : ℕ} {key : κ} {store : Store κ α} {e : Entry α}
    (h : live now (store key) = some e) : get now key store = some e.value := by
  simp [get, h]

omit [DecidableEq κ] in
/-- `get` where nothing is found. -/
theorem get_of_none {now : ℕ} {key : κ} {store : Store κ α} (h : live now (store key) = none) :
    get now key store = none := by
  simp [get, h]

end Expiring
