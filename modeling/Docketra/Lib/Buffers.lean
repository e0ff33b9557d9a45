import Mathlib.Logic.Function.Basic
import Mathlib.Data.Nat.Notation
import Mathlib.Tactic.Common

/-!
# Buffers

A memory of byte buffers that are allocated as copies and overwritten with zeros. `Keeps owned` says
that from one memory to a later one only the buffers that are `owned` have changed. New buffers have
new addresses, so that a buffer that its holder does not share stays as it is while the buffers of
others are allocated and overwritten (`Keeps.trans`, `keeps_copy`, `keeps_zero`).
-/

namespace Buffers

/-- The buffers, by their addresses. -/
structure Memory (β : Type) where
  bytes : ℕ → List β
  /-- The address of the next buffer. -/
  next : ℕ

variable {β : Type}

/-- A memory without buffers. -/
def Memory.empty : Memory β where
  bytes _ := []
  next := 0

/-- Allocates a buffer, whose address is `next`. -/
def Memory.copy (m : Memory β) (content : List β) : Memory β where
  bytes := Function.update m.bytes m.next content
  next := m.next + 1

/-- Overwrites a buffer with zeros. -/
def Memory.zero [Zero β] (m : Memory β) (a : ℕ) : Memory β :=
  { m with bytes := Function.update m.bytes a (List.replicate (m.bytes a).length 0) }

@[simp] theorem Memory.next_copy (m : Memory β) (content : List β) :
    (m.copy content).next = m.next + 1 := rfl

@[simp] theorem Memory.next_zero [Zero β] (m : Memory β) (a : ℕ) :
    (m.zero a).next = m.next := rfl

@[simp] theorem Memory.bytes_copy_next (m : Memory β) (content : List β) :
    (m.copy content).bytes m.next = content :=
  Function.update_self _ _ _

theorem Memory.bytes_copy {m : Memory β} {content : List β} {a : ℕ} (h : a ≠ m.next) :
    (m.copy content).bytes a = m.bytes a :=
  Function.update_of_ne h _ _

theorem Memory.bytes_zero [Zero β] {m : Memory β} {a b : ℕ} (h : b ≠ a) :
    (m.zero a).bytes b = m.bytes b :=
  Function.update_of_ne h _ _

/-- Of the buffers of a memory, only those that are owned have changed in the other. -/
structure Keeps (owned : ℕ → Prop) (m m' : Memory β) : Prop where
  next_le : m.next ≤ m'.next
  bytes : ∀ a < m.next, ¬owned a → m'.bytes a = m.bytes a

theorem Keeps.refl (owned : ℕ → Prop) (m : Memory β) : Keeps owned m m :=
  ⟨Nat.le_refl _, fun _ _ _ => rfl⟩

/-- What is owned in between is owned before, or new. -/
theorem Keeps.trans {owned owned' : ℕ → Prop} {m m' m'' : Memory β} (h : Keeps owned m m')
    (h' : Keeps owned' m' m'') (howned : ∀ a < m.next, owned' a → owned a) : Keeps owned m m'' where
  next_le := Nat.le_trans h.next_le h'.next_le
  bytes a ha hnot := by
    have hlater : m''.bytes a = m'.bytes a :=
      h'.bytes a (Nat.lt_of_lt_of_le ha h.next_le) fun ha' => hnot (howned a ha ha')
    rw [hlater, h.bytes a ha hnot]

theorem keeps_copy (owned : ℕ → Prop) (m : Memory β) (content : List β) :
    Keeps owned m (m.copy content) :=
  ⟨Nat.le_succ _, fun _ ha _ => Memory.bytes_copy (Nat.ne_of_lt ha)⟩

theorem keeps_zero [Zero β] {owned : ℕ → Prop} (m : Memory β) {a : ℕ} (ha : owned a) :
    Keeps owned m (m.zero a) := by
  refine ⟨Nat.le_refl _, fun b _ hb => Memory.bytes_zero ?_⟩
  rintro rfl
  exact hb ha

end Buffers
