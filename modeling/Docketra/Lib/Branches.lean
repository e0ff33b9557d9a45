import Mathlib.Data.List.Basic

/-!
# Boolean formulas and their branches

A formula is built of atoms by conjunction, disjunction, and joint denial, of lists of any length.
Its `branches` are the ways to make it true: a branch is a list of literals, which are atoms with the
truth value that they must have. A formula has a truth value under a valuation exactly when the
valuation agrees with one of its branches for that value (`holds_eq_iff`).
-/

namespace Branches

/-- Formulas over atoms. -/
inductive Formula (A : Type) where
  | atom (a : A)
  | all (fs : List (Formula A))
  | any (fs : List (Formula A))
  | none (fs : List (Formula A))

variable {A : Type}

/-! ## Truth -/

mutual

/-- The truth value of a formula. -/
def holds (v : A → Bool) : Formula A → Bool
  | .atom a => v a
  | .all fs => allHold v fs
  | .any fs => anyHolds v fs
  | .none fs => !anyHolds v fs

def allHold (v : A → Bool) : List (Formula A) → Bool
  | [] => true
  | f :: fs => holds v f && allHold v fs

def anyHolds (v : A → Bool) : List (Formula A) → Bool
  | [] => false
  | f :: fs => holds v f || anyHolds v fs

end

/-! ## Branches -/

/-- A list of literals: atoms, with the truth values that they must have. -/
abbrev Branch (A : Type) := List (A × Bool)

/-- The valuation gives the atoms of a branch their truth values. -/
def Agrees (v : A → Bool) (b : Branch A) : Prop := ∀ l ∈ b, v l.1 = l.2

/-- The branches that go through a branch of each of two lists. -/
def both (bs cs : List (Branch A)) : List (Branch A) := bs.flatMap fun b => cs.map fun c => b ++ c

mutual

/-- The ways to give a formula a truth value. -/
def branches : Bool → Formula A → List (Branch A)
  | value, .atom a => [[(a, value)]]
  | true, .all fs => throughAll true fs
  | false, .all fs => throughOne false fs
  | true, .any fs => throughOne true fs
  | false, .any fs => throughAll false fs
  | true, .none fs => throughAll false fs
  | false, .none fs => throughOne true fs

/-- The ways to give each of some formulas a truth value. -/
def throughAll (value : Bool) : List (Formula A) → List (Branch A)
  | [] => [[]]
  | f :: fs => both (branches value f) (throughAll value fs)

/-- The ways to give one of some formulas a truth value. -/
def throughOne (value : Bool) : List (Formula A) → List (Branch A)
  | [] => []
  | f :: fs => branches value f ++ throughOne value fs

end

variable {v : A → Bool}

@[simp] theorem agrees_append (b c : Branch A) : Agrees v (b ++ c) ↔ Agrees v b ∧ Agrees v c :=
  List.forall_mem_append

/-- A valuation agrees with a branch of `both` when it agrees with a branch of each list. -/
theorem exists_mem_both (bs cs : List (Branch A)) :
    (∃ b ∈ both bs cs, Agrees v b) ↔ (∃ b ∈ bs, Agrees v b) ∧ ∃ c ∈ cs, Agrees v c := by
  unfold both
  constructor
  · rintro ⟨b, hb, hagrees⟩
    obtain ⟨b₁, hb₁, hb⟩ := List.mem_flatMap.mp hb
    obtain ⟨b₂, hb₂, rfl⟩ := List.mem_map.mp hb
    rw [agrees_append] at hagrees
    exact ⟨⟨b₁, hb₁, hagrees.1⟩, ⟨b₂, hb₂, hagrees.2⟩⟩
  · rintro ⟨⟨b₁, hb₁, h₁⟩, ⟨b₂, hb₂, h₂⟩⟩
    refine ⟨b₁ ++ b₂, ?_, (agrees_append b₁ b₂).mpr ⟨h₁, h₂⟩⟩
    exact List.mem_flatMap.mpr ⟨b₁, hb₁, List.mem_map.mpr ⟨b₂, hb₂, rfl⟩⟩

mutual

/-- A formula has a truth value exactly when the valuation agrees with a branch for it. -/
theorem holds_eq_iff : ∀ (value : Bool) (f : Formula A),
    holds v f = value ↔ ∃ b ∈ branches value f, Agrees v b
  | value, .atom a => by
    have hagrees : Agrees v [(a, value)] ↔ v a = value := List.forall_mem_singleton
    rw [holds, branches, ← hagrees]
    simp
  | true, .all fs => by
    rw [holds, branches, ← throughAll_iff, allHold_eq_true]
  | false, .all fs => by
    rw [holds, branches, ← throughOne_iff, ← Bool.not_eq_true, allHold_eq_true]
    simp
  | true, .any fs => by
    rw [holds, branches, ← throughOne_iff, anyHolds_eq_true]
  | false, .any fs => by
    rw [holds, branches, ← throughAll_iff, ← Bool.not_eq_true, anyHolds_eq_true]
    simp
  | true, .none fs => by
    rw [holds, branches, ← throughAll_iff, Bool.not_eq_true', ← Bool.not_eq_true, anyHolds_eq_true]
    simp
  | false, .none fs => by
    rw [holds, branches, ← throughOne_iff, Bool.not_eq_false', anyHolds_eq_true]

theorem throughAll_iff (value : Bool) : ∀ fs : List (Formula A),
    (∀ f ∈ fs, holds v f = value) ↔ ∃ b ∈ throughAll value fs, Agrees v b
  | [] => by simp [throughAll, Agrees]
  | f :: fs => by
    rw [throughAll, exists_mem_both, List.forall_mem_cons, holds_eq_iff, throughAll_iff]

theorem throughOne_iff (value : Bool) : ∀ fs : List (Formula A),
    (∃ f ∈ fs, holds v f = value) ↔ ∃ b ∈ throughOne value fs, Agrees v b
  | [] => by simp [throughOne]
  | f :: fs => by
    rw [throughOne, List.exists_mem_cons_iff, holds_eq_iff, throughOne_iff]
    simp only [List.mem_append, or_and_right, exists_or]

theorem allHold_eq_true : ∀ fs : List (Formula A),
    allHold v fs = true ↔ ∀ f ∈ fs, holds v f = true
  | [] => by simp [allHold]
  | f :: fs => by
    rw [allHold, Bool.and_eq_true, allHold_eq_true, List.forall_mem_cons]

theorem anyHolds_eq_true : ∀ fs : List (Formula A),
    anyHolds v fs = true ↔ ∃ f ∈ fs, holds v f = true
  | [] => by simp [anyHolds]
  | f :: fs => by
    rw [anyHolds, Bool.or_eq_true, anyHolds_eq_true, List.exists_mem_cons_iff]

end

end Branches
