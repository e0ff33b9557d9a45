import Mathlib.Logic.Relation
import Mathlib.Data.List.Basic

/-!
# Chains of parents

Where things may have a parent, the chain of a thing goes from parent to parent. No thing is in its
own chain (`Acyclic`), and none gets there when a thing is given a parent that has none itself
(`Acyclic.add`), or when parents are taken away (`Acyclic.mono`). A search up a chain that stops at
what it has passed before finds whether a thing is there (`circular_eq_true_iff`): with more steps
than there are things with a parent, it does not run out of them.
-/

namespace ParentChains

open Relation

variable {κ : Type} {parent parent' : κ → Option κ}

def IsParent (parent : κ → Option κ) (a b : κ) : Prop := parent a = some b

/-- `b` is in the chain of `a`. -/
def Above (parent : κ → Option κ) (a b : κ) : Prop := TransGen (IsParent parent) a b

def Acyclic (parent : κ → Option κ) : Prop := ∀ a, ¬Above parent a a

theorem Acyclic.mono (h : Acyclic parent)
    (hsub : ∀ a b, parent' a = some b → parent a = some b) : Acyclic parent' :=
  fun a ha => h a (TransGen.mono hsub a a ha)

/-- A chain with one parent more is as before, or ends at the new parent. -/
theorem above_add {x y : κ} (hroot : parent' y = none)
    (hnew : ∀ a b, parent' a = some b → parent a = some b ∨ a = x ∧ b = y) {a b : κ}
    (h : Above parent' a b) : Above parent a b ∨ b = y := by
  induction h with
  | single hab => exact (hnew a _ hab).imp .single fun hxy => hxy.2
  | tail _ hbc ih =>
    obtain hab | rfl := ih
    · exact (hnew _ _ hbc).imp hab.tail fun hxy => hxy.2
    · exact nomatch hroot.symm.trans hbc

/-- A parent that has none itself closes no chain. -/
theorem Acyclic.add {x y : κ} (h : Acyclic parent) (hroot : parent' y = none)
    (hnew : ∀ a b, parent' a = some b → parent a = some b ∨ a = x ∧ b = y) : Acyclic parent' := by
  intro a ha
  obtain hold | rfl := above_add hroot hnew ha
  · exact h a hold
  · obtain ⟨b, hb, -⟩ := TransGen.head'_iff.mp ha
    exact nomatch hroot.symm.trans hb

/-! ## Searches -/

variable [DecidableEq κ]

/-- Whether a chain comes to something that has been passed. -/
def circular (parent : κ → Option κ) : ℕ → List κ → Option κ → Bool
  | _, _, none => false
  | 0, _, some _ => false
  | n + 1, visited, some a => a ∈ visited || circular parent n (a :: visited) (parent a)

variable {visited dom : List κ} {current : Option κ} {n : ℕ} {t m : κ}

theorem circular_none : circular parent n visited none = false := by
  unfold circular
  cases n <;> rfl

/-- More steps find what fewer steps find. -/
theorem circular_succ (h : circular parent n visited current = true) :
    circular parent (n + 1) visited current = true := by
  induction n generalizing visited current with
  | zero => cases current <;> exact nomatch h
  | succ n ih =>
    cases current with
    | none => exact nomatch circular_none.symm.trans h
    | some a =>
      unfold circular at h ⊢
      rw [Bool.or_eq_true] at h ⊢
      exact h.imp_right ih

/-- There is less that has not been passed after one thing more. -/
theorem countP_cons_lt {a : κ} (ha : a ∈ dom) (hmem : a ∉ visited) :
    dom.countP (· ∉ a :: visited) < dom.countP (· ∉ visited) := by
  have hfilter : dom.filter (· ∉ a :: visited) = (dom.filter (· ∉ visited)).filter (· ≠ a) := by
    rw [List.filter_filter]
    refine List.filter_congr fun b _ => ?_
    simp only [List.mem_cons, not_or, Bool.decide_and, ne_eq]
  rw [List.countP_eq_length_filter, List.countP_eq_length_filter, hfilter,
    List.length_filter_lt_length_iff_exists]
  exact ⟨a, List.mem_filter.mpr ⟨ha, decide_eq_true hmem⟩, by simp⟩

/-- What has not been passed is enough for the steps that are left. -/
theorem circular_fuel (hdom : ∀ a, parent a ≠ none → a ∈ dom)
    (hn : dom.countP (· ∉ visited) < n) :
    circular parent (n + 1) visited current = circular parent n visited current := by
  induction n generalizing visited current with
  | zero => exact absurd hn (Nat.not_lt_zero _)
  | succ n ih =>
    cases current with
    | none => rw [circular_none, circular_none]
    | some a =>
      show (a ∈ visited || circular parent (n + 1) (a :: visited) (parent a)) =
        (a ∈ visited || circular parent n (a :: visited) (parent a))
      by_cases hmem : a ∈ visited
      · rw [decide_eq_true hmem, Bool.true_or, Bool.true_or]
      cases hparent : parent a with
      | none => rw [circular_none, circular_none]
      | some b =>
        have ha : a ∈ dom := hdom a (hparent ▸ Option.some_ne_none b)
        have hless := countP_cons_lt ha hmem
        rw [ih (by omega)]

theorem exists_circular (h : ReflTransGen (IsParent parent) m t) (ht : t ∈ visited) :
    ∃ n, circular parent n visited (some m) = true := by
  induction h using ReflTransGen.head_induction_on generalizing visited with
  | refl => exact ⟨1, Bool.or_eq_true_iff.mpr (.inl (decide_eq_true ht))⟩
  | head hab _ ih =>
    obtain ⟨n, hn⟩ := ih (List.mem_cons_of_mem _ ht)
    refine ⟨n + 1, Bool.or_eq_true_iff.mpr (.inr ?_)⟩
    rw [hab]
    exact hn

/-- What is passed is below, so that only what was passed to begin with can be met. -/
theorem of_circular (hacyclic : Acyclic parent)
    (hvisited : ∀ v ∈ visited, v = t ∨ ∀ a, current = some a → Above parent v a)
    (h : circular parent n visited current = true) :
    ∃ a, current = some a ∧ ReflTransGen (IsParent parent) a t := by
  induction n generalizing visited current with
  | zero => cases current <;> exact nomatch h
  | succ n ih =>
    cases current with
    | none => exact nomatch circular_none.symm.trans h
    | some a =>
      refine ⟨a, rfl, ?_⟩
      obtain hmem | hrest := Bool.or_eq_true_iff.mp h
      · obtain rfl | habove := hvisited a (of_decide_eq_true hmem)
        · exact .refl
        · exact absurd (habove a rfl) (hacyclic a)
      · have hpassed : ∀ v ∈ a :: visited, v = t ∨ ∀ b, parent a = some b → Above parent v b := by
          intro v hv
          rcases List.mem_cons.mp hv with rfl | hv
          · exact .inr fun b hb => .single hb
          · exact (hvisited v hv).imp_right fun habove b hb => (habove a rfl).tail hb
        obtain ⟨b, hb, hreach⟩ := ih hpassed hrest
        exact .head hb hreach

/-- The search up a chain is exact. -/
theorem circular_eq_true_iff (hacyclic : Acyclic parent)
    (hdom : ∀ a, parent a ≠ none → a ∈ dom) (hn : dom.length < n) :
    circular parent n [t] (some m) = true ↔ ReflTransGen (IsParent parent) m t := by
  constructor
  · intro h
    obtain ⟨a, ha, hreach⟩ := of_circular hacyclic (fun v hv => .inl (List.mem_singleton.mp hv)) h
    rw [Option.some.inj ha]
    exact hreach
  · intro h
    obtain ⟨k, hk⟩ := exists_circular h (List.mem_singleton_self t)
    have hmore : ∀ j, circular parent (k + j) [t] (some m) = true := by
      intro j
      induction j with
      | zero => exact hk
      | succ j ih => exact circular_succ ih
    have hsame : ∀ j, circular parent (n + j) [t] (some m) = circular parent n [t] (some m) := by
      intro j
      induction j with
      | zero => rfl
      | succ j ih =>
        have hcount := List.countP_le_length (p := fun a => decide (a ∉ [t])) (l := dom)
        rw [← ih, ← Nat.add_assoc, circular_fuel hdom (by omega)]
    rw [← hsame k, Nat.add_comm]
    exact hmore n

end ParentChains
