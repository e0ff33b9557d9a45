import Mathlib.Logic.Basic
import Mathlib.Tactic.Common

/-!
# Checked computations

A service function reads a state, makes its checks in order, and returns the state to store, or
fails at the first check that does not hold. Such a function is a computation in `Except`, with
`throwIf` for a check. The lemmas of this file read a success backwards, check by check
(`bind_eq_ok`, `throwIf_eq_ok`), and `settle` is the state stored after a call: the new one, or the
old one when the call failed.
-/

namespace Checked

variable {ε α β σ : Type}

/-- The check `if (bad) throw e`. -/
def throwIf (bad : Prop) [Decidable bad] (e : ε) : Except ε Unit :=
  if bad then .error e else .ok ()

/-- A check passes exactly when its condition does not hold. -/
@[simp] theorem throwIf_eq_ok {bad : Prop} [Decidable bad] {e : ε} {u : Unit} :
    throwIf bad e = .ok u ↔ ¬bad := by
  by_cases h : bad <;> simp [throwIf, h]

/-- A check whose condition does not hold passes. -/
theorem throwIf_neg {bad : Prop} [Decidable bad] {e : ε} (h : ¬bad) : throwIf bad e = .ok () :=
  if_neg h

/-- A sequence succeeds exactly when its first part does, and then the rest on its value. -/
@[simp] theorem bind_eq_ok {x : Except ε α} {f : α → Except ε β} {b : β} :
    (x >>= f) = .ok b ↔ ∃ a, x = .ok a ∧ f a = .ok b := by
  cases x <;> simp [bind, Except.bind]

/-- A sequence whose first part succeeds goes on with its value. -/
@[simp] theorem ok_bind {a : α} {f : α → Except ε β} : ((.ok a : Except ε α) >>= f) = f a := rfl

/-- A sequence whose first part fails fails with its error. -/
@[simp] theorem error_bind {e : ε} {f : α → Except ε β} :
    ((.error e : Except ε α) >>= f) = .error e := rfl

/-- `pure` is success. -/
@[simp] theorem pure_eq {a : α} : (pure a : Except ε α) = .ok a := rfl

/-- A failure that is reported in other words is a failure. -/
@[simp] theorem mapError_eq_ok {ε' : Type} {x : Except ε α} {f : ε → ε'} {a : α} :
    x.mapError f = .ok a ↔ x = .ok a := by
  cases x <;> simp [Except.mapError]

/-- The value of a call that may fail. -/
theorem toOption_eq_some {x : Except ε α} {a : α} : x.toOption = some a ↔ x = .ok a := by
  cases x <;> simp [Except.toOption]

/-- The value of a call that may fail, or find nothing. -/
theorem toOption_join_eq_some {x : Except ε (Option α)} {a : α} :
    x.toOption.join = some a ↔ x = .ok (some a) := by
  rcases x with e | _ | b <;> simp [Except.toOption]

/-- The state stored after a call: what it returned, or the state before it when it failed. -/
def settle (r : Except ε σ) (s : σ) : σ :=
  match r with
  | .ok t => t
  | .error _ => s

@[simp] theorem settle_ok {s t : σ} : settle (.ok t : Except ε σ) s = t := rfl

/-- A call that succeeds on no state leaves the one that is stored. -/
theorem settle_of_refused {r : Except ε σ} {s : σ} (h : ∀ t, r ≠ .ok t) : settle r s = s := by
  cases r with
  | ok t => exact absurd rfl (h t)
  | error e => rfl

/-- What holds of the state before a call, and of whatever the call stores, holds after it. -/
theorem settle_induction {P : σ → Prop} {r : Except ε σ} {s : σ} (hs : P s)
    (hr : ∀ t, r = .ok t → P t) : P (settle r s) := by
  cases r with
  | ok t => exact hr t rfl
  | error e => exact hs

/-- When the state before a call satisfies `P`, the state after it does exactly when every state
that the call stores does. -/
theorem settle_iff {P : σ → Prop} {r : Except ε σ} {s : σ} (hs : P s) :
    P (settle r s) ↔ ∀ t, r = .ok t → P t := by
  refine ⟨?_, settle_induction hs⟩
  rintro h t rfl
  exact h

end Checked
