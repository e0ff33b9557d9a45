import Docketra.Lib.Runs
import Mathlib.Logic.Function.Basic

/-!
# Requests over one store

Any number of requests act on one store, each in steps of its own, and each has a phase, which only
its own steps change. A step is atomic, and the steps of the requests come in any order, with other
events between them.

What holds throughout is asserted of the store, of each request's phase in the store, and of the
phases of every two requests. Then a step has to establish what is asserted of its own request, and
must not disturb what is asserted of the others (`Holds.act`).
-/

namespace Interleaving

open Runs

variable {σ φ α ε : Type}

/-- A store, and the phase of each request. -/
structure System (σ φ : Type) where
  stored : σ
  phase : ℕ → φ

/-- A request takes a step, or something else happens. -/
inductive Event (α ε : Type) where
  | act (request : ℕ) (action : α)
  | other (event : ε)

/-- What the steps do. A request that is not ready for a step does nothing. -/
structure Program (σ φ α ε : Type) where
  act : ℕ → α → σ → φ → Option (σ × φ)
  other : ε → σ → σ

/-- The store and the phase after a step of a request. -/
def System.after (s : System σ φ) (request : ℕ) (result : σ × φ) : System σ φ where
  stored := result.1
  phase := Function.update s.phase request result.2

/-- One event. -/
def step (P : Program σ φ α ε) : Event α ε → System σ φ → System σ φ
  | .act request action, s =>
    ((P.act request action s.stored (s.phase request)).map (s.after request)).getD s
  | .other event, s => { s with stored := P.other event s.stored }

/-- What is asserted of the store, of a request, and of two requests. -/
structure Assertions (σ φ : Type) where
  store : σ → Prop
  own : ℕ → σ → φ → Prop
  both : φ → φ → Prop

/-- The assertions hold in a system. -/
structure Holds (A : Assertions σ φ) (s : System σ φ) : Prop where
  store : A.store s.stored
  own : ∀ r, A.own r s.stored (s.phase r)
  both : ∀ r r', r ≠ r' → A.both (s.phase r) (s.phase r')

/-- What a step of a request has to show: the assertions of the store and of its own, and that the
other requests are not disturbed. -/
structure Keeps (A : Assertions σ φ) (s : System σ φ) (request : ℕ) (result : σ × φ) : Prop where
  store : A.store result.1
  own : A.own request result.1 result.2
  others : ∀ r, r ≠ request → A.own r result.1 (s.phase r)
  both : ∀ r, r ≠ request → A.both result.2 (s.phase r) ∧ A.both (s.phase r) result.2

variable {A : Assertions σ φ} {P : Program σ φ α ε}

theorem Holds.after {s : System σ φ} (h : Holds A s) {request : ℕ} {result : σ × φ}
    (hkeeps : Keeps A s request result) : Holds A (s.after request result) := by
  have hphase : ∀ r, r ≠ request → (s.after request result).phase r = s.phase r :=
    fun r hr => Function.update_of_ne hr _ _
  have hself : (s.after request result).phase request = result.2 := Function.update_self _ _ _
  refine ⟨hkeeps.store, fun r => ?_, fun r r' hne => ?_⟩
  · by_cases hr : r = request
    · rw [hr, hself]
      exact hkeeps.own
    · rw [hphase r hr]
      exact hkeeps.others r hr
  · by_cases hr : r = request
    · rw [hr, hself, hphase r' (fun h => hne (hr.trans h.symm))]
      exact (hkeeps.both r' (fun h => hne (hr.trans h.symm))).1
    · by_cases hr' : r' = request
      · rw [hr', hself, hphase r hr]
        exact (hkeeps.both r hr).2
      · rw [hphase r hr, hphase r' hr']
        exact h.both r r' hne

/-- A step of a request keeps the assertions when what it does does. -/
theorem Holds.act {s : System σ φ} (h : Holds A s) {request : ℕ} {action : α}
    (hkeeps : ∀ result, P.act request action s.stored (s.phase request) = some result →
      Keeps A s request result) : Holds A (step P (.act request action) s) := by
  show Holds A (((P.act request action s.stored (s.phase request)).map (s.after request)).getD s)
  cases hact : P.act request action s.stored (s.phase request) with
  | none => exact h
  | some result => exact h.after (hkeeps result hact)

/-- Another event keeps the assertions when it keeps those of the store and of each request. -/
theorem Holds.other {s : System σ φ} (h : Holds A s) {event : ε}
    (hstore : A.store (P.other event s.stored))
    (hown : ∀ r, A.own r (P.other event s.stored) (s.phase r)) :
    Holds A (step P (.other event) s) :=
  ⟨hstore, hown, h.both⟩

/-- The phase of a request after a step of it. -/
theorem after_phase_self (s : System σ φ) (request : ℕ) (result : σ × φ) :
    (s.after request result).phase request = result.2 := Function.update_self _ _ _

theorem after_phase_of_ne (s : System σ φ) {request r : ℕ} (h : r ≠ request) (result : σ × φ) :
    (s.after request result).phase r = s.phase r := Function.update_of_ne h _ _

/-- A step of a request that is ready for it. -/
theorem step_act {s : System σ φ} {request : ℕ} {action : α} {result : σ × φ}
    (h : P.act request action s.stored (s.phase request) = some result) :
    step P (.act request action) s = s.after request result := by
  show ((P.act request action s.stored (s.phase request)).map (s.after request)).getD s = _
  rw [h]
  rfl

/-- A step of a request that is not ready for it. -/
theorem step_act_none {s : System σ φ} {request : ℕ} {action : α}
    (h : P.act request action s.stored (s.phase request) = none) :
    step P (.act request action) s = s := by
  show ((P.act request action s.stored (s.phase request)).map (s.after request)).getD s = _
  rw [h]
  rfl

end Interleaving
