import Mathlib.Logic.Basic
import Mathlib.Tactic.Common

/-!
# Calls that change a state and may throw

What a call has changed before it throws stays changed. `outcome` is what a call returns or throws,
with the state after it. A call that returned is read backwards part by part (`bind_eq_ok`), and what
every part of a call keeps, the call keeps (`Keeps.bind`, `Keeps.tryCatch`).
-/

namespace Calls

variable {σ τ α β : Type}

abbrev Call (σ α : Type) := ExceptT String (StateM σ) α

/-- What a call returns or throws, and the state after it. -/
def outcome (x : Call σ α) (s : σ) : Except String α × σ := (ExceptT.run x).run s

/-- A call on a part of the state. -/
def within (part : σ → τ) (update : τ → σ → σ) (x : Call τ α) : Call σ α :=
  ExceptT.mk fun s => ((outcome x (part s)).1, update (outcome x (part s)).2 s)

/-- A computation that changes nothing. -/
def lift (x : Except String α) : Call σ α := ExceptT.mk fun s => (x, s)

theorem outcome_lift (x : Except String α) (s : σ) : outcome (lift x) s = (x, s) := rfl

theorem outcome_get (s : σ) : outcome (get : Call σ σ) s = (.ok s, s) := rfl

theorem outcome_modify (f : σ → σ) (s : σ) :
    outcome (modify f : Call σ PUnit) s = (.ok ⟨⟩, f s) := rfl

theorem outcome_within (part : σ → τ) (update : τ → σ → σ) (x : Call τ α) (s : σ) :
    outcome (within part update x) s =
      ((outcome x (part s)).1, update (outcome x (part s)).2 s) := rfl

theorem outcome_bind (x : Call σ α) (f : α → Call σ β) (s : σ) :
    outcome (x >>= f) s =
      match outcome x s with
      | (.ok a, s') => outcome (f a) s'
      | (.error error, s') => (.error error, s') := by
  unfold outcome
  rw [ExceptT.run_bind, StateT.run_bind]
  show (match StateT.run (ExceptT.run x) s with | (a, s') => _) = _
  rcases StateT.run (ExceptT.run x) s with ⟨a | a, s'⟩
  · rfl
  · rfl

theorem outcome_tryCatch (x : Call σ α) (handle : String → Call σ α) (s : σ) :
    outcome (tryCatch x handle) s =
      match outcome x s with
      | (.ok a, s') => (.ok a, s')
      | (.error error, s') => outcome (handle error) s' := by
  unfold outcome
  rw [ExceptT.run_tryCatch, StateT.run_bind]
  show (match StateT.run (ExceptT.run x) s with | (a, s') => _) = _
  rcases StateT.run (ExceptT.run x) s with ⟨a | a, s'⟩
  · rfl
  · rfl

theorem outcome_bind_ok {x : Call σ α} {f : α → Call σ β} {s s' : σ} {a : α}
    (h : outcome x s = (.ok a, s')) : outcome (x >>= f) s = outcome (f a) s' := by
  rw [outcome_bind, h]

/-- A sequence returns exactly when its first part does, and then the rest on its value. -/
theorem bind_eq_ok {x : Call σ α} {f : α → Call σ β} {s s'' : σ} {b : β} :
    outcome (x >>= f) s = (.ok b, s'') ↔
      ∃ a s', outcome x s = (.ok a, s') ∧ outcome (f a) s' = (.ok b, s'') := by
  rw [outcome_bind]
  rcases outcome x s with ⟨error | a, s'⟩
  · constructor
    · intro h
      cases h
    · rintro ⟨a, t, h, -⟩
      cases h
  · constructor
    · exact fun h => ⟨a, s', rfl, h⟩
    · rintro ⟨a', t, h, hrest⟩
      cases h
      exact hrest

/-! ## What is kept -/

/-- The states before and after a call are related. -/
def Keeps (R : σ → σ → Prop) (x : Call σ α) : Prop := ∀ s, R s (outcome x s).2

section keeps

variable {R : σ → σ → Prop}

theorem Keeps.pure (hrefl : ∀ s, R s s) (a : α) : Keeps R (pure a : Call σ α) := fun s => hrefl s

theorem Keeps.throw (hrefl : ∀ s, R s s) (error : String) : Keeps R (throw error : Call σ α) :=
  fun s => hrefl s

theorem Keeps.lift (hrefl : ∀ s, R s s) (x : Except String α) : Keeps R (lift x : Call σ α) :=
  fun s => hrefl s

theorem Keeps.bind (htrans : ∀ {s t u}, R s t → R t u → R s u) {x : Call σ α} {f : α → Call σ β}
    (hx : Keeps R x) (hf : ∀ a, Keeps R (f a)) : Keeps R (x >>= f) := by
  intro s
  have hfirst := hx s
  rw [outcome_bind]
  rcases hresult : outcome x s with ⟨error | a, s'⟩
  · rw [hresult] at hfirst
    exact hfirst
  · rw [hresult] at hfirst
    exact htrans hfirst (hf a s')

theorem Keeps.tryCatch (htrans : ∀ {s t u}, R s t → R t u → R s u) {x : Call σ α}
    {handle : String → Call σ α} (hx : Keeps R x) (hhandle : ∀ error, Keeps R (handle error)) :
    Keeps R (tryCatch x handle) := by
  intro s
  have hfirst := hx s
  rw [outcome_tryCatch]
  rcases hresult : outcome x s with ⟨error | a, s'⟩
  · rw [hresult] at hfirst
    exact htrans hfirst (hhandle error s')
  · rw [hresult] at hfirst
    exact hfirst

end keeps

end Calls
