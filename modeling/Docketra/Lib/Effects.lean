import Mathlib.Logic.Basic
import Mathlib.Tactic.Common

/-!
# Effects before a failure

A computation that makes its checks and its effects in turns: it fails at the first check that does
not hold, and what it has done until then stays done. A `Run` is the result together with the
effects, in their order.

A run is all or nothing when it succeeds, or has no effect (`AllOrNothing`). Checks in front do not
change that (`allOrNothing_checked_bind`), and once there is an effect the rest has to succeed
(`allOrNothing_emit_bind`).
-/

namespace Effects

/-- The result of a computation, and the effects that it has made. -/
structure Run (ε ω α : Type) where
  result : Except ε α
  effects : List ω

namespace Run

variable {ε ω α β : Type}

instance : Monad (Run ε ω) where
  pure a := ⟨.ok a, []⟩
  bind x f :=
    match x.result with
    | .error e => ⟨.error e, x.effects⟩
    | .ok a => ⟨(f a).result, x.effects ++ (f a).effects⟩

/-- A check, or another computation without effects. -/
def checked (x : Except ε α) : Run ε ω α := ⟨x, []⟩

/-- An effect. -/
def emit (w : ω) : Run ε ω Unit := ⟨.ok (), [w]⟩

/-- An effect that is made under a condition. -/
def emitIf (p : Prop) [Decidable p] (w : ω) : Run ε ω Unit := ⟨.ok (), if p then [w] else []⟩

/-- The run succeeds, or has no effect. -/
def AllOrNothing (x : Run ε ω α) : Prop := (∃ a, x.result = .ok a) ∨ x.effects = []

variable {x : Except ε α} {f : α → Run ε ω β}

@[simp] theorem result_pure (a : α) : (pure a : Run ε ω α).result = .ok a := rfl

@[simp] theorem effects_pure (a : α) : (pure a : Run ε ω α).effects = [] := rfl

@[simp] theorem result_checked (x : Except ε α) : (checked x : Run ε ω α).result = x := rfl

@[simp] theorem effects_checked (x : Except ε α) : (checked x : Run ε ω α).effects = [] := rfl

/-- The effects of what follows a check are all there are. -/
theorem checked_ok_bind (a : α) : (checked (.ok a) >>= f : Run ε ω β) = f a := by
  change (⟨(f a).result, [] ++ (f a).effects⟩ : Run ε ω β) = f a
  rw [List.nil_append]

theorem checked_error_bind (e : ε) : (checked (.error e) >>= f : Run ε ω β) = ⟨.error e, []⟩ := rfl

@[simp] theorem result_checked_bind :
    (checked x >>= f : Run ε ω β).result = x >>= fun a => (f a).result := by
  cases x with
  | error e => rfl
  | ok a => rfl

@[simp] theorem result_emit_bind {w : ω} {g : Unit → Run ε ω β} :
    (emit w >>= g).result = (g ()).result := rfl

@[simp] theorem result_emitIf_bind {p : Prop} [Decidable p] {w : ω} {g : Unit → Run ε ω β} :
    (emitIf p w >>= g).result = (g ()).result := rfl

@[simp] theorem effects_emit_bind {w : ω} {g : Unit → Run ε ω β} :
    (emit w >>= g).effects = w :: (g ()).effects := rfl

@[simp] theorem effects_emitIf_bind {p : Prop} [Decidable p] {w : ω} {g : Unit → Run ε ω β} :
    (emitIf p w >>= g).effects = (if p then [w] else []) ++ (g ()).effects := rfl

theorem allOrNothing_checked : (checked x : Run ε ω α).AllOrNothing := Or.inr rfl

/-- After a check, the rest is all or nothing when it is reached. -/
theorem allOrNothing_checked_bind :
    (checked x >>= f).AllOrNothing ↔ ∀ a, x = .ok a → (f a).AllOrNothing := by
  cases x with
  | error e => exact ⟨fun _ _ h => (nomatch h), fun _ => Or.inr rfl⟩
  | ok a =>
    rw [checked_ok_bind]
    exact ⟨fun h b hb => Except.ok.inj hb ▸ h, fun h => h a rfl⟩

/-- After an effect, the rest has to succeed. -/
theorem allOrNothing_emit_bind {w : ω} {g : Unit → Run ε ω β} :
    (emit w >>= g).AllOrNothing ↔ ∃ b, (g ()).result = .ok b :=
  ⟨fun h => h.resolve_right (List.cons_ne_nil _ _), Or.inl⟩

/-- After an effect that is made under a condition, the rest has to succeed where it holds. -/
theorem allOrNothing_emitIf_bind {p : Prop} [Decidable p] {w : ω} {g : Unit → Run ε ω β} :
    (emitIf p w >>= g).AllOrNothing ↔
      if p then ∃ b, (g ()).result = .ok b else (g ()).AllOrNothing := by
  unfold AllOrNothing
  rw [effects_emitIf_bind, result_emitIf_bind]
  split
  · next hp => exact ⟨fun h => h.resolve_right (List.cons_ne_nil _ _), Or.inl⟩
  · next hp => rw [List.nil_append]

end Run

end Effects
