import Docketra.Lib.Runs

/-!
# Two machines in lockstep

Two machines take the same inputs and answer each of them. They are compared through a third, the
tracker, which sees the inputs alone. When a relation between the three holds, the machines answer
an input alike exactly when the tracker admits it, and on admitted inputs the relation is kept.
Then they answer a whole sequence of inputs alike exactly when the tracker admits the sequence
(`outputs_eq_iff`).
-/

namespace Lockstep

open Runs

variable {ι ω σ τ γ : Type}

/-- The answers of a machine to a sequence of inputs. -/
def outputs (step : ι → σ → ω × σ) : List ι → σ → List ω
  | [], _ => []
  | i :: is, s => (step i s).1 :: outputs step is (step i s).2

/-- One step of the comparison: related machines answer alike exactly on admitted inputs, and
admitted inputs leave them related. -/
structure Tracks (left : ι → σ → ω × σ) (right : ι → τ → ω × τ) (track : ι → γ → γ)
    (ok : ι → γ → Prop) (R : γ → σ → τ → Prop) : Prop where
  answers : ∀ {i g s t}, R g s t → ((left i s).1 = (right i t).1 ↔ ok i g)
  related : ∀ {i g s t}, R g s t → ok i g → R (track i g) (left i s).2 (right i t).2

/-- Two machines that are related through a tracker answer a sequence of inputs alike exactly when
the tracker admits the sequence. -/
theorem Tracks.outputs_eq_iff {left : ι → σ → ω × σ} {right : ι → τ → ω × τ} {track : ι → γ → γ}
    {ok : ι → γ → Prop} {R : γ → σ → τ → Prop} (h : Tracks left right track ok R) (is : List ι) :
    ∀ {g : γ} {s : σ} {t : τ}, R g s t →
      (outputs left is s = outputs right is t ↔ Admits track ok is g) := by
  induction is with
  | nil => simp [outputs, Admits]
  | cons i is ih =>
    intro g s t hR
    unfold outputs Admits
    rw [List.cons.injEq, h.answers hR]
    exact and_congr_right fun hok => ih (h.related hR hok)

end Lockstep
