import Docketra.Lib.Runs

/-!
# Version counters

Some steps of a system raise a counter of its state, and the others leave it. The counter is
therefore the same after a run exactly when no step of the run has raised it (`Counts.run_eq_iff`),
which is all that a comparison of counters can tell. What the other steps do is not seen by it:
`unseen_iff` gives the runs that leave the counter and nothing else changed.
-/

namespace Versioned

open Runs

variable {σ ι : Type}

/-- The steps in `Raises` raise the counter, and the others leave it. -/
structure Counts (step : ι → σ → σ) (counter : σ → ℕ) (Raises : ι → σ → Prop) : Prop where
  raises : ∀ i s, Raises i s → counter s < counter (step i s)
  leaves : ∀ i s, ¬Raises i s → counter (step i s) = counter s

variable {step : ι → σ → σ} {counter : σ → ℕ} {Raises : ι → σ → Prop}

/-- No step lowers the counter. -/
theorem Counts.le_step (h : Counts step counter Raises) (i : ι) (s : σ) :
    counter s ≤ counter (step i s) := by
  by_cases hi : Raises i s
  · exact Nat.le_of_lt (h.raises i s hi)
  · exact Nat.le_of_eq (h.leaves i s hi).symm

/-- No run lowers the counter. -/
theorem Counts.le_run (h : Counts step counter Raises) :
    ∀ (is : List ι) (s : σ), counter s ≤ counter (run step is s)
  | [], _ => Nat.le_refl _
  | i :: is, s => Nat.le_trans (h.le_step i s) (h.le_run is (step i s))

/-- The counter is the same after a run exactly when no step of the run has raised it. -/
theorem Counts.run_eq_iff (h : Counts step counter Raises) :
    ∀ (is : List ι) (s : σ), counter (run step is s) = counter s ↔
      Admits step (fun i s => ¬Raises i s) is s
  | [], _ => by simp [run, Admits]
  | i :: is, s => by
    have hle := h.le_run is (step i s)
    simp only [run, Admits]
    by_cases hi : Raises i s
    · have hlt := h.raises i s hi
      exact iff_of_false (by omega) fun hadmits => hadmits.1 hi
    · rw [← h.leaves i s hi, h.run_eq_iff is (step i s)]
      exact (and_iff_right hi).symm

/-- Among the runs that leave the counter, those whose steps all satisfy `Keeps` are those without a
step in `Unseen`, when these are the steps that leave the counter and do not satisfy `Keeps`. -/
theorem unseen_iff {Keeps Unseen : ι → σ → Prop}
    (hkeeps : ∀ i s, ¬Raises i s → (Keeps i s ↔ ¬Unseen i s)) :
    ∀ (is : List ι) (s : σ), Admits step (fun i s => ¬Raises i s) is s →
      (Admits step Keeps is s ↔ Admits step (fun i s => ¬Unseen i s) is s)
  | [], _, _ => Iff.rfl
  | i :: is, s, ⟨hi, his⟩ => and_congr (hkeeps i s hi) (unseen_iff hkeeps is (step i s) his)

end Versioned
