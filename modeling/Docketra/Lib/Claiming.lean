import Mathlib.Data.List.Basic

/-!
# Claims by conditional updates

A store holds one value, and requests compete to change it. An attempt is one atomic step: it
replaces the value when its condition holds, and the request wins, or leaves it. When an attempt
that wins leaves a value that refuses every later attempt, a list of requests has one winner at most,
and the value at the end is the winner's (`winners_spec`).
-/

namespace Claiming

variable {σ ι : Type} (attempt : ι → σ → Option σ)

/-- The value after the requests have been tried in order. -/
def run : List ι → σ → σ
  | [], s => s
  | i :: is, s => run is ((attempt i s).getD s)

/-- The requests that win, in order. -/
def winners : List ι → σ → List ι
  | [], _ => []
  | i :: is, s =>
    match attempt i s with
    | some t => i :: winners is t
    | none => winners is s

/-- The value refuses every attempt. -/
def Refuses (s : σ) : Prop := ∀ i, attempt i s = none

variable {attempt}

/-- A value that refuses every attempt stays as it is, and nobody wins it. -/
theorem Refuses.run {s : σ} (h : Refuses attempt s) (is : List ι) : run attempt is s = s := by
  induction is with
  | nil => rfl
  | cons i is ih => rw [Claiming.run, h i, Option.getD_none, ih]

theorem Refuses.winners {s : σ} (h : Refuses attempt s) (is : List ι) :
    winners attempt is s = [] := by
  induction is with
  | nil => rfl
  | cons i is ih => simp only [Claiming.winners, h i, ih]

/-- When a value that has been won refuses every attempt, a list of requests either leaves the value
as it is, or has one winner, whose value is the last. -/
theorem winners_spec (hwon : ∀ i s t, attempt i s = some t → Refuses attempt t) (is : List ι)
    (s : σ) :
    (winners attempt is s = [] ∧ run attempt is s = s) ∨
      ∃ i ∈ is, winners attempt is s = [i] ∧ attempt i s = some (run attempt is s) := by
  induction is with
  | nil => exact .inl ⟨rfl, rfl⟩
  | cons i is ih =>
    cases hi : attempt i s with
    | some t =>
      have hrefuses := hwon i s t hi
      refine .inr ⟨i, List.mem_cons_self, ?_, ?_⟩
      · simp only [winners, hi, hrefuses.winners]
      · rw [run, hi, Option.getD_some, hrefuses.run]
    | none =>
      have hrun : run attempt (i :: is) s = run attempt is s := by rw [run, hi, Option.getD_none]
      have hwinners : winners attempt (i :: is) s = winners attempt is s := by
        simp only [winners, hi]
      rw [hrun, hwinners]
      refine ih.imp_right ?_
      rintro ⟨j, hj, hspec⟩
      exact ⟨j, List.mem_cons_of_mem i hj, hspec⟩

end Claiming
