import Mathlib.Data.List.Basic

/-!
# Runs of a step function

A system is a type of states `σ`, a type of steps `ι`, and what a step does to a state. A run is a
list of steps. `states` are the states that a run passes through, and `Admits ok` says that each
step of a run satisfies `ok` in the state that it is taken in.

The rules are inductions on the run: a property that every admitted step keeps holds in every
state of an admitted run (`states_invariant`), and when the steps that keep it are exactly the
admitted ones, the runs that keep it throughout are exactly the admitted ones
(`states_invariant_iff`, and `states_forall_iff` for a property that an invariant gives). Conditions
on steps may be replaced where an invariant makes them equivalent (`admits_congr`), or weakened
(`Admits.imp`). Runs of steps that bring a measure down are short (`length_le_measure`).
-/

namespace Runs

variable {σ ι : Type} (step : ι → σ → σ)

/-- The state after a run. -/
def run : List ι → σ → σ
  | [], s => s
  | i :: is, s => run is (step i s)

/-- The states after each step of a run, in order. -/
def states : List ι → σ → List σ
  | [], _ => []
  | i :: is, s => step i s :: states is (step i s)

/-- Every step of the run satisfies `ok` in the state that it is taken in. -/
def Admits (ok : ι → σ → Prop) : List ι → σ → Prop
  | [], _ => True
  | i :: is, s => ok i s ∧ Admits ok is (step i s)

variable {step}

/-- A property that each admitted step keeps holds in every state of an admitted run. -/
theorem states_invariant {Inv : σ → Prop} {ok : ι → σ → Prop}
    (hstep : ∀ i s, Inv s → ok i s → Inv (step i s)) :
    ∀ (is : List ι) (s : σ), Inv s → Admits step ok is s → ∀ t ∈ states step is s, Inv t
  | [], _, _, _, _, ht => nomatch ht
  | i :: is, s, hs, ⟨hi, his⟩, t, ht => by
    have hnext := hstep i s hs hi
    rcases List.mem_cons.mp ht with rfl | ht
    · exact hnext
    · exact states_invariant hstep is _ hnext his t ht

/-- A property that every step keeps holds after a run. -/
theorem run_keeps {Inv : σ → Prop} (hstep : ∀ i s, Inv s → Inv (step i s)) :
    ∀ (is : List ι) (s : σ), Inv s → Inv (run step is s)
  | [], _, hs => hs
  | i :: is, s, hs => run_keeps hstep is (step i s) (hstep i s hs)

/-- A property that every step keeps holds in every state of a run. -/
theorem states_keep {Inv : σ → Prop} (hstep : ∀ i s, Inv s → Inv (step i s)) :
    ∀ (is : List ι) (s : σ), Inv s → ∀ t ∈ states step is s, Inv t
  | [], _, _, _, ht => nomatch ht
  | i :: is, s, hs, t, ht => by
    have hnext := hstep i s hs
    rcases List.mem_cons.mp ht with rfl | ht
    · exact hnext
    · exact states_keep hstep is _ hnext t ht

/-- A run that takes a step ends in one of its states. -/
theorem run_mem_states : ∀ (is : List ι) (i : ι) (s : σ),
    run step (i :: is) s ∈ states step (i :: is) s
  | [], _, _ => List.mem_cons_self
  | j :: is, i, s => List.mem_cons_of_mem _ (run_mem_states is j (step i s))

/-- When the admitted steps keep an invariant, and are exactly those that lead from it to a property,
a run has the property in every state exactly when it is admitted. -/
theorem states_forall_iff {Inv P : σ → Prop} {ok : ι → σ → Prop}
    (hstep : ∀ i s, Inv s → ok i s → Inv (step i s))
    (hprop : ∀ i s, Inv s → (P (step i s) ↔ ok i s)) :
    ∀ (is : List ι) (s : σ), Inv s → ((∀ t ∈ states step is s, P t) ↔ Admits step ok is s)
  | [], _, _ => by simp [states, Admits]
  | i :: is, s, hs => by
    simp only [states, Admits, List.mem_cons, forall_eq_or_imp]
    rw [hprop i s hs]
    refine and_congr_right fun hi => ?_
    exact states_forall_iff hstep hprop is _ (hstep i s hs hi)

/-- When the steps that keep a property are exactly the admitted ones, a run keeps it in every
state exactly when it is admitted. -/
theorem states_invariant_iff {Inv : σ → Prop} {ok : ι → σ → Prop}
    (hstep : ∀ i s, Inv s → (Inv (step i s) ↔ ok i s)) (is : List ι) (s : σ) (hs : Inv s) :
    (∀ t ∈ states step is s, Inv t) ↔ Admits step ok is s :=
  states_forall_iff (fun i s hs hi => (hstep i s hs).mpr hi) hstep is s hs

/-- A condition that the admitted steps satisfy wherever an invariant holds, which they keep. -/
theorem Admits.imp {Inv : σ → Prop} {ok ok' : ι → σ → Prop}
    (hstep : ∀ i s, Inv s → ok i s → Inv (step i s)) (hok : ∀ i s, Inv s → ok i s → ok' i s) :
    ∀ {is : List ι} {s : σ}, Inv s → Admits step ok is s → Admits step ok' is s
  | [], _, _, _ => trivial
  | i :: _, s, hs, ⟨hi, his⟩ => ⟨hok i s hs hi, his.imp hstep hok (hstep i s hs hi)⟩

/-- Every run is admitted by a condition that every step satisfies wherever an invariant holds, which
it keeps. -/
theorem admits_of_keep {Inv : σ → Prop} {ok : ι → σ → Prop}
    (hstep : ∀ i s, Inv s → Inv (step i s)) (hok : ∀ i s, Inv s → ok i s) :
    ∀ (is : List ι) (s : σ), Inv s → Admits step ok is s
  | [], _, _ => trivial
  | i :: is, s, hs => ⟨hok i s hs, admits_of_keep hstep hok is (step i s) (hstep i s hs)⟩

/-- A run of steps that each bring a measure down is no longer than the measure it starts with. -/
theorem length_le_measure {ok : ι → σ → Prop} (measure : σ → ℕ)
    (hstep : ∀ i s, ok i s → measure (step i s) < measure s) :
    ∀ (is : List ι) (s : σ), Admits step ok is s → is.length ≤ measure s
  | [], s, _ => Nat.zero_le (measure s)
  | i :: is, s, ⟨hi, his⟩ =>
    Nat.lt_of_le_of_lt (length_le_measure measure hstep is (step i s) his) (hstep i s hi)

/-- Two conditions on the steps that agree in every state with an invariant admit the same runs from
such a state. -/
theorem admits_congr {Inv : σ → Prop} {ok ok' : ι → σ → Prop}
    (hinv : ∀ i s, Inv s → Inv (step i s)) (hok : ∀ i s, Inv s → (ok i s ↔ ok' i s)) :
    ∀ (is : List ι) (s : σ), Inv s → (Admits step ok is s ↔ Admits step ok' is s)
  | [], _, _ => Iff.rfl
  | i :: is, s, hs => and_congr (hok i s hs) (admits_congr hinv hok is _ (hinv i s hs))

/-- Two conditions on the steps that agree in every state admit the same runs. -/
theorem admits_congr_of_iff {ok ok' : ι → σ → Prop} (h : ∀ i s, ok i s ↔ ok' i s) (is : List ι)
    (s : σ) : Admits step ok is s ↔ Admits step ok' is s := by
  have heq : ok = ok' := by
    funext i s
    exact propext (h i s)
  rw [heq]

/-- A run satisfies two conditions exactly when it satisfies each. -/
theorem admits_and {ok ok' : ι → σ → Prop} (is : List ι) (s : σ) :
    Admits step (fun i s => ok i s ∧ ok' i s) is s ↔ Admits step ok is s ∧ Admits step ok' is s := by
  induction is generalizing s with
  | nil => exact (iff_of_eq (and_self _)).symm
  | cons i is ih =>
    show (ok i s ∧ ok' i s) ∧ Admits step (fun i s => ok i s ∧ ok' i s) is (step i s) ↔ _
    rw [ih, and_and_and_comm]
    rfl

/-! ## Runs in two parts -/

theorem run_append (is js : List ι) (s : σ) : run step (is ++ js) s = run step js (run step is s) := by
  induction is generalizing s with
  | nil => rfl
  | cons i is ih => exact ih (step i s)

theorem admits_append {ok : ι → σ → Prop} (is js : List ι) (s : σ) :
    Admits step ok (is ++ js) s ↔ Admits step ok is s ∧ Admits step ok js (run step is s) := by
  induction is generalizing s with
  | nil => exact (iff_of_eq (true_and _)).symm
  | cons i is ih =>
    show ok i s ∧ Admits step ok (is ++ js) (step i s) ↔ _
    rw [ih, ← and_assoc]
    rfl

/-- An invariant that the admitted steps keep holds at the end of an admitted run. -/
theorem run_invariant {Inv : σ → Prop} {ok : ι → σ → Prop}
    (hstep : ∀ i s, Inv s → ok i s → Inv (step i s)) :
    ∀ (is : List ι) (s : σ), Inv s → Admits step ok is s → Inv (run step is s)
  | [], _, hs, _ => hs
  | i :: is, s, hs, ⟨hi, his⟩ => run_invariant hstep is (step i s) (hstep i s hs hi) his

/-- When the steps that are not admitted break a property for good, a run ends with it exactly when
it is admitted. -/
theorem run_iff_admits {Inv Broken P : σ → Prop} {ok : ι → σ → Prop}
    (hstep : ∀ i s, Inv s → ok i s → Inv (step i s))
    (hbreak : ∀ i s, Inv s → ¬ok i s → Broken (step i s))
    (hbroken : ∀ i s, Broken s → Broken (step i s)) (hinv : ∀ s, Inv s → P s)
    (hnot : ∀ s, Broken s → ¬P s) :
    ∀ (is : List ι) (s : σ), Inv s → (P (run step is s) ↔ Admits step ok is s)
  | [], s, hs => iff_of_true (hinv s hs) trivial
  | i :: is, s, hs => by
    by_cases hi : ok i s
    · have hnext := run_iff_admits hstep hbreak hbroken hinv hnot is _ (hstep i s hs hi)
      exact hnext.trans (and_iff_right hi).symm
    · refine iff_of_false ?_ fun h => hi h.1
      exact hnot _ (run_keeps hbroken is _ (hbreak i s hs hi))

end Runs
