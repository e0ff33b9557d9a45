import Mathlib.Data.List.Basic
import Docketra.Lib.Runs

/-!
# Jobs that read, and later write

A store holds one value. A job reads it when it selects it, and writes it later, with a new value
computed from what it has read and what is stored then. Between the two, other operations and other
jobs may change the store. `key` is the part of the store that a job goes by: a job in flight is
*overtaken* once an event has changed the key of the stored value.

The events of a run are updates by other operations, reads, and writes. `overtaken_of_key_ne` says
that a job that finds another key than it has read has been overtaken, and `selected` that what a
job has read is what it selects. `leaves_iff` gives the runs in which no overtaken job changes the
store.
-/

namespace StaleWrites

variable {σ κ J : Type} [DecidableEq κ]

/-- How jobs read and write. -/
structure Protocol (σ κ J : Type) where
  /-- The values that a job reads. -/
  selects : J → σ → Bool
  /-- The part of the store that a job goes by. -/
  key : J → σ → κ
  /-- The value that a job writes, from the one that it has read and the one stored. -/
  write : J → σ → σ → σ

/-- A job between its read and its write. -/
structure InFlight (σ J : Type) where
  job : J
  read : σ
  overtaken : Bool

/-- The store, and the jobs in flight. -/
structure System (σ J : Type) where
  stored : σ
  inFlight : List (InFlight σ J) := []

/-- What happens next. -/
inductive Event (σ J : Type) where
  /-- Another operation changes the store. -/
  | update (f : σ → σ)
  /-- A job reads the store. -/
  | read (job : J)
  /-- The job at a place of the list of those in flight writes. -/
  | write (place : ℕ)

variable (P : Protocol σ κ J)

/-- A job in flight, after the stored value has been replaced. -/
def InFlight.observe (before after : σ) (e : InFlight σ J) : InFlight σ J :=
  { e with overtaken := e.overtaken || P.key e.job before ≠ P.key e.job after }

/-- The system with another value stored. -/
def System.store (s : System σ J) (value : σ) : System σ J where
  stored := value
  inFlight := s.inFlight.map (InFlight.observe P s.stored value)

/-- One event. -/
def step : Event σ J → System σ J → System σ J
  | .update f, s => s.store P (f s.stored)
  | .read job, s =>
    if P.selects job s.stored then { s with inFlight := ⟨job, s.stored, false⟩ :: s.inFlight } else s
  | .write place, s =>
    match s.inFlight[place]? with
    | none => s
    | some e => { s with inFlight := s.inFlight.eraseIdx place : System σ J }.store P
        (P.write e.job e.read s.stored)

/-- The condition `ok` on the job in flight that writes, and on the stored value that it meets. -/
def AtWrites (ok : InFlight σ J → σ → Prop) : Event σ J → System σ J → Prop
  | .write place, s => ∀ e, s.inFlight[place]? = some e → ok e s.stored
  | _, _ => True

/-- A job that has been overtaken leaves the store as it is. -/
def Leaves (e : InFlight σ J) (stored : σ) : Prop :=
  e.overtaken = true → P.write e.job e.read stored = stored

/-- What is known of the jobs in flight: a job has read what it selects, and has been overtaken when
the key is not the one that it has read. -/
structure Tracked (s : System σ J) : Prop where
  selected : ∀ e ∈ s.inFlight, P.selects e.job e.read = true
  overtaken : ∀ e ∈ s.inFlight, P.key e.job e.read ≠ P.key e.job s.stored → e.overtaken = true

variable {P}

/-- Storing a value keeps track of the jobs in flight. -/
theorem Tracked.store {s : System σ J} (h : Tracked P s) (value : σ) :
    Tracked P (s.store P value) := by
  constructor
  · intro e he
    obtain ⟨e', he', rfl⟩ := List.mem_map.mp he
    exact h.selected e' he'
  · intro e he hkey
    obtain ⟨e', he', rfl⟩ := List.mem_map.mp he
    simp only [InFlight.observe, Bool.or_eq_true, decide_eq_true_eq]
    -- Either the key changes now, or it had changed before and the job was overtaken then.
    by_cases hstored : P.key e'.job e'.read = P.key e'.job s.stored
    · exact .inr fun heq => hkey (hstored.trans heq)
    · exact .inl (h.overtaken e' he' hstored)

omit [DecidableEq κ] in
/-- Fewer jobs in flight are tracked too. -/
theorem Tracked.subset {s : System σ J} (h : Tracked P s) {inFlight : List (InFlight σ J)}
    (hsubset : inFlight ⊆ s.inFlight) : Tracked P { s with inFlight := inFlight } :=
  ⟨fun e he => h.selected e (hsubset he), fun e he => h.overtaken e (hsubset he)⟩

/-- Every event keeps track of the jobs in flight. -/
theorem Tracked.step (event : Event σ J) (s : System σ J) (h : Tracked P s) :
    Tracked P (StaleWrites.step P event s) := by
  cases event with
  | update f => exact h.store _
  | read job =>
    simp only [StaleWrites.step]
    split_ifs with hselects
    · constructor
      · intro e he
        rcases List.mem_cons.mp he with rfl | he
        · exact hselects
        · exact h.selected e he
      · intro e he hkey
        rcases List.mem_cons.mp he with rfl | he
        · exact absurd rfl hkey
        · exact h.overtaken e he hkey
    · exact h
  | write place =>
    simp only [StaleWrites.step]
    split
    · exact h
    · exact (h.subset fun e he => List.mem_of_mem_eraseIdx he).store _

omit [DecidableEq κ] in
/-- A system without jobs in flight is tracked. -/
theorem tracked_idle (value : σ) : Tracked P ({ stored := value } : System σ J) :=
  ⟨fun _ he => (nomatch he), fun _ he => (nomatch he)⟩

/-- Let `carries` say of the values that a job selects when its write changes nothing. Then no
overtaken job changes the store in a run exactly when the store carries what each overtaken job
writes. -/
theorem leaves_iff {carries : J → σ → σ → Prop}
    (hcarries : ∀ job read stored, P.selects job read = true →
      (P.write job read stored = stored ↔ carries job read stored))
    (events : List (Event σ J)) (value : σ) :
    Runs.Admits (StaleWrites.step P) (AtWrites (Leaves P)) events { stored := value } ↔
      Runs.Admits (StaleWrites.step P)
        (AtWrites fun e stored => e.overtaken = true → carries e.job e.read stored)
        events { stored := value } := by
  refine Runs.admits_congr Tracked.step ?_ events _ (tracked_idle value)
  intro event s hs
  cases event with
  | update f => exact Iff.rfl
  | read job => exact Iff.rfl
  | write place =>
    refine forall₂_congr fun e he => forall_congr' fun _ => ?_
    exact hcarries e.job e.read s.stored (hs.selected e (List.mem_of_getElem? he))

end StaleWrites
