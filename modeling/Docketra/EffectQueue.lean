import Docketra.Lib.Runs
import Docketra.Text
import Mathlib.Algebra.GroupWithZero.Nat
import Mathlib.Data.List.Perm.Basic
import Mathlib.Data.List.Range

/-!
# The queue of side effects

`services/sideEffectQueue.service.js` executes side effects one after another. A loop takes them from
the queue, waits for each, and puts one that has failed back until it is out of retries. Each effect
that is enqueued schedules the loop, which returns at once if it is running already.

The loop reads the message of a failure to log it, and has no `finally`: where that throws, the loop
is over and still taken for running. So every effect is executed until it succeeds or is out of
retries, one at a time, and the queue becomes empty, exactly as long as every failure is readable
(`effects_fair_iff`).
-/

namespace Docketra.EffectQueue

open Runs

/-! ## Effects and failures -/

/-- An effect in the queue. `serial` is the identity of the object, and `executions` and `outcomes`
what has become of `execute()` so far. -/
structure Effect where
  serial : ℕ
  id : String
  type : String
  payload : Option String
  attempts : ℕ
  maxRetries : ℕ
  executions : ℕ := 0
  outcomes : List Bool := []
  deriving DecidableEq, Repr

/-- The argument of `enqueue`. -/
structure EffectInput where
  id : Option String := none
  type : Option String := none
  payload : Option String := none
  attempts : Option ℕ := none
  maxRetries : Option ℕ := none
  deriving DecidableEq, Repr

/-- What a promise is rejected with. A value has a message, which is empty where there is none, and a
text, unless `String` throws. -/
inductive Rejection where
  | null
  | undefined
  | value (message : String) (text : Option String)
  deriving DecidableEq, Repr

/-- How a promise settles. -/
inductive Outcome where
  | fulfilled
  | rejected (reason : Rejection)
  deriving DecidableEq, Repr

/-- An entry of `failed`. -/
structure FailedEffect where
  id : String
  type : String
  payload : Option String
  error : String
  deriving DecidableEq, Repr

/-- `MAX_FAILED`. -/
def maxFailed : ℕ := 10

/-- `DEFAULT_MAX_RETRIES`. -/
def defaultMaxRetries : ℕ := 2

/-- `error?.message || String(error)`, unless it throws. -/
def Rejection.errorText : Rejection → Option String
  | .null => some "null"
  | .undefined => some "undefined"
  | .value message text => if message = "" then text else some message

/-- `err.message`, unless it throws. -/
def Rejection.message : Rejection → Option String
  | .null => none
  | .undefined => none
  | .value message _ => some message

/-! ## The module -/

/-- The module's variables, the callbacks of `setImmediate` that have not run, and the effects that a
loop waits for. `finished` are those that have left the queue, and `serial` counts the objects. -/
structure Queue where
  queue : List Effect := []
  failed : List FailedEffect := []
  processing : Bool := false
  scheduled : ℕ := 0
  running : List Effect := []
  finished : List Effect := []
  serial : ℕ := 0
  deriving DecidableEq, Repr

/-- `normalizeEffect`. -/
def normalizeEffect (effect : EffectInput) (uuid : String) (serial : ℕ) : Effect where
  serial := serial
  id := (orElse effect.id none).getD uuid
  type := (orElse effect.type none).getD "SIDE_EFFECT"
  payload := effect.payload
  attempts := effect.attempts.getD 0
  maxRetries := effect.maxRetries.getD defaultMaxRetries

/-- `recordFailure`, of which the text of the error may throw. -/
def recordFailure (effect : Effect) (reason : Rejection) (failed : List FailedEffect) :
    Option (List FailedEffect) :=
  reason.errorText.map fun error =>
    (⟨effect.id, effect.type, effect.payload, error⟩ :: failed).take maxFailed

/-- The loop goes on: it calls `execute` of the next effect, or ends. -/
def resume (s : Queue) : Queue :=
  match s.queue with
  | [] => { s with processing := false }
  | effect :: queue =>
    { s with
      queue
      running := s.running ++ [{ effect with executions := effect.executions + 1 }] }

/-- `processQueue`, up to the first wait. -/
def processQueue (s : Queue) : Queue :=
  if s.processing then s else resume { s with processing := true }

/-- `enqueue`. -/
def enqueue (effect : EffectInput) (uuid : String) (s : Queue) : Queue :=
  { s with
    queue := s.queue ++ [normalizeEffect effect uuid s.serial]
    scheduled := s.scheduled + 1
    serial := s.serial + 1 }

/-- The loop that has waited for an effect goes on. Where the failure cannot be read, the exception
ends it. -/
def settled (effect : Effect) (outcome : Outcome) (s : Queue) : Queue :=
  match outcome with
  | .fulfilled =>
    resume { s with
      finished := s.finished ++ [{ effect with outcomes := effect.outcomes ++ [true] }] }
  | .rejected reason =>
    let effect := { effect with outcomes := effect.outcomes ++ [false] }
    match recordFailure effect reason s.failed with
    -- The exception leaves `processing` as it is, since there is no `finally`.
    | none => { s with finished := s.finished ++ [effect] }
    | some failed =>
      let effect := { effect with attempts := effect.attempts + 1 }
      match reason.message with
      -- The failure is recorded by now, and its message cannot be logged.
      | none => { s with failed, finished := s.finished ++ [effect] }
      | some _ =>
        if effect.attempts ≤ effect.maxRetries then
          resume { s with failed, queue := s.queue ++ [effect] }
        else resume { s with failed, finished := s.finished ++ [effect] }

/-- What may happen next. -/
inductive Event where
  | enqueue (effect : EffectInput) (uuid : String)
  /-- A callback of `setImmediate` runs. -/
  | tick
  /-- A promise that a loop waits for settles. -/
  | settle (index : ℕ) (outcome : Outcome)
  deriving DecidableEq, Repr

/-- What an event does. One that cannot happen does nothing. -/
def step (event : Event) (s : Queue) : Queue :=
  match event with
  | .enqueue effect uuid => enqueue effect uuid s
  | .tick =>
    if s.scheduled = 0 then s else processQueue { s with scheduled := s.scheduled - 1 }
  | .settle index outcome =>
    match s.running[index]? with
    | none => s
    | some effect => settled effect outcome { s with running := s.running.eraseIdx index }

/-! ## Fairness -/

/-- A rejection that the loop can record and log. -/
def Rejection.isReadable (reason : Rejection) : Bool :=
  reason.errorText.isSome && reason.message.isSome

/-- No promise that a loop waits for is rejected with what it cannot read. -/
def Readable (event : Event) (s : Queue) : Prop :=
  ∀ index reason, event = .settle index (.rejected reason) → index < s.running.length →
    reason.isReadable = true

/-- An event of the loop that can happen. -/
def Proceeds (event : Event) (s : Queue) : Prop :=
  match event with
  | .enqueue _ _ => False
  | .tick => 0 < s.scheduled
  | .settle index _ => index < s.running.length

/-- Nothing of the loop can happen any more. -/
def IsIdle (s : Queue) : Prop := ∀ event, ¬ Proceeds event s

/-- All effects that there have been. -/
def Queue.effects (s : Queue) : List Effect := s.queue ++ s.running ++ s.finished

/-- An effect is executed as often as it may be, and not after a success. -/
structure Effect.Bounded (effect : Effect) : Prop where
  executions_le : effect.executions ≤ effect.maxRetries + 1
  /-- The execution of the first success is the last one. -/
  success_last : true ∈ effect.outcomes → effect.outcomes.idxOf true + 1 = effect.executions

/-- An effect has succeeded, or is out of retries. -/
def Effect.IsDone (effect : Effect) : Prop :=
  true ∈ effect.outcomes ∨ effect.maxRetries < effect.attempts

/-- The queue is fair from a state on. -/
structure Fair (s : Queue) : Prop where
  one_at_a_time : s.running.length ≤ 1
  /-- Every effect that was enqueued is in one place. -/
  conserved : (s.effects.map Effect.serial).Perm (List.range s.serial)
  bounded : ∀ effect ∈ s.effects, effect.Bounded
  /-- While no effect is enqueued, the loop is soon done. -/
  terminates : ∃ bound, ∀ events, Admits step Proceeds events s → events.length ≤ bound
  /-- Whatever readable comes next, the queue is empty once nothing can happen, and every effect is
  done. -/
  drains : ∀ events, Admits step Readable events s → IsIdle (run step events s) →
    (run step events s).queue = [] ∧ ∀ effect ∈ (run step events s).effects, effect.IsDone

theorem isIdle_iff {s : Queue} : IsIdle s ↔ s.scheduled = 0 ∧ s.running = [] := by
  constructor
  · intro h
    have htick : ¬ 0 < s.scheduled := h .tick
    have hsettle : ¬ 0 < s.running.length := h (.settle 0 .fulfilled)
    exact ⟨by omega, List.length_eq_zero_iff.mp (by omega)⟩
  · rintro ⟨hscheduled, hrunning⟩ event hproceeds
    cases event with
    | enqueue effect uuid => exact hproceeds
    | tick => exact absurd hscheduled (Nat.ne_of_gt hproceeds)
    | settle index outcome =>
      have hlt : index < s.running.length := hproceeds
      rw [hrunning] at hlt
      exact absurd hlt (Nat.not_lt_zero index)

/-! ## Termination -/

/-- How often an effect may still be executed. -/
def Effect.budget (effect : Effect) : ℕ := 1 + (effect.maxRetries - effect.attempts)

/-- The callbacks that are scheduled, and the executions that there may still be. -/
def measure (s : Queue) : ℕ :=
  s.scheduled + (s.queue.map Effect.budget).sum + (s.running.map Effect.budget).sum

/-- An effect that is executed has been in the queue. -/
theorem measure_resume (s : Queue) : measure (resume s) = measure s := by
  obtain ⟨queue, failed, processing, scheduled, running, finished, serial⟩ := s
  cases queue with
  | nil => rfl
  | cons effect queue =>
    simp only [measure, resume, List.map_append, List.map_cons, List.map_nil, List.sum_append,
      List.sum_cons, List.sum_nil, Effect.budget]
    omega

theorem measure_processQueue (s : Queue) : measure (processQueue s) = measure s := by
  unfold processQueue
  split_ifs
  · rfl
  · exact measure_resume _

/-- When a promise settles, its effect has one execution less. -/
theorem measure_settled_lt (effect : Effect) (outcome : Outcome) (s : Queue) :
    measure (settled effect outcome s) < measure s + effect.budget := by
  have hpositive : 0 < effect.budget := by
    unfold Effect.budget
    omega
  cases outcome with
  | fulfilled =>
    show measure (resume _) < _
    rw [measure_resume]
    show measure s < _
    omega
  | rejected reason =>
    unfold settled
    simp only
    cases recordFailure { effect with outcomes := effect.outcomes ++ [false] } reason s.failed with
    | none =>
      show measure s < _
      omega
    | some failed =>
      cases reason.message with
      | none =>
        show measure s < _
        omega
      | some message =>
        simp only
        -- Back in the queue the effect has a retry less, and out of it none.
        split_ifs with hretry
        · rw [measure_resume]
          simp only [measure, List.map_append, List.map_cons, List.map_nil, List.sum_append,
            List.sum_cons, List.sum_nil, Effect.budget]
          omega
        · rw [measure_resume]
          show measure s < _
          omega

/-- An event of the loop brings the measure down. -/
theorem measure_step_lt (event : Event) (s : Queue) (h : Proceeds event s) :
    measure (step event s) < measure s := by
  cases event with
  | enqueue effect uuid => exact absurd h id
  | tick =>
    have hscheduled : 0 < s.scheduled := h
    unfold step
    simp only
    rw [if_neg (Nat.ne_of_gt hscheduled), measure_processQueue]
    unfold measure
    simp only
    omega
  | settle index outcome =>
    have hlt : index < s.running.length := h
    have hperm := (List.getElem_cons_eraseIdx_perm hlt).map Effect.budget
    have hsum := hperm.sum_nat
    rw [List.map_cons, List.sum_cons] at hsum
    have hsettled := measure_settled_lt s.running[index] outcome
      { s with running := s.running.eraseIdx index }
    unfold step
    simp only [List.getElem?_eq_getElem hlt]
    refine Nat.lt_of_lt_of_eq hsettled ?_
    unfold measure
    simp only
    omega

/-! ## The invariant -/

/-- What is true of an effect that has not succeeded, whose `execute` has been called so many times
more than it has settled. -/
structure Effect.Tried (effect : Effect) (unsettled : ℕ) : Prop where
  executions_eq : effect.executions = effect.outcomes.length + unsettled
  no_success : true ∉ effect.outcomes
  attempts : effect.outcomes.length ≤ effect.attempts
  retries : effect.outcomes.length ≤ effect.maxRetries

/-- The loop goes on, or has nothing to do. -/
structure Runnable (s : Queue) : Prop where
  conserved : (s.effects.map Effect.serial).Perm (List.range s.serial)
  queued : ∀ effect ∈ s.queue, effect.Tried 0
  running : ∀ effect ∈ s.running, effect.Tried 1
  finished : ∀ effect ∈ s.finished, effect.Bounded ∧ effect.IsDone

/-- The invariant: a loop that is taken for running waits for one effect, and where none is, a
callback is scheduled as soon as there is anything in the queue. -/
structure Sound (s : Queue) : Prop extends Runnable s where
  busy : s.processing = true → ∃ effect, s.running = [effect]
  idle : s.processing = false → s.running = [] ∧ (s.queue ≠ [] → 0 < s.scheduled)

theorem Effect.Tried.bounded {effect : Effect} {unsettled : ℕ} (h : effect.Tried unsettled)
    (hone : unsettled ≤ 1) : effect.Bounded := by
  constructor
  · rw [h.executions_eq]
    have hretries := h.retries
    omega
  · exact fun hsuccess => absurd hsuccess h.no_success

/-- An effect that has succeeded is done. -/
theorem Effect.Tried.succeed {effect : Effect} (h : effect.Tried 1) :
    Effect.Bounded { effect with outcomes := effect.outcomes ++ [true] } ∧
      Effect.IsDone { effect with outcomes := effect.outcomes ++ [true] } := by
  refine ⟨⟨(h.bounded le_rfl).executions_le, fun _ => ?_⟩, Or.inl (by simp)⟩
  show (effect.outcomes ++ [true]).idxOf true + 1 = effect.executions
  rw [List.idxOf_append_of_notMem h.no_success, List.idxOf_cons_self, h.executions_eq]

/-- An effect that has failed may be tried again, while it has retries. -/
theorem Effect.Tried.retry {effect : Effect} (h : effect.Tried 1)
    (hretry : effect.attempts + 1 ≤ effect.maxRetries) :
    Effect.Tried
      { effect with outcomes := effect.outcomes ++ [false], attempts := effect.attempts + 1 } 0 := by
  have hattempts := h.attempts
  constructor
  · show effect.executions = (effect.outcomes ++ [false]).length + 0
    rw [h.executions_eq, List.length_append]
    rfl
  · show true ∉ effect.outcomes ++ [false]
    simpa using h.no_success
  · show (effect.outcomes ++ [false]).length ≤ effect.attempts + 1
    rw [List.length_append]
    exact Nat.succ_le_succ hattempts
  · show (effect.outcomes ++ [false]).length ≤ effect.maxRetries
    rw [List.length_append]
    exact Nat.le_trans (Nat.succ_le_succ hattempts) hretry

/-- An effect that has failed without a retry left is done. -/
theorem Effect.Tried.giveUp {effect : Effect} (h : effect.Tried 1)
    (hretry : ¬ effect.attempts + 1 ≤ effect.maxRetries) :
    Effect.Bounded
        { effect with outcomes := effect.outcomes ++ [false], attempts := effect.attempts + 1 } ∧
      Effect.IsDone
        { effect with outcomes := effect.outcomes ++ [false], attempts := effect.attempts + 1 } := by
  refine ⟨⟨(h.bounded le_rfl).executions_le, fun hsuccess => ?_⟩, Or.inr (Nat.lt_of_not_le hretry)⟩
  have hno := h.no_success
  simp at hsuccess
  exact absurd hsuccess hno

/-- The loop goes on soundly. -/
theorem Runnable.resume {s : Queue} (h : Runnable s) (hprocessing : s.processing = true)
    (hrunning : s.running = []) : Sound (resume s) := by
  obtain ⟨queue, failed, processing, scheduled, running, finished, serial⟩ := s
  obtain ⟨hconserved, hqueued, hran, hfinished⟩ := h
  simp only at hprocessing hrunning
  subst hprocessing hrunning
  cases queue with
  | nil =>
    exact ⟨⟨hconserved, hqueued, hran, hfinished⟩, nofun, fun _ => ⟨rfl, fun h => absurd rfl h⟩⟩
  | cons effect queue =>
    have heffect := hqueued effect List.mem_cons_self
    refine ⟨⟨?_, ?_, ?_, hfinished⟩, fun _ => ⟨_, rfl⟩, nofun⟩
    · refine List.Perm.trans ?_ hconserved
      simp only [EffectQueue.resume, Queue.effects, List.nil_append, List.append_nil,
        List.map_append, List.map_cons, List.cons_append, List.append_assoc]
      exact List.perm_middle
    · exact fun e he => hqueued e (List.mem_cons_of_mem _ he)
    · intro e he
      have heq : e = { effect with executions := effect.executions + 1 } := List.mem_singleton.mp he
      rw [heq]
      exact ⟨congrArg (· + 1) heffect.executions_eq, heffect.no_success, heffect.attempts,
        heffect.retries⟩

/-- An effect that was run leaves for one of the two other places. -/
theorem serials_perm {queue finished : List Effect} {effect other : Effect} {serial : ℕ}
    (hserial : other.serial = effect.serial)
    (h : ((queue ++ [effect] ++ finished).map Effect.serial).Perm (List.range serial)) :
    ((queue ++ [other] ++ [] ++ finished).map Effect.serial).Perm (List.range serial) ∧
      ((queue ++ [] ++ (finished ++ [other])).map Effect.serial).Perm (List.range serial) := by
  have hsame : (queue ++ [other] ++ [] ++ finished).map Effect.serial =
      (queue ++ [effect] ++ finished).map Effect.serial := by
    simp [hserial]
  have hmoved : ((queue ++ [] ++ (finished ++ [other])).map Effect.serial).Perm
      ((queue ++ [other] ++ [] ++ finished).map Effect.serial) := by
    refine List.Perm.map _ ?_
    rw [List.append_nil, List.append_nil, List.append_assoc queue [other] finished]
    exact (List.perm_append_comm).append_left queue
  rw [hsame] at hmoved ⊢
  exact ⟨h, hmoved.trans h⟩

/-- Where an effect is waited for, a loop is taken for running. -/
theorem Sound.processing_eq {s : Queue} (h : Sound s) (hrunning : s.running ≠ []) :
    s.processing = true := by
  by_contra hnot
  exact hrunning (h.idle (by simpa using hnot)).1

/-- A promise settles, and the loop goes on soundly, if it can read what went wrong. -/
theorem Sound.settled {s : Queue} {effect : Effect} {outcome : Outcome} (h : Sound s)
    (hrunning : s.running = [effect])
    (hreadable : ∀ reason, outcome = .rejected reason → reason.isReadable = true) :
    Sound (settled effect outcome { s with running := [] }) := by
  have hprocessing := h.processing_eq (by rw [hrunning]; exact List.cons_ne_nil _ _)
  obtain ⟨queue, failed, processing, scheduled, running, finished, serial⟩ := s
  obtain ⟨⟨hconserved, hqueued, hran, hfinished⟩, hbusy, hidle⟩ := h
  simp only at hrunning hprocessing
  subst hrunning hprocessing
  have htried := hran effect List.mem_cons_self
  -- An effect that leaves the loop is done.
  have hleave (other : Effect) (hserial : other.serial = effect.serial)
      (hother : other.Bounded ∧ other.IsDone) (failed : List FailedEffect) :
      Sound (resume
        ⟨queue, failed, true, scheduled, [], finished ++ [other], serial⟩) := by
    refine Runnable.resume ⟨(serials_perm hserial hconserved).2, hqueued, nofun, ?_⟩ rfl rfl
    intro e he
    rcases List.mem_append.mp he with he | he
    · exact hfinished e he
    · rw [List.mem_singleton.mp he]
      exact hother
  cases outcome with
  | fulfilled =>
    exact hleave { effect with outcomes := effect.outcomes ++ [true] } rfl htried.succeed failed
  | rejected reason =>
    have hread := hreadable reason rfl
    rw [Rejection.isReadable, Bool.and_eq_true, Option.isSome_iff_exists,
      Option.isSome_iff_exists] at hread
    obtain ⟨⟨error, herror⟩, message, hmessage⟩ := hread
    simp only [EffectQueue.settled, recordFailure, herror, hmessage, Option.map_some]
    split_ifs with hretry
    · have hperm := @serials_perm queue finished effect
        { effect with outcomes := effect.outcomes ++ [false], attempts := effect.attempts + 1 }
        serial rfl hconserved
      refine Runnable.resume ⟨hperm.1, ?_, nofun, hfinished⟩ rfl rfl
      intro e he
      rcases List.mem_append.mp he with he | he
      · exact hqueued e he
      · rw [List.mem_singleton.mp he]
        exact htried.retry hretry
    · exact hleave
        { effect with outcomes := effect.outcomes ++ [false], attempts := effect.attempts + 1 } rfl
        (htried.giveUp hretry) _

/-- A loop that waits for an effect is the only one. -/
theorem Sound.running_eq {s : Queue} {effect : Effect} {index : ℕ} (h : Sound s)
    (hlt : index < s.running.length) (heffect : s.running[index]? = some effect) :
    s.running = [effect] ∧ index = 0 := by
  have hprocessing := h.processing_eq (List.ne_nil_of_length_pos (Nat.zero_lt_of_lt hlt))
  obtain ⟨other, hother⟩ := h.busy hprocessing
  rw [hother] at hlt heffect ⊢
  have hindex : index = 0 := Nat.lt_one_iff.mp hlt
  rw [hindex] at heffect
  exact ⟨congrArg (fun e => [e]) (Option.some.inj heffect), hindex⟩

/-- Every event keeps the queue sound, unless a loop is rejected with what it cannot read. -/
theorem Sound.step (event : Event) (s : Queue) (h : Sound s) (hok : Readable event s) :
    Sound (step event s) := by
  cases event with
  | enqueue effect uuid =>
    refine ⟨⟨?_, ?_, h.running, h.finished⟩, h.busy, fun hidle => ⟨(h.idle hidle).1, fun _ => ?_⟩⟩
    · refine List.Perm.trans (?_ : List.Perm _ (s.serial :: s.effects.map Effect.serial)) ?_
      · simp only [EffectQueue.step, enqueue, Queue.effects, List.map_append, List.map_cons,
          List.append_assoc, List.singleton_append]
        exact List.perm_middle
      · rw [EffectQueue.step, enqueue, List.range_succ]
        exact (h.conserved.cons s.serial).trans (List.perm_append_singleton s.serial _).symm
    · intro e he
      rcases List.mem_append.mp he with he | he
      · exact h.queued e he
      · rw [List.mem_singleton.mp he]
        exact ⟨rfl, List.not_mem_nil, Nat.zero_le _, Nat.zero_le _⟩
    · exact Nat.succ_pos s.scheduled
  | tick =>
    simp only [EffectQueue.step]
    split_ifs with hnone
    · exact h
    · unfold processQueue
      simp only
      split_ifs with hprocessing
      · refine ⟨⟨h.conserved, h.queued, h.running, h.finished⟩, h.busy, fun hidle => ?_⟩
        rw [hprocessing] at hidle
        cases hidle
      · have hidle := h.idle (by simpa using hprocessing)
        exact Runnable.resume ⟨h.conserved, h.queued, h.running, h.finished⟩ rfl hidle.1
  | settle index outcome =>
    simp only [EffectQueue.step]
    cases heffect : s.running[index]? with
    | none => exact h
    | some effect =>
      have hlt : index < s.running.length := (List.getElem?_eq_some_iff.mp heffect).1
      obtain ⟨hone, hindex⟩ := h.running_eq hlt heffect
      have herase : s.running.eraseIdx index = [] := by
        rw [hone, hindex]
        rfl
      simp only [herase]
      refine h.settled hone fun reason hreason => hok index reason ?_ hlt
      rw [hreason]

/-! ## When the queue is fair -/

/-- A sound queue is fair. -/
theorem Sound.fair {s : Queue} (h : Sound s) : Fair s := by
  refine ⟨?_, h.conserved, ?_,
    ⟨measure s, fun events => length_le_measure measure measure_step_lt events s⟩, ?_⟩
  · cases hprocessing : s.processing with
    | true =>
      obtain ⟨effect, hone⟩ := h.busy hprocessing
      rw [hone]
      exact le_rfl
    | false =>
      rw [(h.idle hprocessing).1]
      exact Nat.zero_le 1
  · intro effect hmem
    rcases List.mem_append.mp hmem with hmem | hmem
    · rcases List.mem_append.mp hmem with hmem | hmem
      · exact (h.queued effect hmem).bounded (Nat.zero_le 1)
      · exact (h.running effect hmem).bounded le_rfl
    · exact (h.finished effect hmem).1
  · intro events hadmits hidle
    have hend := run_invariant Sound.step events s h hadmits
    generalize run EffectQueue.step events s = t at hend hidle ⊢
    obtain ⟨hscheduled, hrunning⟩ := isIdle_iff.mp hidle
    -- Nothing is waited for, so no loop is taken for running.
    have hprocessing : t.processing = false := by
      by_contra hnot
      obtain ⟨effect, hone⟩ := hend.busy (by simpa using hnot)
      rw [hrunning] at hone
      cases hone
    have hqueue : t.queue = [] := by
      by_contra hne
      exact absurd hscheduled (Nat.ne_of_gt ((hend.idle hprocessing).2 hne))
    refine ⟨hqueue, fun effect hmem => ?_⟩
    rw [Queue.effects, hqueue, hrunning] at hmem
    exact (hend.finished effect hmem).2

/-- Callbacks do nothing where a loop is taken for running. -/
theorem run_ticks (n : ℕ) : ∀ s : Queue, s.processing = true → s.scheduled = n →
    run step (List.replicate n .tick) s = { s with scheduled := 0 } ∧
      Admits step Readable (List.replicate n .tick) s := by
  induction n with
  | zero =>
    intro s _ hscheduled
    obtain ⟨queue, failed, processing, scheduled, running, finished, serial⟩ := s
    simp only at hscheduled
    rw [hscheduled]
    exact ⟨rfl, trivial⟩
  | succ n ih =>
    intro s hprocessing hscheduled
    have htick : step .tick s = { s with scheduled := n } := by
      simp only [step, processQueue, hscheduled, hprocessing]
      rfl
    obtain ⟨hrun, hadmits⟩ := ih { s with scheduled := n } hprocessing rfl
    rw [List.replicate_succ]
    refine ⟨?_, nofun, ?_⟩
    · show run step _ (step .tick s) = _
      rw [htick, hrun]
    · rw [htick]
      exact hadmits

/-- A loop that is over and taken for running leaves what is enqueued next in the queue. -/
theorem not_fair_of_stuck {s : Queue} (hprocessing : s.processing = true)
    (hrunning : s.running = []) : ¬ Fair s := by
  intro hfair
  -- An effect is enqueued, and all callbacks run: the loop never starts again.
  obtain ⟨hrun, hadmits⟩ := run_ticks (s.scheduled + 1) (enqueue {} "" s) hprocessing rfl
  have hidle : IsIdle (run step (.enqueue {} "" :: List.replicate (s.scheduled + 1) .tick) s) := by
    rw [isIdle_iff]
    show (run step _ (enqueue {} "" s)).scheduled = 0 ∧ (run step _ (enqueue {} "" s)).running = []
    rw [hrun]
    exact ⟨rfl, hrunning⟩
  have hempty := (hfair.drains (.enqueue {} "" :: List.replicate (s.scheduled + 1) .tick)
    ⟨nofun, hadmits⟩ hidle).1
  have hqueue : (run step (List.replicate (s.scheduled + 1) .tick) (enqueue {} "" s)).queue = [] :=
    hempty
  rw [hrun] at hqueue
  exact absurd hqueue (by simp [enqueue])

/-- A loop that cannot read a rejection is over. -/
theorem settled_of_unreadable (effect : Effect) {reason : Rejection} (s : Queue)
    (hreason : reason.isReadable = false) :
    (settled effect (.rejected reason) s).processing = s.processing ∧
      (settled effect (.rejected reason) s).running = s.running := by
  rw [Rejection.isReadable, Bool.and_eq_false_iff, Option.isSome_eq_false_iff,
    Option.isSome_eq_false_iff, Option.isNone_iff_eq_none, Option.isNone_iff_eq_none] at hreason
  unfold settled recordFailure
  simp only
  cases herror : reason.errorText with
  | none => exact ⟨rfl, rfl⟩
  | some error =>
    rw [herror] at hreason
    have hmessage : reason.message = none := hreason.resolve_left nofun
    rw [hmessage]
    exact ⟨rfl, rfl⟩

/-- The queue is fair in every state of a run exactly when each rejection that a loop waits for is
one that it can read. -/
theorem effects_fair_iff (events : List Event) :
    (∀ s ∈ states step events {}, Fair s) ↔ Admits step Readable events {} := by
  have hstart : Sound {} :=
    ⟨⟨List.Perm.refl _, nofun, nofun, nofun⟩, nofun, fun _ => ⟨rfl, fun h => absurd rfl h⟩⟩
  refine states_forall_iff Sound.step (fun event s h => ⟨fun hfair => ?_, fun hok =>
    (h.step event s hok).fair⟩) events {} hstart
  intro index reason hevent hlt
  by_contra hreason
  have heffect := List.getElem?_eq_getElem hlt
  have hprocessing := h.processing_eq (List.ne_nil_of_length_pos (Nat.zero_lt_of_lt hlt))
  have herase : s.running.eraseIdx index = [] := by
    rw [(h.running_eq hlt heffect).2]
    obtain ⟨effect, hone⟩ := h.busy hprocessing
    rw [hone]
    rfl
  have hstuck := settled_of_unreadable s.running[index]
    { s with running := s.running.eraseIdx index } (by simpa using hreason)
  rw [hevent] at hfair
  simp only [step, heffect] at hfair
  refine not_fair_of_stuck ?_ ?_ hfair
  · rw [hstuck.1, hprocessing]
  · rw [hstuck.2]
    exact herase

/-- An effect whose promise is rejected with `null`. -/
def nullRejection : List Event :=
  [.enqueue { id := some "E1" } "", .tick, .settle 0 (.rejected .null)]

/-- The queue is not fair after it: nothing is executed any more. -/
theorem effects_fair_fails : ¬ ∀ s ∈ states step nullRejection {}, Fair s := by
  intro h
  exact not_fair_of_stuck (by decide) (by decide) (h _ (run_mem_states _ _ _))

end Docketra.EffectQueue
