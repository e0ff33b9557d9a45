import Docketra.Lib.Runs
import Mathlib.Tactic.Common

/-!
# Side effects after the commit

`services/sideEffectQueue.service.js`, with what decides about it: `utils/executeWrite.js`,
`utils/getSession.js`, and `middleware/requestLifecycle.middleware.js`. A request collects the side
effects that its handler enqueues, and they are flushed to the queue when the request is over.

All attempts of a transaction collect into one list. The flush asks whether a transaction is active
or has committed; by then the session has been reset, so that no transaction is active, whatever has
become of it. When only the attempt that commits enqueues anything, and the response does not end
before the transaction has begun, what is flushed is what the committed attempt has enqueued
(`effects_follow_commit`).
-/

namespace Docketra.SideEffects

open Runs

/-- A side effect, with the attempt that has enqueued it, if a transaction's attempt has. -/
structure Effect where
  id : ℕ
  attempt : Option ℕ
  deriving DecidableEq, Repr

/-- Where `executeWrite` stands. -/
inductive Phase where
  | notStarted
  /-- The callback is being called for the `n`-th time. -/
  | attempt (n : ℕ)
  /-- The session is reset. `committed` is the attempt that was committed, if any. -/
  | reset (committed : Option ℕ)
  /-- `req.transactionFinalized` is resolved. -/
  | finalized (committed : Option ℕ)
  deriving DecidableEq, Repr

/-- The flush that the end of a response has led to. -/
inductive Finalizing where
  | unscheduled
  /-- It waits for `req.transactionFinalized`. -/
  | waiting
  | scheduled
  | flushed
  deriving DecidableEq, Repr

/-- A request, and the queue. `enqueued` is the record of what its attempts have enqueued. -/
structure Request where
  pendingSideEffects : List Effect
  transactionActive : Bool
  transactionCommitted : Bool
  phase : Phase
  finalizing : Finalizing
  queue : List Effect
  enqueued : List Effect
  deriving DecidableEq, Repr

/-- A request that has come in. -/
def Request.initial : Request := ⟨[], false, false, .notStarted, .unscheduled, [], []⟩

/-- What may happen next. -/
inductive Event where
  /-- `executeWrite` has a session. -/
  | begin
  | enqueueAfterCommit (id : ℕ)
  /-- The driver aborts the attempt, and calls the callback again. -/
  | retry
  /-- `withTransaction` has ended: it has committed, or the transaction is rolled back. -/
  | settle (committed : Bool)
  /-- `executeWrite` is over. -/
  | finalize
  /-- The response has ended (`finish` or `close`). -/
  | respond
  | flush
  deriving DecidableEq, Repr

/-- `setSession`. -/
def setSession (session : Bool) (req : Request) : Request :=
  { req with transactionActive := session }

/-- The attempt that is being made. -/
def Phase.current : Phase → Option ℕ
  | .attempt n => some n
  | _ => none

/-- `enqueueAfterCommit`. -/
def enqueueAfterCommit (id : ℕ) (req : Request) : Request :=
  let effect : Effect := ⟨id, req.phase.current⟩
  { req with
    pendingSideEffects := req.pendingSideEffects ++ [effect]
    enqueued := if effect.attempt.isSome then req.enqueued ++ [effect] else req.enqueued }

/-- `flushRequestEffects`. -/
def flushRequestEffects (req : Request) : Request :=
  if req.pendingSideEffects = [] then req
  else if !req.transactionActive || req.transactionCommitted then
    { req with pendingSideEffects := [], queue := req.queue ++ req.pendingSideEffects }
  else { req with pendingSideEffects := [] }

/-- `finalize` of the request's lifecycle: it waits for the transaction, if there is one. -/
def finalize : Phase → Finalizing
  -- Without a transaction so far there is nothing to wait for.
  | .notStarted => .scheduled
  | .finalized _ => .scheduled
  | _ => .waiting

/-- One step. A step that the request is not ready for changes nothing. -/
def step : Event → Request → Request
  | .begin, req =>
    match req.phase with
    | .notStarted =>
      { setSession true req with transactionCommitted := false, phase := .attempt 0 }
    | _ => req
  | .enqueueAfterCommit id, req => enqueueAfterCommit id req
  | .retry, req =>
    match req.phase with
    -- What the aborted attempt has enqueued stays.
    | .attempt n => { req with phase := .attempt (n + 1) }
    | _ => req
  | .settle committed, req =>
    match req.phase with
    | .attempt n =>
      { setSession false req with
        transactionCommitted := committed
        phase := .reset (if committed then some n else none) }
    | _ => req
  | .finalize, req =>
    match req.phase with
    | .reset committed => { req with phase := .finalized committed }
    | _ => req
  | .respond, req =>
    match req.finalizing with
    | .unscheduled => { req with finalizing := finalize req.phase }
    | _ => req
  | .flush, req =>
    match req.finalizing, req.phase with
    | .scheduled, _ => { flushRequestEffects req with finalizing := .flushed }
    | .waiting, .finalized _ => { flushRequestEffects req with finalizing := .flushed }
    | _, _ => req

/-! ## What is asked of the queue -/

/-- The effects of a list that attempts of the transaction have enqueued. -/
def ofAttempts (effects : List Effect) : List Effect :=
  effects.filter fun e => e.attempt.isSome

/-- The attempt that was committed, when the transaction is over. -/
def Phase.over : Phase → Option (Option ℕ)
  | .reset committed => some committed
  | .finalized committed => some committed
  | _ => none

/-- What is to be flushed, given the attempt that was committed. -/
def owed (req : Request) : Option ℕ → List Effect
  | none => []
  | some n => req.enqueued.filter fun e => e.attempt = some n

/-- Only effects of the committed attempt are in the queue, and after the flush all of them are, each
once and in their order. -/
structure FollowsCommit (req : Request) : Prop where
  only : ∀ e ∈ ofAttempts req.queue, ∃ n, req.phase.over = some (some n) ∧ e.attempt = some n
  all : ∀ committed, req.finalizing = .flushed → req.phase.over = some committed →
    ofAttempts req.queue = owed req committed

/-- What a step must meet for that. -/
def Orderly : Event → Request → Prop
  -- An attempt that is aborted has enqueued nothing.
  | .retry, req => ofAttempts req.pendingSideEffects = []
  | .settle false, req => ofAttempts req.pendingSideEffects = []
  -- The response does not end before the transaction has begun.
  | .respond, req => req.phase ≠ .notStarted
  | _, _ => True

/-! ## The invariant -/

/-- The attempt that everything enqueued so far is to come from. -/
def Phase.owner : Phase → Option ℕ
  | .notStarted => none
  | .attempt n => some n
  | .reset committed => committed
  | .finalized committed => committed

/-- What holds throughout a run whose steps are orderly. -/
structure Inv (req : Request) : Prop where
  /-- The flush comes when the transaction is over. -/
  late : req.finalizing = .scheduled ∨ req.finalizing = .flushed →
    ∃ committed, req.phase = .finalized committed
  /-- No transaction is active then. -/
  idle : ∀ committed, req.phase.over = some committed → req.transactionActive = false
  /-- What has been enqueued is the current attempt's, or the committed one's. -/
  whose : ∀ e ∈ req.enqueued, ∃ n, req.phase.owner = some n ∧ e.attempt = some n
  /-- It is collected before the flush. -/
  collected : req.finalizing ≠ .flushed →
    ofAttempts req.pendingSideEffects = req.enqueued ∧ ofAttempts req.queue = []
  /-- It is in the queue after the flush. -/
  queued : req.finalizing = .flushed → ofAttempts req.queue = req.enqueued

theorem Inv.initial : Inv Request.initial :=
  ⟨nofun, nofun, nofun, fun _ => ⟨rfl, rfl⟩, nofun⟩

/-- While the transaction is not over, nothing has been flushed. -/
theorem Inv.not_flushed {req : Request} (h : Inv req)
    (hphase : ∀ committed, req.phase ≠ .finalized committed) : req.finalizing ≠ .flushed := by
  intro hflushed
  obtain ⟨committed, hfinalized⟩ := h.late (.inr hflushed)
  exact hphase committed hfinalized

/-- Nothing has been enqueued when there is no attempt that it could be from. -/
theorem Inv.enqueued_eq_nil {req : Request} (h : Inv req) (howner : req.phase.owner = none) :
    req.enqueued = [] := by
  refine List.eq_nil_iff_forall_not_mem.mpr fun e he => ?_
  obtain ⟨n, hn, -⟩ := h.whose e he
  rw [howner] at hn
  cases hn

/-- The transaction moves on to a phase before its end, with nothing enqueued unless the phases have
their attempt in common. -/
theorem Inv.move {req : Request} (h : Inv req) {phase : Phase} {active committed : Bool}
    (hbefore : ∀ c, req.phase ≠ .finalized c)
    (hidle : ∀ c, phase.over = some c → active = false)
    (howner : req.enqueued = [] ∨ phase.owner = req.phase.owner) :
    Inv { req with transactionActive := active, transactionCommitted := committed, phase := phase }
    := by
  have hflushed := h.not_flushed hbefore
  refine ⟨?_, hidle, ?_, h.collected, h.queued⟩
  · rintro (hscheduled | hflushed')
    · obtain ⟨c, hc⟩ := h.late (.inl hscheduled)
      exact absurd hc (hbefore c)
    · exact absurd hflushed' hflushed
  · intro e he
    rcases howner with hnil | howner
    · exact absurd he (by simp [hnil])
    · obtain ⟨n, hn, hen⟩ := h.whose e he
      exact ⟨n, howner.trans hn, hen⟩

theorem Inv.begin {req : Request} (h : Inv req) : Inv (step .begin req) := by
  simp only [step]
  cases hphase : req.phase with
  | notStarted =>
    have hnil := h.enqueued_eq_nil (by rw [hphase]; rfl)
    exact h.move (by simp [hphase]) nofun (.inl hnil)
  | _ => exact h

theorem Inv.retry {req : Request} (h : Inv req) (hok : Orderly .retry req) :
    Inv (step .retry req) := by
  simp only [step]
  cases hphase : req.phase with
  | attempt n =>
    have hbefore : ∀ c, req.phase ≠ .finalized c := by simp [hphase]
    have hnil : req.enqueued = [] := by
      rw [← (h.collected (h.not_flushed hbefore)).1]
      exact hok
    exact h.move hbefore nofun (.inl hnil)
  | _ => exact h

theorem Inv.settle {req : Request} (h : Inv req) {committed : Bool}
    (hok : Orderly (.settle committed) req) : Inv (step (.settle committed) req) := by
  simp only [step]
  cases hphase : req.phase with
  | attempt n =>
    have hbefore : ∀ c, req.phase ≠ .finalized c := by simp [hphase]
    refine h.move hbefore (fun _ _ => rfl) ?_
    cases committed with
    | true => exact .inr (by rw [hphase]; rfl)
    | false =>
      left
      rw [← (h.collected (h.not_flushed hbefore)).1]
      exact hok
  | _ => exact h

theorem Inv.finalize {req : Request} (h : Inv req) : Inv (step .finalize req) := by
  simp only [step]
  cases hphase : req.phase with
  | reset committed =>
    refine h.move (by simp [hphase]) ?_ (.inr (by rw [hphase]; rfl))
    exact fun _ _ => h.idle committed (by rw [hphase]; rfl)
  | _ => exact h

theorem ofAttempts_append (l m : List Effect) :
    ofAttempts (l ++ m) = ofAttempts l ++ ofAttempts m := List.filter_append ..

theorem Inv.enqueueAfterCommit {req : Request} (h : Inv req) (id : ℕ) :
    Inv (step (.enqueueAfterCommit id) req) := by
  simp only [step, SideEffects.enqueueAfterCommit]
  cases hcurrent : req.phase.current with
  | none =>
    have hnone : ofAttempts [⟨id, none⟩] = [] := rfl
    refine ⟨h.late, h.idle, h.whose, fun hflushed => ?_, h.queued⟩
    dsimp only
    rw [ofAttempts_append, hnone, List.append_nil]
    exact h.collected hflushed
  | some n =>
    have hphase : req.phase = .attempt n := by
      cases hp : req.phase <;> simp_all [Phase.current]
    have hflushed := h.not_flushed (by simp [hphase])
    obtain ⟨hpending, hqueue⟩ := h.collected hflushed
    refine ⟨h.late, h.idle, ?_, fun _ => ⟨?_, hqueue⟩, fun hf => absurd hf hflushed⟩
    · intro e he
      rcases List.mem_append.mp he with he | he
      · exact h.whose e he
      · rw [List.mem_singleton.mp he]
        exact ⟨n, by rw [hphase]; rfl, rfl⟩
    · dsimp only
      rw [ofAttempts_append, hpending]
      rfl

theorem Inv.respond {req : Request} (h : Inv req) (hok : Orderly .respond req) :
    Inv (step .respond req) := by
  simp only [step]
  cases hfinalizing : req.finalizing with
  | unscheduled =>
    have hcollected := h.collected (by rw [hfinalizing]; nofun)
    have hunflushed : SideEffects.finalize req.phase ≠ Finalizing.flushed := by
      cases req.phase <;> nofun
    refine ⟨?_, h.idle, h.whose, fun _ => hcollected, fun hf => absurd hf hunflushed⟩
    rintro (hscheduled | hflushed)
    · dsimp only at hscheduled ⊢
      cases hphase : req.phase with
      | notStarted => exact absurd hphase hok
      | finalized committed => exact ⟨committed, rfl⟩
      | _ =>
        rw [hphase] at hscheduled
        cases hscheduled
    · exact absurd hflushed hunflushed
  | _ => exact h

/-- When the transaction is over, the flush moves whatever is pending. -/
theorem flushRequestEffects_of_idle {req : Request} (h : req.transactionActive = false) :
    flushRequestEffects req =
      { req with pendingSideEffects := [], queue := req.queue ++ req.pendingSideEffects } := by
  unfold flushRequestEffects
  split_ifs with hpending
  · rw [hpending, List.append_nil, ← hpending]
  · rfl
  · simp [h] at *

/-- The flush, at the end of the request. -/
theorem Inv.flushed {req : Request} (h : Inv req) {committed : Option ℕ}
    (hphase : req.phase = .finalized committed) (hfinalizing : req.finalizing ≠ .flushed) :
    Inv { flushRequestEffects req with finalizing := .flushed } := by
  have hidle := h.idle committed (by rw [hphase]; rfl)
  obtain ⟨hpending, hqueue⟩ := h.collected hfinalizing
  rw [flushRequestEffects_of_idle hidle]
  refine ⟨fun _ => ⟨committed, hphase⟩, h.idle, h.whose, fun hne => absurd rfl hne, fun _ => ?_⟩
  dsimp only
  rw [ofAttempts_append, hpending, hqueue, List.nil_append]

theorem Inv.flush {req : Request} (h : Inv req) : Inv (step .flush req) := by
  simp only [step]
  cases hfinalizing : req.finalizing with
  | scheduled =>
    obtain ⟨committed, hphase⟩ := h.late (.inl hfinalizing)
    exact h.flushed hphase (by rw [hfinalizing]; nofun)
  | waiting =>
    cases hphase : req.phase with
    | finalized committed => exact h.flushed hphase (by rw [hfinalizing]; nofun)
    | _ => exact h
  | _ => exact h

/-- An orderly step keeps the invariant. -/
theorem Inv.step {req : Request} (h : Inv req) {e : Event} (hok : Orderly e req) :
    Inv (step e req) := by
  cases e with
  | begin => exact h.begin
  | enqueueAfterCommit id => exact h.enqueueAfterCommit id
  | retry => exact h.retry hok
  | settle committed => exact h.settle hok
  | finalize => exact h.finalize
  | respond => exact h.respond hok
  | flush => exact h.flush

/-- What is in the queue was enqueued by the committed attempt, and all of that is in the queue after
the flush. -/
theorem Inv.followsCommit {req : Request} (h : Inv req) : FollowsCommit req := by
  constructor
  · intro e he
    by_cases hflushed : req.finalizing = .flushed
    · rw [h.queued hflushed] at he
      obtain ⟨n, hn, hen⟩ := h.whose e he
      obtain ⟨committed, hphase⟩ := h.late (.inr hflushed)
      rw [hphase] at hn ⊢
      exact ⟨n, congrArg some hn, hen⟩
    · rw [(h.collected hflushed).2] at he
      cases he
  · intro committed hflushed hover
    rw [h.queued hflushed]
    have howner : req.phase.owner = committed := by
      cases hphase : req.phase <;> simp_all [Phase.over, Phase.owner]
    cases committed with
    | none => exact h.enqueued_eq_nil howner
    | some n =>
      refine (List.filter_eq_self.mpr fun e he => ?_).symm
      obtain ⟨m, hm, hem⟩ := h.whose e he
      rw [howner] at hm
      rw [hem, ← hm]
      simp

/-- In every run in which an attempt that is aborted has enqueued nothing, and the response does not
end before the transaction has begun, the effects follow the commit. -/
theorem effects_follow_commit {events : List Event}
    (h : Admits step Orderly events Request.initial) :
    ∀ req ∈ states step events Request.initial, FollowsCommit req := by
  have hstep : ∀ e req, Inv req → Orderly e req → Inv (SideEffects.step e req) :=
    fun _ _ h hok => h.step hok
  intro req hreq
  exact (states_invariant hstep events Request.initial Inv.initial h req hreq).followsCommit

/-- A transaction whose first attempt is aborted before it has enqueued anything. -/
theorem effects_follow_commit_retried :
    (run step [.begin, .retry, .enqueueAfterCommit 1, .settle true, .finalize, .respond, .flush]
        Request.initial).queue = [⟨1, some 1⟩] ∧
      ∀ req ∈ states step
          [.begin, .retry, .enqueueAfterCommit 1, .settle true, .finalize, .respond, .flush]
          Request.initial, FollowsCommit req :=
  ⟨rfl, effects_follow_commit
    ⟨trivial, rfl, trivial, trivial, trivial, nofun, trivial, trivial⟩⟩

/-- A handler enqueues an effect, and its transaction is rolled back: the effect runs. An attempt
enqueues an effect, is aborted, and the next attempt enqueues it again and commits: it runs twice. A
connection is closed before the transaction begins: the effect of a committed attempt never runs. -/
theorem effects_follow_commit_fails :
    (run step [.begin, .enqueueAfterCommit 1, .settle false, .finalize, .respond, .flush]
        Request.initial).queue = [⟨1, some 0⟩] ∧
      (run step [.begin, .enqueueAfterCommit 1, .retry, .enqueueAfterCommit 1, .settle true,
        .finalize, .respond, .flush] Request.initial).queue = [⟨1, some 0⟩, ⟨1, some 1⟩] ∧
      (run step [.respond, .flush, .begin, .enqueueAfterCommit 1, .settle true, .finalize]
        Request.initial).queue = [] ∧
      ¬FollowsCommit (run step [.begin, .enqueueAfterCommit 1, .settle false, .finalize, .respond,
        .flush] Request.initial) ∧
      ¬FollowsCommit (run step [.begin, .enqueueAfterCommit 1, .retry, .enqueueAfterCommit 1,
        .settle true, .finalize, .respond, .flush] Request.initial) ∧
      ¬FollowsCommit (run step [.respond, .flush, .begin, .enqueueAfterCommit 1, .settle true,
        .finalize] Request.initial) := by
  refine ⟨rfl, rfl, rfl, ?_, ?_, ?_⟩
  · intro h
    have hall := h.all none rfl rfl
    exact absurd hall (by decide)
  · intro h
    have hall := h.all (some 1) rfl rfl
    exact absurd hall (by decide)
  · intro h
    have hall := h.all (some 0) rfl rfl
    exact absurd hall (by decide)

end Docketra.SideEffects
