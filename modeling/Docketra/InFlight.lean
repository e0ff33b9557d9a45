import Docketra.Lib.Runs
import Docketra.Idempotency

/-!
# Requests with one idempotency key

Any number of requests with one distributed key, over `RedisIdempotencyStore`, in any order of their
steps and at any times. A request goes through `start`, whose two commands other requests may come
between; then its handler runs, until the response ends; and last the store is told, which is a
command of its own.

The mark of a request in progress expires by itself, so that a slow handler is overtaken by another
one, whose entry it then overwrites or deletes. When every handler's outcome reaches the store while
its mark is there, the handlers run one at a time, and their responses are replayed
(`handled_once_and_replayed`).
-/

namespace Docketra.Idempotency

open Expiring Runs

/-- The time to live of an entry, in milliseconds. -/
def ttl : ℕ := (IDEMPOTENCY_TTL_SECONDS : ℕ) * 1000

/-- What the middleware does with a request: it passes it on, answers 409, or answers with a stored
response. -/
inductive Outcome where
  | next
  | duplicate_request
  | replayed (response : Wire)
  deriving DecidableEq, Repr

/-- What `idempotencyMiddleware` makes of the result of `start`. -/
def outcome : StartResult (Option Response) → Outcome
  | .completed (some (some response)) => .replayed (replayResponse response)
  | .started => .next
  | _ => .duplicate_request

/-- A response below 500 that has ended: whose it is, when, and as the client has got it. -/
structure Completion where
  request : ℕ
  time : ℕ
  wire : Wire

/-- How far a request has come. `deadline` is the time at which its mark expires. -/
inductive Phase where
  | received
  /-- Between the two commands of `start`. `seen` are the completions before the first of them. -/
  | reading (seen : List Completion)
  /-- The handler is running. -/
  | handling (deadline : ℕ)
  /-- The response has ended, and the store has not been told. -/
  | finishing (deadline : ℕ) (statusCode : StatusCode) (response : Option Response)
  | done

/-- The time at which the mark of a request expires, while its outcome is not in the store. -/
def Phase.deadline : Phase → Option ℕ
  | .handling deadline => some deadline
  | .finishing deadline _ _ => some deadline
  | _ => none

/-- What became of a request that has been through the middleware. -/
structure Answer where
  time : ℕ
  seen : List Completion
  outcome : Outcome

/-- The store, the requests, and a record of the completions and of the answers. -/
structure System where
  now : ℕ
  redis : Store String (Record (Option Response))
  phase : ℕ → Phase
  completions : List Completion
  answers : List Answer

/-- Before any request. -/
def System.initial : System := ⟨0, empty, fun _ => .received, [], []⟩

/-- What may happen next. -/
inductive Event where
  | wait (milliseconds : ℕ)
  | startSet (request : ℕ)
  | startGet (request : ℕ)
  /-- The handler's response ends (`res.once('finish')`). -/
  | finish (request : ℕ) (statusCode : StatusCode) (sent : Sent)
  /-- The command that the end of a response has issued. -/
  | finalize (request : ℕ)
  /-- The connection is gone before the response has ended, and the handler has come to its end. -/
  | close (request : ℕ)

variable (key : String)

/-- The command of the listener of `finish`. -/
def finalized (now : ℕ) (statusCode : ℕ) (response : Option Response)
    (redis : Store String (Record (Option Response))) : Store String (Record (Option Response)) :=
  if 500 ≤ statusCode then RedisIdempotencyStore.fail key redis
  else RedisIdempotencyStore.complete now key response IDEMPOTENCY_TTL_SECONDS redis

/-- One step of the system. A step that a request is not ready for changes nothing. -/
def step : Event → System → System
  | .wait milliseconds, s => { s with now := s.now + milliseconds }
  | .startSet r, s =>
    match s.phase r with
    | .received =>
      match RedisIdempotencyStore.startSet s.now key IDEMPOTENCY_TTL_SECONDS s.redis with
      | (true, redis) =>
        { s with
          redis := redis
          phase := Function.update s.phase r (.handling (s.now + ttl))
          answers := ⟨s.now, s.completions, .next⟩ :: s.answers }
      | (false, _) => { s with phase := Function.update s.phase r (.reading s.completions) }
    | _ => s
  | .startGet r, s =>
    match s.phase r with
    | .reading seen =>
      { s with
        phase := Function.update s.phase r .done
        answers :=
          ⟨s.now, seen, outcome (RedisIdempotencyStore.startGet s.now key s.redis)⟩ :: s.answers }
    | _ => s
  | .finish r statusCode sent, s =>
    match s.phase r with
    | .handling deadline =>
      { s with
        phase := Function.update s.phase r
          (.finishing deadline statusCode (capturedResponse statusCode sent))
        completions :=
          if 500 ≤ statusCode.val then s.completions
          else ⟨r, s.now, statusCode, sent.text⟩ :: s.completions }
    | _ => s
  | .finalize r, s =>
    match s.phase r with
    | .finishing _ statusCode response =>
      { s with
        redis := finalized key s.now statusCode response s.redis
        phase := Function.update s.phase r .done }
    | _ => s
  | .close r, s =>
    match s.phase r with
    -- There is no `finish` event, and the mark stays.
    | .handling _ => { s with phase := Function.update s.phase r .done }
    | _ => s

/-! ## What is asked of the system -/

/-- Two handlers are never in flight together. -/
def HandledOnce (s : System) : Prop :=
  ∀ r r' d d', s.phase r = .handling d → s.phase r' = .handling d' → r = r'

/-- A request that starts after a response below 500 has ended, and is answered within the time to
live, gets that response. -/
def Replayed (s : System) : Prop :=
  ∀ a ∈ s.answers, ∀ c ∈ a.seen, a.time < c.time + ttl → a.outcome = .replayed c.wire

/-- What a step must meet for that. -/
def Timely : Event → System → Prop
  -- A handler's outcome is in the store before its mark expires.
  | .wait milliseconds, s =>
    ∀ r deadline, (s.phase r).deadline = some deadline → s.now + milliseconds < deadline
  -- A response below 500 is sent through `res.json`.
  | .finish _ statusCode sent, _ => statusCode.val < 500 → ∃ text, sent = .json text
  -- What has ended before a request starts is in the store when it reads.
  | .startGet r, s =>
    ∀ seen, s.phase r = .reading seen → ∀ c ∈ seen, (s.phase c.request).deadline = none
  | _, _ => True

/-! ## The invariant -/

variable {key}

/-- The entry of the key holds the response of a completion, for its time to live at least. -/
def Stored (key : String) (s : System) (c : Completion) : Prop :=
  ∃ response expires, live s.now (s.redis key) = some ⟨.completed (some response), expires⟩ ∧
    replayResponse response = c.wire ∧ c.time + ttl ≤ expires

/-- The response of a completion is about to be stored. -/
def Ending (s : System) (c : Completion) : Prop :=
  ∃ deadline statusCode response,
    s.phase c.request = .finishing deadline statusCode (some response) ∧
      statusCode.val < 500 ∧ replayResponse response = c.wire

/-- What holds throughout a run whose steps are timely. -/
structure Inv (key : String) (s : System) : Prop where
  /-- The outcome of one request at most is not in the store. -/
  one : ∀ {r r' d d'}, (s.phase r).deadline = some d → (s.phase r').deadline = some d' → r = r'
  /-- The mark of that request is. -/
  mark : ∀ {r d}, (s.phase r).deadline = some d →
    live s.now (s.redis key) = some ⟨.in_progress, d⟩
  /-- Completions are in the past. -/
  past : ∀ c ∈ s.completions, c.time ≤ s.now
  /-- A completion within the time to live is in the store, or about to be. -/
  kept : ∀ c ∈ s.completions, s.now < c.time + ttl → Stored key s c ∨ Ending s c
  /-- A request has seen no completion that there has not been. -/
  seen : ∀ {r seen}, s.phase r = .reading seen → seen ⊆ s.completions
  replayed : Replayed s

/-- An entry of which the outcome is awaited is no stored response. -/
theorem Inv.not_stored {s : System} (h : Inv key s) {r d : ℕ}
    (hr : (s.phase r).deadline = some d) (c : Completion) : ¬Stored key s c := by
  rintro ⟨response, expires, hlive, -⟩
  rw [h.mark hr] at hlive
  cases hlive

/-- Another request's response is about to be stored whatever phase a request comes to. -/
theorem Ending.update {s : System} {c : Completion} {r : ℕ} (h : Ending s c) (p : Phase)
    (hr : ∀ d statusCode response, s.phase r ≠ .finishing d statusCode response) :
    Ending { s with phase := Function.update s.phase r p } c := by
  obtain ⟨d, statusCode, response, hphase, hbelow, hwire⟩ := h
  have hne : c.request ≠ r := fun hcr => hr _ _ _ (hcr ▸ hphase)
  refine ⟨d, statusCode, response, ?_, hbelow, hwire⟩
  rwa [← Function.update_of_ne hne p s.phase] at hphase

/-- What the requests have seen, when one of them comes to another phase. -/
theorem Inv.seen_update {s : System} (h : Inv key s) {r r' : ℕ} {p : Phase}
    {seen : List Completion} (hp : ∀ seen, p = .reading seen → seen ⊆ s.completions)
    (hreading : Function.update s.phase r p r' = .reading seen) : seen ⊆ s.completions := by
  by_cases hr' : r' = r
  · rw [hr', Function.update_self] at hreading
    exact hp seen hreading
  · rw [Function.update_of_ne hr'] at hreading
    exact h.seen hreading

/-- A request comes to a phase in which its outcome is awaited if it was before, from another one
than the storing of its response. -/
theorem Inv.update {s : System} (h : Inv key s) {r : ℕ} {p : Phase}
    (hp : ∀ d, p.deadline = some d → (s.phase r).deadline = some d)
    (hr : ∀ d statusCode response, s.phase r ≠ .finishing d statusCode response)
    (hseen : ∀ seen, p = .reading seen → seen ⊆ s.completions) :
    Inv key { s with phase := Function.update s.phase r p } := by
  have hbefore : ∀ {r' d}, (Function.update s.phase r p r').deadline = some d →
      (s.phase r').deadline = some d := by
    intro r' d hd
    by_cases hr' : r' = r
    · rw [hr', Function.update_self] at hd
      rw [hr']
      exact hp d hd
    · rwa [Function.update_of_ne hr'] at hd
  constructor
  · exact fun hd hd' => h.one (hbefore hd) (hbefore hd')
  · exact fun hd => h.mark (hbefore hd)
  · exact h.past
  · intro c hc hnow
    exact (h.kept c hc hnow).imp id fun hending => hending.update p hr
  · exact fun hreading => h.seen_update hseen hreading
  · exact h.replayed

/-- A response has ended that is in the store, or about to be. -/
theorem Inv.complete {s : System} (h : Inv key s) {c : Completion} (hpast : c.time ≤ s.now)
    (hkept : Stored key s c ∨ Ending s c) :
    Inv key { s with completions := c :: s.completions } := by
  refine ⟨h.one, h.mark, ?_, ?_, ?_, h.replayed⟩
  · intro c' hc'
    rcases List.mem_cons.mp hc' with rfl | hc'
    · exact hpast
    · exact h.past c' hc'
  · intro c' hc' hnow
    rcases List.mem_cons.mp hc' with rfl | hc'
    · exact hkept
    · exact h.kept c' hc' hnow
  · exact fun hreading => List.subset_cons_of_subset _ (h.seen hreading)

/-- An answer that is as it should be is added to the record. -/
theorem Inv.answer {s : System} (h : Inv key s) {a : Answer}
    (ha : ∀ c ∈ a.seen, a.time < c.time + ttl → a.outcome = .replayed c.wire) :
    Inv key { s with answers := a :: s.answers } := by
  refine ⟨h.one, h.mark, h.past, h.kept, h.seen, ?_⟩
  intro b hb
  rcases List.mem_cons.mp hb with rfl | hb
  · exact ha
  · exact h.replayed b hb

/-! ## The steps -/

theorem Inv.wait {s : System} (h : Inv key s) {milliseconds : ℕ}
    (hok : Timely (.wait milliseconds) s) : Inv key (step key (.wait milliseconds) s) := by
  have hle : s.now ≤ s.now + milliseconds := Nat.le_add_right _ _
  -- What has not expired at the later time is still there.
  have hlater : ∀ {e}, live s.now (s.redis key) = some e → s.now + milliseconds < e.expires →
      live (s.now + milliseconds) (s.redis key) = some e := by
    intro e he hexpires
    rw [live_eq_some] at he ⊢
    exact ⟨he.1, hexpires⟩
  refine ⟨h.one, ?_, ?_, ?_, h.seen, h.replayed⟩
  · intro r d hd
    exact hlater (h.mark hd) (hok r d hd)
  · intro c hc
    exact Nat.le_trans (h.past c hc) hle
  · intro c hc hnow
    refine (h.kept c hc (Nat.lt_of_le_of_lt hle hnow)).imp ?_ id
    rintro ⟨response, expires, hlive, hwire, hexpires⟩
    exact ⟨response, expires, hlater hlive (Nat.lt_of_lt_of_le hnow hexpires), hwire, hexpires⟩

/-- The first command of `start`, for a request that finds nothing under the key. -/
theorem Inv.started {s : System} (h : Inv key s) {r : ℕ}
    (hlive : live s.now (s.redis key) = none) :
    Inv key { s with
      redis := setEX s.now key .in_progress ttl s.redis
      phase := Function.update s.phase r (.handling (s.now + ttl))
      answers := ⟨s.now, s.completions, .next⟩ :: s.answers } := by
  -- No outcome is awaited, and no response is to be replayed.
  have hnone : ∀ {r' d}, (s.phase r').deadline ≠ some d := by
    intro r' d hd
    have hmark := h.mark hd
    rw [hlive] at hmark
    cases hmark
  have hold : ∀ c ∈ s.completions, ¬s.now < c.time + ttl := by
    intro c hc hnow
    rcases h.kept c hc hnow with ⟨response, expires, hstored, -⟩ | ⟨d, _, _, hending, -⟩
    · rw [hlive] at hstored
      cases hstored
    · exact hnone (by rw [hending]; rfl)
  have honly : ∀ {r' d}, (Function.update s.phase r (.handling (s.now + ttl)) r').deadline = some d →
      r' = r ∧ d = s.now + ttl := by
    intro r' d hd
    by_cases hr' : r' = r
    · rw [hr', Function.update_self] at hd
      exact ⟨hr', (Option.some.inj hd).symm⟩
    · rw [Function.update_of_ne hr'] at hd
      exact absurd hd hnone
  constructor
  · intro r' r'' d d' hd hd'
    rw [(honly hd).1, (honly hd').1]
  · intro r' d hd
    rw [(honly hd).2]
    show live s.now (setEX s.now key .in_progress ttl s.redis key) = _
    rw [setEX_same, live_fresh (by decide)]
  · exact h.past
  · exact fun c hc hnow => absurd hnow (hold c hc)
  · exact fun hreading => h.seen_update (p := .handling (s.now + ttl)) nofun hreading
  · intro a ha
    rcases List.mem_cons.mp ha with rfl | ha
    · exact fun c hc hnow => absurd hnow (hold c hc)
    · exact h.replayed a ha

theorem Inv.startSet {s : System} (h : Inv key s) (r : ℕ) :
    Inv key (step key (.startSet r) s) := by
  simp only [step]
  cases hphase : s.phase r with
  | received =>
    cases hlive : live s.now (s.redis key) with
    | some e =>
      have hset := setNX_of_some hlive .in_progress ttl
      simp only [RedisIdempotencyStore.startSet]
      rw [show (IDEMPOTENCY_TTL_SECONDS : ℕ) * 1000 = ttl from rfl, hset]
      refine h.update nofun (by simp [hphase]) fun seen hseen => ?_
      cases hseen
      exact List.Subset.refl _
    | none =>
      have hset := setNX_of_none hlive .in_progress ttl
      simp only [RedisIdempotencyStore.startSet]
      rw [show (IDEMPOTENCY_TTL_SECONDS : ℕ) * 1000 = ttl from rfl, hset]
      exact h.started hlive
  | _ => exact h

theorem Inv.startGet {s : System} (h : Inv key s) {r : ℕ} (hok : Timely (.startGet r) s) :
    Inv key (step key (.startGet r) s) := by
  simp only [step]
  cases hphase : s.phase r with
  | reading seen =>
    have hdone := h.update (r := r) (p := .done) nofun (by simp [hphase]) nofun
    refine hdone.answer ?_
    intro c hc hnow
    dsimp only at hnow ⊢
    rcases h.kept c (h.seen hphase hc) hnow with hstored | ⟨d, _, _, hending, -⟩
    · obtain ⟨response, expires, hlive, hwire, -⟩ := hstored
      unfold RedisIdempotencyStore.startGet
      rw [get_of_some hlive]
      simp [Record.result, JsonValue.truthy, outcome, hwire]
    · have hnone := hok seen hphase c hc
      rw [hending] at hnone
      cases hnone
  | _ => exact h

theorem Inv.finish {s : System} (h : Inv key s) {r : ℕ} {statusCode : StatusCode} {sent : Sent}
    (hok : Timely (.finish r statusCode sent) s) :
    Inv key (step key (.finish r statusCode sent) s) := by
  simp only [step]
  cases hphase : s.phase r with
  | handling deadline =>
    have hactive : ∀ d, (Phase.finishing deadline statusCode
        (capturedResponse statusCode sent)).deadline = some d → (s.phase r).deadline = some d := by
      rw [hphase]
      exact fun d hd => hd
    have hfinishing := h.update hactive (by simp [hphase]) nofun
    by_cases hstatus : 500 ≤ statusCode.val
    · rw [if_pos hstatus]
      exact hfinishing
    · rw [if_neg hstatus]
      refine hfinishing.complete (Nat.le_refl _) (.inr ?_)
      -- What was captured of the response is what it is replayed from.
      obtain ⟨text, rfl⟩ := hok (Nat.lt_of_not_le hstatus)
      have hne : statusCode.val ≠ 0 := by
        have := statusCode.property
        omega
      have hreplay := (replay_capturedResponse hne (.json text)).mpr ⟨text, rfl⟩
      obtain ⟨response, hresponse, hwire⟩ := Option.map_eq_some_iff.mp hreplay
      refine ⟨deadline, statusCode, response, ?_, Nat.lt_of_not_le hstatus, hwire⟩
      show Function.update s.phase r _ r = _
      rw [Function.update_self, ← hresponse]
  | _ => exact h

theorem Inv.finalize {s : System} (h : Inv key s) (r : ℕ) :
    Inv key (step key (.finalize r) s) := by
  simp only [step]
  cases hphase : s.phase r with
  | finishing deadline statusCode response =>
    have hactive : (s.phase r).deadline = some deadline := by
      rw [hphase]
      rfl
    -- The outcome of `r` alone was awaited.
    have hnone : ∀ {r' d}, (Function.update s.phase r .done r').deadline ≠ some d := by
      intro r' d hd
      by_cases hr' : r' = r
      · rw [hr', Function.update_self] at hd
        cases hd
      · rw [Function.update_of_ne hr'] at hd
        exact hr' (h.one hd hactive)
    refine ⟨fun hd => absurd hd hnone, fun hd => absurd hd hnone, h.past, ?_, ?_, h.replayed⟩
    · intro c hc hnow
      rcases h.kept c hc hnow with hstored | ⟨d, status, response', hending, hbelow, hwire⟩
      · exact absurd hstored (h.not_stored hactive c)
      · have hcr : c.request = r := h.one (by rw [hending]; rfl) hactive
        rw [hcr, hphase] at hending
        cases hending
        refine .inl ⟨response', s.now + ttl, ?_, hwire, Nat.add_le_add_right (h.past c hc) ttl⟩
        show live s.now (finalized key s.now statusCode (some response') s.redis key) = _
        unfold finalized
        rw [if_neg (Nat.not_le_of_lt hbelow), RedisIdempotencyStore.complete, setEX_same]
        exact live_fresh (by decide) _
    · exact fun hreading => h.seen_update (p := .done) nofun hreading
  | _ => exact h

theorem Inv.close {s : System} (h : Inv key s) (r : ℕ) : Inv key (step key (.close r) s) := by
  simp only [step]
  cases hphase : s.phase r with
  | handling deadline => exact h.update nofun (by simp [hphase]) nofun
  | _ => exact h

/-- A timely step keeps the invariant. -/
theorem Inv.step {s : System} (h : Inv key s) {e : Event} (hok : Timely e s) :
    Inv key (step key e s) := by
  cases e with
  | wait milliseconds => exact h.wait hok
  | startSet r => exact h.startSet r
  | startGet r => exact h.startGet hok
  | finish r statusCode sent => exact h.finish hok
  | finalize r => exact h.finalize r
  | close r => exact h.close r

/-- The invariant holds before any request. -/
theorem Inv.initial : Inv key System.initial :=
  ⟨nofun, nofun, nofun, nofun, nofun, nofun⟩

/-- The outcome of one request at most is awaited, so that one handler at most is in flight. -/
theorem Inv.handledOnce {s : System} (h : Inv key s) : HandledOnce s := by
  intro r r' d d' hr hr'
  exact h.one (by rw [hr]; rfl) (by rw [hr']; rfl)

/-- In every run whose steps are timely, one handler at most is in flight in each state, and requests
that come within the time to live of a response get that response. -/
theorem handled_once_and_replayed {events : List Event}
    (h : Admits (step key) Timely events System.initial) :
    ∀ s ∈ states (step key) events System.initial, HandledOnce s ∧ Replayed s := by
  have hstep : ∀ e s, Inv key s → Timely e s → Inv key (step key e s) :=
    fun _ _ h hok => h.step hok
  intro s hs
  have hinv := states_invariant hstep events System.initial Inv.initial h s hs
  exact ⟨hinv.handledOnce, hinv.replayed⟩

/-- Two requests with a key, the second of which comes when the first has been answered. -/
theorem handled_once_and_replayed_two :
    (run (step "k")
        [.startSet 1, .wait 1000, .finish 1 ⟨200, by decide⟩ (.json "1"), .finalize 1,
          .wait 1000, .startSet 2, .startGet 2] System.initial).answers.map Answer.outcome =
        [.replayed (200, "1"), .next] ∧
      ∀ s ∈ states (step "k")
          [.startSet 1, .wait 1000, .finish 1 ⟨200, by decide⟩ (.json "1"), .finalize 1,
            .wait 1000, .startSet 2, .startGet 2] System.initial,
        HandledOnce s ∧ Replayed s := by
  refine ⟨rfl, handled_once_and_replayed ?_⟩
  refine
    ⟨trivial, ?_, fun _ => ⟨_, rfl⟩, trivial, ?_, trivial, ?_, trivial⟩
  · intro r deadline hd
    by_cases hr : r = 1
    · subst hr
      obtain rfl : 60000 = deadline := Option.some.inj hd
      decide
    · simp [step, System.initial, RedisIdempotencyStore.startSet, setNX, empty, Phase.deadline,
        Function.update_of_ne hr] at hd
  · intro r deadline hd
    by_cases hr : r = 1
    · subst hr
      cases hd
    · simp [step, System.initial, RedisIdempotencyStore.startSet, setNX, empty, Phase.deadline,
        Function.update_of_ne hr] at hd
  · intro seen hseen c hc
    obtain rfl : [⟨1, 1000, (200, "1")⟩] = seen := by injection hseen
    rw [List.mem_singleton.mp hc]
    rfl

/-- The first handler takes more than a minute. Its mark has expired when the second request comes,
whose handler then runs beside it. -/
theorem handled_once_fails :
    ∃ s ∈ states (step "k") [.startSet 1, .wait 61000, .startSet 2] System.initial,
      s.phase 1 = .handling 60000 ∧ s.phase 2 = .handling 121000 ∧ ¬HandledOnce s := by
  refine ⟨_, List.mem_cons_of_mem _ (List.mem_cons_of_mem _ List.mem_cons_self), rfl, rfl, ?_⟩
  intro h
  exact absurd (h 1 2 60000 121000 rfl rfl) (by decide)

end Docketra.Idempotency
