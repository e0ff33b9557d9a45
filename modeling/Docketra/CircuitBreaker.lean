import Docketra.Lib.Runs
import Mathlib.Data.List.AList

/-!
# Circuit breakers and the system state

`services/circuitBreaker.service.js` keeps a breaker for each service that the system depends on, and
`services/systemState.service.js` the state of the whole system, with the reasons for it. A breaker
that trips degrades the system, refuses calls for a while, and then lets one through to see how it
goes. A breaker that recovers puts the system back to normal, unless another one is open.

The two agree exactly in the runs where no success closes the last open breaker beside one that is
half open, and breakers are asked in turn (`breakers_agree_iff`): a success that is late closes a
breaker in its cooldown, and a breaker that is half open lets every call through.
-/

namespace Docketra.CircuitBreaker

open Runs

/-! ## The system state -/

/-- `STATES`. -/
inductive Mode where
  | NORMAL | DEGRADED
  deriving DecidableEq, Repr

inductive BreakerState where
  | CLOSED | OPEN | HALF_OPEN
  deriving DecidableEq, Repr

/-- An entry of `reasons`, with the state of the breaker as its details. -/
structure Reason where
  reason : String
  details : BreakerState
  markedAt : ℕ
  deriving DecidableEq, Repr

/-- The variables of `systemState.service.js`. -/
structure SystemState where
  state : Mode := .NORMAL
  reasons : List Reason := []
  deriving DecidableEq, Repr

/-- `markDegraded`. -/
def markDegraded (now : ℕ) (reason : String) (details : BreakerState) (system : SystemState) :
    SystemState where
  state := .DEGRADED
  reasons :=
    if system.reasons.any fun r => r.reason = reason then system.reasons
    else system.reasons ++ [⟨reason, details, now⟩]

/-- `setState`. -/
def setState (nextState : Mode) (system : SystemState) : SystemState where
  state := nextState
  reasons := if nextState = .NORMAL then [] else system.reasons

/-! ## Breakers -/

/-- `DEFAULT_OPTIONS`. -/
structure Options where
  failureThreshold : ℕ := 3
  cooldownMs : ℕ := 30000
  deriving DecidableEq, Repr

structure Breaker where
  state : BreakerState := .CLOSED
  failureCount : ℕ := 0
  lastFailureAt : Option ℕ := none
  openedAt : Option ℕ := none
  options : Options := {}
  deriving DecidableEq, Repr

/-- The breakers by name, and the system. -/
structure Process where
  breakers : AList fun _ : String => Breaker := ∅
  system : SystemState := {}

/-- `ensureBreaker`. -/
def ensureBreaker (name : String) (process : Process) : Breaker :=
  (process.breakers.lookup name).getD {}

/-- The breaker under a name is another one. -/
def Process.put (process : Process) (name : String) (breaker : Breaker) : Process :=
  { process with breakers := process.breakers.insert name breaker }

/-- `isAnyOpen`. -/
def isAnyOpen (process : Process) : Bool :=
  process.breakers.entries.any fun entry => entry.2.state = .OPEN

/-- `recordSuccess`. -/
def recordSuccess (name : String) (process : Process) : Process :=
  let breaker := ensureBreaker name process
  if breaker.state = .CLOSED then process.put name { breaker with failureCount := 0 }
  else
    -- Breakers that are half open do not count as open here.
    let process := process.put name { options := breaker.options }
    if isAnyOpen process then process
    else { process with system := setState .NORMAL process.system }

/-- The reason of a breaker. -/
def reasonOf (name : String) : String := "circuit:" ++ name

/-- `tripBreaker`. -/
def tripBreaker (now : ℕ) (name : String) (breaker : Breaker) (process : Process) : Process :=
  { process.put name { breaker with state := .OPEN, openedAt := some now } with
    system := markDegraded now (reasonOf name) .OPEN process.system }

/-- `recordFailure`. -/
def recordFailure (now : ℕ) (name : String) (process : Process) : Process :=
  let before := ensureBreaker name process
  let breaker :=
    { before with failureCount := before.failureCount + 1, lastFailureAt := some now }
  if breaker.options.failureThreshold ≤ breaker.failureCount ∧ breaker.state ≠ .OPEN then
    tripBreaker now name breaker process
  else process.put name breaker

/-- `allow`. -/
def allow (now : ℕ) (name : String) (process : Process) : Bool × Process :=
  let breaker := ensureBreaker name process
  if breaker.state = .OPEN then
    if breaker.options.cooldownMs ≤ now - breaker.openedAt.getD 0 then
      -- From now on every call is let through, until a result is recorded.
      (true, process.put name { breaker with state := .HALF_OPEN })
    else (false, process.put name breaker)
  else (true, process.put name breaker)

/-- The argument of `configureBreaker`. -/
structure OptionsPatch where
  failureThreshold : Option ℕ := none
  cooldownMs : Option ℕ := none
  deriving DecidableEq, Repr

/-- `configureBreaker`. -/
def configureBreaker (process : Process) (name : String) (options : OptionsPatch) : Process :=
  let breaker := ensureBreaker name process
  process.put name
    { breaker with
      options :=
        { failureThreshold := options.failureThreshold.getD breaker.options.failureThreshold
          cooldownMs := options.cooldownMs.getD breaker.options.cooldownMs } }

/-! ## Runs -/

inductive Call where
  | allow | recordFailure | recordSuccess
  deriving DecidableEq, Repr

/-- A call for a breaker, and the milliseconds that have passed since the call before it. -/
structure Event where
  after : ℕ
  call : Call
  name : String
  deriving DecidableEq, Repr

/-- What becomes of the process. -/
def Call.apply (call : Call) (now : ℕ) (name : String) (process : Process) : Process :=
  match call with
  | .allow => (CircuitBreaker.allow now name process).2
  | .recordFailure => CircuitBreaker.recordFailure now name process
  | .recordSuccess => CircuitBreaker.recordSuccess name process

/-- How far a breaker is since it has tripped: a call is due once the cooldown has passed, is out, or
its result is known. -/
inductive Phase where
  | free | due | out
  deriving DecidableEq, Repr

/-- What has been called of a breaker since it has tripped last. -/
structure History where
  refusedUntil : ℕ := 0
  phase : Phase := .free
  /-- A success was recorded in the cooldown. -/
  succeeded : Bool := false
  deriving DecidableEq, Repr

/-- A call that does not trip the breaker. -/
def History.next (call : Call) (now : ℕ) (history : History) : History :=
  match call with
  | .allow =>
    if history.refusedUntil ≤ now ∧ history.phase = .due then { history with phase := .out }
    else history
  | .recordFailure =>
    if history.refusedUntil ≤ now then { history with phase := .free } else history
  | .recordSuccess =>
    if history.refusedUntil ≤ now then { history with phase := .free }
    else { history with succeeded := true }

/-- The process, the time of the last call, and what has been called since. -/
structure Watched where
  now : ℕ
  process : Process
  history : String → History := fun _ => {}

/-- A call trips the breaker. -/
def trips (event : Event) (s : Watched) : Bool :=
  (ensureBreaker event.name s.process).state ≠ .OPEN &&
    (ensureBreaker event.name
      (event.call.apply (s.now + event.after) event.name s.process)).state = .OPEN

/-- A call. -/
def step (event : Event) (s : Watched) : Watched where
  now := s.now + event.after
  process := event.call.apply (s.now + event.after) event.name s.process
  history := Function.update s.history event.name <|
    if trips event s then
      { refusedUntil :=
          s.now + event.after + (ensureBreaker event.name s.process).options.cooldownMs
        phase := .due }
    else (s.history event.name).next event.call (s.now + event.after)

/-- The process as it starts, with the breakers that are configured. -/
def start (now : ℕ) (configured : List (String × OptionsPatch)) : Watched where
  now := now
  process := configured.foldl (fun process c => configureBreaker process c.1 c.2) {}

/-! ## What the two agree on -/

/-- The system is degraded while a breaker is not closed, and names each such breaker. -/
def SystemAgrees (process : Process) : Prop :=
  ∀ name, (ensureBreaker name process).state ≠ .CLOSED →
    process.system.state = .DEGRADED ∧ reasonOf name ∈ process.system.reasons.map (·.reason)

/-- A breaker that has tripped refuses until its cooldown has passed, and lets one call through until
a result is recorded. -/
def AnswersRight (event : Event) (s : Watched) : Prop :=
  event.call = .allow → (s.history event.name).phase ≠ .free →
    (allow (s.now + event.after) event.name s.process).1 =
      if s.now + event.after < (s.history event.name).refusedUntil then false
      else (s.history event.name).phase = .due

/-- The breakers and the system agree in a run. -/
structure BreakersAgree (events : List Event) (s : Watched) : Prop where
  system : ∀ t ∈ states step events s, SystemAgrees t.process
  answers : Admits step AnswersRight events s

/-- No success closes a breaker beside another one that is half open, and none that is open. -/
def ClosesAlone (event : Event) (s : Watched) : Prop :=
  event.call = .recordSuccess → (ensureBreaker event.name s.process).state ≠ .CLOSED →
    (∀ name ≠ event.name, (ensureBreaker name s.process).state ≠ .OPEN) →
      ∀ name ≠ event.name, (ensureBreaker name s.process).state ≠ .HALF_OPEN

/-- A breaker is not asked in a cooldown in which it has had a success, nor while a call is out. -/
def AskedInTurn (event : Event) (s : Watched) : Prop :=
  event.call = .allow → (s.history event.name).phase ≠ .free →
    if s.now + event.after < (s.history event.name).refusedUntil then
      (s.history event.name).succeeded = false
    else (s.history event.name).phase ≠ .out

/-! ## What a call does -/

section

variable {process : Process} {name other : String} {now : ℕ}

theorem ensureBreaker_put_self (breaker : Breaker) :
    ensureBreaker name (process.put name breaker) = breaker := by
  simp [ensureBreaker, Process.put]

theorem ensureBreaker_put_of_ne (h : other ≠ name) (breaker : Breaker) :
    ensureBreaker other (process.put name breaker) = ensureBreaker other process := by
  simp [ensureBreaker, Process.put, AList.lookup_insert_ne h]

/-- Some breaker is open exactly when one is found so. A name without a breaker is closed. -/
theorem isAnyOpen_iff :
    isAnyOpen process = true ↔ ∃ name, (ensureBreaker name process).state = .OPEN := by
  simp only [isAnyOpen, List.any_eq_true, decide_eq_true_eq]
  constructor
  · rintro ⟨⟨name, breaker⟩, hmem, hopen⟩
    have hlookup : process.breakers.lookup name = some breaker := AList.mem_lookup_iff.mpr hmem
    refine ⟨name, ?_⟩
    rw [ensureBreaker, hlookup]
    exact hopen
  · rintro ⟨name, hopen⟩
    unfold ensureBreaker at hopen
    cases hlookup : process.breakers.lookup name with
    | none =>
      rw [hlookup] at hopen
      cases hopen
    | some breaker =>
      rw [hlookup] at hopen
      exact ⟨⟨name, breaker⟩, AList.mem_lookup_iff.mp hlookup, hopen⟩

/-- What a call makes of its breaker. -/
def Call.next (call : Call) (now : ℕ) (breaker : Breaker) : Breaker :=
  match call with
  | .allow =>
    if breaker.state = .OPEN ∧ breaker.options.cooldownMs ≤ now - breaker.openedAt.getD 0 then
      { breaker with state := .HALF_OPEN }
    else breaker
  | .recordFailure =>
    if breaker.options.failureThreshold ≤ breaker.failureCount + 1 ∧ breaker.state ≠ .OPEN then
      { breaker with
        state := .OPEN
        failureCount := breaker.failureCount + 1
        lastFailureAt := some now
        openedAt := some now }
    else { breaker with failureCount := breaker.failureCount + 1, lastFailureAt := some now }
  | .recordSuccess =>
    if breaker.state = .CLOSED then { breaker with failureCount := 0 }
    else { options := breaker.options }

theorem state_next_allow (now : ℕ) (breaker : Breaker) :
    (Call.allow.next now breaker).state =
      if breaker.state = .OPEN ∧ breaker.options.cooldownMs ≤ now - breaker.openedAt.getD 0 then
        .HALF_OPEN
      else breaker.state := by
  simp only [Call.next]
  split_ifs <;> rfl

/-- A failure trips the breaker, or leaves its state. -/
theorem state_next_recordFailure (now : ℕ) (breaker : Breaker) :
    breaker.state ≠ .OPEN ∧ (Call.recordFailure.next now breaker).state = .OPEN ∨
      (Call.recordFailure.next now breaker).state = breaker.state := by
  simp only [Call.next]
  split_ifs with htrips
  · exact Or.inl ⟨htrips.2, rfl⟩
  · exact Or.inr rfl

/-- A success closes the breaker. -/
theorem state_next_recordSuccess (now : ℕ) (breaker : Breaker) :
    (Call.recordSuccess.next now breaker).state = .CLOSED := by
  simp only [Call.next]
  split_ifs with hclosed
  · exact hclosed
  · rfl

/-- What a call makes of the system. -/
def Call.nextSystem (call : Call) (now : ℕ) (name : String) (process : Process) : SystemState :=
  match call with
  | .allow => process.system
  | .recordFailure =>
    if (ensureBreaker name process).state ≠ .OPEN ∧
        (Call.recordFailure.next now (ensureBreaker name process)).state = .OPEN then
      markDegraded now (reasonOf name) .OPEN process.system
    else process.system
  | .recordSuccess =>
    if (ensureBreaker name process).state = .CLOSED ∨
        isAnyOpen (process.put name (Call.recordSuccess.next now (ensureBreaker name process))) then
      process.system
    else setState .NORMAL process.system

/-- A call changes its breaker, and the system. -/
theorem Call.apply_eq (call : Call) :
    call.apply now name process =
      { process.put name (call.next now (ensureBreaker name process)) with
        system := call.nextSystem now name process } := by
  cases call with
  | allow =>
    simp only [Call.apply, CircuitBreaker.allow, Call.next, Call.nextSystem]
    by_cases hopen : (ensureBreaker name process).state = .OPEN
    · by_cases hcooled : (ensureBreaker name process).options.cooldownMs ≤
          now - (ensureBreaker name process).openedAt.getD 0
      · simp only [hopen, hcooled, and_self, if_true]
        rfl
      · simp only [hopen, hcooled, and_false, if_true, if_false]
        rfl
    · simp only [hopen, false_and, if_false]
      rfl
  | recordFailure =>
    simp only [Call.apply, CircuitBreaker.recordFailure, Call.next, Call.nextSystem, tripBreaker]
    split_ifs with htrips h h
    · rfl
    · exact absurd ⟨htrips.2, rfl⟩ h
    · exact absurd h.2 h.1
    · rfl
  | recordSuccess =>
    simp only [Call.apply, CircuitBreaker.recordSuccess, Call.next, Call.nextSystem]
    by_cases hclosed : (ensureBreaker name process).state = .CLOSED
    · simp only [hclosed, true_or, if_true]
      rfl
    · simp only [hclosed, false_or, if_false]
      split_ifs <;> rfl

/-- A call changes its breaker. -/
theorem ensureBreaker_apply_self (call : Call) :
    ensureBreaker name (call.apply now name process) =
      call.next now (ensureBreaker name process) := by
  rw [Call.apply_eq]
  exact ensureBreaker_put_self _

/-- A call changes no other breaker. -/
theorem ensureBreaker_apply_of_ne (h : other ≠ name) (call : Call) :
    ensureBreaker other (call.apply now name process) = ensureBreaker other process := by
  rw [Call.apply_eq]
  exact ensureBreaker_put_of_ne h _

/-- What a call makes of the system. -/
theorem system_apply (call : Call) :
    (call.apply now name process).system = call.nextSystem now name process := by
  rw [Call.apply_eq]

end

/-! ## The system -/

/-- Marking keeps the reasons, and adds one. -/
theorem mem_reasons_markDegraded {now : ℕ} {reason r : String} {details : BreakerState}
    {system : SystemState} (h : r ∈ system.reasons.map (·.reason) ∨ r = reason) :
    r ∈ (markDegraded now reason details system).reasons.map (·.reason) := by
  unfold markDegraded
  simp only
  split_ifs with hany
  · rcases h with h | h
    · exact h
    · simp only [List.any_eq_true, decide_eq_true_eq] at hany
      obtain ⟨entry, hmem, hreason⟩ := hany
      rw [h, ← hreason]
      exact List.mem_map_of_mem hmem
  · rw [List.map_append, List.mem_append]
    rcases h with h | h
    · exact Or.inl h
    · rw [h]
      exact Or.inr List.mem_cons_self

section

variable {process : Process} {name : String} {now : ℕ}

/-- Asking keeps the agreement: a breaker that is half open now was open. -/
theorem SystemAgrees.allow (h : SystemAgrees process) :
    SystemAgrees (Call.allow.apply now name process) := by
  intro other hstate
  rw [system_apply]
  refine h other fun hclosed => hstate ?_
  by_cases hname : other = name
  · rw [hname] at hclosed
    rw [hname, ensureBreaker_apply_self, state_next_allow, hclosed]
    rfl
  · rw [ensureBreaker_apply_of_ne hname, hclosed]

/-- A failure keeps the agreement: a breaker that trips is named. -/
theorem SystemAgrees.recordFailure (h : SystemAgrees process) :
    SystemAgrees (Call.recordFailure.apply now name process) := by
  intro other hstate
  rw [system_apply, Call.nextSystem]
  by_cases hname : other = name
  · rw [hname, ensureBreaker_apply_self] at hstate
    split_ifs with htrips
    · exact ⟨rfl, mem_reasons_markDegraded (Or.inr (congrArg reasonOf hname))⟩
    · rw [hname]
      have hsame := (state_next_recordFailure now (ensureBreaker name process)).resolve_left htrips
      exact h name (hsame ▸ hstate)
  · rw [ensureBreaker_apply_of_ne hname] at hstate
    obtain ⟨hmode, hreason⟩ := h other hstate
    split_ifs
    · exact ⟨rfl, mem_reasons_markDegraded (Or.inl hreason)⟩
    · exact ⟨hmode, hreason⟩

/-- Beside the breaker that a success closes, those are open that were open before. -/
theorem isAnyOpen_recordSuccess_iff (now : ℕ) (name : String) (process : Process) :
    isAnyOpen (process.put name (Call.recordSuccess.next now (ensureBreaker name process))) = true ↔
      ∃ other ≠ name, (ensureBreaker other process).state = .OPEN := by
  rw [isAnyOpen_iff]
  refine exists_congr fun other => ?_
  by_cases hname : other = name
  · rw [hname, ensureBreaker_put_self, state_next_recordSuccess]
    simp
  · rw [ensureBreaker_put_of_ne hname]
    simp [hname]

/-- A breaker that is not closed after a success is another one, and as it was before. -/
theorem ne_of_recordSuccess {other : String}
    (h : (ensureBreaker other (Call.recordSuccess.apply now name process)).state ≠ .CLOSED) :
    other ≠ name ∧ (ensureBreaker other process).state ≠ .CLOSED := by
  by_cases hname : other = name
  · rw [hname, ensureBreaker_apply_self, state_next_recordSuccess] at h
    exact absurd rfl h
  · rw [ensureBreaker_apply_of_ne hname] at h
    exact ⟨hname, h⟩

/-- A success keeps the agreement exactly when it closes no breaker beside one that is half open,
with none open. -/
theorem SystemAgrees.recordSuccess_iff (h : SystemAgrees process) :
    SystemAgrees (Call.recordSuccess.apply now name process) ↔
      ((ensureBreaker name process).state ≠ .CLOSED →
        (∀ other ≠ name, (ensureBreaker other process).state ≠ .OPEN) →
          ∀ other ≠ name, (ensureBreaker other process).state ≠ .HALF_OPEN) := by
  have hkept := or_congr_right (a := (ensureBreaker name process).state = .CLOSED)
    (isAnyOpen_recordSuccess_iff now name process)
  by_cases hkeep : (ensureBreaker name process).state = .CLOSED ∨
      ∃ other ≠ name, (ensureBreaker other process).state = .OPEN
  · -- The system stays as it is.
    have hsystem : (Call.recordSuccess.apply now name process).system = process.system := by
      rw [system_apply]
      exact if_pos (hkept.mpr hkeep)
    constructor
    · intro _ hne hnone
      rcases hkeep with hclosed | ⟨other, hother, hisOpen⟩
      · exact absurd hclosed hne
      · exact absurd hisOpen (hnone other hother)
    · intro _ other hstate
      rw [hsystem]
      exact h other (ne_of_recordSuccess hstate).2
  · -- The system goes back to normal.
    have hsystem : (Call.recordSuccess.apply now name process).system =
        setState .NORMAL process.system := by
      rw [system_apply]
      exact if_neg (mt hkept.mp hkeep)
    push Not at hkeep
    obtain ⟨hne, hnone⟩ := hkeep
    constructor
    · intro hall _ _ other hname hhalf
      have hmode := (hall other (by rw [ensureBreaker_apply_of_ne hname, hhalf]; decide)).1
      rw [hsystem] at hmode
      cases hmode
    · intro hhalf other hstate
      obtain ⟨hname, hnotClosed⟩ := ne_of_recordSuccess hstate
      have hnotOpen := hnone other hname
      have hnotHalf := hhalf hne hnone other hname
      cases hother : (ensureBreaker other process).state with
      | CLOSED => exact absurd hother hnotClosed
      | OPEN => exact absurd hother hnotOpen
      | HALF_OPEN => exact absurd hother hnotHalf

end

/-- A call keeps the agreement of the system exactly when it closes no breaker beside one that is
half open. -/
theorem systemAgrees_step_iff (event : Event) (s : Watched) (h : SystemAgrees s.process) :
    SystemAgrees (step event s).process ↔ ClosesAlone event s := by
  obtain ⟨after, call, name⟩ := event
  cases call with
  | allow => exact ⟨fun _ => nofun, fun _ => h.allow⟩
  | recordFailure => exact ⟨fun _ => nofun, fun _ => h.recordFailure⟩
  | recordSuccess =>
    have hiff := @SystemAgrees.recordSuccess_iff s.process name (s.now + after) h
    exact hiff.trans ⟨fun hok _ => hok, fun hok => hok rfl⟩

/-! ## The answers -/

/-- What a breaker has to do with what has been called of it. -/
structure Kept (now : ℕ) (breaker : Breaker) (history : History) : Prop where
  opened : breaker.state = .OPEN → ∃ openedAt, breaker.openedAt = some openedAt ∧ openedAt ≤ now ∧
    openedAt + breaker.options.cooldownMs = history.refusedUntil
  /-- In its cooldown a breaker is open, unless a success has closed it. -/
  cooling : history.phase ≠ .free → now < history.refusedUntil →
    (breaker.state = .OPEN ↔ history.succeeded = false)

section

variable {now soon : ℕ} {breaker : Breaker} {history : History}

/-- Time passes. -/
theorem Kept.later (h : Kept now breaker history) (hsoon : now ≤ soon) :
    Kept soon breaker history := by
  constructor
  · intro hopen
    obtain ⟨openedAt, hat, hle, huntil⟩ := h.opened hopen
    exact ⟨openedAt, hat, Nat.le_trans hle hsoon, huntil⟩
  · intro hphase hlt
    exact h.cooling hphase (Nat.lt_of_le_of_lt hsoon hlt)

/-- An open breaker lets a call through exactly when its cooldown has passed. -/
theorem Kept.cooled_iff (h : Kept now breaker history) (hopen : breaker.state = .OPEN) :
    breaker.options.cooldownMs ≤ now - breaker.openedAt.getD 0 ↔ history.refusedUntil ≤ now := by
  obtain ⟨openedAt, hat, hle, huntil⟩ := h.opened hopen
  rw [hat, Option.getD_some]
  omega

/-- A call that trips the breaker starts over. -/
theorem kept_of_trips (call : Call) (hclosed : breaker.state ≠ .OPEN)
    (hopen : (call.next now breaker).state = .OPEN) :
    Kept now (call.next now breaker)
      { refusedUntil := now + breaker.options.cooldownMs, phase := .due } := by
  have hnow : (call.next now breaker).openedAt = some now ∧
      (call.next now breaker).options = breaker.options := by
    cases call with
    | allow =>
      rw [state_next_allow] at hopen
      split_ifs at hopen
      exact absurd hopen hclosed
    | recordFailure =>
      simp only [Call.next] at hopen ⊢
      split_ifs at hopen ⊢
      · exact ⟨rfl, rfl⟩
      · exact absurd hopen hclosed
    | recordSuccess =>
      rw [state_next_recordSuccess] at hopen
      cases hopen
  -- The breaker is open from `now` on, as long as its options say.
  refine ⟨fun _ => ⟨now, hnow.1, le_rfl, ?_⟩, fun _ _ => ⟨fun _ => rfl, fun _ => hopen⟩⟩
  rw [hnow.2]

/-- A call that is let through, or refused, keeps the two together. -/
theorem Kept.allow (h : Kept now breaker history) :
    Kept now (Call.allow.next now breaker) (history.next .allow now) := by
  have hphase : (history.next .allow now).phase ≠ .free → history.phase ≠ .free := by
    simp only [History.next]
    split_ifs with hdue
    · intro _ hfree
      rw [hdue.2] at hfree
      cases hfree
    · exact id
  have hsame : (history.next .allow now).refusedUntil = history.refusedUntil ∧
      (history.next .allow now).succeeded = history.succeeded := by
    simp only [History.next]
    split_ifs <;> exact ⟨rfl, rfl⟩
  have hstate := state_next_allow now breaker
  by_cases hcooled : breaker.state = .OPEN ∧
      breaker.options.cooldownMs ≤ now - breaker.openedAt.getD 0
  · rw [if_pos hcooled] at hstate
    have huntil : history.refusedUntil ≤ now := (h.cooled_iff hcooled.1).mp hcooled.2
    constructor
    · intro hopen
      rw [hstate] at hopen
      cases hopen
    · intro _ hlt
      rw [hsame.1] at hlt
      exact absurd huntil (not_le.mpr hlt)
  · have hbreaker : Call.allow.next now breaker = breaker := by
      simp only [Call.next, if_neg hcooled]
    rw [hbreaker]
    constructor
    · rw [hsame.1]
      exact h.opened
    · rw [hsame.1, hsame.2]
      exact fun hfree hlt => h.cooling (hphase hfree) hlt

/-- So does a failure that does not trip the breaker. -/
theorem Kept.recordFailure (h : Kept now breaker history)
    (hnot : ¬ (breaker.state ≠ .OPEN ∧ (Call.recordFailure.next now breaker).state = .OPEN)) :
    Kept now (Call.recordFailure.next now breaker) (history.next .recordFailure now) := by
  have hstate := (state_next_recordFailure now breaker).resolve_left hnot
  have hopened : (Call.recordFailure.next now breaker).state = .OPEN →
      (Call.recordFailure.next now breaker).openedAt = breaker.openedAt ∧
        (Call.recordFailure.next now breaker).options = breaker.options := by
    intro hopen
    rw [hstate] at hopen
    simp only [Call.next, hopen, ne_eq, not_true, and_false, if_false, and_self]
  constructor
  · intro hopen
    rw [(hopened hopen).1, (hopened hopen).2]
    have huntil : (history.next .recordFailure now).refusedUntil = history.refusedUntil := by
      simp only [History.next]
      split_ifs <;> rfl
    rw [huntil]
    exact h.opened (hstate ▸ hopen)
  · simp only [History.next]
    split_ifs with hpassed
    · exact fun hfree => absurd rfl hfree
    · rw [hstate]
      exact h.cooling

/-- So does a success, which leaves the breaker closed. -/
theorem kept_recordSuccess (now : ℕ) (breaker : Breaker) (history : History) :
    Kept now (Call.recordSuccess.next now breaker) (history.next .recordSuccess now) := by
  have hstate := state_next_recordSuccess now breaker
  constructor
  · intro hopen
    rw [hstate] at hopen
    cases hopen
  · simp only [History.next, hstate]
    split_ifs with hpassed
    · exact fun hfree => absurd rfl hfree
    · intro _ _
      decide

/-- A call that does not trip the breaker keeps the two together. -/
theorem Kept.next (h : Kept now breaker history) (call : Call)
    (hnot : ¬ (breaker.state ≠ .OPEN ∧ (call.next now breaker).state = .OPEN)) :
    Kept now (call.next now breaker) (history.next call now) := by
  cases call with
  | allow => exact h.allow
  | recordFailure => exact h.recordFailure hnot
  | recordSuccess => exact kept_recordSuccess now breaker history

end

/-- Each breaker and what has been called of it belong together. -/
def AllKept (s : Watched) : Prop :=
  ∀ name, Kept s.now (ensureBreaker name s.process) (s.history name)

/-- Every call keeps them together. -/
theorem AllKept.step (event : Event) (s : Watched) (h : AllKept s) : AllKept (step event s) := by
  intro name
  have hlater := (h name).later (Nat.le_add_right s.now event.after)
  show Kept (s.now + event.after) (ensureBreaker name (event.call.apply _ event.name s.process))
    (Function.update s.history event.name _ name)
  -- Only the breaker that is called, and its history, change.
  by_cases hname : name = event.name
  · rw [hname] at hlater ⊢
    rw [Function.update_self, ensureBreaker_apply_self, trips, ensureBreaker_apply_self]
    by_cases htrips : (ensureBreaker event.name s.process).state ≠ .OPEN ∧
        (event.call.next (s.now + event.after) (ensureBreaker event.name s.process)).state = .OPEN
    · rw [if_pos (by simpa using htrips)]
      exact kept_of_trips event.call htrips.1 htrips.2
    · rw [if_neg (by simpa using htrips)]
      exact hlater.next event.call htrips
  · rw [Function.update_of_ne hname, ensureBreaker_apply_of_ne hname]
    exact hlater

/-- What `allow` answers. -/
theorem allow_fst (now : ℕ) (name : String) (process : Process) :
    (allow now name process).1 = true ↔
      ((ensureBreaker name process).state = .OPEN →
        (ensureBreaker name process).options.cooldownMs ≤
          now - (ensureBreaker name process).openedAt.getD 0) := by
  simp only [allow]
  split_ifs with hopen hcooled
  · exact ⟨fun _ _ => hcooled, fun _ => rfl⟩
  · exact ⟨nofun, fun h => absurd (h hopen) hcooled⟩
  · exact ⟨fun _ h => absurd h hopen, fun _ => rfl⟩

/-- A breaker answers as it should exactly when it is asked in turn. -/
theorem answersRight_iff (event : Event) (s : Watched) (h : AllKept s) :
    AnswersRight event s ↔ AskedInTurn event s := by
  unfold AnswersRight AskedInTurn
  refine forall_congr' fun _ => forall_congr' fun hphase => ?_
  have hkept := (h event.name).later (Nat.le_add_right s.now event.after)
  have hallow := allow_fst (s.now + event.after) event.name s.process
  split_ifs with hcooling
  · -- In the cooldown a call is refused exactly by an open breaker.
    rw [← hkept.cooling hphase hcooling, ← Bool.not_eq_true, hallow, Classical.not_imp]
    refine and_iff_left_of_imp fun hopen => ?_
    rw [hkept.cooled_iff hopen]
    exact Nat.not_le_of_lt hcooling
  · -- After it every breaker lets the call through.
    have hthrough := hallow.mpr fun hopen => (hkept.cooled_iff hopen).mpr (Nat.le_of_not_lt hcooling)
    rw [hthrough, eq_comm, decide_eq_true_eq]
    cases hnow : (s.history event.name).phase with
    | free => exact absurd hnow hphase
    | due => decide
    | out => decide

/-! ## When the two agree -/

/-- A process starts with closed breakers. -/
theorem start_closed (now : ℕ) (configured : List (String × OptionsPatch)) (name : String) :
    (ensureBreaker name (start now configured).process).state = .CLOSED := by
  have hkeep (process : Process) (h : ∀ name, (ensureBreaker name process).state = .CLOSED) :
      ∀ name, (ensureBreaker name (configured.foldl
        (fun process c => configureBreaker process c.1 c.2) process)).state = .CLOSED := by
    induction configured generalizing process with
    | nil => exact h
    | cons c configured ih =>
      refine ih (configureBreaker process c.1 c.2) fun name => ?_
      unfold configureBreaker
      by_cases hname : name = c.1
      · rw [hname, ensureBreaker_put_self]
        exact h c.1
      · rw [ensureBreaker_put_of_ne hname]
        exact h name
  exact hkeep {} (fun _ => rfl) name

/-- The breakers and the system agree in a run exactly when no success closes a breaker beside one
that is half open, with none open, and the breakers are asked in turn. -/
theorem breakers_agree_iff (now : ℕ) (configured : List (String × OptionsPatch))
    (events : List Event) :
    BreakersAgree events (start now configured) ↔
      Admits step (fun event s => ClosesAlone event s ∧ AskedInTurn event s) events
        (start now configured) := by
  have hsystem : SystemAgrees (start now configured).process := fun name hstate =>
    absurd (start_closed now configured name) hstate
  have hkept : AllKept (start now configured) := by
    intro name
    constructor
    · intro hopen
      rw [start_closed] at hopen
      cases hopen
    · exact fun hfree => absurd rfl hfree
  -- The agreement with the system is an invariant, and so is that of the answers with the history.
  have hstates := states_invariant_iff systemAgrees_step_iff events (start now configured) hsystem
  have hanswers := admits_congr AllKept.step answersRight_iff events (start now configured) hkept
  rw [admits_and, ← hstates, ← hanswers]
  exact ⟨fun h => ⟨h.system, h.answers⟩, fun h => ⟨h.1, h.2⟩⟩

/-- Three failures trip the breaker of Redis, the success of an older call comes late, and the next
call is let through in the cooldown. -/
def lateSuccess : List Event :=
  List.replicate 3 ⟨0, .recordFailure, "redis"⟩ ++
    [⟨1, .recordSuccess, "redis"⟩, ⟨1, .allow, "redis"⟩]

/-- Two breakers trip and are half open, and the success of one puts the system back to normal. -/
def twoBreakers : List Event :=
  List.replicate 3 ⟨0, .recordFailure, "redis"⟩ ++ List.replicate 3 ⟨0, .recordFailure, "smtp"⟩ ++
    [⟨30000, .allow, "redis"⟩, ⟨0, .allow, "smtp"⟩, ⟨0, .recordSuccess, "smtp"⟩]

/-- In neither of the runs the breakers and the system agree. -/
theorem breakers_agree_fails :
    ¬ BreakersAgree lateSuccess (start 0 []) ∧ ¬ BreakersAgree twoBreakers (start 0 []) := by
  constructor
  · intro h
    have hanswer := h.answers.2.2.2.2.1 rfl (by decide)
    revert hanswer
    decide
  · intro h
    have hsystem := h.system _ (run_mem_states _ _ _) "redis" (by decide)
    revert hsystem
    decide

end Docketra.CircuitBreaker
