import Docketra.Lib.Expiring
import Docketra.Lib.Runs
import Docketra.Text
import Mathlib.Algebra.Order.Group.Nat

/-!
# Account lockout

`middleware/accountLockout.middleware.js` counts the failed logins of an account, and blocks the
account for a while when there are too many. It keeps the counts and the locks in Redis, and without
Redis in two maps of the process, which know milliseconds instead of seconds.

The two block the same requests exactly as long as no failure over the limit comes while the account
is locked (`lockouts_alike_iff`): the map is given a new lock then, where Redis keeps the old one.
-/

namespace Docketra.AccountLockout

open Expiring Runs

/-! ## Requests -/

/-- What the middleware reads of a request. -/
structure Request where
  email : Option String := none
  xid : Option String := none
  xID : Option String := none
  XID : Option String := none
  deriving DecidableEq, Repr

/-- `getAuthIdentifier`. -/
def getAuthIdentifier (req : Request) : String :=
  let value := orElse req.email (orElse req.xid (orElse req.xID req.XID))
  toLowerCase (trim (value.getD ""))

/-- The settings, which the environment may change. -/
structure Config where
  authWindowSeconds : ℕ := 60
  accountLockAttempts : ℕ := 5
  accountLockSeconds : ℕ := 1800
  deriving DecidableEq, Repr

/-- What happens to a request. -/
inductive Action where
  | enforce
  | recordFailedLogin
  | clearFailedLogins
  deriving DecidableEq, Repr

/-- A request, and the seconds that have passed since the one before it. -/
structure Event where
  after : ℕ
  action : Action
  req : Request
  deriving DecidableEq, Repr

/-! ## The maps -/

/-- `failedAttemptsMap` and `lockoutsMap`, with times in milliseconds. -/
structure Memory where
  failedAttempts : Store String ℕ := empty
  lockouts : Store String Unit := empty

namespace Memory

/-- `pruneExpiredEntries`. -/
def pruneExpiredEntries (now : ℕ) (memory : Memory) : Memory where
  failedAttempts hashed := live now (memory.failedAttempts hashed)
  lockouts hashed := live now (memory.lockouts hashed)

/-- `enforceAccountLockout` without Redis: the seconds to wait, if the request is blocked. -/
def enforceAccountLockout (now : ℕ) (hashed : String) (memory : Memory) : Option ℕ × Memory :=
  let memory := memory.pruneExpiredEntries now
  let retryAfter := match memory.lockouts hashed with
    | none => none
    | some lock =>
      if now < lock.expires then some ((lock.expires - now + 999) / 1000) else none
  (retryAfter, memory)

/-- `recordFailedLoginAttempt` without Redis. -/
def recordFailedLoginAttempt (cfg : Config) (now : ℕ) (hashed : String) (memory : Memory) :
    Memory :=
  let memory := memory.pruneExpiredEntries now
  let fresh : Entry ℕ := ⟨0, now + cfg.authWindowSeconds * 1000⟩
  let entry := match memory.failedAttempts hashed with
    | none => fresh
    | some entry => if entry.expires ≤ now then fresh else entry
  let entry := { entry with value := entry.value + 1 }
  { failedAttempts := Function.update memory.failedAttempts hashed (some entry)
    lockouts :=
      -- The new lock replaces one that is there.
      if cfg.accountLockAttempts < entry.value then
        setEX now hashed () (cfg.accountLockSeconds * 1000) memory.lockouts
      else memory.lockouts }

/-- `clearFailedLoginAttempts` without Redis. -/
def clearFailedLoginAttempts (hashed : String) (memory : Memory) : Memory where
  failedAttempts := del hashed memory.failedAttempts
  lockouts := del hashed memory.lockouts

/-- What is done for a request at a time. -/
def handle (cfg : Config) (hashIdentifier : String → String) (now : ℕ) (action : Action)
    (req : Request) (memory : Memory) : Option ℕ × Memory :=
  let identifier := getAuthIdentifier req
  if identifier = "" then (none, memory)
  else
    let hashed := hashIdentifier identifier
    match action with
    | .enforce => memory.enforceAccountLockout now hashed
    | .recordFailedLogin => (none, memory.recordFailedLoginAttempt cfg now hashed)
    | .clearFailedLogins => (none, memory.clearFailedLoginAttempts hashed)

end Memory

/-! ## Redis -/

/-- The keys of the middleware in Redis, each with a number, and times in seconds. -/
abbrev Redis := Store String ℕ

namespace Redis

/-- `getAccountKey`. -/
def getAccountKey (hashed : String) : String := "docketra:ratelimit:login:attempts:" ++ hashed

/-- `getAccountLockKey`. -/
def getAccountLockKey (hashed : String) : String := "docketra:ratelimit:login:block:" ++ hashed

/-- `TTL`, of a key that expires. -/
def ttl (now : ℕ) (key : String) (redis : Redis) : ℤ :=
  match live now (redis key) with
  | none => -2
  | some entry => (entry.expires : ℤ) - now

/-- `rateLimitScript`: `INCR` keeps the expiry of the key, and the first one is given one. -/
def rateLimitScript (now : ℕ) (key : String) (limit window : ℕ) (redis : Redis) : ℕ × Redis :=
  match live now (redis key) with
  | none => (if limit < 1 then 0 else 1, setEX now key 1 window redis)
  | some entry =>
    (if limit < entry.value + 1 then 0 else 1,
      Function.update redis key (some { entry with value := entry.value + 1 }))

/-- `enforceAccountLockout` with Redis. -/
def enforceAccountLockout (now : ℕ) (hashed : String) (redis : Redis) : Option ℕ × Redis :=
  let ttl := ttl now (getAccountLockKey hashed) redis
  (if 0 < ttl then some ttl.toNat else none, redis)

/-- `recordFailedLoginAttempt` with Redis. -/
def recordFailedLoginAttempt (cfg : Config) (now : ℕ) (hashed : String) (redis : Redis) : Redis :=
  let result := rateLimitScript now (getAccountKey hashed) cfg.accountLockAttempts
    cfg.authWindowSeconds redis
  let allowed := result.1 = 1
  -- `SET` with `NX` keeps a lock that is there.
  if allowed then result.2
  else (setNX now (getAccountLockKey hashed) 1 cfg.accountLockSeconds result.2).2

/-- `clearFailedLoginAttempts` with Redis. -/
def clearFailedLoginAttempts (hashed : String) (redis : Redis) : Redis :=
  del (getAccountLockKey hashed) (del (getAccountKey hashed) redis)

/-- What is done for a request at a time. -/
def handle (cfg : Config) (hashIdentifier : String → String) (now : ℕ) (action : Action)
    (req : Request) (redis : Redis) : Option ℕ × Redis :=
  let identifier := getAuthIdentifier req
  if identifier = "" then (none, redis)
  else
    let hashed := hashIdentifier identifier
    match action with
    | .enforce => enforceAccountLockout now hashed redis
    | .recordFailedLogin => (none, recordFailedLoginAttempt cfg now hashed redis)
    | .clearFailedLogins => (none, clearFailedLoginAttempts hashed redis)

end Redis

/-! ## The two side by side -/

/-- Both stores, and the second of the last request. -/
structure Both where
  now : ℕ := 0
  memory : Memory := {}
  redis : Redis := empty

/-- A request goes to both. -/
def step (cfg : Config) (hashIdentifier : String → String) (event : Event) (s : Both) : Both where
  now := s.now + event.after
  memory := (s.memory.handle cfg hashIdentifier ((s.now + event.after) * 1000) event.action
    event.req).2
  redis := (Redis.handle cfg hashIdentifier (s.now + event.after) event.action event.req s.redis).2

/-- The two block a request at a time, or neither does. -/
def BlockAlike (cfg : Config) (hashIdentifier : String → String) (now : ℕ) (action : Action)
    (req : Request) (s : Both) : Prop :=
  (s.memory.handle cfg hashIdentifier (now * 1000) action req).1.isSome =
    (Redis.handle cfg hashIdentifier now action req s.redis).1.isSome

/-- An event is answered alike. -/
def AnsweredAlike (cfg : Config) (hashIdentifier : String → String) (event : Event) (s : Both) :
    Prop :=
  BlockAlike cfg hashIdentifier (s.now + event.after) event.action event.req s

/-- Every check that may come next is answered alike. -/
def ChecksAlike (cfg : Config) (hashIdentifier : String → String) (s : Both) : Prop :=
  ∀ after req, BlockAlike cfg hashIdentifier (s.now + after) .enforce req s

/-! ## The condition -/

/-- How many failures an account has in its window. -/
def failures (now : ℕ) (hashed : String) (memory : Memory) : ℕ :=
  (get now hashed memory.failedAttempts).getD 0

/-- An account is locked, and a lock from now on would end at another time. -/
def isLockedFromBefore (cfg : Config) (now : ℕ) (hashed : String) (memory : Memory) : Bool :=
  (live now (memory.lockouts hashed)).any fun lock =>
    lock.expires ≠ now + cfg.accountLockSeconds * 1000

/-- An event is no failure over the limit of an account that has been locked before. -/
def NotExtending (cfg : Config) (hashIdentifier : String → String) (event : Event) (s : Both) :
    Prop :=
  let now := (s.now + event.after) * 1000
  let hashed := hashIdentifier (getAuthIdentifier event.req)
  event.action = .recordFailedLogin → getAuthIdentifier event.req ≠ "" →
    cfg.accountLockAttempts < failures now hashed s.memory + 1 →
      isLockedFromBefore cfg now hashed s.memory = false

/-! ## Keys -/

/-- The keys of different accounts differ. -/
theorem getAccountKey_inj {a b : String} (h : Redis.getAccountKey a = Redis.getAccountKey b) :
    a = b := (String.append_right_inj _).mp h

theorem getAccountLockKey_inj {a b : String}
    (h : Redis.getAccountLockKey a = Redis.getAccountLockKey b) : a = b :=
  (String.append_right_inj _).mp h

/-- The two kinds of keys part at the letter after the last colon they share. -/
theorem getAccountKey_ne_lockKey (a b : String) :
    Redis.getAccountKey a ≠ Redis.getAccountLockKey b := by
  intro h
  have hchar : (Redis.getAccountKey a).toList[25]? = (Redis.getAccountLockKey b).toList[25]? := by
    rw [h]
  unfold Redis.getAccountKey Redis.getAccountLockKey at hchar
  rw [String.toList_append, String.toList_append, List.getElem?_append_left (by decide),
    List.getElem?_append_left (by decide)] at hchar
  revert hchar
  decide

/-! ## A failure -/

/-- The count after a failure: another one in the window, or the first of a new one. -/
def nextAttempts (now window : ℕ) (entry : Option (Entry ℕ)) : Entry ℕ :=
  match entry with
  | none => ⟨1, now + window⟩
  | some entry => ⟨entry.value + 1, entry.expires⟩

/-- A failure, on the maps. -/
theorem Memory.recordFailedLoginAttempt_eq (cfg : Config) (now : ℕ) (hashed : String)
    (memory : Memory) :
    let entry := nextAttempts now (cfg.authWindowSeconds * 1000)
      (live now (memory.failedAttempts hashed))
    memory.recordFailedLoginAttempt cfg now hashed =
      { failedAttempts := Function.update (memory.pruneExpiredEntries now).failedAttempts hashed
          (some entry)
        lockouts :=
          if cfg.accountLockAttempts < entry.value then
            setEX now hashed () (cfg.accountLockSeconds * 1000)
              (memory.pruneExpiredEntries now).lockouts
          else (memory.pruneExpiredEntries now).lockouts } := by
  cases hentry : live now (memory.failedAttempts hashed) with
  | none => simp [Memory.recordFailedLoginAttempt, Memory.pruneExpiredEntries, nextAttempts, hentry]
  | some entry =>
    have hahead : ¬ entry.expires ≤ now := not_le.mpr (live_eq_some.mp hentry).2
    simp only [Memory.recordFailedLoginAttempt, Memory.pruneExpiredEntries, nextAttempts, hentry,
      hahead, if_false]
    -- Both sides are the same but for the way in which the comparison is decided.
    congr

/-- The script, on the key of an account. -/
theorem Redis.rateLimitScript_eq (now : ℕ) (key : String) (limit window : ℕ) (redis : Redis) :
    let entry := nextAttempts now window (live now (redis key))
    rateLimitScript now key limit window redis =
      (if limit < entry.value then 0 else 1, Function.update redis key (some entry)) := by
  cases hentry : live now (redis key) with
  | none => simp [rateLimitScript, nextAttempts, hentry, setEX]
  | some entry =>
    simp only [rateLimitScript, nextAttempts, hentry]
    rfl

/-- A failure, in Redis. -/
theorem Redis.recordFailedLoginAttempt_eq (cfg : Config) (now : ℕ) (hashed : String)
    (redis : Redis) :
    let entry := nextAttempts now cfg.authWindowSeconds (live now (redis (getAccountKey hashed)))
    let counted := Function.update redis (getAccountKey hashed) (some entry)
    recordFailedLoginAttempt cfg now hashed redis =
      if cfg.accountLockAttempts < entry.value then
        (setNX now (getAccountLockKey hashed) 1 cfg.accountLockSeconds counted).2
      else counted := by
  simp only [recordFailedLoginAttempt, rateLimitScript_eq]
  by_cases hover : cfg.accountLockAttempts < (nextAttempts now cfg.authWindowSeconds
      (live now (redis (getAccountKey hashed)))).value <;> simp [hover]

/-! ## The relation -/

/-- The two find the same counts and locks at a time. -/
structure Related (now : ℕ) (memory : Memory) (redis : Redis) : Prop where
  attempts : ∀ hashed, live (now * 1000) (memory.failedAttempts hashed) =
    (live now (redis (Redis.getAccountKey hashed))).map (rescale 1000 id)
  lockouts : ∀ hashed, live (now * 1000) (memory.lockouts hashed) =
    (live now (redis (Redis.getAccountLockKey hashed))).map (rescale 1000 fun _ => ())

section

variable {now next : ℕ} {memory : Memory} {redis : Redis}

/-- What is found alike is found alike later. -/
theorem Related.later (h : Related now memory redis) (hnext : now ≤ next) :
    Related next memory redis := by
  have hms : now * 1000 ≤ next * 1000 := Nat.mul_le_mul_right 1000 hnext
  constructor
  · intro hashed
    rw [← live_later hms, h.attempts, live_rescale (by decide), live_later hnext]
  · intro hashed
    rw [← live_later hms, h.lockouts, live_rescale (by decide), live_later hnext]

/-- Pruning changes nothing that is found. -/
theorem Related.prune (h : Related now memory redis) :
    Related now (memory.pruneExpiredEntries (now * 1000)) redis :=
  ⟨fun hashed => (live_live _ _).trans (h.attempts hashed),
    fun hashed => (live_live _ _).trans (h.lockouts hashed)⟩

/-- A request is blocked as long as its lock is found. -/
theorem Memory.enforce_isSome (now : ℕ) (hashed : String) (memory : Memory) :
    (memory.enforceAccountLockout now hashed).1.isSome =
      (live now (memory.lockouts hashed)).isSome := by
  unfold Memory.enforceAccountLockout Memory.pruneExpiredEntries
  cases hlive : live now (memory.lockouts hashed) with
  | none =>
    simp only [hlive]
    rfl
  | some lock => simp only [hlive, if_pos (live_eq_some.mp hlive).2, Option.isSome_some]

theorem Redis.enforce_isSome (now : ℕ) (hashed : String) (redis : Redis) :
    (enforceAccountLockout now hashed redis).1.isSome =
      (live now (redis (getAccountLockKey hashed))).isSome := by
  unfold enforceAccountLockout ttl
  cases hlive : live now (redis (getAccountLockKey hashed)) with
  | none => rfl
  | some lock =>
    have hahead : now < lock.expires := (live_eq_some.mp hlive).2
    have hpos : (0 : ℤ) < (lock.expires : ℤ) - now := by omega
    simp only [if_pos hpos, Option.isSome_some]

/-- A cleared account is cleared in both. -/
theorem Related.clear (h : Related now memory redis) (hashed : String) :
    Related now (memory.clearFailedLoginAttempts hashed)
      (Redis.clearFailedLoginAttempts hashed redis) := by
  unfold Memory.clearFailedLoginAttempts Redis.clearFailedLoginAttempts
  constructor
  · intro k
    show live _ (del hashed memory.failedAttempts k) = _
    rw [del_other (getAccountKey_ne_lockKey k hashed)]
    by_cases hk : k = hashed
    · rw [hk, del_same, del_same]
      rfl
    · rw [del_other hk, del_other (mt getAccountKey_inj hk), h.attempts]
  · intro k
    show live _ (del hashed memory.lockouts k) = _
    by_cases hk : k = hashed
    · rw [hk, del_same, del_same]
      rfl
    · rw [del_other hk, del_other (mt getAccountLockKey_inj hk),
        del_other (getAccountKey_ne_lockKey hashed k).symm, h.lockouts]

/-- Redis keeps a lock that it has. -/
theorem Redis.record_of_locked (cfg : Config) {hashed : String} {lock : Entry ℕ}
    (hlive : live now (redis (getAccountLockKey hashed)) = some lock) :
    recordFailedLoginAttempt cfg now hashed redis (getAccountLockKey hashed) =
      redis (getAccountLockKey hashed) := by
  rw [recordFailedLoginAttempt_eq]
  generalize nextAttempts now cfg.authWindowSeconds (live now (redis (getAccountKey hashed))) = entry
  have hkeep : Function.update redis (getAccountKey hashed) (some entry)
      (getAccountLockKey hashed) = redis (getAccountLockKey hashed) :=
    Function.update_of_ne (getAccountKey_ne_lockKey hashed hashed).symm _ _
  rw [setNX_of_some (by rw [hkeep, hlive])]
  split_ifs <;> exact hkeep

/-- The next count is the same in both units. -/
theorem nextAttempts_rescale (now window : ℕ) (entry : Option (Entry ℕ)) :
    nextAttempts (now * 1000) (window * 1000) (entry.map (rescale 1000 id)) =
      rescale 1000 id (nextAttempts now window entry) := by
  cases entry with
  | none =>
    show (⟨1, now * 1000 + window * 1000⟩ : Entry ℕ) = ⟨1, (now + window) * 1000⟩
    rw [Nat.add_mul]
  | some entry => rfl

/-- The new count is the next one. -/
theorem failures_add_one (now window : ℕ) (hashed : String) (memory : Memory) :
    failures now hashed memory + 1 =
      (nextAttempts now window (live now (memory.failedAttempts hashed))).value := by
  unfold failures Expiring.get
  cases live now (memory.failedAttempts hashed) <;> rfl

/-- A count is written in both. -/
theorem Related.count (h : Related now memory redis) (hashed : String) (entry : Entry ℕ) :
    Related now
      { memory with
        failedAttempts :=
          Function.update memory.failedAttempts hashed (some (rescale 1000 id entry)) }
      (Function.update redis (Redis.getAccountKey hashed) (some entry)) := by
  constructor
  · intro k
    show live _ (Function.update memory.failedAttempts hashed _ k) = _
    by_cases hk : k = hashed
    · rw [hk, Function.update_self, Function.update_self, ← live_rescale (by decide)]
      rfl
    · rw [Function.update_of_ne hk, Function.update_of_ne (mt getAccountKey_inj hk), h.attempts]
  · intro k
    rw [Function.update_of_ne (getAccountKey_ne_lockKey hashed k).symm]
    exact h.lockouts k

/-- A lock is written in both, unless there is one from before. -/
theorem Related.lock (cfg : Config) (h : Related now memory redis) (hashed : String)
    (hbefore : isLockedFromBefore cfg (now * 1000) hashed memory = false) :
    Related now
      { memory with
        lockouts := setEX (now * 1000) hashed () (cfg.accountLockSeconds * 1000) memory.lockouts }
      (setNX now (Redis.getAccountLockKey hashed) 1 cfg.accountLockSeconds redis).2 := by
  cases hlive : live now (redis (Redis.getAccountLockKey hashed)) with
  | none =>
    rw [setNX_of_none hlive]
    show Related now _ (setEX now (Redis.getAccountLockKey hashed) 1 cfg.accountLockSeconds redis)
    constructor
    · intro k
      rw [setEX_other (getAccountKey_ne_lockKey k hashed)]
      exact h.attempts k
    · intro k
      show live _ (setEX _ hashed () _ memory.lockouts k) = _
      by_cases hk : k = hashed
      · rw [hk, setEX_same, setEX_same, ← live_rescale (by decide), ← Nat.add_mul]
        rfl
      · rw [setEX_other hk, setEX_other (mt getAccountLockKey_inj hk), h.lockouts]
  | some lock =>
    rw [setNX_of_some hlive]
    -- The lock that Redis keeps ends when the one of the map does.
    have hsame : lock.expires * 1000 = now * 1000 + cfg.accountLockSeconds * 1000 := by
      rw [isLockedFromBefore, h.lockouts, hlive] at hbefore
      simpa [rescale] using hbefore
    have hahead : now < lock.expires := (live_eq_some.mp hlive).2
    refine ⟨h.attempts, fun k => ?_⟩
    show live _ (setEX _ hashed () _ memory.lockouts k) = _
    by_cases hk : k = hashed
    · rw [hk, setEX_same, hlive, Option.map_some, live_eq_some, rescale, hsame]
      refine ⟨rfl, ?_⟩
      show now * 1000 < now * 1000 + cfg.accountLockSeconds * 1000
      omega
    · rw [setEX_other hk, h.lockouts]

/-- A failure keeps the relation, unless it is over the limit of an account that has been locked
before. -/
theorem Related.record (cfg : Config) (h : Related now memory redis) (hashed : String)
    (hok : cfg.accountLockAttempts < failures (now * 1000) hashed memory + 1 →
      isLockedFromBefore cfg (now * 1000) hashed memory = false) :
    Related now (memory.recordFailedLoginAttempt cfg (now * 1000) hashed)
      (Redis.recordFailedLoginAttempt cfg now hashed redis) := by
  have hentry : nextAttempts (now * 1000) (cfg.authWindowSeconds * 1000)
      (live (now * 1000) (memory.failedAttempts hashed)) =
      rescale 1000 id (nextAttempts now cfg.authWindowSeconds
        (live now (redis (Redis.getAccountKey hashed)))) := by
    rw [h.attempts, nextAttempts_rescale]
  rw [failures_add_one _ (cfg.authWindowSeconds * 1000), hentry] at hok
  rw [Memory.recordFailedLoginAttempt_eq, Redis.recordFailedLoginAttempt_eq, hentry]
  generalize nextAttempts now cfg.authWindowSeconds
    (live now (redis (Redis.getAccountKey hashed))) = entry at hok ⊢
  have hcounted := h.prune.count hashed entry
  have hvalue : (rescale 1000 id entry).value = entry.value := rfl
  simp only [hvalue] at hok ⊢
  by_cases hover : cfg.accountLockAttempts < entry.value
  · rw [if_pos hover, if_pos hover]
    refine hcounted.lock cfg hashed ?_
    rw [← hok hover, isLockedFromBefore, isLockedFromBefore]
    exact congrArg _ (live_live _ _)
  · rw [if_neg hover, if_neg hover]
    exact hcounted

end

/-! ## Runs -/

section

variable {cfg : Config} {hashIdentifier : String → String}

/-- Related stores block the same requests. -/
theorem Related.blockAlike {now : ℕ} {s : Both} (h : Related now s.memory s.redis)
    (action : Action) (req : Request) : BlockAlike cfg hashIdentifier now action req s := by
  unfold BlockAlike Memory.handle Redis.handle
  by_cases hid : getAuthIdentifier req = ""
  · simp only [if_pos hid]
  · simp only [if_neg hid]
    cases action with
    | enforce => rw [Memory.enforce_isSome, Redis.enforce_isSome, h.lockouts, Option.isSome_map]
    | recordFailedLogin => rfl
    | clearFailedLogins => rfl

/-- A step that extends no lock keeps the relation. -/
theorem Related.step {event : Event} {s : Both} (h : Related s.now s.memory s.redis)
    (hok : NotExtending cfg hashIdentifier event s) :
    Related (step cfg hashIdentifier event s).now (step cfg hashIdentifier event s).memory
      (step cfg hashIdentifier event s).redis := by
  have hnow := h.later (Nat.le_add_right s.now event.after)
  unfold AccountLockout.step Memory.handle Redis.handle
  by_cases hid : getAuthIdentifier event.req = ""
  · simp only [if_pos hid]
    exact hnow
  · simp only [if_neg hid]
    unfold NotExtending at hok
    cases haction : event.action with
    | enforce => exact hnow.prune
    | recordFailedLogin => exact hnow.record cfg _ (hok haction hid)
    | clearFailedLogins => exact hnow.clear _

/-- After a failure over the limit of an account that has been locked before, there is a time at
which one of the two blocks it and the other does not. -/
theorem not_checksAlike_of_extending {event : Event} {s : Both}
    (h : Related s.now s.memory s.redis) (hext : ¬ NotExtending cfg hashIdentifier event s) :
    ¬ ChecksAlike cfg hashIdentifier (step cfg hashIdentifier event s) := by
  have hnow := h.later (Nat.le_add_right s.now event.after)
  simp only [NotExtending, Classical.not_imp] at hext
  obtain ⟨haction, hid, hover, hbefore⟩ := hext
  rw [Bool.not_eq_false, isLockedFromBefore, hnow.lockouts] at hbefore
  generalize hhashed : hashIdentifier (getAuthIdentifier event.req) = hashed at *
  generalize htime : s.now + event.after = now at *
  obtain ⟨lock, hlive, hne⟩ : ∃ lock,
      live now (s.redis (Redis.getAccountLockKey hashed)) = some lock ∧
        lock.expires ≠ now + cfg.accountLockSeconds := by
    cases hlive : live now (s.redis (Redis.getAccountLockKey hashed)) with
    | none =>
      rw [hlive] at hbefore
      cases hbefore
    | some lock =>
      rw [hlive] at hbefore
      have hms : lock.expires * 1000 ≠ now * 1000 + cfg.accountLockSeconds * 1000 := by
        simpa [rescale] using hbefore
      exact ⟨lock, rfl, by omega⟩
  have hahead := live_eq_some.mp hlive
  -- The map has the new lock, and Redis the old one.
  have hmemory : (step cfg hashIdentifier event s).memory.lockouts hashed =
      some ⟨(), now * 1000 + cfg.accountLockSeconds * 1000⟩ := by
    rw [failures_add_one _ (cfg.authWindowSeconds * 1000)] at hover
    simp only [step, Memory.handle, if_neg hid, haction, htime, hhashed,
      Memory.recordFailedLoginAttempt_eq, if_pos hover, setEX_same]
  have hredis : (step cfg hashIdentifier event s).redis (Redis.getAccountLockKey hashed) =
      s.redis (Redis.getAccountLockKey hashed) := by
    simp only [step, Redis.handle, if_neg hid, haction, htime, hhashed]
    exact Redis.record_of_locked cfg hlive
  have hstep : (step cfg hashIdentifier event s).now = now := htime
  intro halike
  -- The check comes when the first of the two locks ends.
  have hcheck := halike (min lock.expires (now + cfg.accountLockSeconds) - now) event.req
  have hlater : now + (min lock.expires (now + cfg.accountLockSeconds) - now) =
      min lock.expires (now + cfg.accountLockSeconds) := by omega
  rw [hstep, hlater, BlockAlike, Memory.handle, Redis.handle] at hcheck
  simp only [if_neg hid, hhashed] at hcheck
  rw [Memory.enforce_isSome, Redis.enforce_isSome, hmemory, hredis, hahead.1] at hcheck
  simp only [live, Option.filter_some, decide_eq_true_eq] at hcheck
  -- Whichever lock ends first, the other one still blocks.
  split_ifs at hcheck
  all_goals first | omega | cases hcheck

/-- The two block the same requests, in a run and in whatever check comes next, exactly when no
failure over the limit comes while its account is locked from before. -/
theorem lockouts_alike_iff (cfg : Config) (hashIdentifier : String → String) (start : ℕ)
    (events : List Event) :
    (Admits (step cfg hashIdentifier) (AnsweredAlike cfg hashIdentifier) events { now := start } ∧
        ∀ s ∈ states (step cfg hashIdentifier) events { now := start },
          ChecksAlike cfg hashIdentifier s) ↔
      Admits (step cfg hashIdentifier) (NotExtending cfg hashIdentifier) events
        { now := start } := by
  have hstart : Related start ({} : Memory) (empty : Redis) :=
    ⟨fun _ => rfl, fun _ => rfl⟩
  have hkeep : ∀ event s, Related s.now s.memory s.redis →
      NotExtending cfg hashIdentifier event s →
        Related (step cfg hashIdentifier event s).now (step cfg hashIdentifier event s).memory
          (step cfg hashIdentifier event s).redis := fun _ _ h hok => h.step hok
  have hchecks := states_forall_iff (P := ChecksAlike cfg hashIdentifier) hkeep
    (fun event s h => by
      constructor
      · intro hchecks
        by_contra hext
        exact not_checksAlike_of_extending h hext hchecks
      · intro hok after req
        exact ((h.step hok).later (Nat.le_add_right _ after)).blockAlike _ req)
    events { now := start } hstart
  rw [hchecks]
  refine ⟨And.right, fun h => ⟨?_, h⟩⟩
  refine Admits.imp hkeep ?_ hstart h
  intro event s hrelated _
  exact (hrelated.later (Nat.le_add_right _ event.after)).blockAlike _ _

end

/-- Six failures at once, a seventh a second later, and a check when the first lock has ended. -/
def lateFailure : List Event :=
  List.replicate 6 ⟨0, .recordFailedLogin, { xid := some "X000001" }⟩ ++
    [⟨1, .recordFailedLogin, { xid := some "X000001" }⟩,
      ⟨1799, .enforce, { xid := some "X000001" }⟩]

/-- The maps still block the account then, and Redis does not. -/
theorem lockouts_alike_fails :
    ¬ Admits (step {} id) (AnsweredAlike {} id) lateFailure {} := by
  intro h
  have hcheck := h.2.2.2.2.2.2.2.1
  revert hcheck
  unfold AnsweredAlike BlockAlike
  decide

end Docketra.AccountLockout
