import Docketra.Lib.FixedWindows
import Docketra.Lib.Runs
import Docketra.RedisLock
import Docketra.Text
import Mathlib.Data.List.Infix

/-!
# Limits of the sign-up

`services/signupRateLimit.service.js` counts the requests of a sign-up: those that start one, the
attempts at its code, and those for another code, by the client's address and by the e-mail address.
The counters are in Redis, or in a map of the process, and a successful verification clears those of
the attempts.

In every run, and for every address, no span as long as a window has more than twice the limit of
admitted requests, whatever the others ask, clear or use up (`quotas_bounded`). The same holds of
the attempts at a code since they were cleared last (`attempts_bounded`), and in Redis an address
with too many of them is refused for the whole time of its block (`block_lasts`).

Times are in milliseconds. The two commands of a call are about two keys, and are taken together.
-/

namespace Docketra.SignupLimits

open Expiring FixedWindows Runs
open RedisLock (Place)

/-- The settings, which the environment may change. -/
structure RateLimit where
  signupWindowSeconds : ℕ+ := 3600
  signupPerHour : ℕ := 100
  signupPerEmailPerWindow : ℕ := 20
  otpVerifyPerMinute : ℕ := 30
  otpVerifyBlockSeconds : ℕ+ := 60
  otpResendWindowSeconds : ℕ+ := 60
  otpResendPerMinute : ℕ := 10
  otpResendPerEmailPerWindow : ℕ := 10

/-- What a counter is about. -/
inductive Scope where
  | email | ip
  deriving DecidableEq, Repr

/-! ## Keys -/

section keys

variable (hashIdentifier : String → String)

def getSignupIpRateLimitKey (ip : String) : String :=
  "docketra:ratelimit:signup:ip:" ++ hashIdentifier ip

def getSignupEmailRateLimitKey (email : String) : String :=
  "docketra:ratelimit:signup:email:" ++ hashIdentifier email

def getOtpAttemptKey : Scope → String → String
  | .email, identifier => "docketra:otp:attempts:email:" ++ hashIdentifier identifier
  | .ip, identifier => "docketra:otp:attempts:ip:" ++ hashIdentifier identifier

def getOtpBlockKey : Scope → String → String
  | .email, identifier => "docketra:otp:block:email:" ++ hashIdentifier identifier
  | .ip, identifier => "docketra:otp:block:ip:" ++ hashIdentifier identifier

def getOtpResendRateLimitKey : Scope → String → String
  | .email, identifier => "docketra:otp:resend:email:" ++ hashIdentifier identifier
  | .ip, identifier => "docketra:otp:resend:ip:" ++ hashIdentifier identifier

end keys

/-! ## Counters -/

/-- A counter's store after a hit. -/
def hitKey (now ttl : ℕ) (key : String) (counters : Store String ℕ) : Store String ℕ :=
  Function.update counters key (some (hit now ttl (counters key)))

/-- What is known of a counter that has been hit. -/
structure Hit where
  count : ℕ
  retryAfter : ℕ
  deriving DecidableEq, Repr

/-- `resolveEntry`, for the map of a process. -/
def resolveEntry (now : ℕ) (key : String) (ttlSeconds : ℕ+) (inMemoryCounters : Store String ℕ) :
    Entry ℕ × Store String ℕ :=
  let entry : Entry ℕ := ⟨0, now + ttlSeconds * 1000⟩
  let resolved := (entry, Function.update inMemoryCounters key (some entry))
  match inMemoryCounters key with
  | some existing => if now < existing.expires then (existing, inMemoryCounters) else resolved
  | none => resolved

/-- `incrementMemoryCounter`. The entry is changed in its place. -/
def incrementMemoryCounter (now : ℕ) (key : String) (ttlSeconds : ℕ+)
    (inMemoryCounters : Store String ℕ) : Hit × Store String ℕ :=
  let (entry, counters) := resolveEntry now key ttlSeconds inMemoryCounters
  let counted : Entry ℕ := ⟨entry.value + 1, entry.expires⟩
  (⟨counted.value, max 1 ((entry.expires - now + 999) / 1000)⟩,
    Function.update counters key (some counted))

/-- `INCR`, with `EXPIRE` when it has created the counter. -/
def incr (now : ℕ) (key : String) (ttlSeconds : ℕ+) (redis : Store String ℕ) :
    ℕ × Store String ℕ :=
  match live now (redis key) with
  | some entry => (entry.value + 1,
      Function.update redis key (some ⟨entry.value + 1, entry.expires⟩))
  | none => (1, setEX now key 1 (ttlSeconds * 1000) redis)

/-- `TTL`: the seconds that are left to a key, rounded. -/
def ttl (now : ℕ) (key : String) (redis : Store String ℕ) : ℕ :=
  match live now (redis key) with
  | some entry => (entry.expires - now + 500) / 1000
  | none => 0

/-- What a counter decides. -/
structure Decision where
  allowed : Bool
  retryAfter : ℕ
  deriving DecidableEq, Repr

def applyRedisRateLimit (place : Place) (now : ℕ) (key : String) (limit : ℕ) (ttlSeconds : ℕ+)
    (counters : Store String ℕ) : Decision × Store String ℕ :=
  match place with
  | .inMemory _ =>
    let (counter, counters) := incrementMemoryCounter now key ttlSeconds counters
    (⟨counter.count ≤ limit, counter.retryAfter⟩, counters)
  | .redis =>
    let (current, redis) := incr now key ttlSeconds counters
    let left := ttl now key redis
    (⟨¬limit < current, if 0 < left then left else ttlSeconds⟩, redis)

/-! ## Requests -/

/-- `String(email || '').toLowerCase().trim()`. -/
def normalizedEmail (email : String) : String := trim (toLowerCase email)

/-- `String(ip || 'unknown').trim()`. -/
def normalizedIp (ip : Option String) : String := trim ((orElse ip (some "unknown")).getD "")

/-- What a quota answers. -/
structure QuotaResult where
  allowed : Bool
  retryAfter : Option ℕ := none
  deriving DecidableEq, Repr

/-- A request that is counted by the address of its client and by its e-mail address. -/
def consumeQuota (place : Place) (now : ℕ) (ipKey emailKey : String) (ipLimit emailLimit : ℕ)
    (ttlSeconds : ℕ+) (counters : Store String ℕ) : QuotaResult × Store String ℕ :=
  let (ipCounter, counters) := applyRedisRateLimit place now ipKey ipLimit ttlSeconds counters
  let (emailCounter, counters) :=
    applyRedisRateLimit place now emailKey emailLimit ttlSeconds counters
  if !ipCounter.allowed || !emailCounter.allowed then
    ({ allowed := false, retryAfter := some (max ipCounter.retryAfter emailCounter.retryAfter) },
      counters)
  else ({ allowed := true }, counters)

section

variable (cfg : RateLimit) (hashIdentifier : String → String)

def consumeSignupQuota (place : Place) (now : ℕ) (email : String) (ip : Option String) :
    Store String ℕ → QuotaResult × Store String ℕ :=
  consumeQuota place now (getSignupIpRateLimitKey hashIdentifier (normalizedIp ip))
    (getSignupEmailRateLimitKey hashIdentifier (normalizedEmail email)) cfg.signupPerHour
    cfg.signupPerEmailPerWindow cfg.signupWindowSeconds

def consumeOtpResendQuota (place : Place) (now : ℕ) (email : String) (ip : Option String) :
    Store String ℕ → QuotaResult × Store String ℕ :=
  consumeQuota place now (getOtpResendRateLimitKey hashIdentifier .ip (normalizedIp ip))
    (getOtpResendRateLimitKey hashIdentifier .email (normalizedEmail email)) cfg.otpResendPerMinute
    cfg.otpResendPerEmailPerWindow cfg.otpResendWindowSeconds

/-- What `otpAttemptScript` answers: `-2`, `-1`, or the attempts. -/
inductive ScriptResult where
  | blocked
  | exceeded
  | attempts (count : ℕ)
  deriving DecidableEq, Repr

def otpAttemptScript (now : ℕ) (attemptsKey blockKey : String) (maxAttempts : ℕ) (ttlSeconds : ℕ+)
    (redis : Store String ℕ) : ScriptResult × Store String ℕ :=
  if (live now (redis blockKey)).isSome then (.blocked, redis)
  else
    let (attempts, redis) := incr now attemptsKey ttlSeconds redis
    if maxAttempts < attempts then
      (.exceeded, (setNX now blockKey 1 (ttlSeconds * 1000) redis).2)
    else (.attempts attempts, redis)

/-- What an attempt comes to. -/
structure AttemptResult where
  allowed : Bool
  attempts : ℕ
  retryAfter : Option ℕ := none
  deriving DecidableEq, Repr

def tooManyAttempts : String := "Too many OTP attempts. Try again later."

def consumeOtpAttemptCounter (place : Place) (now : ℕ) (scope : Scope) (identifier : String)
    (counters : Store String ℕ) : Except String AttemptResult × Store String ℕ :=
  let key := getOtpAttemptKey hashIdentifier scope identifier
  let blockKey := getOtpBlockKey hashIdentifier scope identifier
  match place with
  | .inMemory _ =>
    let (counter, counters) := incrementMemoryCounter now key cfg.otpVerifyBlockSeconds counters
    if cfg.otpVerifyPerMinute < counter.count then
      (.ok { allowed := false, attempts := counter.count, retryAfter := some counter.retryAfter },
        counters)
    else (.ok { allowed := true, attempts := counter.count }, counters)
  | .redis =>
    match otpAttemptScript now key blockKey cfg.otpVerifyPerMinute cfg.otpVerifyBlockSeconds
      counters with
    | (.blocked, redis) => (.error tooManyAttempts, redis)
    | (.exceeded, redis) => (.error tooManyAttempts, redis)
    | (.attempts attempts, redis) => (.ok { allowed := true, attempts }, redis)

/-- Both counters are asked, also when the first of them throws. -/
def consumeOtpAttempt (place : Place) (now : ℕ) (email : String) (ip : Option String)
    (counters : Store String ℕ) : Except String AttemptResult × Store String ℕ :=
  let (emailAttempt, counters) :=
    consumeOtpAttemptCounter cfg hashIdentifier place now .email (normalizedEmail email) counters
  let (ipAttempt, counters) :=
    consumeOtpAttemptCounter cfg hashIdentifier place now .ip (normalizedIp ip) counters
  (do
    let emailAttempt ← emailAttempt
    let ipAttempt ← ipAttempt
    return { allowed := emailAttempt.allowed && ipAttempt.allowed
             attempts := max emailAttempt.attempts ipAttempt.attempts }, counters)

/-- The keys that `clearOtpAttempts` deletes. -/
def otpKeys (email : String) (ip : Option String) : List String :=
  [getOtpAttemptKey hashIdentifier .email (normalizedEmail email),
    getOtpBlockKey hashIdentifier .email (normalizedEmail email),
    getOtpAttemptKey hashIdentifier .ip (normalizedIp ip),
    getOtpBlockKey hashIdentifier .ip (normalizedIp ip)]

def clearOtpAttempts (email : String) (ip : Option String) (counters : Store String ℕ) :
    Store String ℕ :=
  (otpKeys hashIdentifier email ip).foldl (fun counters key => del key counters) counters

end

/-! ## Runs -/

/-- A call of the service. -/
inductive Call where
  | consumeSignupQuota (email : String) (ip : Option String)
  | consumeOtpResendQuota (email : String) (ip : Option String)
  | consumeOtpAttempt (email : String) (ip : Option String)
  | clearOtpAttempts (email : String) (ip : Option String)
  deriving DecidableEq, Repr

inductive Answer where
  | quota (result : QuotaResult)
  | attempt (result : Except String AttemptResult)
  | cleared

/-- The call may go on with what it was asked for. -/
def Answer.isAllowed : Answer → Bool
  | .quota result => result.allowed
  | .attempt (.ok result) => result.allowed
  | .attempt (.error _) => false
  | .cleared => false

/-- A call, the time since the call before it, and where its counters are. -/
structure Event where
  after : ℕ
  place : Place
  call : Call
  deriving DecidableEq, Repr

/-- A call that has been answered. -/
structure Served where
  time : ℕ
  place : Place
  call : Call
  answer : Answer

/-- The counters, and the calls so far, the last one first. -/
structure State where
  now : ℕ
  counters : Place → Store String ℕ
  history : List Served

def initial : State := ⟨0, fun _ => empty, []⟩

section

variable (cfg : RateLimit) (hashIdentifier : String → String)

/-- A call at a time, with the counters that it finds. -/
def serve (place : Place) (now : ℕ) (call : Call) (counters : Store String ℕ) :
    Answer × Store String ℕ :=
  match call with
  | .consumeSignupQuota email ip =>
    let result := consumeSignupQuota cfg hashIdentifier place now email ip counters
    (.quota result.1, result.2)
  | .consumeOtpResendQuota email ip =>
    let result := consumeOtpResendQuota cfg hashIdentifier place now email ip counters
    (.quota result.1, result.2)
  | .consumeOtpAttempt email ip =>
    let result := consumeOtpAttempt cfg hashIdentifier place now email ip counters
    (.attempt result.1, result.2)
  | .clearOtpAttempts email ip => (.cleared, clearOtpAttempts hashIdentifier email ip counters)

def step (e : Event) (s : State) : State :=
  let now := s.now + e.after
  let result := serve cfg hashIdentifier e.place now e.call (s.counters e.place)
  { now
    counters := Function.update s.counters e.place result.2
    history := ⟨now, e.place, e.call, result.1⟩ :: s.history }

end

/-! ## The keys are apart -/

/-- What the keys are for. -/
inductive Kind where
  | signup | resend | attempts | block
  deriving DecidableEq, Repr

/-- What a key begins with. -/
def stem : Kind → Scope → String
  | .signup, .email => "docketra:ratelimit:signup:email:"
  | .signup, .ip => "docketra:ratelimit:signup:ip:"
  | .resend, .email => "docketra:otp:resend:email:"
  | .resend, .ip => "docketra:otp:resend:ip:"
  | .attempts, .email => "docketra:otp:attempts:email:"
  | .attempts, .ip => "docketra:otp:attempts:ip:"
  | .block, .email => "docketra:otp:block:email:"
  | .block, .ip => "docketra:otp:block:ip:"

/-- The key of an identifier. -/
def keyOf (hashIdentifier : String → String) (kind : Kind) (scope : Scope) (identifier : String) :
    String :=
  stem kind scope ++ hashIdentifier identifier

theorem stem_apart (kind kind' : Kind) (scope scope' : Scope)
    (h : (stem kind scope).toList <+: (stem kind' scope').toList) :
    kind = kind' ∧ scope = scope' := by
  cases kind <;> cases kind' <;> cases scope <;> cases scope' <;>
    first
    | exact ⟨rfl, rfl⟩
    | exact absurd h (by decide)

/-- Keys of two kinds or scopes are two keys, whatever the identifiers are hashed to. -/
theorem keyOf_inj {hashIdentifier : String → String} {kind kind' : Kind} {scope scope' : Scope}
    {identifier identifier' : String}
    (h : keyOf hashIdentifier kind scope identifier =
      keyOf hashIdentifier kind' scope' identifier') : kind = kind' ∧ scope = scope' := by
  have hlist := congrArg String.toList h
  unfold keyOf at hlist
  rw [String.toList_append, String.toList_append] at hlist
  have hleft := List.prefix_append (stem kind scope).toList (hashIdentifier identifier).toList
  have hright := List.prefix_append (stem kind' scope').toList (hashIdentifier identifier').toList
  rw [hlist] at hleft
  rcases List.prefix_or_prefix_of_prefix hleft hright with hle | hle
  · exact stem_apart kind kind' scope scope' hle
  · obtain ⟨hkind, hscope⟩ := stem_apart kind' kind scope' scope hle
    exact ⟨hkind.symm, hscope.symm⟩

theorem getOtpAttemptKey_eq (hashIdentifier : String → String) (scope : Scope)
    (identifier : String) : getOtpAttemptKey hashIdentifier scope identifier =
      keyOf hashIdentifier .attempts scope identifier := by
  cases scope <;> rfl

theorem getOtpBlockKey_eq (hashIdentifier : String → String) (scope : Scope)
    (identifier : String) : getOtpBlockKey hashIdentifier scope identifier =
      keyOf hashIdentifier .block scope identifier := by
  cases scope <;> rfl

theorem attemptKey_ne_blockKey (hashIdentifier : String → String) (scope : Scope)
    (identifier : String) : getOtpAttemptKey hashIdentifier scope identifier ≠
      getOtpBlockKey hashIdentifier scope identifier := by
  rw [getOtpAttemptKey_eq, getOtpBlockKey_eq]
  exact fun h => nomatch (keyOf_inj h).1

/-- The counters of the quotas are none of those that are cleared. -/
theorem keyOf_notMem_otpKeys {hashIdentifier : String → String} {kind : Kind}
    (hkind : kind = .signup ∨ kind = .resend) (scope : Scope) (identifier email : String)
    (ip : Option String) :
    keyOf hashIdentifier kind scope identifier ∉ otpKeys hashIdentifier email ip := by
  intro hmem
  simp only [otpKeys, getOtpAttemptKey_eq, getOtpBlockKey_eq, List.mem_cons, List.not_mem_nil,
    or_false] at hmem
  rcases hmem with h | h | h | h <;>
    · have hother := (keyOf_inj h).1
      rw [hother] at hkind
      exact hkind.elim (fun h => nomatch h) fun h => nomatch h

/-! ## What the calls do to a counter -/

section counters

variable {now : ℕ} {counters : Store String ℕ}

theorem hitKey_same (now ttl : ℕ) (key : String) (counters : Store String ℕ) :
    hitKey now ttl key counters key = some (hit now ttl (counters key)) :=
  Function.update_self key _ counters

theorem hitKey_other {key k : String} (h : k ≠ key) (now ttl : ℕ) (counters : Store String ℕ) :
    hitKey now ttl key counters k = counters k :=
  Function.update_of_ne h _ counters

/-- Redis counts a hit. -/
theorem incr_eq (now : ℕ) (key : String) (ttlSeconds : ℕ+) (redis : Store String ℕ) :
    incr now key ttlSeconds redis =
      ((hit now (ttlSeconds * 1000) (redis key)).value,
        hitKey now (ttlSeconds * 1000) key redis) := by
  unfold incr hitKey
  cases hlive : live now (redis key) with
  | some entry => rw [hit_of_some hlive]
  | none =>
    rw [hit_of_none hlive]
    rfl

/-- The map of a process counts a hit. -/
theorem incrementMemoryCounter_eq (now : ℕ) (key : String) (ttlSeconds : ℕ+)
    (inMemoryCounters : Store String ℕ) :
    (incrementMemoryCounter now key ttlSeconds inMemoryCounters).1.count =
        (hit now (ttlSeconds * 1000) (inMemoryCounters key)).value ∧
      (incrementMemoryCounter now key ttlSeconds inMemoryCounters).2 =
        hitKey now (ttlSeconds * 1000) key inMemoryCounters := by
  unfold incrementMemoryCounter resolveEntry hitKey
  cases hentry : inMemoryCounters key with
  | none =>
    rw [hit_of_none rfl]
    exact ⟨rfl, Function.update_idem _ _ _⟩
  | some existing =>
    by_cases hlive : now < existing.expires
    · rw [hit_of_some (live_eq_some.mpr ⟨rfl, hlive⟩)]
      simp only [hlive, if_true, and_self]
    · have hnone : live now (some existing) = none := by simp [live, Option.filter, hlive]
      rw [hit_of_none hnone]
      simp only [hlive, if_false]
      exact ⟨trivial, Function.update_idem _ _ _⟩

/-- A limit is applied by a hit, and admits what is counted up to it. -/
theorem applyRedisRateLimit_eq (place : Place) (now : ℕ) (key : String) (limit : ℕ)
    (ttlSeconds : ℕ+) (counters : Store String ℕ) :
    (applyRedisRateLimit place now key limit ttlSeconds counters).1.allowed =
        decide ((hit now (ttlSeconds * 1000) (counters key)).value ≤ limit) ∧
      (applyRedisRateLimit place now key limit ttlSeconds counters).2 =
        hitKey now (ttlSeconds * 1000) key counters := by
  cases place with
  | inMemory process =>
    obtain ⟨hcount, hstore⟩ := incrementMemoryCounter_eq now key ttlSeconds counters
    exact ⟨congrArg (fun n => decide (n ≤ limit)) hcount, hstore⟩
  | redis =>
    simp only [applyRedisRateLimit, incr_eq]
    exact ⟨decide_eq_decide.mpr Nat.not_lt, trivial⟩

/-- A quota hits both counters, and admits what both admit. -/
theorem consumeQuota_eq (place : Place) (now : ℕ) {ipKey emailKey : String} (h : emailKey ≠ ipKey)
    (ipLimit emailLimit : ℕ) (ttlSeconds : ℕ+) (counters : Store String ℕ) :
    (consumeQuota place now ipKey emailKey ipLimit emailLimit ttlSeconds counters).1.allowed =
        (decide ((hit now (ttlSeconds * 1000) (counters ipKey)).value ≤ ipLimit) &&
          decide ((hit now (ttlSeconds * 1000) (counters emailKey)).value ≤ emailLimit)) ∧
      (consumeQuota place now ipKey emailKey ipLimit emailLimit ttlSeconds counters).2 =
        hitKey now (ttlSeconds * 1000) emailKey
          (hitKey now (ttlSeconds * 1000) ipKey counters) := by
  obtain ⟨hip, hstore⟩ := applyRedisRateLimit_eq place now ipKey ipLimit ttlSeconds counters
  obtain ⟨hemail, hstore'⟩ := applyRedisRateLimit_eq place now emailKey emailLimit ttlSeconds
    (hitKey now (ttlSeconds * 1000) ipKey counters)
  rw [hitKey_other h] at hemail
  simp only [consumeQuota, hstore]
  rw [hip, hemail, hstore']
  cases decide ((hit now (ttlSeconds * 1000) (counters ipKey)).value ≤ ipLimit) <;>
    cases decide ((hit now (ttlSeconds * 1000) (counters emailKey)).value ≤ emailLimit) <;>
    exact ⟨rfl, rfl⟩

/-- Deleted keys have nothing under them, and the others keep what they have. -/
theorem foldl_del (keys : List String) (counters : Store String ℕ) (k : String) :
    keys.foldl (fun counters key => del key counters) counters k =
      if k ∈ keys then none else counters k := by
  induction keys generalizing counters with
  | nil => rfl
  | cons key keys ih =>
    rw [List.foldl_cons, ih]
    by_cases hkey : k = key
    · subst hkey
      rw [del_same, if_pos List.mem_cons_self]
      split_ifs <;> rfl
    · rw [del_other hkey]
      simp only [List.mem_cons, hkey, false_or]

/-- An attempt leaves the keys of others. -/
theorem consumeOtpAttemptCounter_other {cfg : RateLimit} {hashIdentifier : String → String}
    {scope : Scope} {identifier k : String}
    (hkey : k ≠ getOtpAttemptKey hashIdentifier scope identifier)
    (hblock : k ≠ getOtpBlockKey hashIdentifier scope identifier) (place : Place) (now : ℕ)
    (counters : Store String ℕ) :
    (consumeOtpAttemptCounter cfg hashIdentifier place now scope identifier counters).2 k =
      counters k := by
  cases place with
  | inMemory process =>
    obtain ⟨-, hstore⟩ := incrementMemoryCounter_eq now
      (getOtpAttemptKey hashIdentifier scope identifier) cfg.otpVerifyBlockSeconds counters
    simp only [consumeOtpAttemptCounter]
    split_ifs <;> rw [hstore, hitKey_other hkey]
  | redis =>
    simp only [consumeOtpAttemptCounter, otpAttemptScript, incr_eq]
    split_ifs
    · rfl
    · rw [setNX_other hblock, hitKey_other hkey]
    · exact hitKey_other hkey _ _ _

/-- What an attempt does to its counter: nothing, when it is blocked, or a hit, which is admitted
up to the limit. -/
theorem consumeOtpAttemptCounter_key (cfg : RateLimit) (hashIdentifier : String → String)
    {scope : Scope} {identifier : String}
    (hne : getOtpAttemptKey hashIdentifier scope identifier ≠
      getOtpBlockKey hashIdentifier scope identifier)
    (place : Place) (now : ℕ) (counters : Store String ℕ) :
    let key := getOtpAttemptKey hashIdentifier scope identifier
    let result := consumeOtpAttemptCounter cfg hashIdentifier place now scope identifier counters
    let entry := hit now (cfg.otpVerifyBlockSeconds * 1000) (counters key)
    (result.2 key = counters key ∧ result.1 = .error tooManyAttempts) ∨
    (result.2 key = some entry ∧
      ∀ attempt, result.1 = .ok attempt → attempt.allowed = true →
        entry.value ≤ cfg.otpVerifyPerMinute) := by
  intro key result entry
  cases place with
  | inMemory process =>
    obtain ⟨hcount, hstore⟩ := incrementMemoryCounter_eq now key cfg.otpVerifyBlockSeconds counters
    refine .inr ?_
    simp only [result, consumeOtpAttemptCounter, entry]
    split_ifs with hover
    · refine ⟨?_, fun attempt hok hallowed => ?_⟩
      · rw [hstore, hitKey_same]
      · cases hok
        exact nomatch hallowed
    · refine ⟨?_, fun _ _ _ => hcount ▸ Nat.le_of_not_lt hover⟩
      rw [hstore, hitKey_same]
  | redis =>
    simp only [result, consumeOtpAttemptCounter, otpAttemptScript, incr_eq]
    split_ifs with hblocked hover
    · exact .inl ⟨rfl, rfl⟩
    · refine .inr ⟨?_, fun _ hok => nomatch hok⟩
      rw [setNX_other hne]
      exact hitKey_same _ _ _ _
    · exact .inr ⟨hitKey_same _ _ _ _, fun _ _ _ => Nat.le_of_not_lt hover⟩

end counters

/-! ## What is counted -/

/-- What a call asks for. -/
def Call.kind : Call → Option Kind
  | .consumeSignupQuota _ _ => some .signup
  | .consumeOtpResendQuota _ _ => some .resend
  | .consumeOtpAttempt _ _ => some .attempts
  | .clearOtpAttempts _ _ => none

/-- Whom a call is counted for. -/
def Call.identifier : Call → Scope → String
  | .consumeSignupQuota email ip, scope
  | .consumeOtpResendQuota email ip, scope
  | .consumeOtpAttempt email ip, scope
  | .clearOtpAttempts email ip, scope =>
    match scope with
    | .email => normalizedEmail email
    | .ip => normalizedIp ip

/-- The keys that a call deletes. -/
def Call.clearedKeys (hashIdentifier : String → String) : Call → List String
  | .clearOtpAttempts email ip => otpKeys hashIdentifier email ip
  | _ => []

/-- How many are admitted in a window. -/
def Kind.limit (cfg : RateLimit) : Kind → Scope → ℕ
  | .signup, .ip => cfg.signupPerHour
  | .signup, .email => cfg.signupPerEmailPerWindow
  | .resend, .ip => cfg.otpResendPerMinute
  | .resend, .email => cfg.otpResendPerEmailPerWindow
  | .attempts, _ => cfg.otpVerifyPerMinute
  | .block, _ => 0

/-- How long a window is. -/
def Kind.window (cfg : RateLimit) : Kind → ℕ
  | .signup => cfg.signupWindowSeconds * 1000
  | .resend => cfg.otpResendWindowSeconds * 1000
  | .attempts => cfg.otpVerifyBlockSeconds * 1000
  | .block => cfg.otpVerifyBlockSeconds * 1000

/-- The call is counted for the identifier. -/
def Call.IsCounted (call : Call) (kind : Kind) (scope : Scope) (identifier : String) : Prop :=
  call.kind = some kind ∧ call.identifier scope = identifier

instance (call : Call) (kind : Kind) (scope : Scope) (identifier : String) :
    Decidable (call.IsCounted kind scope identifier) :=
  inferInstanceAs (Decidable (_ ∧ _))

/-- A counter changes by a hit or not at all, and an admitted call that is counted has hit it within
the limit. -/
def Counts (limit ttl now : ℕ) (counted allowed : Prop) (counter counter' : Option (Entry ℕ)) :
    Prop :=
  (counter' = counter ∧ (counted → ¬allowed)) ∨
    (counter' = some (hit now ttl counter) ∧
      (counted → allowed → (hit now ttl counter).value ≤ limit))

theorem Counts.bounded {limit ttl now : ℕ} {counted allowed : Prop} [Decidable (counted ∧ allowed)]
    {counter counter' : Option (Entry ℕ)} (h : Counts limit ttl now counted allowed counter counter')
    (httl : 0 < ttl) {times : List ℕ} (hbounded : Bounded limit ttl now counter times) :
    Bounded limit ttl now counter' (if counted ∧ allowed then now :: times else times) := by
  rcases h with ⟨rfl, hnot⟩ | ⟨rfl, hlimit⟩
  · rw [if_neg fun hboth => hnot hboth.1 hboth.2]
    exact hbounded
  · have hhit := hbounded.hit httl (decide (counted ∧ allowed)) fun hboth =>
      hlimit (of_decide_eq_true hboth).1 (of_decide_eq_true hboth).2
    simpa using hhit

section counted

variable {cfg : RateLimit} {hashIdentifier : String → String}

/-- A quota counts the requests of its two identifiers. -/
theorem counts_quota {kind : Kind} {scope : Scope} {email identifier : String} {ip : Option String}
    {counted : Prop} (place : Place) (now : ℕ) (ttlSeconds : ℕ+) (counters : Store String ℕ)
    (asked : Kind) (hcounted : counted → kind = asked ∧
      identifier = match scope with | .email => normalizedEmail email | .ip => normalizedIp ip)
    (hwindow : kind = asked → Kind.window cfg kind = ttlSeconds * 1000) :
    let result := consumeQuota place now (keyOf hashIdentifier asked .ip (normalizedIp ip))
      (keyOf hashIdentifier asked .email (normalizedEmail email)) (asked.limit cfg .ip)
      (asked.limit cfg .email) ttlSeconds counters
    Counts (kind.limit cfg scope) (kind.window cfg) now counted (result.1.allowed = true)
      (counters (keyOf hashIdentifier kind scope identifier))
      (result.2 (keyOf hashIdentifier kind scope identifier)) := by
  intro result
  have hne : keyOf hashIdentifier asked .email (normalizedEmail email) ≠
      keyOf hashIdentifier asked .ip (normalizedIp ip) := fun h => nomatch (keyOf_inj h).2
  obtain ⟨hallowed, hstore⟩ := consumeQuota_eq place now hne (asked.limit cfg .ip)
    (asked.limit cfg .email) ttlSeconds counters
  rw [hallowed, hstore, Bool.and_eq_true, decide_eq_true_eq, decide_eq_true_eq]
  by_cases hip : keyOf hashIdentifier kind scope identifier =
      keyOf hashIdentifier asked .ip (normalizedIp ip)
  · -- The counter of the client's address is hit first.
    obtain ⟨rfl, rfl⟩ := keyOf_inj hip
    rw [hitKey_other (fun h => hne (h.symm.trans hip)), hip, hitKey_same, ← hwindow rfl]
    exact .inr ⟨rfl, fun _ hboth => hboth.1⟩
  · by_cases hemail : keyOf hashIdentifier kind scope identifier =
        keyOf hashIdentifier asked .email (normalizedEmail email)
    · obtain ⟨rfl, rfl⟩ := keyOf_inj hemail
      rw [hemail, hitKey_same, hitKey_other hne, ← hwindow rfl]
      exact .inr ⟨rfl, fun _ hboth => hboth.2⟩
    · rw [hitKey_other hemail, hitKey_other hip]
      refine .inl ⟨rfl, fun h _ => ?_⟩
      obtain ⟨rfl, hidentifier⟩ := hcounted h
      cases scope with
      | email => exact hemail (by rw [hidentifier])
      | ip => exact hip (by rw [hidentifier])

/-- The result of an attempt that is admitted is that of two attempts that are. -/
theorem consumeOtpAttempt_allowed {place : Place} {now : ℕ} {email : String} {ip : Option String}
    {counters : Store String ℕ}
    (h : (Answer.attempt
      (consumeOtpAttempt cfg hashIdentifier place now email ip counters).1).isAllowed = true) :
    let first := consumeOtpAttemptCounter cfg hashIdentifier place now .email
      (normalizedEmail email) counters
    let second := consumeOtpAttemptCounter cfg hashIdentifier place now .ip (normalizedIp ip) first.2
    (∃ attempt, first.1 = .ok attempt ∧ attempt.allowed = true) ∧
      ∃ attempt, second.1 = .ok attempt ∧ attempt.allowed = true := by
  intro first second
  have hresult : (consumeOtpAttempt cfg hashIdentifier place now email ip counters).1 =
      (do
        let emailAttempt ← first.1
        let ipAttempt ← second.1
        return { allowed := emailAttempt.allowed && ipAttempt.allowed
                 attempts := max emailAttempt.attempts ipAttempt.attempts }) := rfl
  rw [hresult] at h
  cases hfirst : first.1 with
  | error message =>
    rw [hfirst] at h
    exact nomatch h
  | ok emailAttempt =>
    cases hsecond : second.1 with
    | error message =>
      rw [hfirst, hsecond] at h
      exact nomatch h
    | ok ipAttempt =>
      rw [hfirst, hsecond] at h
      have hboth : (emailAttempt.allowed && ipAttempt.allowed) = true := h
      rw [Bool.and_eq_true] at hboth
      exact ⟨⟨emailAttempt, rfl, hboth.1⟩, ⟨ipAttempt, rfl, hboth.2⟩⟩

/-- An attempt at the code counts for its two identifiers. -/
theorem counts_attempt {kind : Kind} (hkind : kind ≠ .block) {scope : Scope}
    {email identifier : String} {ip : Option String} {counted : Prop} (place : Place) (now : ℕ)
    (counters : Store String ℕ) (hcounted : counted → kind = .attempts ∧
      identifier = match scope with | .email => normalizedEmail email | .ip => normalizedIp ip) :
    let result := consumeOtpAttempt cfg hashIdentifier place now email ip counters
    Counts (kind.limit cfg scope) (kind.window cfg) now counted
      ((Answer.attempt result.1).isAllowed = true)
      (counters (keyOf hashIdentifier kind scope identifier))
      (result.2 (keyOf hashIdentifier kind scope identifier)) := by
  intro result
  have hattempt := getOtpAttemptKey_eq hashIdentifier
  have hapart := attemptKey_ne_blockKey hashIdentifier
  -- A key that is not the counter's is left, for a block is not asked about.
  have hother (scope' : Scope) (identifier' : String) (counters : Store String ℕ)
      (h : keyOf hashIdentifier kind scope identifier ≠
        getOtpAttemptKey hashIdentifier scope' identifier') :=
    @consumeOtpAttemptCounter_other cfg _ _ _ _ h
      (by rw [getOtpBlockKey_eq]; exact fun h => hkind (keyOf_inj h).1) place now counters
  show Counts _ _ now counted _ _ ((consumeOtpAttemptCounter cfg hashIdentifier place now .ip
    (normalizedIp ip) (consumeOtpAttemptCounter cfg hashIdentifier place now .email
      (normalizedEmail email) counters).2).2 _)
  by_cases hemail : keyOf hashIdentifier kind scope identifier =
      getOtpAttemptKey hashIdentifier .email (normalizedEmail email)
  · obtain ⟨rfl, rfl⟩ := keyOf_inj (hemail.trans (hattempt _ _))
    have hip : keyOf hashIdentifier .attempts .email identifier ≠
        getOtpAttemptKey hashIdentifier .ip (normalizedIp ip) := by
      rw [hattempt]
      exact fun h => nomatch (keyOf_inj h).2
    rw [hother .ip (normalizedIp ip) _ hip, hemail]
    rcases consumeOtpAttemptCounter_key cfg hashIdentifier (hapart .email (normalizedEmail email))
      place now counters with ⟨hstore, herror⟩ | ⟨hstore, hlimit⟩
    · refine .inl ⟨hstore, fun _ hallowed => ?_⟩
      obtain ⟨⟨attempt, hok, -⟩, -⟩ := consumeOtpAttempt_allowed hallowed
      rw [herror] at hok
      exact nomatch hok
    · refine .inr ⟨hstore, fun _ hallowed => ?_⟩
      obtain ⟨⟨attempt, hok, hyes⟩, -⟩ := consumeOtpAttempt_allowed hallowed
      exact hlimit attempt hok hyes
  · by_cases hip : keyOf hashIdentifier kind scope identifier =
        getOtpAttemptKey hashIdentifier .ip (normalizedIp ip)
    · obtain ⟨rfl, rfl⟩ := keyOf_inj (hip.trans (hattempt _ _))
      have hfirst := hother .email (normalizedEmail email) counters hemail
      rw [hip] at hfirst ⊢
      rcases consumeOtpAttemptCounter_key cfg hashIdentifier (hapart .ip (normalizedIp ip))
        place now (consumeOtpAttemptCounter cfg hashIdentifier place now .email
          (normalizedEmail email) counters).2 with ⟨hstore, herror⟩ | ⟨hstore, hlimit⟩
      · refine .inl ⟨hstore.trans hfirst, fun _ hallowed => ?_⟩
        obtain ⟨-, attempt, hok, -⟩ := consumeOtpAttempt_allowed hallowed
        rw [herror] at hok
        exact nomatch hok
      · rw [hfirst] at hstore hlimit
        refine .inr ⟨hstore, fun _ hallowed => ?_⟩
        obtain ⟨-, attempt, hok, hyes⟩ := consumeOtpAttempt_allowed hallowed
        exact hlimit attempt hok hyes
    · rw [hother .ip _ _ hip, hother .email _ _ hemail]
      refine .inl ⟨rfl, fun h _ => ?_⟩
      obtain ⟨rfl, hidentifier⟩ := hcounted h
      cases scope with
      | email => exact hemail (by rw [hattempt, hidentifier])
      | ip => exact hip (by rw [hattempt, hidentifier])

/-- What a call does to a counter that it does not delete. -/
theorem serve_counts {kind : Kind} (hkind : kind ≠ .block) (scope : Scope) (identifier : String)
    (place : Place) (now : ℕ) {call : Call} (counters : Store String ℕ)
    (hkeep : keyOf hashIdentifier kind scope identifier ∉ call.clearedKeys hashIdentifier) :
    let result := serve cfg hashIdentifier place now call counters
    Counts (kind.limit cfg scope) (kind.window cfg) now (call.IsCounted kind scope identifier)
      (result.1.isAllowed = true) (counters (keyOf hashIdentifier kind scope identifier))
      (result.2 (keyOf hashIdentifier kind scope identifier)) := by
  have hcounted {asked : Kind} (h : call.kind = some asked)
      (hcall : call.IsCounted kind scope identifier) :
      kind = asked ∧ identifier = call.identifier scope := by
    exact ⟨(Option.some.inj (h.symm.trans hcall.1)).symm, hcall.2.symm⟩
  cases call with
  | consumeSignupQuota email ip =>
    exact counts_quota place now cfg.signupWindowSeconds counters .signup (hcounted rfl)
      fun h => by rw [h]; rfl
  | consumeOtpResendQuota email ip =>
    exact counts_quota place now cfg.otpResendWindowSeconds counters .resend (hcounted rfl)
      fun h => by rw [h]; rfl
  | consumeOtpAttempt email ip => exact counts_attempt hkind place now counters (hcounted rfl)
  | clearOtpAttempts email ip =>
    refine .inl ⟨?_, fun h => nomatch h.1⟩
    exact (foldl_del _ counters _).trans (if_neg hkeep)

end counted

/-! ## What holds throughout -/

section

variable (hashIdentifier : String → String)

/-- The calls since a key was last deleted in a place. -/
def sinceCleared (place : Place) (key : String) (history : List Served) : List Served :=
  history.takeWhile fun a => ¬(a.place = place ∧ key ∈ a.call.clearedKeys hashIdentifier)

end

/-- When calls of the kind were admitted for the identifier. -/
def admittedTimes (place : Place) (kind : Kind) (scope : Scope) (identifier : String)
    (history : List Served) : List ℕ :=
  (history.filter fun a => a.place = place ∧ a.call.IsCounted kind scope identifier ∧
    a.answer.isAllowed = true).map Served.time

/-- Each counter bounds the calls that it has admitted since it was last deleted. -/
def Limited (cfg : RateLimit) (hashIdentifier : String → String) (s : State) : Prop :=
  ∀ place kind scope identifier, kind ≠ .block →
    Bounded (Kind.limit cfg kind scope) (kind.window cfg) s.now
      (s.counters place (keyOf hashIdentifier kind scope identifier))
      (admittedTimes place kind scope identifier
        (sinceCleared hashIdentifier place (keyOf hashIdentifier kind scope identifier) s.history))

section

variable {cfg : RateLimit} {hashIdentifier : String → String}

theorem window_pos (cfg : RateLimit) (kind : Kind) : 0 < kind.window cfg := by
  cases kind <;> exact Nat.mul_pos (PNat.pos _) (by omega)

theorem limited_step (e : Event) (s : State) (h : Limited cfg hashIdentifier s) :
    Limited cfg hashIdentifier (step cfg hashIdentifier e s) := by
  intro place kind scope identifier hkind
  have hbounded := (h place kind scope identifier hkind).later (Nat.le_add_right s.now e.after)
  by_cases hplace : e.place = place
  · subst hplace
    have hcounters : (step cfg hashIdentifier e s).counters e.place =
        (serve cfg hashIdentifier e.place (s.now + e.after) e.call (s.counters e.place)).2 :=
      Function.update_self _ _ _
    rw [hcounters]
    by_cases hclear : keyOf hashIdentifier kind scope identifier ∈ e.call.clearedKeys hashIdentifier
    · -- The counter is deleted, and nothing is counted since.
      have hgone : (serve cfg hashIdentifier e.place (s.now + e.after) e.call
          (s.counters e.place)).2 (keyOf hashIdentifier kind scope identifier) = none := by
        cases hcall : e.call with
        | clearOtpAttempts email ip =>
          rw [hcall] at hclear
          exact (foldl_del _ _ _).trans (if_pos hclear)
        | consumeSignupQuota email ip => rw [hcall] at hclear; exact nomatch hclear
        | consumeOtpResendQuota email ip => rw [hcall] at hclear; exact nomatch hclear
        | consumeOtpAttempt email ip => rw [hcall] at hclear; exact nomatch hclear
      have hsince : sinceCleared hashIdentifier e.place
          (keyOf hashIdentifier kind scope identifier) (step cfg hashIdentifier e s).history = [] :=
        List.takeWhile_cons_of_neg (by simpa using hclear)
      rw [hgone, hsince]
      exact .unused
    · have hcounts := @serve_counts cfg _ _ hkind scope identifier e.place (s.now + e.after) _
        (s.counters e.place) hclear
      have hsince : sinceCleared hashIdentifier e.place
          (keyOf hashIdentifier kind scope identifier) (step cfg hashIdentifier e s).history =
          _ :: sinceCleared hashIdentifier e.place (keyOf hashIdentifier kind scope identifier)
            s.history :=
        List.takeWhile_cons_of_pos (by simpa using hclear)
      have hnext := hcounts.bounded (window_pos cfg kind) hbounded
      rw [hsince]
      unfold admittedTimes at hnext ⊢
      rw [List.filter_cons]
      simp only [true_and, decide_eq_true_eq]
      split_ifs with hadmitted
      · rwa [if_pos hadmitted] at hnext
      · rwa [if_neg hadmitted] at hnext
  · have hcounters : (step cfg hashIdentifier e s).counters place = s.counters place :=
      Function.update_of_ne (Ne.symm hplace) _ _
    have hsince : sinceCleared hashIdentifier place (keyOf hashIdentifier kind scope identifier)
        (step cfg hashIdentifier e s).history = _ :: sinceCleared hashIdentifier place
          (keyOf hashIdentifier kind scope identifier) s.history :=
      List.takeWhile_cons_of_pos (by simp [hplace])
    rw [hcounters, hsince]
    unfold admittedTimes
    rw [List.filter_cons_of_neg (by simp [hplace])]
    exact hbounded

theorem limited_initial : Limited cfg hashIdentifier initial :=
  fun _ _ _ _ _ => .unused

end

/-- In every run, no span as long as the window has more than twice the limit of sign-ups, or of
requests for another code, that one place has admitted for a client's address or an e-mail address:
whatever the addresses are hashed to, and whatever is cleared. -/
theorem quotas_bounded (cfg : RateLimit) (hashIdentifier : String → String) (events : List Event)
    (place : Place) (kind : Kind) (hkind : kind = .signup ∨ kind = .resend) (scope : Scope)
    (identifier : String) (t : ℕ) :
    within t (t + kind.window cfg) (admittedTimes place kind scope identifier
      (run (step cfg hashIdentifier) events initial).history) ≤ 2 * kind.limit cfg scope := by
  have hblock : kind ≠ .block := by
    rcases hkind with rfl | rfl <;> exact fun h => nomatch h
  have h : Limited cfg hashIdentifier (run (step cfg hashIdentifier) events initial) :=
    run_keeps limited_step events initial limited_initial
  have hbounded := h place kind scope identifier hblock
  -- No call deletes the counter of a quota.
  have hnever (call : Call) :
      keyOf hashIdentifier kind scope identifier ∉ call.clearedKeys hashIdentifier := by
    cases call with
    | clearOtpAttempts email ip => exact keyOf_notMem_otpKeys hkind scope identifier email ip
    | consumeSignupQuota email ip => exact List.not_mem_nil
    | consumeOtpResendQuota email ip => exact List.not_mem_nil
    | consumeOtpAttempt email ip => exact List.not_mem_nil
  have hall : sinceCleared hashIdentifier place (keyOf hashIdentifier kind scope identifier)
      (run (step cfg hashIdentifier) events initial).history =
      (run (step cfg hashIdentifier) events initial).history := by
    refine List.takeWhile_eq_self_iff.mpr fun a _ => ?_
    simp [hnever]
  rw [hall] at hbounded
  exact hbounded.spans t

/-- Sign-ups from one address of a client, at the limit of one in an hour. -/
theorem quotas_bounded_signups :
    within 0 3600000 (admittedTimes .redis .signup .ip "10.0.0.1"
      (run (step { signupPerHour := 1 } id)
        [⟨0, .redis, .consumeSignupQuota "a@b.in" (some "10.0.0.1")⟩,
          ⟨5, .redis, .consumeSignupQuota "c@d.in" (some "10.0.0.1")⟩] initial).history) ≤ 2 :=
  quotas_bounded { signupPerHour := 1 } id
    [⟨0, .redis, .consumeSignupQuota "a@b.in" (some "10.0.0.1")⟩,
      ⟨5, .redis, .consumeSignupQuota "c@d.in" (some "10.0.0.1")⟩] .redis .signup (.inl rfl) .ip
    "10.0.0.1" 0

/-- Of the attempts at a code that one place has admitted for an address since its counter was last
cleared, no span as long as a block has more than twice the limit. -/
theorem attempts_bounded (cfg : RateLimit) (hashIdentifier : String → String) (events : List Event)
    (place : Place) (scope : Scope) (identifier : String) (t : ℕ) :
    within t (t + cfg.otpVerifyBlockSeconds * 1000) (admittedTimes place .attempts scope identifier
      (sinceCleared hashIdentifier place (getOtpAttemptKey hashIdentifier scope identifier)
        (run (step cfg hashIdentifier) events initial).history)) ≤ 2 * cfg.otpVerifyPerMinute := by
  have h : Limited cfg hashIdentifier (run (step cfg hashIdentifier) events initial) :=
    run_keeps limited_step events initial limited_initial
  have hbounded := h place .attempts scope identifier fun h => nomatch h
  rw [getOtpAttemptKey_eq]
  exact hbounded.spans t

/-! ## Blocks -/

section blocks

variable {cfg : RateLimit} {hashIdentifier : String → String} {scope : Scope} {identifier : String}
  {now : ℕ} {redis : Store String ℕ}

/-- An identifier that is blocked is refused, and nothing changes. -/
theorem consumeOtpAttemptCounter_blocked {entry : Entry ℕ}
    (h : live now (redis (getOtpBlockKey hashIdentifier scope identifier)) = some entry) :
    consumeOtpAttemptCounter cfg hashIdentifier .redis now scope identifier redis =
      (.error tooManyAttempts, redis) := by
  simp [consumeOtpAttemptCounter, otpAttemptScript, h]

/-- The script has counted an attempt above the limit. -/
def IsExceeded (cfg : RateLimit) (hashIdentifier : String → String) (now : ℕ) (scope : Scope)
    (identifier : String) (redis : Store String ℕ) : Prop :=
  (otpAttemptScript now (getOtpAttemptKey hashIdentifier scope identifier)
    (getOtpBlockKey hashIdentifier scope identifier) cfg.otpVerifyPerMinute
    cfg.otpVerifyBlockSeconds redis).1 = .exceeded

/-- An attempt above the limit blocks its identifier. -/
theorem consumeOtpAttemptCounter_exceeded
    (h : IsExceeded cfg hashIdentifier now scope identifier redis) :
    consumeOtpAttemptCounter cfg hashIdentifier .redis now scope identifier redis =
        (.error tooManyAttempts, (consumeOtpAttemptCounter cfg hashIdentifier .redis now scope
          identifier redis).2) ∧
      (consumeOtpAttemptCounter cfg hashIdentifier .redis now scope identifier redis).2
        (getOtpBlockKey hashIdentifier scope identifier) =
          some ⟨1, now + cfg.otpVerifyBlockSeconds * 1000⟩ := by
  unfold IsExceeded otpAttemptScript at h
  simp only [consumeOtpAttemptCounter, otpAttemptScript, incr_eq] at h ⊢
  split_ifs at h ⊢ with hblocked hover
  refine ⟨rfl, ?_⟩
  have hfree : live now (hitKey now (cfg.otpVerifyBlockSeconds * 1000)
      (getOtpAttemptKey hashIdentifier scope identifier) redis
      (getOtpBlockKey hashIdentifier scope identifier)) = none := by
    rw [hitKey_other (attemptKey_ne_blockKey hashIdentifier scope identifier).symm]
    simpa using hblocked
  rw [setNX_of_none hfree]
  exact setEX_same _ _ _ _ _

/-- A running block is left by the attempts, its own ones included. -/
theorem consumeOtpAttemptCounter_block {entry : Entry ℕ} (scope' : Scope) (identifier' : String)
    (h : live now (redis (getOtpBlockKey hashIdentifier scope identifier)) = some entry) :
    (consumeOtpAttemptCounter cfg hashIdentifier .redis now scope' identifier' redis).2
      (getOtpBlockKey hashIdentifier scope identifier) =
        redis (getOtpBlockKey hashIdentifier scope identifier) := by
  by_cases hkey : getOtpBlockKey hashIdentifier scope identifier =
      getOtpBlockKey hashIdentifier scope' identifier'
  · rw [consumeOtpAttemptCounter_blocked (hkey ▸ h)]
  · refine consumeOtpAttemptCounter_other ?_ hkey .redis now redis
    rw [getOtpAttemptKey_eq, getOtpBlockKey_eq]
    exact fun h => nomatch (keyOf_inj h).1

/-- A running block is left by every call that does not delete it. -/
theorem serve_block {entry : Entry ℕ} {call : Call}
    (h : live now (redis (getOtpBlockKey hashIdentifier scope identifier)) = some entry)
    (hkeep : getOtpBlockKey hashIdentifier scope identifier ∉ call.clearedKeys hashIdentifier) :
    (serve cfg hashIdentifier .redis now call redis).2
      (getOtpBlockKey hashIdentifier scope identifier) =
        redis (getOtpBlockKey hashIdentifier scope identifier) := by
  have hquota (asked : Kind) (hasked : asked ≠ .block) (email : String) (ip : Option String)
      (ipLimit emailLimit : ℕ) (ttlSeconds : ℕ+) :
      (consumeQuota .redis now (keyOf hashIdentifier asked .ip (normalizedIp ip))
        (keyOf hashIdentifier asked .email (normalizedEmail email)) ipLimit emailLimit ttlSeconds
        redis).2 (getOtpBlockKey hashIdentifier scope identifier) =
          redis (getOtpBlockKey hashIdentifier scope identifier) := by
    have hne : keyOf hashIdentifier asked .email (normalizedEmail email) ≠
        keyOf hashIdentifier asked .ip (normalizedIp ip) := fun h => nomatch (keyOf_inj h).2
    rw [getOtpBlockKey_eq, (consumeQuota_eq .redis now hne ipLimit emailLimit ttlSeconds redis).2,
      hitKey_other fun h => hasked (keyOf_inj h).1.symm,
      hitKey_other fun h => hasked (keyOf_inj h).1.symm]
  cases call with
  | consumeSignupQuota email ip => exact hquota .signup (fun h => nomatch h) email ip _ _ _
  | consumeOtpResendQuota email ip => exact hquota .resend (fun h => nomatch h) email ip _ _ _
  | consumeOtpAttempt email ip =>
    have hfirst := @consumeOtpAttemptCounter_block cfg _ _ _ _ _ _ .email (normalizedEmail email) h
    have hsecond := @consumeOtpAttemptCounter_block cfg _ _ _ _ _ _ .ip (normalizedIp ip)
      (hfirst ▸ h)
    exact hsecond.trans hfirst
  | clearOtpAttempts email ip => exact (foldl_del _ redis _).trans (if_neg hkeep)

theorem now_le_run (events : List Event) (s : State) :
    s.now ≤ (run (step cfg hashIdentifier) events s).now := by
  induction events generalizing s with
  | nil => exact le_rfl
  | cons e events ih => exact Nat.le_trans (Nat.le_add_right s.now e.after) (ih (step _ _ e s))

/-- A call leaves a key of Redis until some time. -/
def Keeps (hashIdentifier : String → String) (key : String) (e : Event) : Prop :=
  e.place = .redis → key ∉ e.call.clearedKeys hashIdentifier

/-- A block is there until it is over, or deleted. -/
theorem run_block {until_ : ℕ} {events : List Event}
    (hkeep : ∀ e ∈ events, Keeps hashIdentifier (getOtpBlockKey hashIdentifier scope identifier) e)
    {s : State} (h : s.counters .redis (getOtpBlockKey hashIdentifier scope identifier) =
      some ⟨1, until_⟩) (hbefore : (run (step cfg hashIdentifier) events s).now < until_) :
    (run (step cfg hashIdentifier) events s).counters .redis
      (getOtpBlockKey hashIdentifier scope identifier) = some ⟨1, until_⟩ := by
  induction events generalizing s with
  | nil => exact h
  | cons e events ih =>
    refine ih (fun e he => hkeep e (List.mem_cons_of_mem _ he)) ?_ hbefore
    have hnow : s.now + e.after < until_ :=
      Nat.lt_of_le_of_lt (now_le_run events (step cfg hashIdentifier e s)) hbefore
    by_cases hplace : e.place = .redis
    · have hcounters : (step cfg hashIdentifier e s).counters .redis =
          (serve cfg hashIdentifier .redis (s.now + e.after) e.call (s.counters .redis)).2 := by
        show Function.update s.counters e.place _ .redis = _
        rw [hplace]
        exact Function.update_self _ _ _
      rw [hcounters, serve_block (live_eq_some.mpr ⟨h, hnow⟩)
        (hkeep e List.mem_cons_self hplace)]
      exact h
    · have hcounters : (step cfg hashIdentifier e s).counters .redis = s.counters .redis :=
        Function.update_of_ne (Ne.symm hplace) _ _
      rw [hcounters]
      exact h

/-- The counters that the script of a scope finds: the one of the e-mail address comes first. -/
def found (cfg : RateLimit) (hashIdentifier : String → String) (now : ℕ) (email : String)
    (redis : Store String ℕ) : Scope → Store String ℕ
  | .email => redis
  | .ip => (consumeOtpAttemptCounter cfg hashIdentifier .redis now .email (normalizedEmail email)
      redis).2

end blocks

theorem found_block {cfg : RateLimit} {hashIdentifier : String → String} {scope : Scope}
    {identifier : String} {now : ℕ} {redis : Store String ℕ} {entry : Entry ℕ} (email : String)
    (h : live now (redis (getOtpBlockKey hashIdentifier scope identifier)) = some entry) :
    live now (found cfg hashIdentifier now email redis scope
      (getOtpBlockKey hashIdentifier scope identifier)) = some entry := by
  cases scope with
  | email => exact h
  | ip =>
    show live now ((consumeOtpAttemptCounter cfg hashIdentifier .redis now .email _ redis).2 _) = _
    rw [consumeOtpAttemptCounter_block .email (normalizedEmail email) h]
    exact h

/-- An attempt is refused when one of its addresses is blocked. -/
theorem consumeOtpAttempt_refused {cfg : RateLimit} {hashIdentifier : String → String} {now : ℕ}
    {redis : Store String ℕ} {entry : Entry ℕ} (scope : Scope) (email : String)
    (ip : Option String)
    (h : live now (redis (getOtpBlockKey hashIdentifier scope
      ((Call.consumeOtpAttempt email ip).identifier scope))) = some entry) :
    (consumeOtpAttempt cfg hashIdentifier .redis now email ip redis).1 = .error tooManyAttempts := by
  have hfound := @found_block cfg _ _ _ _ _ _ email h
  cases scope with
  | email =>
    have hfirst := @consumeOtpAttemptCounter_blocked cfg _ _ _ _ _ _ h
    simp only [consumeOtpAttempt]
    rw [show normalizedEmail email = (Call.consumeOtpAttempt email ip).identifier .email from rfl,
      hfirst]
    rfl
  | ip =>
    have hsecond := @consumeOtpAttemptCounter_blocked cfg _ _ _ _ _ _ hfound
    have hresult : (consumeOtpAttempt cfg hashIdentifier .redis now email ip redis).1 =
        (do
          let emailAttempt ← (consumeOtpAttemptCounter cfg hashIdentifier .redis now .email
            (normalizedEmail email) redis).1
          let ipAttempt ← (consumeOtpAttemptCounter cfg hashIdentifier .redis now .ip
            ((Call.consumeOtpAttempt email ip).identifier .ip)
            (found cfg hashIdentifier now email redis .ip)).1
          return { allowed := emailAttempt.allowed && ipAttempt.allowed
                   attempts := max emailAttempt.attempts ipAttempt.attempts }) := rfl
    rw [hresult, hsecond]
    -- The first counter throws the same error, if it throws.
    cases hfirst : (consumeOtpAttemptCounter cfg hashIdentifier .redis now .email
      (normalizedEmail email) redis).1 with
    | ok attempt => rfl
    | error message =>
      simp only [consumeOtpAttemptCounter] at hfirst
      split at hfirst <;> cases hfirst <;> rfl

/-- When an attempt is counted above the limit in Redis, every attempt of the same address in Redis
is refused for the time of a block from then, unless the block is deleted. -/
theorem block_lasts (cfg : RateLimit) (hashIdentifier : String → String) (scope : Scope) (s : State)
    (after : ℕ) (email : String) (ip : Option String) (later : List Event)
    (email' : String) (ip' : Option String) (after' : ℕ)
    (hexceeded : IsExceeded cfg hashIdentifier (s.now + after) scope
      ((Call.consumeOtpAttempt email ip).identifier scope)
      (found cfg hashIdentifier (s.now + after) email (s.counters .redis) scope))
    (hkeep : ∀ e ∈ later, Keeps hashIdentifier (getOtpBlockKey hashIdentifier scope
      ((Call.consumeOtpAttempt email ip).identifier scope)) e)
    (hsame : (Call.consumeOtpAttempt email' ip').identifier scope =
      (Call.consumeOtpAttempt email ip).identifier scope) :
    let blocked := step cfg hashIdentifier ⟨after, .redis, .consumeOtpAttempt email ip⟩ s
    let s' := run (step cfg hashIdentifier) later blocked
    s'.now + after' < blocked.now + cfg.otpVerifyBlockSeconds * 1000 →
      (consumeOtpAttempt cfg hashIdentifier .redis (s'.now + after') email' ip'
        (s'.counters .redis)).1 = .error tooManyAttempts := by
  intro blocked s' hbefore
  have hcounters : blocked.counters .redis =
      (consumeOtpAttempt cfg hashIdentifier .redis (s.now + after) email ip
        (s.counters .redis)).2 := by
    show Function.update s.counters .redis _ .redis = _
    exact Function.update_self _ _ _
  have hblock : blocked.counters .redis (getOtpBlockKey hashIdentifier scope
      ((Call.consumeOtpAttempt email ip).identifier scope)) =
        some ⟨1, blocked.now + cfg.otpVerifyBlockSeconds * 1000⟩ := by
    have hset := (consumeOtpAttemptCounter_exceeded hexceeded).2
    rw [hcounters]
    cases scope with
    | ip => exact hset
    | email =>
      -- The counter of the client's address comes after, and leaves the block.
      refine (consumeOtpAttemptCounter_block .ip (normalizedIp ip) (live_eq_some.mpr
        ⟨hset, ?_⟩)).trans hset
      exact Nat.lt_add_of_pos_right (window_pos cfg .block)
  have hlast : s'.counters .redis (getOtpBlockKey hashIdentifier scope
      ((Call.consumeOtpAttempt email ip).identifier scope)) =
        some ⟨1, blocked.now + cfg.otpVerifyBlockSeconds * 1000⟩ :=
    run_block hkeep hblock (Nat.lt_of_le_of_lt (Nat.le_add_right s'.now after') hbefore)
  rw [← hsame] at hlast
  exact consumeOtpAttempt_refused scope email' ip' (live_eq_some.mpr ⟨hlast, hbefore⟩)

/-- Where no attempt is admitted, the first one blocks its e-mail address for a minute. -/
theorem block_lasts_a_minute :
    (consumeOtpAttempt { otpVerifyPerMinute := 0 } id .redis 59999 "a@b.in" none
      ((step { otpVerifyPerMinute := 0 } id ⟨0, .redis, .consumeOtpAttempt "a@b.in" none⟩
        initial).counters .redis)).1 = .error tooManyAttempts :=
  block_lasts { otpVerifyPerMinute := 0 } id .email initial 0 "a@b.in" none [] "a@b.in" none 59999
    rfl (fun _ h => nomatch h) rfl (by decide)

end Docketra.SignupLimits
