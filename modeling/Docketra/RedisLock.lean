import Docketra.Lib.Interleaving
import Docketra.Lib.Leases
import Mathlib.Data.PNat.Notation
import Mathlib.Data.PNat.Basic

/-!
# Locks

`services/redisLock.service.js` leases a key: in Redis, or, where there is no client of Redis or
none that is ready, in a map of the process. The verification of a sign-up takes place while it has
the lock of its e-mail address, and gives it back at its end.

Any number of requests in any number of processes take locks and give them back, in any order, while
time passes. Redis may be ready at one call and not at the next, the reply of a command may be lost,
and a process may stop before it has given back what it has. In every state of every run, a request
whose lease still runs finds its own token under the key, and two requests with running leases of a
key have them from different places (`leases_safe`). In production that excludes two of them, and a
lock is granted exactly when no lease of its key runs (`production_exclusive`,
`acquire_granted_iff`).

Times are in milliseconds. A process that is started again is another process.
-/

namespace Docketra.RedisLock

open Expiring Interleaving Leases Runs

/-- Whether `NODE_ENV` is `production`, and whether there is a client of Redis. -/
structure Env where
  isProduction : Bool
  hasRedisClient : Bool
  deriving DecidableEq, Repr

/-- Whether the locks are those of Redis. -/
def getLockRedisClient (env : Env) (isRedisReady : Bool) : Bool :=
  if !env.hasRedisClient then false
  else if env.isProduction then true
  else isRedisReady

/-- Where a lock is: in Redis, or in the map of a process. -/
inductive Place where
  | redis
  | inMemory (process : ℕ)
  deriving DecidableEq, Repr

/-- Where a call of a process looks for a lock. -/
def placeOf (env : Env) (process : ℕ) (isRedisReady : Bool) : Place :=
  if getLockRedisClient env isRedisReady then .redis else .inMemory process

/-- The tokens by their keys, in Redis and in each process. -/
structure Locks where
  now : ℕ
  redis : Store String String
  inMemoryLocks : ℕ → Store String String

/-- What `acquireLock` returns when it has acquired the lock. -/
structure Lock where
  key : String
  token : String
  deriving DecidableEq, Repr

def acquireInMemory (now : ℕ) (key token : String) (ttlSeconds : ℕ+)
    (inMemoryLocks : Store String String) : Option Lock × Store String String :=
  let acquired := (some ⟨key, token⟩, setEX now key token (ttlSeconds * 1000) inMemoryLocks)
  match inMemoryLocks key with
  | some current => if now < current.expires then (none, inMemoryLocks) else acquired
  | none => acquired

/-- `SET key token NX EX ttlSeconds`, which answers `OK` when it has written. -/
def acquireInRedis (now : ℕ) (key token : String) (ttlSeconds : ℕ+) (redis : Store String String) :
    Option Lock × Store String String :=
  let response := setNX now key token (ttlSeconds * 1000) redis
  (if response.1 then some ⟨key, token⟩ else none, response.2)

def acquireLock (place : Place) (token key : String) (ttlSeconds : ℕ+) (s : Locks) :
    Option Lock × Locks :=
  match place with
  | .inMemory process =>
    let result := acquireInMemory s.now key token ttlSeconds (s.inMemoryLocks process)
    (result.1, { s with
      inMemoryLocks := Function.update s.inMemoryLocks process result.2 })
  | .redis =>
    let result := acquireInRedis s.now key token ttlSeconds s.redis
    (result.1, { s with redis := result.2 })

def releaseInMemory (lock : Lock) (inMemoryLocks : Store String String) : Store String String :=
  if (inMemoryLocks lock.key).map Entry.value = some lock.token then del lock.key inMemoryLocks
  else inMemoryLocks

/-- The script compares and deletes at one time. -/
def releaseInRedis (now : ℕ) (lock : Lock) (redis : Store String String) : Store String String :=
  if get now lock.key redis = some lock.token then del lock.key redis else redis

def releaseLock (place : Place) (lock : Lock) (s : Locks) : Locks :=
  if lock.key = "" ∨ lock.token = "" then s
  else
    match place with
    | .inMemory process =>
      { s with
        inMemoryLocks := Function.update s.inMemoryLocks process
          (releaseInMemory lock (s.inMemoryLocks process)) }
    | .redis => { s with redis := releaseInRedis s.now lock s.redis }

/-! ## Requests -/

/-- What a request has come to: it has no lock yet, or is where the lock protects it, or is at its
end. The lease is what it has written, and is left where it is not given back. -/
inductive Phase where
  | waiting
  | inside (lock : Lock) (lease : Lease (Place × String))
  | ended (left : Option (Lease (Place × String)))
  deriving DecidableEq, Repr

/-- What a request does. The flag tells whether Redis is ready. -/
inductive Action where
  | acquire (key : String) (ttlSeconds : ℕ+) (isRedisReady : Bool)
  /-- Redis executes the command, and its reply does not arrive. -/
  | acquireUnanswered (key : String) (ttlSeconds : ℕ+)
  | release (isRedisReady : Bool)
  /-- The lock is not given back: the process stops, or the script does not reach Redis. -/
  | abandon
  deriving DecidableEq, Repr

/-- The time that passes between two steps. -/
abbrev Elapse := ℕ

/-- The lease that an entry written now stands for. -/
def leaseOf (place : Place) (key : String) (ttlSeconds : ℕ+) (s : Locks) :
    Lease (Place × String) :=
  ⟨(place, key), s.now + ttlSeconds * 1000⟩

/-- A step of a request. `crypto.randomUUID` gives its `acquireLock` a token. -/
def act (env : Env) (process : ℕ → ℕ) (token : ℕ → String) (request : ℕ) :
    Action → Locks → Phase → Option (Locks × Phase)
  | .acquire key ttlSeconds isRedisReady, s, .waiting =>
    let place := placeOf env (process request) isRedisReady
    let result := acquireLock place (token request) key ttlSeconds s
    some (result.2, match result.1 with
      | none => .ended none
      | some lock => .inside lock (leaseOf place key ttlSeconds s))
  | .acquireUnanswered key ttlSeconds, s, .waiting =>
    let result := acquireLock .redis (token request) key ttlSeconds s
    some (result.2, .ended (result.1.map fun _ => leaseOf .redis key ttlSeconds s))
  | .release isRedisReady, s, .inside lock lease =>
    let place := placeOf env (process request) isRedisReady
    let isGivenBack := lock.key ≠ "" ∧ (place, lock.key) = lease.key
    some (releaseLock place lock s, .ended (if isGivenBack then none else some lease))
  | .abandon, s, .inside _ lease => some (s, .ended (some lease))
  | _, _, _ => none

def elapse (ms : Elapse) (s : Locks) : Locks := { s with now := s.now + ms }

def program (env : Env) (process : ℕ → ℕ) (token : ℕ → String) :
    Program Locks Phase Action Elapse where
  act := act env process token
  other := elapse

def initial : System Locks Phase where
  stored := ⟨0, empty, fun _ => empty⟩
  phase := fun _ => .waiting

/-! ## The places together -/

/-- The entries in a place. -/
def Locks.at (s : Locks) : Place → Store String String
  | .redis => s.redis
  | .inMemory process => s.inMemoryLocks process

/-- The locks with other entries in a place. -/
def Locks.set (s : Locks) (place : Place) (entries : Store String String) : Locks :=
  match place with
  | .redis => { s with redis := entries }
  | .inMemory process =>
    { s with inMemoryLocks := Function.update s.inMemoryLocks process entries }

/-- The entries of all places. -/
def Locks.entries (s : Locks) : Store (Place × String) String := fun k => s.at k.1 k.2

@[simp] theorem now_set (s : Locks) (place : Place) (entries : Store String String) :
    (s.set place entries).now = s.now := by
  cases place <;> rfl

theorem at_set_same (s : Locks) (place : Place) (entries : Store String String) :
    (s.set place entries).at place = entries := by
  cases place with
  | redis => rfl
  | inMemory process => exact Function.update_self process entries s.inMemoryLocks

theorem at_set_of_ne (s : Locks) {place other : Place} (h : other ≠ place)
    (entries : Store String String) : (s.set place entries).at other = s.at other := by
  cases place with
  | redis =>
    cases other with
    | redis => exact absurd rfl h
    | inMemory process => rfl
  | inMemory process =>
    cases other with
    | redis => rfl
    | inMemory process' =>
      have hne : process' ≠ process := fun heq => h (congrArg Place.inMemory heq)
      exact Function.update_of_ne hne entries s.inMemoryLocks

theorem set_at (s : Locks) (place : Place) : s.set place (s.at place) = s := by
  cases place with
  | redis => rfl
  | inMemory process =>
    show { s with inMemoryLocks := Function.update s.inMemoryLocks process _ } = s
    rw [show s.at (.inMemory process) = s.inMemoryLocks process from rfl, Function.update_eq_self]

/-- A write in one place is a write to the entries of all. -/
theorem entries_set_setEX (s : Locks) (place : Place) (key token : String) (ttl : ℕ) :
    (s.set place (setEX s.now key token ttl (s.at place))).entries =
      setEX s.now (place, key) token ttl s.entries := by
  funext ⟨other, k⟩
  by_cases hplace : other = place
  · subst hplace
    show ((s.set other _).at other) k = _
    rw [at_set_same]
    by_cases hk : k = key
    · rw [hk, setEX_same, setEX_same]
    · rw [setEX_other hk, setEX_other fun h => hk (congrArg Prod.snd h)]
      rfl
  · show ((s.set place _).at other) k = _
    rw [at_set_of_ne s hplace, setEX_other fun h => hplace (congrArg Prod.fst h)]
    rfl

/-- So is a removal. -/
theorem entries_set_del (s : Locks) (place : Place) (key : String) :
    (s.set place (del key (s.at place))).entries = del (place, key) s.entries := by
  funext ⟨other, k⟩
  by_cases hplace : other = place
  · subst hplace
    show ((s.set other _).at other) k = _
    rw [at_set_same]
    by_cases hk : k = key
    · rw [hk, del_same, del_same]
    · rw [del_other hk, del_other fun h => hk (congrArg Prod.snd h)]
      rfl
  · show ((s.set place _).at other) k = _
    rw [at_set_of_ne s hplace, del_other fun h => hplace (congrArg Prod.fst h)]
    rfl

/-! ## What the functions do to the entries -/

/-- The map of a process is asked as Redis is. -/
theorem acquireInMemory_eq (now : ℕ) (key token : String) (ttlSeconds : ℕ+)
    (entries : Store String String) :
    acquireInMemory now key token ttlSeconds entries =
      acquireInRedis now key token ttlSeconds entries := by
  unfold acquireInMemory acquireInRedis
  cases hentry : entries key with
  | none =>
    rw [setNX_of_none (by rw [hentry]; rfl)]
    rfl
  | some current =>
    by_cases hlive : now < current.expires
    · have hsome : live now (entries key) = some current := live_eq_some.mpr ⟨hentry, hlive⟩
      rw [setNX_of_some hsome]
      simp only [hlive, if_true]
      rfl
    · have hnone : live now (entries key) = none := by
        rw [hentry]
        simp [live, Option.filter, hlive]
      rw [setNX_of_none hnone]
      simp only [hlive, if_false]
      rfl

theorem acquireLock_eq (place : Place) (token key : String) (ttlSeconds : ℕ+) (s : Locks) :
    acquireLock place token key ttlSeconds s =
      ((acquireInRedis s.now key token ttlSeconds (s.at place)).1,
        s.set place (acquireInRedis s.now key token ttlSeconds (s.at place)).2) := by
  cases place with
  | redis => rfl
  | inMemory process =>
    simp only [acquireLock, acquireInMemory_eq]
    rfl

/-- A lock whose entry is found is refused, and nothing changes. -/
theorem acquireLock_of_some {place : Place} {key : String} {s : Locks} {entry : Entry String}
    (h : live s.now (s.entries (place, key)) = some entry) (token : String) (ttlSeconds : ℕ+) :
    acquireLock place token key ttlSeconds s = (none, s) := by
  have hplace : live s.now (s.at place key) = some entry := h
  rw [acquireLock_eq, acquireInRedis, setNX_of_some hplace]
  exact Prod.ext rfl (set_at s place)

/-- A lock whose entry is not found is acquired. -/
theorem acquireLock_of_none {place : Place} {key : String} {s : Locks}
    (h : live s.now (s.entries (place, key)) = none) (token : String) (ttlSeconds : ℕ+) :
    acquireLock place token key ttlSeconds s =
      (some ⟨key, token⟩, s.set place (setEX s.now key token (ttlSeconds * 1000) (s.at place))) := by
  have hplace : live s.now (s.at place key) = none := h
  rw [acquireLock_eq, acquireInRedis, setNX_of_none hplace]
  rfl

/-- Giving back a lock removes its entry or nothing. -/
theorem releaseLock_cases (place : Place) (lock : Lock) (s : Locks) :
    (releaseLock place lock s = s ∧
      (lock.key = "" ∨ lock.token = "" ∨
        get s.now (place, lock.key) s.entries ≠ some lock.token)) ∨
    (releaseLock place lock s = s.set place (del lock.key (s.at place)) ∧
      (s.entries (place, lock.key)).map Entry.value = some lock.token) := by
  unfold releaseLock
  split_ifs with hempty
  · exact .inl ⟨rfl, hempty.elim .inl fun h => .inr (.inl h)⟩
  · cases place with
    | redis =>
      simp only [releaseInRedis]
      split_ifs with hget
      · refine .inr ⟨rfl, ?_⟩
        obtain ⟨e, hlive, hvalue⟩ := Option.map_eq_some_iff.mp hget
        exact Option.map_eq_some_iff.mpr ⟨e, (live_eq_some.mp hlive).1, hvalue⟩
      · exact .inl ⟨rfl, .inr (.inr hget)⟩
    | inMemory process =>
      simp only [releaseInMemory]
      split_ifs with hvalue
      · exact .inr ⟨rfl, hvalue⟩
      · refine .inl ⟨by rw [Function.update_eq_self], .inr (.inr fun hget => hvalue ?_)⟩
        obtain ⟨e, hlive, htoken⟩ := Option.map_eq_some_iff.mp hget
        exact Option.map_eq_some_iff.mpr ⟨e, (live_eq_some.mp hlive).1, htoken⟩

@[simp] theorem now_releaseLock (place : Place) (lock : Lock) (s : Locks) :
    (releaseLock place lock s).now = s.now := by
  rcases releaseLock_cases place lock s with ⟨heq, -⟩ | ⟨heq, -⟩
  · rw [heq]
  · rw [heq, now_set]

/-- A lock that has a key and a token is removed where its token is found. -/
theorem releaseLock_removes {place : Place} {lock : Lock} {s : Locks} (hkey : lock.key ≠ "")
    (htoken : lock.token ≠ "") :
    Removes s.now (place, lock.key) lock.token s.entries (releaseLock place lock s).entries := by
  rcases releaseLock_cases place lock s with ⟨heq, hwhy⟩ | ⟨heq, hvalue⟩
  · rw [heq]
    exact removes_nothing ((hwhy.resolve_left hkey).resolve_left htoken)
  · rw [heq, entries_set_del]
    exact removes_del hvalue

theorem attributed_releaseLock {token : ℕ → String} {s : Locks} (h : Attributed s.entries token)
    (place : Place) (lock : Lock) : Attributed (releaseLock place lock s).entries token := by
  rcases releaseLock_cases place lock s with ⟨heq, -⟩ | ⟨heq, -⟩
  · rw [heq]
    exact h
  · rw [heq, entries_set_del]
    exact h.del _

/-! ## What holds throughout -/

/-- What a request has written, as far as it has not given it back. -/
def Phase.lease : Phase → Option (Lease (Place × String))
  | .waiting => none
  | .inside _ lease => some lease
  | .ended left => left

/-- The lock that a request is given is the one of its lease, in a place of its calls. -/
def Fits (env : Env) (process : ℕ) (token : String) (lock : Lock) (lease : Lease (Place × String)) :
    Prop :=
  lock = ⟨lease.key.2, token⟩ ∧ ∃ isRedisReady, lease.key.1 = placeOf env process isRedisReady

/-- The entries of a request are its lease, and its lock fits. -/
structure OwnInv (env : Env) (process : ℕ → ℕ) (token : ℕ → String) (r : ℕ) (s : Locks)
    (phase : Phase) : Prop where
  owned : Owned s.now s.entries (token r) phase.lease
  fits : ∀ lock lease, phase = .inside lock lease → Fits env (process r) (token r) lock lease

def assertions (env : Env) (process : ℕ → ℕ) (token : ℕ → String) : Assertions Locks Phase where
  store s := Attributed s.entries token
  own := OwnInv env process token
  both _ _ := True

theorem holds_initial (env : Env) (process : ℕ → ℕ) (token : ℕ → String) :
    Holds (assertions env process token) initial where
  store := fun ⟨place, _⟩ _ h => by cases place <;> exact nomatch h
  own _ := by
    refine ⟨?_, fun _ _ h => nomatch h⟩
    have hempty : initial.stored.entries = Expiring.empty := by
      funext ⟨place, key⟩
      cases place <;> rfl
    rw [hempty]
    exact .of_empty
  both _ _ _ := trivial

section

variable {env : Env} {process : ℕ → ℕ} {token : ℕ → String} {s : System Locks Phase} {r : ℕ}

/-- What a request writes where nothing is found is its lease. -/
theorem keeps_grant (hinj : Function.Injective token) (h : Holds (assertions env process token) s)
    (hwaiting : s.phase r = .waiting) {place : Place} {key : String}
    (hfree : live s.stored.now (s.stored.entries (place, key)) = none) (ttlSeconds : ℕ+)
    {phase : Phase} (hlease : phase.lease = some (leaseOf place key ttlSeconds s.stored))
    (hfits : ∀ lock lease, phase = .inside lock lease → Fits env (process r) (token r) lock lease) :
    Keeps (assertions env process token) s r
      ((acquireLock place (token r) key ttlSeconds s.stored).2, phase) := by
  have hentries := entries_set_setEX s.stored place key (token r) (ttlSeconds * 1000)
  have hown : Owned s.stored.now s.stored.entries (token r) none := by
    have howned := (h.own r).owned
    rwa [hwaiting] at howned
  rw [acquireLock_of_none hfree]
  refine ⟨?_, ⟨?_, hfits⟩, fun r' hr' => ⟨?_, (h.own r').fits⟩, fun _ _ => ⟨trivial, trivial⟩⟩
  · show Attributed _ token
    rw [hentries]
    exact h.store.grant r _ _
  · rw [hentries, now_set, hlease]
    exact hown.grant _
  · rw [hentries, now_set]
    exact (h.own r').owned.grant_other (fun heq => hr' (hinj heq).symm) hfree _

/-- A request that changes nothing may go on to what its lease is the same in. -/
theorem keeps_still (h : Holds (assertions env process token) s) {phase : Phase}
    (hlease : phase.lease = (s.phase r).lease)
    (hfits : ∀ lock lease, phase = .inside lock lease → Fits env (process r) (token r) lock lease) :
    Keeps (assertions env process token) s r (s.stored, phase) := by
  refine ⟨h.store, ⟨?_, hfits⟩, fun r' _ => h.own r', fun _ _ => ⟨trivial, trivial⟩⟩
  rw [hlease]
  exact (h.own r).owned

theorem keeps_acquire (hinj : Function.Injective token) (h : Holds (assertions env process token) s)
    (hwaiting : s.phase r = .waiting) (place : Place) (key : String) (ttlSeconds : ℕ+)
    (phase : Option Lock → Phase) (hnone : phase none = .ended none)
    (hlease : (phase (some ⟨key, token r⟩)).lease = some (leaseOf place key ttlSeconds s.stored))
    (hfits : ∀ lock lease, phase (some ⟨key, token r⟩) = .inside lock lease →
      Fits env (process r) (token r) lock lease) :
    Keeps (assertions env process token) s r
      ((acquireLock place (token r) key ttlSeconds s.stored).2,
        phase (acquireLock place (token r) key ttlSeconds s.stored).1) := by
  cases hlive : live s.stored.now (s.stored.entries (place, key)) with
  | some entry =>
    rw [acquireLock_of_some hlive, hnone]
    refine keeps_still h ?_ fun _ _ heq => nomatch heq
    rw [hwaiting]
    rfl
  | none =>
    have hresult : (acquireLock place (token r) key ttlSeconds s.stored).1 =
        some ⟨key, token r⟩ := by
      rw [acquireLock_of_none hlive]
    rw [hresult]
    exact keeps_grant hinj h hwaiting hlive ttlSeconds hlease hfits

theorem keeps_release (hinj : Function.Injective token) (hne : ∀ r, token r ≠ "")
    (h : Holds (assertions env process token) s) {lock : Lock} {lease : Lease (Place × String)}
    (hinside : s.phase r = .inside lock lease) (place : Place) :
    Keeps (assertions env process token) s r (releaseLock place lock s.stored,
      .ended (if lock.key ≠ "" ∧ (place, lock.key) = lease.key then none else some lease)) := by
  have howned : Owned s.stored.now s.stored.entries (token r) (some lease) := by
    have howned := (h.own r).owned
    rwa [hinside] at howned
  have htoken : lock.token = token r := by rw [((h.own r).fits lock lease hinside).1]
  by_cases hkey : lock.key = ""
  · -- The guard of `releaseLock` lets a lock without a key stay.
    have hstay : releaseLock place lock s.stored = s.stored := if_pos (.inl hkey)
    rw [hstay, if_neg fun hgiven => hgiven.1 hkey]
    refine keeps_still h ?_ fun _ _ heq => nomatch heq
    rw [hinside]
    rfl
  · have hremoves : Removes s.stored.now (place, lock.key) (token r) s.stored.entries
        (releaseLock place lock s.stored).entries := by
      rw [← htoken]
      exact releaseLock_removes hkey (by rw [htoken]; exact hne r)
    refine ⟨attributed_releaseLock h.store place lock, ⟨?_, fun _ _ heq => nomatch heq⟩,
      fun r' hr' => ⟨?_, (h.own r').fits⟩, fun _ _ => ⟨trivial, trivial⟩⟩
    · rw [now_releaseLock]
      by_cases hplace : (place, lock.key) = lease.key
      · rw [if_pos ⟨hkey, hplace⟩]
        rw [hplace] at hremoves
        exact howned.remove_self hremoves
      · rw [if_neg fun hgiven => hplace hgiven.2]
        exact howned.remove_elsewhere hplace hremoves
    · rw [now_releaseLock]
      exact (h.own r').owned.remove_other (fun heq => hr' (hinj heq).symm) hremoves

theorem holds_step (hinj : Function.Injective token) (hne : ∀ r, token r ≠ "")
    (event : Event Action Elapse) (s : System Locks Phase)
    (h : Holds (assertions env process token) s) :
    Holds (assertions env process token) (step (program env process token) event s) := by
  cases event with
  | other ms =>
    refine h.other h.store fun r => ⟨?_, (h.own r).fits⟩
    exact (h.own r).owned.later (Nat.le_add_right _ _)
  | act r action =>
    refine h.act fun result hresult => ?_
    cases hphase : s.phase r with
    | waiting =>
      rw [hphase] at hresult
      cases action with
      | acquire key ttlSeconds isRedisReady =>
        cases hresult
        refine keeps_acquire hinj h hphase (placeOf env (process r) isRedisReady) key ttlSeconds
          (fun result => match result with
            | none => .ended none
            | some lock => .inside lock (leaseOf _ key ttlSeconds s.stored)) rfl rfl ?_
        intro lock lease heq
        obtain ⟨rfl, rfl⟩ := Phase.inside.inj heq
        exact ⟨rfl, isRedisReady, rfl⟩
      | acquireUnanswered key ttlSeconds =>
        cases hresult
        exact keeps_acquire hinj h hphase .redis key ttlSeconds
          (fun lock => .ended (lock.map fun _ => leaseOf .redis key ttlSeconds s.stored)) rfl rfl
          fun _ _ heq => nomatch heq
      | release isRedisReady => exact nomatch hresult
      | abandon => exact nomatch hresult
    | inside lock lease =>
      rw [hphase] at hresult
      cases action with
      | acquire key ttlSeconds isRedisReady => exact nomatch hresult
      | acquireUnanswered key ttlSeconds => exact nomatch hresult
      | release isRedisReady =>
        cases hresult
        exact keeps_release hinj hne h hphase _
      | abandon =>
        cases hresult
        refine keeps_still h ?_ fun _ _ heq => nomatch heq
        rw [hphase]
        rfl
    | ended left =>
      rw [hphase] at hresult
      cases action <;> exact nomatch hresult

theorem holds_states (hinj : Function.Injective token) (hne : ∀ r, token r ≠ "")
    (events : List (Event Action Elapse)) :
    ∀ s ∈ states (step (program env process token)) events initial,
      Holds (assertions env process token) s :=
  states_keep (holds_step hinj hne) events initial (holds_initial env process token)

theorem placeOf_production (hproduction : env.isProduction = true)
    (hclient : env.hasRedisClient = true) (process : ℕ) (isRedisReady : Bool) :
    placeOf env process isRedisReady = .redis := by
  simp [placeOf, getLockRedisClient, hproduction, hclient]

end

/-- The requests are inside, with running leases of one key. -/
structure Overlap (s : System Locks Phase) (r r' : ℕ) (lease lease' : Lease (Place × String)) :
    Prop where
  inside : ∃ lock, s.phase r = .inside lock lease
  inside' : ∃ lock, s.phase r' = .inside lock lease'
  runs : s.stored.now < lease.expires
  runs' : s.stored.now < lease'.expires
  key : lease.key.2 = lease'.key.2

/-- A running lease is kept until it is given back, and running leases of a key are in different
places, so that there is one in production. -/
structure LeasesSafe (env : Env) (token : ℕ → String) (s : System Locks Phase) : Prop where
  kept : ∀ r lock lease, s.phase r = .inside lock lease → s.stored.now < lease.expires →
    get s.stored.now lease.key s.stored.entries = some (token r)
  apart : ∀ r r' lease lease', r ≠ r' → Overlap s r r' lease lease' → lease.key.1 ≠ lease'.key.1
  alone : env.isProduction = true → env.hasRedisClient = true →
    ∀ r r' lease lease', r ≠ r' → ¬Overlap s r r' lease lease'

/-- Whatever the requests do, and however Redis comes and goes, leases are safe. -/
theorem leases_safe (env : Env) (process : ℕ → ℕ) (token : ℕ → String)
    (hinj : Function.Injective token) (hne : ∀ r, token r ≠ "")
    (events : List (Event Action Elapse)) :
    ∀ s ∈ states (step (program env process token)) events initial, LeasesSafe env token s := by
  intro s hs
  have h := holds_states hinj hne events s hs
  have hentry : ∀ r lock lease, s.phase r = .inside lock lease → s.stored.now < lease.expires →
      live s.stored.now (s.stored.entries lease.key) = some ⟨token r, lease.expires⟩ := by
    intro r lock lease hinside hruns
    refine (h.own r).owned.entry ?_ hruns
    rw [hinside]
    rfl
  have hapart : ∀ r r' lease lease', r ≠ r' → Overlap s r r' lease lease' →
      lease.key.1 ≠ lease'.key.1 := by
    intro r r' lease lease' hr ⟨⟨lock, hinside⟩, ⟨lock', hinside'⟩, hruns, hruns', hkey⟩ hplace
    have howned := (h.own r).owned
    have howned' := (h.own r').owned
    rw [hinside] at howned
    rw [hinside'] at howned'
    exact hr (hinj (howned.unique howned' (Prod.ext hplace hkey) hruns hruns'))
  refine ⟨fun r lock lease hinside hruns => get_of_some (hentry r lock lease hinside hruns), hapart,
    fun hproduction hclient r r' lease lease' hr hoverlap => ?_⟩
  obtain ⟨lock, hinside⟩ := hoverlap.inside
  obtain ⟨lock', hinside'⟩ := hoverlap.inside'
  obtain ⟨-, ready, hplace⟩ := (h.own r).fits lock lease hinside
  obtain ⟨-, ready', hplace'⟩ := (h.own r').fits lock' lease' hinside'
  rw [placeOf_production hproduction hclient] at hplace hplace'
  exact hapart r r' lease lease' hr hoverlap (hplace.trans hplace'.symm)

/-- Tokens of different lengths. -/
def tokenOfLength (r : ℕ) : String := String.ofList (List.replicate (r + 1) 'a')

theorem tokenOfLength_injective : Function.Injective tokenOfLength := by
  intro r r' h
  have hlength := congrArg String.length h
  simpa [tokenOfLength] using hlength

theorem tokenOfLength_ne (r : ℕ) : tokenOfLength r ≠ "" := by
  intro h
  have hlength := congrArg String.length h
  simp [tokenOfLength] at hlength

/-- Two verifications of one e-mail address in production, one of which comes while the other has
the lock. -/
theorem leases_safe_in_turn :
    let events : List (Event Action Elapse) :=
      [.act 0 (.acquire "tenant_bootstrap_lock:a@b.in" 30 true), .other 10,
        .act 1 (.acquire "tenant_bootstrap_lock:a@b.in" 30 true), .act 0 (.release true)]
    LeasesSafe ⟨true, true⟩ tokenOfLength
      (run (step (program ⟨true, true⟩ id tokenOfLength)) events initial) :=
  leases_safe ⟨true, true⟩ id tokenOfLength tokenOfLength_injective tokenOfLength_ne _ _
    (run_mem_states _ _ _)

/-- A request is given a lock exactly when no lease of its key runs in the place that it asks: not
one that a request is inside with, nor one that has been left behind. -/
theorem acquire_granted_iff (env : Env) (process : ℕ → ℕ) (token : ℕ → String)
    (hinj : Function.Injective token) (hne : ∀ r, token r ≠ "")
    (events : List (Event Action Elapse)) (key : String) (ttlSeconds : ℕ+) (isRedisReady : Bool) :
    ∀ s ∈ states (step (program env process token)) events initial, ∀ r, s.phase r = .waiting →
      ((∃ lock lease, (step (program env process token)
          (.act r (.acquire key ttlSeconds isRedisReady)) s).phase r = .inside lock lease) ↔
        ∀ r' lease, (s.phase r').lease = some lease →
          lease.key = (placeOf env (process r) isRedisReady, key) →
            lease.expires ≤ s.stored.now) := by
  intro s hs r hwaiting
  have h := holds_states hinj hne events s hs
  have hphase : (step (program env process token)
      (.act r (.acquire key ttlSeconds isRedisReady)) s).phase r =
      match (acquireLock (placeOf env (process r) isRedisReady) (token r) key ttlSeconds
        s.stored).1 with
      | none => .ended none
      | some lock => .inside lock
          (leaseOf (placeOf env (process r) isRedisReady) key ttlSeconds s.stored) := by
    rw [step_act (by rw [hwaiting]; rfl)]
    exact after_phase_self s r _
  rw [hphase]
  cases hlive : live s.stored.now
      (s.stored.entries (placeOf env (process r) isRedisReady, key)) with
  | none =>
    rw [acquireLock_of_none hlive]
    refine iff_of_true ⟨_, _, rfl⟩ fun r' lease hlease hkey => ?_
    by_contra hruns
    have hentry := (h.own r').owned.entry hlease (Nat.lt_of_not_le hruns)
    rw [hkey, hlive] at hentry
    exact nomatch hentry
  | some entry =>
    rw [acquireLock_of_some hlive]
    refine iff_of_false (fun ⟨_, _, heq⟩ => nomatch heq) fun hended => ?_
    -- The entry is of some request, whose lease runs.
    obtain ⟨hentry, hruns⟩ := live_eq_some.mp hlive
    obtain ⟨r', hvalue⟩ := h.store _ entry hentry
    have howned := ((h.own r').owned (placeOf env (process r) isRedisReady, key) entry.expires).mp
      (by rw [hlive, ← hvalue])
    exact Nat.not_le_of_lt hruns (hended r' _ howned.1 rfl)

/-- The second verification of an address is given its lock when the lease of the first is over. -/
theorem acquire_granted_iff_second :
    let P := program ⟨true, true⟩ id tokenOfLength
    let s := step P (.act 0 (.acquire "tenant_bootstrap_lock:a@b.in" 30 true)) initial
    (∃ lock lease, (step P (.act 1 (.acquire "tenant_bootstrap_lock:a@b.in" 30 true)) s).phase 1 =
      .inside lock lease) ↔
    ∀ r' lease, (s.phase r').lease = some lease →
      lease.key = (.redis, "tenant_bootstrap_lock:a@b.in") → lease.expires ≤ s.stored.now :=
  acquire_granted_iff ⟨true, true⟩ id tokenOfLength tokenOfLength_injective tokenOfLength_ne
    [.act 0 (.acquire "tenant_bootstrap_lock:a@b.in" 30 true)] "tenant_bootstrap_lock:a@b.in" 30
    true _ List.mem_cons_self 1 rfl

end Docketra.RedisLock
