import Docketra.Lib.Lockstep
import Docketra.Idempotency

/-!
# The two idempotency stores compared

The stores get the same calls at the same times. They part at a `complete` of a key that has no
entry, which one of them ignores and the other writes: from then on the key is an orphan, stored by
Redis alone, until it is failed or expires. The answers are the same exactly when no orphan is
started (`stores_agree_iff`).
-/

namespace Docketra.Idempotency

open Expiring Lockstep Runs

variable {ρ : Type} [JsonValue ρ]

/-- A call of a store. Redis takes no time to live of zero. -/
inductive Call (ρ : Type) where
  | start (key : String) (ttlSeconds : ℕ+)
  | complete (key : String) (response : ρ) (ttlSeconds : ℕ+)
  | fail (key : String)
  deriving DecidableEq

/-- The key that a call is about. -/
def Call.key : Call ρ → String
  | .start key _ => key
  | .complete key _ _ => key
  | .fail key => key

/-- A call, and the time that has passed since the call before it. -/
structure TimedCall (ρ : Type) where
  after : ℕ
  call : Call ρ

/-- A store, and the time of the last call. -/
structure Timed (σ : Type) where
  now : ℕ
  store : σ

namespace MemoryIdempotencyStore

/-- A call of the store at a time: the result of a `start`, and the store after the call. -/
def call (now : ℕ) (entries : Store String (Record ρ)) :
    Call ρ → Option (StartResult ρ) × Store String (Record ρ)
  | .start key ttlSeconds =>
    let result := start now key ttlSeconds entries
    (some result.1, result.2)
  | .complete key response ttlSeconds => (none, complete now key response ttlSeconds entries)
  | .fail key => (none, fail key entries)

/-- The store as a machine that answers calls. -/
def answer (i : TimedCall ρ) (s : Timed (Store String (Record ρ))) :
    Option (StartResult ρ) × Timed (Store String (Record ρ)) :=
  let now := s.now + i.after
  let result := call now s.store i.call
  (result.1, ⟨now, result.2⟩)

end MemoryIdempotencyStore

namespace RedisIdempotencyStore

/-- A call of the store at a time. -/
def call (now : ℕ) (redis : Store String (Record ρ)) :
    Call ρ → Option (StartResult ρ) × Store String (Record ρ)
  | .start key ttlSeconds =>
    let result := start now key ttlSeconds redis
    (some result.1, result.2)
  | .complete key response ttlSeconds => (none, complete now key response ttlSeconds redis)
  | .fail key => (none, fail key redis)

/-- The store as a machine that answers calls. -/
def answer (i : TimedCall ρ) (s : Timed (Store String (Record ρ))) :
    Option (StartResult ρ) × Timed (Store String (Record ρ)) :=
  let now := s.now + i.after
  let result := call now s.store i.call
  (result.1, ⟨now, result.2⟩)

end RedisIdempotencyStore

/-! ## What the calls alone tell -/

/-- How a key has come to be in use: by a `start`, or by a `complete` that nothing had started. -/
inductive Origin where
  | started | orphan
  deriving DecidableEq, Repr

/-- What a call makes of the keys in use. It depends on no response and on no answer. -/
def Call.track (now : ℕ) (keys : Store String Origin) : Call ρ → Store String Origin
  | .start key ttlSeconds =>
    match live now (keys key) with
    | some _ => keys
    | none => setEX now key .started (ttlSeconds * 1000) keys
  | .complete key _ ttlSeconds =>
    match live now (keys key) with
    | some e => setEX now key e.value (ttlSeconds * 1000) keys
    | none => setEX now key .orphan (ttlSeconds * 1000) keys
  | .fail key => del key keys

/-- The keys in use after a call. -/
def track (i : TimedCall ρ) (s : Timed (Store String Origin)) : Timed (Store String Origin) :=
  ⟨s.now + i.after, i.call.track (s.now + i.after) s.store⟩

/-- The call does not start a key that an orphan is under. -/
def Call.StartsNoOrphan (now : ℕ) (keys : Store String Origin) : Call ρ → Prop
  | .start key _ => get now key keys ≠ some .orphan
  | _ => True

/-- The call does not start an orphan, at its time. -/
def StartsNoOrphan (i : TimedCall ρ) (s : Timed (Store String Origin)) : Prop :=
  i.call.StartsNoOrphan (s.now + i.after) s.store

/-! ## Calls leave the other keys as they are -/

section

variable {now : ℕ} {c : Call ρ} {k : String}

omit [JsonValue ρ] in
@[simp] theorem MemoryIdempotencyStore.live_purgeExpired (entries : Store String (Record ρ)) :
    live now (purgeExpired now entries k) = live now (entries k) := live_live _ _

theorem MemoryIdempotencyStore.call_other (h : k ≠ c.key) (entries : Store String (Record ρ)) :
    live now ((call now entries c).2 k) = live now (entries k) := by
  cases c with
  | start key ttlSeconds =>
    have hk : k ≠ key := h
    cases hkey : live now (entries key) with
    | some e => simp only [call, start_of_some hkey, live_purgeExpired]
    | none => simp only [call, start_of_none hkey, setEX_other hk, live_purgeExpired]
  | complete key response ttlSeconds =>
    have hk : k ≠ key := h
    cases hkey : live now (entries key) with
    | some e => simp only [call, complete_of_some hkey, setEX_other hk, live_purgeExpired]
    | none => simp only [call, complete_of_none hkey, live_purgeExpired]
  | fail key => exact congrArg (live now) (del_other h entries)

theorem RedisIdempotencyStore.call_other (h : k ≠ c.key) (redis : Store String (Record ρ)) :
    (call now redis c).2 k = redis k := by
  cases c with
  | start key ttlSeconds =>
    have hk : k ≠ key := h
    cases hkey : live now (redis key) with
    | some e => simp only [call, start_of_some hkey]
    | none => simp only [call, start_of_none hkey, setEX_other hk]
  | complete key response ttlSeconds => exact setEX_other h _ _ _ _
  | fail key => exact del_other h _

omit [JsonValue ρ] in
theorem Call.track_other (h : k ≠ c.key) (keys : Store String Origin) :
    c.track now keys k = keys k := by
  cases c with
  | start key ttlSeconds =>
    have hk : k ≠ key := h
    cases hkey : live now (keys key) with
    | some e => simp only [track, hkey]
    | none => simp only [track, hkey, setEX_other hk]
  | complete key response ttlSeconds =>
    have hk : k ≠ key := h
    cases hkey : live now (keys key) with
    | some e => simp only [track, hkey, setEX_other hk]
    | none => simp only [track, hkey, setEX_other hk]
  | fail key => exact del_other h _

end

/-! ## The simulation -/

/-- What the stores hold under a key, as it is found at a time. -/
inductive Matches : Option (Entry Origin) → Option (Entry (Record ρ)) →
    Option (Entry (Record ρ)) → Prop where
  | unused : Matches none none none
  | started (e : Entry (Record ρ)) : Matches (some ⟨.started, e.expires⟩) (some e) (some e)
  | orphan (e : Entry (Record ρ)) : Matches (some ⟨.orphan, e.expires⟩) none (some e)

/-- Under each key, the stores hold what its use so far says. -/
def Related (g : Timed (Store String Origin)) (s t : Timed (Store String (Record ρ))) : Prop :=
  s.now = g.now ∧ t.now = g.now ∧
    ∀ key, Matches (live g.now (g.store key)) (live g.now (s.store key)) (live g.now (t.store key))

omit [JsonValue ρ] in
/-- Entries that match go on to do so while time passes: they expire together. -/
theorem Matches.later {o : Option (Entry Origin)} {m r : Option (Entry (Record ρ))}
    (h : Matches o m r) (now : ℕ) : Matches (live now o) (live now m) (live now r) := by
  cases h with
  | unused => exact .unused
  | started e =>
    by_cases he : now < e.expires
    · simpa [live, Option.filter, he] using Matches.started e
    · simpa [live, Option.filter, he] using Matches.unused
  | orphan e =>
    by_cases he : now < e.expires
    · simpa [live, Option.filter, he] using Matches.orphan e
    · simpa [live, Option.filter, he] using Matches.unused

omit [JsonValue ρ] in
/-- The relation at the time of a call, before the call. -/
theorem Related.at {g : Timed (Store String Origin)} {s t : Timed (Store String (Record ρ))}
    (h : Related g s t) (after : ℕ) (key : String) :
    Matches (live (g.now + after) (g.store key)) (live (g.now + after) (s.store key))
      (live (g.now + after) (t.store key)) := by
  obtain ⟨-, -, hkeys⟩ := h
  have hlater := (hkeys key).later (g.now + after)
  simpa only [live_later (Nat.le_add_right g.now after)] using hlater

/-- A time to live is positive in milliseconds. -/
theorem ttl_pos (ttlSeconds : ℕ+) : 0 < (ttlSeconds : ℕ) * 1000 := by
  have := ttlSeconds.pos
  omega

/-- Stores that match under the key of a call answer it alike exactly when it starts no orphan. -/
theorem Matches.answers {now : ℕ} {c : Call ρ} {keys : Store String Origin}
    {entries redis : Store String (Record ρ)}
    (h : Matches (live now (keys c.key)) (live now (entries c.key)) (live now (redis c.key))) :
    (MemoryIdempotencyStore.call now entries c).1 = (RedisIdempotencyStore.call now redis c).1 ↔
      c.StartsNoOrphan now keys := by
  cases c with
  | start key ttlSeconds =>
    simp only [Call.key] at h
    simp only [MemoryIdempotencyStore.call, RedisIdempotencyStore.call, Call.StartsNoOrphan]
    generalize hg : live now (keys key) = origin at h
    generalize hm : live now (entries key) = memory at h
    generalize hr : live now (redis key) = stored at h
    cases h with
    | unused =>
      rw [MemoryIdempotencyStore.start_of_none hm, RedisIdempotencyStore.start_of_none hr,
        get_of_none hg]
      simp
    | started e =>
      rw [MemoryIdempotencyStore.start_of_some hm, RedisIdempotencyStore.start_of_some hr,
        get_of_some hg]
      simp
    | orphan e =>
      rw [MemoryIdempotencyStore.start_of_none hm, RedisIdempotencyStore.start_of_some hr,
        get_of_some hg]
      -- An entry that exists is never answered with `started`.
      cases e.value <;> simp [Record.result]
  | complete key response ttlSeconds => exact iff_of_true rfl trivial
  | fail key => exact iff_of_true rfl trivial

/-- What a call that starts no orphan leaves under its key. -/
theorem Matches.call {now : ℕ} {c : Call ρ} {keys : Store String Origin}
    {entries redis : Store String (Record ρ)}
    (h : Matches (live now (keys c.key)) (live now (entries c.key)) (live now (redis c.key)))
    (hok : c.StartsNoOrphan now keys) :
    Matches (live now (c.track now keys c.key))
      (live now ((MemoryIdempotencyStore.call now entries c).2 c.key))
      (live now ((RedisIdempotencyStore.call now redis c).2 c.key)) := by
  generalize hg : live now (keys c.key) = origin at h
  generalize hm : live now (entries c.key) = memory at h
  generalize hr : live now (redis c.key) = stored at h
  cases c with
  | start key ttlSeconds =>
    have hfresh := Matches.started (ρ := ρ) ⟨.in_progress, now + (ttlSeconds : ℕ) * 1000⟩
    simp only [Call.key] at hg hm hr
    simp only [MemoryIdempotencyStore.call, RedisIdempotencyStore.call, Call.track, Call.key]
    cases h with
    | unused =>
      rw [MemoryIdempotencyStore.start_of_none hm, RedisIdempotencyStore.start_of_none hr, hg]
      simpa only [setEX_same, live_fresh (ttl_pos ttlSeconds)] using hfresh
    | started e =>
      rw [MemoryIdempotencyStore.start_of_some hm, RedisIdempotencyStore.start_of_some hr, hg]
      simpa only [hg, hr, MemoryIdempotencyStore.live_purgeExpired, hm] using Matches.started e
    | orphan e => exact absurd (get_of_some hg) hok
  | complete key response ttlSeconds =>
    let e : Entry (Record ρ) := ⟨.completed response, now + (ttlSeconds : ℕ) * 1000⟩
    simp only [Call.key] at hg hm hr
    simp only [MemoryIdempotencyStore.call, RedisIdempotencyStore.call,
      RedisIdempotencyStore.complete, Call.track, Call.key]
    cases h with
    | unused =>
      rw [MemoryIdempotencyStore.complete_of_none hm, hg]
      simpa only [setEX_same, live_fresh (ttl_pos ttlSeconds),
        MemoryIdempotencyStore.live_purgeExpired, hm] using Matches.orphan e
    | started e' =>
      rw [MemoryIdempotencyStore.complete_of_some hm, hg]
      simpa only [setEX_same, live_fresh (ttl_pos ttlSeconds)] using Matches.started e
    | orphan e' =>
      rw [MemoryIdempotencyStore.complete_of_none hm, hg]
      simpa only [setEX_same, live_fresh (ttl_pos ttlSeconds),
        MemoryIdempotencyStore.live_purgeExpired, hm] using Matches.orphan e
  | fail key =>
    simpa only [MemoryIdempotencyStore.call, RedisIdempotencyStore.call, Call.track, Call.key,
      MemoryIdempotencyStore.fail, RedisIdempotencyStore.fail, del_same, live_none] using
      Matches.unused

/-- Related stores answer a call alike exactly when it starts no orphan. -/
theorem Related.answers {i : TimedCall ρ} {g : Timed (Store String Origin)}
    {s t : Timed (Store String (Record ρ))} (h : Related g s t) :
    (MemoryIdempotencyStore.answer i s).1 = (RedisIdempotencyStore.answer i t).1 ↔
      StartsNoOrphan i g := by
  obtain ⟨hs, ht, -⟩ := id h
  unfold MemoryIdempotencyStore.answer RedisIdempotencyStore.answer StartsNoOrphan
  rw [hs, ht]
  exact (h.at i.after i.call.key).answers

/-- A call that starts no orphan leaves the stores related. -/
theorem Related.step {i : TimedCall ρ} {g : Timed (Store String Origin)}
    {s t : Timed (Store String (Record ρ))} (h : Related g s t) (hok : StartsNoOrphan i g) :
    Related (track i g) (MemoryIdempotencyStore.answer i s).2
      (RedisIdempotencyStore.answer i t).2 := by
  obtain ⟨after, call⟩ := i
  obtain ⟨hs, ht, -⟩ := id h
  refine ⟨congrArg (· + after) hs, congrArg (· + after) ht, fun k => ?_⟩
  unfold track MemoryIdempotencyStore.answer RedisIdempotencyStore.answer
  simp only [hs, ht]
  by_cases hkey : k = call.key
  · rw [hkey]
    exact (h.at after call.key).call hok
  · rw [Call.track_other hkey, MemoryIdempotencyStore.call_other hkey,
      RedisIdempotencyStore.call_other hkey]
    exact h.at after k

/-- The stores are related through the calls that they get. -/
theorem tracks : Tracks (MemoryIdempotencyStore.answer (ρ := ρ)) RedisIdempotencyStore.answer
    track StartsNoOrphan Related :=
  ⟨Related.answers, Related.step⟩

/-- Two stores that start empty give the same answers to a sequence of calls exactly when no call of
it starts an orphan. -/
theorem stores_agree_iff (calls : List (TimedCall ρ)) :
    outputs MemoryIdempotencyStore.answer calls ⟨0, empty⟩ =
        outputs RedisIdempotencyStore.answer calls ⟨0, empty⟩ ↔
      Admits track StartsNoOrphan calls ⟨0, empty⟩ :=
  tracks.outputs_eq_iff calls ⟨rfl, rfl, fun _ => .unused⟩

/-- A request of a minute and a second, and another one with its key a second later. The memory
store has let go of the first when it completes, and starts the second; Redis answers the second
with the response of the first. -/
theorem stores_agree_fails :
    outputs (MemoryIdempotencyStore.answer (ρ := Option Response))
        [⟨0, .start "k" IDEMPOTENCY_TTL_SECONDS⟩,
          ⟨61000, .complete "k" (some ⟨200, .value "1"⟩) IDEMPOTENCY_TTL_SECONDS⟩,
          ⟨1000, .start "k" IDEMPOTENCY_TTL_SECONDS⟩] ⟨0, empty⟩ ≠
      outputs RedisIdempotencyStore.answer
        [⟨0, .start "k" IDEMPOTENCY_TTL_SECONDS⟩,
          ⟨61000, .complete "k" (some ⟨200, .value "1"⟩) IDEMPOTENCY_TTL_SECONDS⟩,
          ⟨1000, .start "k" IDEMPOTENCY_TTL_SECONDS⟩] ⟨0, empty⟩ := by
  decide

end Docketra.Idempotency
