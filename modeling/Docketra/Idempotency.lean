import Docketra.Lib.Expiring
import Docketra.Express
import Mathlib.Data.PNat.Notation
import Mathlib.Data.PNat.Defs
import Mathlib.Data.List.Basic

/-!
# The idempotency stores

The two stores of `middleware/idempotency.middleware.js`. An entry says that the request of a key is
in progress, or holds the response of the request that has completed. What a store holds beside that
(`startedAt`, `completedAt`) is never read.

`RedisIdempotencyStore` keeps an entry as the JSON text of a record, which is taken as the record
itself: the store holds no other text. Its server is `Expiring.Store`, of which `SET … EX … NX`,
`SET … EX`, `GET`, and `DEL` are the operations. `MemoryIdempotencyStore` keeps the time of expiry
beside the entry, and looks at the clock itself.
-/

namespace Docketra.Idempotency

open Expiring

/-- `IDEMPOTENCY_TTL_SECONDS`. -/
def IDEMPOTENCY_TTL_SECONDS : ℕ+ := 60

/-- The values that a response may be: those that JSON text gives back. -/
class JsonValue (ρ : Type) where
  /-- `if (value)`. -/
  truthy : ρ → Bool

/-- An entry: its `state`, and the `response` of a completed one. -/
inductive Record (ρ : Type) where
  | in_progress
  | completed (response : ρ)
  deriving DecidableEq, Repr

/-- What `start` returns: the `status`, and the `response` if it has one. -/
inductive StartResult (ρ : Type) where
  | started
  | in_progress
  | completed (response : Option ρ)
  deriving DecidableEq, Repr

variable {ρ : Type} [JsonValue ρ]

/-- The result of `start` for an entry that exists. A response that is falsy is left out. -/
def Record.result : Record ρ → StartResult ρ
  | .in_progress => .in_progress
  | .completed response => .completed (if JsonValue.truthy response then some response else none)

/-! ## Responses -/

/-- What `JSON.stringify` makes of a character of a string. -/
def jsonChar (c : Char) : List Char :=
  let n := c.toNat
  let backslash := Char.ofNat 0x5c
  if n = 0x22 ∨ n = 0x5c then [backslash, c]
  else if n = 0x8 then [backslash, 'b']
  else if n = 0xc then [backslash, 'f']
  else if n = 0xa then [backslash, 'n']
  else if n = 0xd then [backslash, 'r']
  else if n = 0x9 then [backslash, 't']
  else if n < 0x20 then
    [backslash, 'u', '0', '0', Nat.digitChar (n / 16), Nat.digitChar (n % 16)]
  else [c]

/-- `JSON.stringify` of a string. -/
def jsonString (s : String) : String :=
  let quote := Char.ofNat 0x22
  String.ofList (quote :: s.toList.flatMap jsonChar ++ [quote])

/-- A body that has been captured: a value given to `res.json`, by its JSON text, or a string given
to `res.send`. -/
inductive Body where
  | value (text : String)
  | string (text : String)
  deriving DecidableEq, Repr

/-- What `res.json` sends of a captured body. -/
def Body.text : Body → String
  | .value text => text
  | .string text => jsonString text

/-- A response as it is stored. -/
structure Response where
  statusCode : ℕ
  body : Body
  deriving DecidableEq, Repr

/-- The response of a request whose body was not captured is `null`. -/
instance : JsonValue (Option Response) := ⟨Option.isSome⟩

/-- How a handler sends its body: through `res.json`, as a text that is JSON by its content type,
or in any other way. -/
inductive Sent where
  | json (text : String)
  | send (text : String)
  | other (text : String)
  deriving DecidableEq, Repr

/-- The body that the client gets. -/
def Sent.text : Sent → String
  | .json text => text
  | .send text => text
  | .other text => text

/-- The body that `patchResponseCapture` captures. -/
def Sent.captured : Sent → Option Body
  | .json text => some (.value text)
  | .send text => some (.string text)
  | .other _ => none

/-- The response that `patchResponseCapture` completes an entry with. -/
def capturedResponse (statusCode : ℕ) (sent : Sent) : Option Response :=
  sent.captured.map (Response.mk statusCode)

/-- `replayResponse`. -/
def replayResponse (storedResponse : Response) : Wire :=
  (if storedResponse.statusCode = 0 then 200 else storedResponse.statusCode,
    storedResponse.body.text)

/-- A string is shorter than its JSON text. -/
theorem length_lt_jsonString (s : String) : s.toList.length < (jsonString s).toList.length := by
  have hchar : ∀ c, 1 ≤ (jsonChar c).length := by
    intro c
    unfold jsonChar
    dsimp only
    split_ifs <;> simp
  have hflat : ∀ l : List Char, l.length ≤ (l.flatMap jsonChar).length := by
    intro l
    induction l with
    | nil => simp
    | cons c l ih =>
      have := hchar c
      simp only [List.flatMap_cons, List.length_cons, List.length_append]
      omega
  have := hflat s.toList
  simp only [jsonString, String.toList_ofList, List.length_append, List.length_cons]
  omega

/-- A replay gives the client what the handler has sent exactly when the handler has sent it through
`res.json`. -/
theorem replay_capturedResponse {statusCode : ℕ} (hstatus : statusCode ≠ 0) (sent : Sent) :
    (capturedResponse statusCode sent).map replayResponse = some (statusCode, sent.text) ↔
      ∃ text, sent = .json text := by
  cases sent with
  | json text => simp [capturedResponse, Sent.captured, replayResponse, Body.text, Sent.text, hstatus]
  | send text =>
    have hne : jsonString text ≠ text := by
      intro h
      have hlt := length_lt_jsonString text
      rw [h] at hlt
      omega
    simp [capturedResponse, Sent.captured, replayResponse, Body.text, Sent.text, hstatus, hne]
  | other text => simp [capturedResponse, Sent.captured]

/-! ## `MemoryIdempotencyStore` -/

namespace MemoryIdempotencyStore

/-- `purgeExpired`. -/
def purgeExpired (now : ℕ) (entries : Store String (Record ρ)) : Store String (Record ρ) :=
  fun key => live now (entries key)

/-- `start`. -/
def start (now : ℕ) (key : String) (ttlSeconds : ℕ) (entries : Store String (Record ρ)) :
    StartResult ρ × Store String (Record ρ) :=
  let entries := purgeExpired now entries
  match entries key with
  | some existing => (existing.value.result, entries)
  | none => (.started, setEX now key .in_progress (ttlSeconds * 1000) entries)

/-- `complete`. An entry that is not there is not completed. -/
def complete (now : ℕ) (key : String) (response : ρ) (ttlSeconds : ℕ)
    (entries : Store String (Record ρ)) : Store String (Record ρ) :=
  let entries := purgeExpired now entries
  match entries key with
  | some _ => setEX now key (.completed response) (ttlSeconds * 1000) entries
  | none => entries

/-- `fail`. -/
def fail (key : String) (entries : Store String (Record ρ)) : Store String (Record ρ) :=
  del key entries

end MemoryIdempotencyStore

/-! ## `RedisIdempotencyStore` -/

namespace RedisIdempotencyStore

/-- The first command of `start`: whether the mark was set, and the keys after it. -/
def startSet (now : ℕ) (key : String) (ttlSeconds : ℕ) (redis : Store String (Record ρ)) :
    Bool × Store String (Record ρ) :=
  setNX now key .in_progress (ttlSeconds * 1000) redis

/-- The second command of `start`, made when the mark was not set. -/
def startGet (now : ℕ) (key : String) (redis : Store String (Record ρ)) : StartResult ρ :=
  match get now key redis with
  -- The entry has vanished since the first command.
  | none => .in_progress
  | some parsed => parsed.result

/-- `start`, when nothing happens between its two commands. -/
def start (now : ℕ) (key : String) (ttlSeconds : ℕ) (redis : Store String (Record ρ)) :
    StartResult ρ × Store String (Record ρ) :=
  match startSet now key ttlSeconds redis with
  | (true, redis) => (.started, redis)
  | (false, redis) => (startGet now key redis, redis)

/-- `complete`, which does not look at what is stored. -/
def complete (now : ℕ) (key : String) (response : ρ) (ttlSeconds : ℕ)
    (redis : Store String (Record ρ)) : Store String (Record ρ) :=
  setEX now key (.completed response) (ttlSeconds * 1000) redis

/-- `fail`. -/
def fail (key : String) (redis : Store String (Record ρ)) : Store String (Record ρ) :=
  del key redis

end RedisIdempotencyStore

/-! ## What a call does, by what it finds -/

theorem MemoryIdempotencyStore.start_of_some {now : ℕ} {key : String} {ttlSeconds : ℕ}
    {entries : Store String (Record ρ)} {e : Entry (Record ρ)}
    (h : live now (entries key) = some e) :
    MemoryIdempotencyStore.start now key ttlSeconds entries =
      (e.value.result, MemoryIdempotencyStore.purgeExpired now entries) := by
  unfold MemoryIdempotencyStore.start MemoryIdempotencyStore.purgeExpired
  simp only [h]

theorem MemoryIdempotencyStore.start_of_none {now : ℕ} {key : String} {ttlSeconds : ℕ}
    {entries : Store String (Record ρ)} (h : live now (entries key) = none) :
    MemoryIdempotencyStore.start now key ttlSeconds entries =
      (.started, setEX now key .in_progress (ttlSeconds * 1000)
        (MemoryIdempotencyStore.purgeExpired now entries)) := by
  unfold MemoryIdempotencyStore.start MemoryIdempotencyStore.purgeExpired
  simp only [h]

omit [JsonValue ρ] in
theorem MemoryIdempotencyStore.complete_of_some {now : ℕ} {key : String} {ttlSeconds : ℕ}
    {response : ρ} {entries : Store String (Record ρ)} {e : Entry (Record ρ)}
    (h : live now (entries key) = some e) :
    MemoryIdempotencyStore.complete now key response ttlSeconds entries =
      setEX now key (.completed response) (ttlSeconds * 1000)
        (MemoryIdempotencyStore.purgeExpired now entries) := by
  unfold MemoryIdempotencyStore.complete MemoryIdempotencyStore.purgeExpired
  simp only [h]

omit [JsonValue ρ] in
theorem MemoryIdempotencyStore.complete_of_none {now : ℕ} {key : String} {ttlSeconds : ℕ}
    {response : ρ} {entries : Store String (Record ρ)} (h : live now (entries key) = none) :
    MemoryIdempotencyStore.complete now key response ttlSeconds entries =
      MemoryIdempotencyStore.purgeExpired now entries := by
  unfold MemoryIdempotencyStore.complete MemoryIdempotencyStore.purgeExpired
  simp only [h]

theorem RedisIdempotencyStore.start_of_some {now : ℕ} {key : String} {ttlSeconds : ℕ}
    {redis : Store String (Record ρ)} {e : Entry (Record ρ)}
    (h : live now (redis key) = some e) :
    RedisIdempotencyStore.start now key ttlSeconds redis = (e.value.result, redis) := by
  unfold RedisIdempotencyStore.start RedisIdempotencyStore.startSet RedisIdempotencyStore.startGet
  simp only [setNX_of_some h, get_of_some h]

theorem RedisIdempotencyStore.start_of_none {now : ℕ} {key : String} {ttlSeconds : ℕ}
    {redis : Store String (Record ρ)} (h : live now (redis key) = none) :
    RedisIdempotencyStore.start now key ttlSeconds redis =
      (.started, setEX now key .in_progress (ttlSeconds * 1000) redis) := by
  unfold RedisIdempotencyStore.start RedisIdempotencyStore.startSet
  simp only [setNX_of_none h]

end Docketra.Idempotency
