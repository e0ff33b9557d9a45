import Docketra.Lib.Runs
import Docketra.Text
import Docketra.InFlight

/-!
# The keys of the idempotency guard

The guard stands before the routers: `createApp.js`, `mountPlatformRoutes.js`, and
`mountTenantRoutes.js` mount it under path prefixes, and a request meets it once for each mount that
matches its path, until a router answers the request. There is no route yet when the guard runs, so
that the stored key is made of the prefix, the firm, and the header of the request. Neither the
method nor the rest of the path is in it.

A request is turned away by a guard when something is stored under its key. In a run of requests
where what is still stored under a key was written for the same request, received within the time to
live, a request is turned away for that reason only (`turned_away_justified`).
-/

namespace Docketra.Idempotency

open Expiring Runs

/-! ## Requests and mounts -/

/-- `req.method`. -/
inductive Method where
  | GET | HEAD | OPTIONS | POST | PUT | PATCH | DELETE
  deriving DecidableEq, Repr

/-- `mutatingMethods`. -/
def mutatingMethods : List Method := [.POST, .PUT, .PATCH, .DELETE]

/-- What the guard reads of a request. `segments` are the parts of the path between its slashes. -/
structure Request where
  id : ℕ
  method : Method
  segments : List String
  idempotencyKey : Option String := none
  firmSlug : Option String := none
  /-- `req.firm?.firmSlug`. -/
  firmFirmSlug : Option String := none
  /-- `req.params?.firmSlug`. -/
  paramsFirmSlug : Option String := none
  /-- `req.user?.firmSlug`. -/
  userFirmSlug : Option String := none
  /-- `req.user?.firmId`. -/
  userFirmId : Option String := none
  firmId : Option String := none
  deriving DecidableEq, Repr

/-- A part of the path that a router is mounted at. -/
inductive Segment where
  | literal (text : String)
  | param
  deriving DecidableEq, Repr

/-- Express compares the parts of a path without regard to case. -/
def Segment.accepts : Segment → String → Bool
  | .literal text, s => toLowerCase s = toLowerCase text
  | .param, s => s != ""

/-- A path under a mount: the parts that the mount matches, and the rest. -/
def matchMount : List Segment → List String → Option (List String × List String)
  | [], rest => some ([], rest)
  | segment :: mount, s :: rest =>
    if segment.accepts s then (matchMount mount rest).map fun m => (s :: m.1, m.2) else none
  | _ :: _, [] => none

/-- A path of literal parts, below `/api`. -/
def api (path : List String) : List Segment := .literal "api" :: path.map .literal

/-- The mounts of `writeGuardChain`, in order. -/
def guardMounts : List (List Segment) :=
  -- `mountPlatformRoutes`
  [api ["auth"], [.literal "auth"], api ["public"], [.literal "public"], api ["categories"],
    api ["work-types"], api ["admin"], api ["dashboard"], api ["docketra-intelligence"], api ["sla"],
    api ["sa"], api ["superadmin"], [.literal "superadmin"],
    -- `createApp`; the first of them is not mounted in production
    api ["debug"], api ["clients"], api ["reports"], api ["leads"], api ["forms"],
    -- `mountTenantRoutes`
    api ["users"], api ["tasks"], api ["compliance-calendar"], api ["cases"], api ["dockets"],
    api [], api ["attachments"], api ["search"], api ["worklists"], api ["client-approval"],
    api ["crm", "clients"], api ["landing-pages"], api ["deals"], api ["invoices"],
    api ["reports"], api ["insights"], [.literal "api", .literal "firm", .param], api ["firm"],
    api ["files"],
    api ["tenant"], api ["docket-storage"], api ["notifications"], api ["teams"],
    api ["bulk-upload"], api ["product-updates"], api ["settings"], api ["knowledge-items"],
    api ["email-captures"], api ["document-items"], api ["client-portal"],
    api ["docket-exceptions"], api ["docket-efforts"], api []]

/-! ## The key -/

/-- The text of a path. -/
def pathText (segments : List String) : String :=
  String.ofList (segments.flatMap fun s => '/' :: s.toList)

/-- `req.path`, of the rest of a path below its mount. -/
def requestPath (rest : List String) : String := if rest = [] then "/" else pathText rest

/-- `resolveRouteSegment`, where there is no route: `req.baseUrl || req.path`. -/
def resolveRouteSegment (baseUrl path : String) : String :=
  let route := if baseUrl = "" then path else baseUrl
  String.ofList ((route.toList.filter fun c => !isWhitespace c).map
    fun c => if c = '/' then ':' else c)

/-- `resolveFirmSlug`. -/
def resolveFirmSlug (req : Request) : String :=
  (orElse req.firmSlug (orElse req.firmFirmSlug (orElse req.paramsFirmSlug (orElse req.userFirmSlug
    (orElse req.userFirmId (orElse req.firmId (some "unknown-firm"))))))).getD ""

/-- `buildDistributedKey`. -/
def buildDistributedKey (req : Request) (baseUrl path idempotencyKey : String) : String :=
  "idempotency:" ++ resolveRouteSegment baseUrl path ++ ":" ++ resolveFirmSlug req ++ ":" ++
    trim idempotencyKey

/-- What the guard does with a request before it looks at the store. -/
inductive Guarded where
  /-- The guard lets the request through. -/
  | next
  /-- 400, `idempotency_key_required`. -/
  | idempotency_key_required
  | keyed (key : String)
  deriving DecidableEq, Repr

/-- The path, below its mount, is the one that mails come in at. -/
def isEmailsInbound : List String → Bool
  | [] => false
  | ["emails", "inbound"] => true
  | _ :: rest => isEmailsInbound rest

/-- `writeGuardChain`, up to the store, under a mount that has matched `matched` of the path. -/
def writeGuardChain (req : Request) (matched rest : List String) : Guarded :=
  if req.method ∉ mutatingMethods then .next
  else if isEmailsInbound rest then .next
  else match req.idempotencyKey with
    | none => .idempotency_key_required
    | some "" => .idempotency_key_required
    | some key => .keyed (buildDistributedKey req (pathText matched) (requestPath rest) key)

/-- The stored key of a request at a mount, when the mount matches and the guard looks for it. -/
def storedKey (req : Request) (mount : List Segment) : Option String :=
  match matchMount mount req.segments with
  | none => none
  | some (matched, rest) =>
    match writeGuardChain req matched rest with
    | .keyed key => some key
    | _ => none

/-- The same request, made again: the same method, path, firm, and key. -/
def SameRequest (req req' : Request) : Prop :=
  req.method = req'.method ∧ req.segments = req'.segments ∧
    resolveFirmSlug req = resolveFirmSlug req' ∧
    req.idempotencyKey.map trim = req'.idempotencyKey.map trim

instance (req req' : Request) : Decidable (SameRequest req req') :=
  inferInstanceAs (Decidable (_ ∧ _ ∧ _ ∧ _))

/-! ## Runs of requests -/

/-- A request that has come to a guard with its key. `until` is when what it has written under the
key expires. -/
structure Visit where
  req : Request
  key : String
  time : ℕ
  expires : ℕ
  deriving DecidableEq

/-- A request that a guard has turned away, and the visits before it. -/
structure TurnedAway where
  req : Request
  time : ℕ
  earlier : List Visit

/-- The store, the visits so far, the last one last, and the requests that were turned away. -/
structure Guards where
  now : ℕ
  redis : Store String (Record (Option Response))
  visits : List Visit
  turnedAway : List TurnedAway

/-- Before any request. -/
def Guards.initial : Guards := ⟨0, empty, [], []⟩

/-- What may happen next. -/
inductive Arrival where
  | wait (milliseconds : ℕ)
  /-- A request comes to the guard of a mount. -/
  | visit (req : Request) (mount : Fin guardMounts.length)
  /-- The response of a request that the guard has passed on is told to the store, under the key of
  one of its visits. -/
  | finalize (visit : ℕ) (statusCode : StatusCode) (response : Option Response)

/-- When what a visit has written expires, after its response has been told to the store. -/
def Visit.told (now : ℕ) (statusCode : StatusCode) (v : Visit) : Visit :=
  { v with expires := if 500 ≤ statusCode.val then now else now + ttl }

/-- One step. The first command of `start` decides whether a request is passed on. The second one
writes nothing, and leads to 409 or to a stored response (`outcome_startGet`). -/
def arrive : Arrival → Guards → Guards
  | .wait milliseconds, s => { s with now := s.now + milliseconds }
  | .visit req mount, s =>
    match storedKey req (guardMounts.get mount) with
    | none => s
    | some key =>
      match RedisIdempotencyStore.startSet s.now key IDEMPOTENCY_TTL_SECONDS s.redis with
      | (true, redis) =>
        { s with redis := redis, visits := s.visits ++ [⟨req, key, s.now, s.now + ttl⟩] }
      | (false, _) =>
        { s with
          visits := s.visits ++ [⟨req, key, s.now, s.now⟩]
          turnedAway := ⟨req, s.now, s.visits⟩ :: s.turnedAway }
  | .finalize n statusCode response, s =>
    match s.visits[n]? with
    | none => s
    | some v =>
      { s with
        redis := finalized v.key s.now statusCode response s.redis
        visits := s.visits.modify n (Visit.told s.now statusCode) }

/-- A request that is turned away has an earlier one like it, received within the time to live. -/
def Justified (a : TurnedAway) : Prop :=
  ∃ u ∈ a.earlier, u.req.id ≠ a.req.id ∧ SameRequest u.req a.req ∧ a.time < u.time + ttl

/-- What a step must meet for that: whoever has written under the key of a request that arrives, and
whose entry has not expired, is another request like it, received within the time to live. -/
def Separate : Arrival → Guards → Prop
  | .visit req mount, s =>
    ∀ u ∈ s.visits, some u.key = storedKey req (guardMounts.get mount) → s.now < u.expires →
      u.req.id ≠ req.id ∧ SameRequest u.req req ∧ s.now < u.time + ttl
  | _, _ => True

instance (a : TurnedAway) : Decidable (Justified a) :=
  inferInstanceAs (Decidable (∃ u ∈ a.earlier, _))

instance : ∀ (i : Arrival) (s : Guards), Decidable (Separate i s)
  | .wait _, _ => isTrue trivial
  | .visit req mount, s => inferInstanceAs (Decidable (∀ u ∈ s.visits,
      some u.key = storedKey req (guardMounts.get mount) → s.now < u.expires →
        u.req.id ≠ req.id ∧ SameRequest u.req req ∧ s.now < u.time + ttl))
  | .finalize _ _ _, _ => isTrue trivial

/-- Whatever the second command of `start` finds, the request is not passed on. -/
theorem outcome_startGet (now : ℕ) (key : String)
    (redis : Store String (Record (Option Response))) :
    outcome (RedisIdempotencyStore.startGet now key redis) ≠ .next := by
  unfold RedisIdempotencyStore.startGet
  cases get now key redis with
  | none => simp [outcome]
  | some record =>
    cases record with
    | in_progress => simp [Record.result, outcome]
    | completed response => cases response <;> simp [Record.result, JsonValue.truthy, outcome]

/-- A guard that finds nothing under the key of a request passes it on. -/
theorem arrive_of_none {req : Request} {mount : Fin guardMounts.length} {s : Guards}
    {key : String} (hkey : storedKey req (guardMounts.get mount) = some key)
    (hlive : live s.now (s.redis key) = none) :
    arrive (.visit req mount) s =
      { s with
        redis := setEX s.now key .in_progress ttl s.redis
        visits := s.visits ++ [⟨req, key, s.now, s.now + ttl⟩] } := by
  have hset := setNX_of_none hlive .in_progress ttl
  simp only [arrive, hkey, RedisIdempotencyStore.startSet]
  rw [show (IDEMPOTENCY_TTL_SECONDS : ℕ) * 1000 = ttl from rfl, hset]

/-- A guard that finds an entry under the key of a request turns it away. -/
theorem arrive_of_some {req : Request} {mount : Fin guardMounts.length} {s : Guards}
    {key : String} {e : Entry (Record (Option Response))}
    (hkey : storedKey req (guardMounts.get mount) = some key)
    (hlive : live s.now (s.redis key) = some e) :
    arrive (.visit req mount) s =
      { s with
        visits := s.visits ++ [⟨req, key, s.now, s.now⟩]
        turnedAway := ⟨req, s.now, s.visits⟩ :: s.turnedAway } := by
  have hset := setNX_of_some hlive .in_progress ttl
  simp only [arrive, hkey, RedisIdempotencyStore.startSet]
  rw [show (IDEMPOTENCY_TTL_SECONDS : ℕ) * 1000 = ttl from rfl, hset]

/-- Whatever is stored was written by a visit, and expires when the visit says at the latest. -/
structure Written (s : Guards) : Prop where
  written : ∀ {key e}, live s.now (s.redis key) = some e →
    ∃ u ∈ s.visits, u.key = key ∧ e.expires ≤ u.expires
  justified : ∀ a ∈ s.turnedAway, Justified a

theorem Written.initial : Written Guards.initial := by
  constructor
  · intro key e he
    rw [show live Guards.initial.now (Guards.initial.redis key) = none from rfl] at he
    cases he
  · exact fun a ha => absurd ha List.not_mem_nil

theorem Written.wait {s : Guards} (h : Written s) (milliseconds : ℕ) :
    Written (arrive (.wait milliseconds) s) := by
  refine ⟨?_, h.justified⟩
  intro key e he
  rw [live_eq_some] at he
  obtain ⟨hentry, hexpires⟩ := he
  have hnow : s.now < e.expires := Nat.lt_of_le_of_lt (Nat.le_add_right _ _) hexpires
  exact h.written (live_eq_some.mpr ⟨hentry, hnow⟩)

/-- A guard passes a request on when nothing is stored under its key. -/
theorem Written.passed {s : Guards} (h : Written s) (req : Request) (key : String) :
    Written { s with
      redis := setEX s.now key .in_progress ttl s.redis
      visits := s.visits ++ [⟨req, key, s.now, s.now + ttl⟩] } := by
  refine ⟨?_, h.justified⟩
  intro k e he
  by_cases hk : k = key
  · subst hk
    have hfresh : e = ⟨.in_progress, s.now + ttl⟩ := by
      simpa [eq_comm] using (live_eq_some.mp he).1
    subst hfresh
    exact ⟨⟨req, k, s.now, s.now + ttl⟩, List.mem_append_right _ List.mem_cons_self, rfl,
      Nat.le_refl _⟩
  · rw [show live s.now (setEX s.now key .in_progress ttl s.redis k) = live s.now (s.redis k) by
      rw [setEX_other hk]] at he
    obtain ⟨u, hu, hukey, huexpires⟩ := h.written he
    exact ⟨u, List.mem_append_left _ hu, hukey, huexpires⟩

/-- A guard turns a request away that has an earlier one like it. -/
theorem Written.turnedAway {s : Guards} (h : Written s) {req : Request} {key : String}
    (hjustified : Justified ⟨req, s.now, s.visits⟩) :
    Written { s with
      visits := s.visits ++ [⟨req, key, s.now, s.now⟩]
      turnedAway := ⟨req, s.now, s.visits⟩ :: s.turnedAway } := by
  constructor
  · intro k e he
    obtain ⟨u, hu, hukey, huexpires⟩ := h.written he
    exact ⟨u, List.mem_append_left _ hu, hukey, huexpires⟩
  · intro a ha
    rcases List.mem_cons.mp ha with rfl | ha
    · exact hjustified
    · exact h.justified a ha

theorem Written.visit {s : Guards} (h : Written s) {req : Request}
    {mount : Fin guardMounts.length} (hok : Separate (.visit req mount) s) :
    Written (arrive (.visit req mount) s) := by
  cases hkey : storedKey req (guardMounts.get mount) with
  | none =>
    simp only [arrive, hkey]
    exact h
  | some key =>
    cases hlive : live s.now (s.redis key) with
    | none =>
      rw [arrive_of_none hkey hlive]
      exact h.passed req key
    | some e =>
      rw [arrive_of_some hkey hlive]
      refine h.turnedAway ?_
      -- Whoever has written the entry is the earlier request.
      obtain ⟨u, hu, hukey, huexpires⟩ := h.written hlive
      have hexpires : s.now < u.expires :=
        Nat.lt_of_lt_of_le (live_eq_some.mp hlive).2 huexpires
      exact ⟨u, hu, hok u hu (by rw [hukey, hkey]) hexpires⟩

/-- Another visit than the one that is told stays in the record. -/
theorem mem_modify_of_ne {l : List Visit} {n : ℕ} {u v : Visit} (f : Visit → Visit)
    (hv : l[n]? = some v) (hu : u ∈ l) (hne : u ≠ v) : u ∈ l.modify n f := by
  obtain ⟨m, hm⟩ := List.mem_iff_getElem?.mp hu
  have hmn : n ≠ m := by
    rintro rfl
    exact hne (Option.some.inj (hm.symm.trans hv))
  refine List.mem_iff_getElem?.mpr ⟨m, ?_⟩
  rw [List.getElem?_modify, hm]
  simp [hmn]

/-- The visit that is told is in the record as it is then. -/
theorem mem_modify_self {l : List Visit} {n : ℕ} {v : Visit} (f : Visit → Visit)
    (hv : l[n]? = some v) : f v ∈ l.modify n f := by
  refine List.mem_iff_getElem?.mpr ⟨n, ?_⟩
  rw [List.getElem?_modify, hv]
  simp

/-- The store after a response has been told to it: under the key, what was told, if anything. -/
theorem live_finalized_self {now : ℕ} {key : String} {statusCode : StatusCode}
    {response : Option Response} {redis : Store String (Record (Option Response))}
    {e : Entry (Record (Option Response))}
    (he : live now (finalized key now statusCode response redis key) = some e) :
    ¬500 ≤ statusCode.val ∧ e.expires = now + ttl := by
  have hentry := (live_eq_some.mp he).1
  unfold finalized RedisIdempotencyStore.fail RedisIdempotencyStore.complete at hentry
  split_ifs at hentry with hstatus
  · rw [del_same] at hentry
    cases hentry
  · rw [setEX_same] at hentry
    cases hentry
    exact ⟨hstatus, rfl⟩

/-- The store after a response has been told to it, under another key. -/
theorem finalized_other {now : ℕ} {key k : String} (hk : k ≠ key) (statusCode : ℕ)
    (response : Option Response) (redis : Store String (Record (Option Response))) :
    finalized key now statusCode response redis k = redis k := by
  unfold finalized RedisIdempotencyStore.fail RedisIdempotencyStore.complete
  split_ifs
  · exact del_other hk redis
  · exact setEX_other hk _ _ _ _

theorem Written.finalize {s : Guards} (h : Written s) (n : ℕ) (statusCode : StatusCode)
    (response : Option Response) : Written (arrive (.finalize n statusCode response) s) := by
  simp only [arrive]
  cases hn : s.visits[n]? with
  | none => exact h
  | some v =>
    refine ⟨?_, h.justified⟩
    intro k e he
    by_cases hk : k = v.key
    · subst hk
      obtain ⟨hstatus, hexpires⟩ := live_finalized_self he
      refine ⟨_, mem_modify_self _ hn, rfl, ?_⟩
      rw [hexpires, Visit.told, if_neg hstatus]
    · dsimp only at he
      rw [finalized_other hk] at he
      obtain ⟨u, hu, hukey, huexpires⟩ := h.written he
      have hne : u ≠ v := by
        rintro rfl
        exact hk hukey.symm
      exact ⟨u, mem_modify_of_ne _ hn hu hne, hukey, huexpires⟩

/-- A step that keeps the requests under one key apart keeps the record. -/
theorem Written.step {s : Guards} (h : Written s) {i : Arrival} (hok : Separate i s) :
    Written (arrive i s) := by
  cases i with
  | wait milliseconds => exact h.wait milliseconds
  | visit req mount => exact h.visit hok
  | finalize n statusCode response => exact h.finalize n statusCode response

/-- In a run where those who have written under the key of a request that arrives, and whose entries
have not expired, are other requests like it, received within the time to live, a request that is
turned away is turned away for such a request. -/
theorem turned_away_justified {arrivals : List Arrival}
    (h : Admits arrive Separate arrivals Guards.initial) :
    ∀ s ∈ states arrive arrivals Guards.initial, ∀ a ∈ s.turnedAway, Justified a := by
  have hstep : ∀ i s, Written s → Separate i s → Written (arrive i s) :=
    fun _ _ h hok => h.step hok
  intro s hs
  exact (states_invariant hstep arrivals Guards.initial Written.initial h s hs).justified

/-- Of two visits with one key, within the time to live of each other, the second is turned away,
whatever the requests are. -/
theorem turnedAway_of_storedKey_eq {req req' : Request} {mount mount' : Fin guardMounts.length}
    {key : String} {milliseconds : ℕ} (hkey : storedKey req (guardMounts.get mount) = some key)
    (hkey' : storedKey req' (guardMounts.get mount') = some key) (hwait : milliseconds < ttl) :
    (run arrive [.visit req mount, .wait milliseconds, .visit req' mount']
        Guards.initial).turnedAway =
      [⟨req', 0 + milliseconds, [⟨req, key, 0, 0 + ttl⟩]⟩] := by
  have hlive : live (0 + milliseconds)
      (setEX 0 key (.in_progress : Record (Option Response)) ttl empty key) =
        some ⟨.in_progress, 0 + ttl⟩ := by
    rw [setEX_same, live_eq_some]
    exact ⟨rfl, Nat.add_lt_add_left hwait 0⟩
  simp only [run]
  rw [arrive_of_none hkey rfl, arrive_of_some hkey' hlive]
  rfl

/-- A request of a firm under `/api/dockets`. -/
def docketRequest (id : ℕ) (method : Method) (path : List String) (key : String) : Request where
  id := id
  method := method
  segments := "api" :: "dockets" :: path
  idempotencyKey := some key
  firmSlug := some "acme"

/-- The mount of the docket routes. -/
def docketsMount : Fin guardMounts.length := ⟨22, by decide⟩

/-- The key that the docket requests of the firm have in common, whatever they are for. -/
def docketsKey : String := "idempotency::api:dockets:acme:k"

/-- A request is repeated after a second, while the first is in progress, and turned away. -/
theorem turned_away_justified_repeat :
    (run arrive
        [.visit (docketRequest 1 .POST ["D1", "comments"] "k") docketsMount, .wait 1000,
          .visit (docketRequest 2 .POST ["D1", "comments"] "k") docketsMount]
        Guards.initial).turnedAway.map (·.req.id) = [2] ∧
      ∀ s ∈ states arrive
          [.visit (docketRequest 1 .POST ["D1", "comments"] "k") docketsMount, .wait 1000,
            .visit (docketRequest 2 .POST ["D1", "comments"] "k") docketsMount] Guards.initial,
        ∀ a ∈ s.turnedAway, Justified a := by
  constructor
  · have hfirst : storedKey (docketRequest 1 .POST ["D1", "comments"] "k")
        (guardMounts.get docketsMount) = some docketsKey := by
      decide
    have hsecond : storedKey (docketRequest 2 .POST ["D1", "comments"] "k")
        (guardMounts.get docketsMount) = some docketsKey := by
      decide
    rw [turnedAway_of_storedKey_eq hfirst hsecond (by decide)]
    rfl
  · exact turned_away_justified ⟨by decide, trivial, by decide, trivial⟩

/-- A request below `/api` that no router knows. -/
def unknownRequest : Request where
  id := 1
  method := .POST
  segments := ["api", "unknown"]
  idempotencyKey := some "fresh"
  firmSlug := some "acme"

/-- Two requests for different dockets, with different methods, and the same header: the second is
turned away by the first. And a request whose path no router knows meets the guard of `/api` twice,
and is turned away by itself. -/
theorem turned_away_fails :
    (∃ a ∈ (run arrive [.visit (docketRequest 1 .POST ["D1", "comments"] "k") docketsMount,
        .wait 1000, .visit (docketRequest 2 .PUT ["D2"] "k") docketsMount]
          Guards.initial).turnedAway, a.req.id = 2 ∧ ¬Justified a) ∧
      ∃ a ∈ (run arrive [.visit unknownRequest ⟨23, by decide⟩, .wait 10,
        .visit unknownRequest ⟨50, by decide⟩] Guards.initial).turnedAway,
          a.earlier.map (fun u => u.req.id) = [a.req.id] ∧ ¬Justified a := by
  constructor
  · have hfirst : storedKey (docketRequest 1 .POST ["D1", "comments"] "k")
        (guardMounts.get docketsMount) = some docketsKey := by
      decide
    have hsecond : storedKey (docketRequest 2 .PUT ["D2"] "k") (guardMounts.get docketsMount) =
        some docketsKey := by
      decide
    rw [turnedAway_of_storedKey_eq hfirst hsecond (by decide)]
    exact ⟨_, List.mem_cons_self, rfl, by decide⟩
  · have hfirst : storedKey unknownRequest (guardMounts.get ⟨23, by decide⟩) =
        some "idempotency::api:acme:fresh" := by
      decide
    have hsecond : storedKey unknownRequest (guardMounts.get ⟨50, by decide⟩) =
        some "idempotency::api:acme:fresh" := by
      decide
    rw [turnedAway_of_storedKey_eq hfirst hsecond (by decide)]
    exact ⟨_, List.mem_cons_self, rfl, by decide⟩

end Docketra.Idempotency
