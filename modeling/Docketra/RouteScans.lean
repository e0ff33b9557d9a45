import Docketra.Lib.OrderedMaps
import Docketra.Lib.Runs
import Docketra.Lib.SlidingWindows
import Docketra.Text
import Mathlib.Data.Finset.Card

/-!
# Route scans

`noteApiActivity` in `services/securityTelemetry.service.js` keeps, for each IP address, the API
paths that were requested within the last two minutes, and raises an alert when there are 21
different ones. The list is a window of `eventWindows`: `pushWindowValue` cuts it to the entries of
the two minutes and to the last 200, and so does `pruneWindowEntries`, after any of the telemetry's
functions and by a timer. The alert is raised unless one with its key is in its cooldown. Between
finding the threshold reached and raising the alert the call may wait for another alert.

A system is the two maps, with the clock, and with what the code does not keep: all requests, and all
alerts that were raised. The other functions of the telemetry set and delete windows and cooldowns
under keys of their own. As long as the maps stay within their limit, a call finds the threshold
reached exactly when the last 200 requests of the two minutes cover 21 paths (`scans_found`). So
200 requests of one path hide the paths before them (`scans_hidden`).

Times are milliseconds of a clock that does not go back.
-/

namespace Docketra.RouteScans

open Runs SlidingWindows

def MAX_TELEMETRY_KEYS : ℕ := 5000

def MAX_WINDOW_EVENTS : ℕ := 200

def ALERT_COOLDOWN : ℕ := 10 * 60 * 1000

def API_ENUMERATION_THRESHOLD : ℕ := 21

/-- `SECURITY_METRIC_WINDOWS.apiEnumeration`. -/
def apiEnumeration : ℕ := 2 * 60 * 1000

/-- `ALERT_TYPES.API_ENUMERATION_DETECTED`. -/
def API_ENUMERATION_DETECTED : String := "api_enumeration_detected"

/-! ## Requests -/

/-- What `noteApiActivity` reads of a request. -/
structure Req where
  originalUrl : Option String := none
  url : Option String := none
  forwardedFor : Option String := none
  ip : Option String := none
  realIp : Option String := none
  connectionAddress : Option String := none
  socketAddress : Option String := none
  userId : Option String := none
  deriving DecidableEq, Repr

/-- `text.split(separator)[0]`. -/
def firstPart (separator : Char) (text : String) : String :=
  String.ofList (text.toList.takeWhile (· ≠ separator))

/-- `getRequestIp`. -/
def getRequestIp (req : Req) : String :=
  if hasText req.forwardedFor then trim (firstPart ',' (req.forwardedFor.getD ""))
  else (orElse req.ip (orElse req.realIp (orElse req.connectionAddress
    (orElse req.socketAddress (some "unknown"))))).getD ""

/-- The path of a request. -/
def pathOf (req : Req) : String := firstPart '?' ((orElse req.originalUrl req.url).getD "")

/-- `text.startsWith(start)`. -/
def startsWith (text start : String) : Bool := start.toList.isPrefixOf text.toList

/-- The paths that are counted: those of the API, but for its health and its metrics. -/
def isCounted (path : String) : Bool :=
  !(!startsWith path "/api" || startsWith path "/api/health" || startsWith path "/api/metrics")

/-! ## The maps -/

/-- An entry of a window, with a text for its value. -/
structure Entry where
  value : String
  timestamp : ℕ
  deriving DecidableEq, Repr

/-- A value of `eventWindows`. -/
structure Window where
  entries : List Entry
  windowMs : ℕ
  lastUpdatedAt : ℕ
  deriving DecidableEq, Repr

/-- A value of `alertCooldowns`. -/
structure Cooldown where
  timestamp : ℕ
  lastUpdatedAt : ℕ
  deriving DecidableEq, Repr

/-- `enforceMapLimit`. -/
def enforceMapLimit {β : Type} (map : OrderedMap String β) (getTimestamp : β → ℕ) :
    OrderedMap String β :=
  if map.size ≤ MAX_TELEMETRY_KEYS then map
  else
    let overflow := map.size - MAX_TELEMETRY_KEYS
    let oldestEntries := (map.entries.mergeSort fun left right =>
      getTimestamp left.2 ≤ getTimestamp right.2).take overflow
    oldestEntries.foldl (fun map entry => map.delete entry.1) map

/-- The body of the loop of `pruneWindowEntries`. -/
def pruneWindow (now : ℕ) (state : Window) : Option Window :=
  if state.windowMs = 0 then none
  else
    let entries := recent Entry.timestamp state.windowMs now state.entries
    if entries = [] then none
    else some { state with entries := entries.rtake MAX_WINDOW_EVENTS, lastUpdatedAt := now }

/-- `pruneWindowEntries`. -/
def pruneWindowEntries (now : ℕ) (eventWindows : OrderedMap String Window) :
    OrderedMap String Window :=
  enforceMapLimit (eventWindows.refresh (pruneWindow now)) Window.lastUpdatedAt

/-- The body of the loop of `pruneCooldowns`. -/
def pruneCooldown (now : ℕ) (state : Cooldown) : Option Cooldown :=
  if ALERT_COOLDOWN < now - state.timestamp then none else some state

/-- `pruneCooldowns`. -/
def pruneCooldowns (now : ℕ) (alertCooldowns : OrderedMap String Cooldown) :
    OrderedMap String Cooldown :=
  enforceMapLimit (alertCooldowns.refresh (pruneCooldown now)) Cooldown.lastUpdatedAt

/-- The entries that `pushWindowValue` keeps, and returns. -/
def pushedEntries (now : ℕ) (state : Option Window) (value : String) (windowMs : ℕ) : List Entry :=
  let trimmed := recent Entry.timestamp windowMs now ((state.map Window.entries).getD [])
  (trimmed ++ [{ value, timestamp := now : Entry }]).rtake MAX_WINDOW_EVENTS

/-- `pushWindowValue`, up to the prune. -/
def pushWindowValue (now : ℕ) (eventWindows : OrderedMap String Window) (key value : String)
    (windowMs : ℕ) : OrderedMap String Window :=
  eventWindows.set key
    { entries := pushedEntries now (eventWindows.get key) value windowMs
      windowMs
      lastUpdatedAt := now }

/-- `[...new Set(values)]`. -/
def unique (values : List String) : List String := values.reverse.dedup.reverse

/-- The different paths of the entries. -/
def uniqueRoutes (routeEntries : List Entry) : List String :=
  unique ((routeEntries.map Entry.value).filter (· ≠ ""))

/-- The key of an IP's window. -/
def routesKey (ip : String) : String := "api:routes:" ++ ip

/-- `buildAlertCooldownKey`, without a key that is given. -/
def buildAlertCooldownKey (alertType : String) (userId : Option String) (ipAddress : String) :
    String :=
  alertType ++ ":" ++ (orElse userId (some "anonymous")).getD "" ++ ":" ++
    (orElse (some ipAddress) (some "unknown")).getD ""

/-- Whether `shouldEmitAlert` lets an alert through, by the cooldown of its key. -/
def emits (now : ℕ) (existing : Option Cooldown) : Bool :=
  match existing with
  | some state => !(now - state.timestamp < ALERT_COOLDOWN)
  | none => true

/-- The cooldown that `shouldEmitAlert` sets. -/
def cooldownAfter (now : ℕ) (existing : Option Cooldown) : Cooldown :=
  match existing with
  | some state =>
    if now - state.timestamp < ALERT_COOLDOWN then { state with lastUpdatedAt := now }
    else ⟨now, now⟩
  | none => ⟨now, now⟩

/-! ## The system -/

/-- An alert that a call is about to raise. -/
structure Alert where
  userId : Option String
  ip : String
  uniqueRoutes : List String
  deriving DecidableEq, Repr

/-- The key of an alert's cooldown. -/
def Alert.key (alert : Alert) : String :=
  buildAlertCooldownKey API_ENUMERATION_DETECTED alert.userId alert.ip

/-- The two maps and the clock; the alerts that calls are about to raise; and all requests, with
their IPs, and all alerts that were raised, with their keys and times. -/
structure System where
  clock : ℕ
  eventWindows : OrderedMap String Window
  alertCooldowns : OrderedMap String Cooldown
  waiting : List Alert
  requests : List (String × Entry)
  raised : List (String × ℕ)

/-- The system when it starts. -/
def start : System := ⟨0, .empty, .empty, [], [], []⟩

/-- What happens, with the time since the last event: `noteApiActivity` up to the alert, the alert
of one of the calls, a prune, and another function's write to a window or to a cooldown. -/
inductive Event where
  | request (req : Req) (elapsed : ℕ)
  | alert (i : ℕ) (elapsed : ℕ)
  | prune (elapsed : ℕ)
  | window (key : String) (state : Option Window) (elapsed : ℕ)
  | cooldown (key : String) (state : Option Cooldown) (elapsed : ℕ)

/-- A value is set under a key, or the key is deleted. -/
def write {β : Type} (map : OrderedMap String β) (key : String) : Option β → OrderedMap String β
  | some value => map.set key value
  | none => map.delete key

/-- `noteApiActivity`, up to the alert. -/
def noteApiActivity (now : ℕ) (req : Req) (s : System) : System :=
  let path := pathOf req
  if isCounted path then
    let ip := getRequestIp req
    let routeEntries := pushedEntries now (s.eventWindows.get (routesKey ip)) path apiEnumeration
    { s with
      eventWindows := pushWindowValue now s.eventWindows (routesKey ip) path apiEnumeration
      waiting :=
        if API_ENUMERATION_THRESHOLD ≤ (uniqueRoutes routeEntries).length then
          s.waiting ++ [⟨req.userId, ip, uniqueRoutes routeEntries⟩]
        else s.waiting
      requests := s.requests ++ [(ip, ⟨path, now⟩)] }
  else s

/-- `emitSecurityAlert`, for the `i`-th of the alerts. -/
def emitSecurityAlert (now : ℕ) (i : ℕ) (s : System) : System :=
  match s.waiting[i]? with
  | none => s
  | some alert =>
    let existing := s.alertCooldowns.get alert.key
    { s with
      alertCooldowns := s.alertCooldowns.set alert.key (cooldownAfter now existing)
      waiting := s.waiting.eraseIdx i
      raised := s.raised ++ if emits now existing then [(alert.key, now)] else [] }

/-- The time of an event. -/
def Event.elapsed : Event → ℕ
  | .request _ elapsed | .alert _ elapsed | .prune elapsed | .window _ _ elapsed
  | .cooldown _ _ elapsed => elapsed

/-- What an event does, at its time. -/
def perform (now : ℕ) (event : Event) (s : System) : System :=
  match event with
  | .request req _ => noteApiActivity now req s
  | .alert i _ => emitSecurityAlert now i s
  | .prune _ =>
    { s with
      eventWindows := pruneWindowEntries now s.eventWindows
      alertCooldowns := pruneCooldowns now s.alertCooldowns }
  | .window key state _ => { s with eventWindows := write s.eventWindows key state }
  | .cooldown key state _ => { s with alertCooldowns := write s.alertCooldowns key state }

/-- What an event does. -/
def step (event : Event) (s : System) : System :=
  { perform (s.clock + event.elapsed) event s with clock := s.clock + event.elapsed }

/-! ## What is asked -/

/-- The maps are within their limit. -/
def Within (s : System) : Prop :=
  s.eventWindows.size ≤ MAX_TELEMETRY_KEYS ∧ s.alertCooldowns.size ≤ MAX_TELEMETRY_KEYS

/-- The other functions write under keys of their own. -/
def Event.Own : Event → Prop
  | .window key _ _ => ∀ ip, key ≠ routesKey ip
  | .cooldown key _ _ => ∀ alert : Alert, key ≠ alert.key
  | _ => True

/-- What a log holds under a key: the requests of an IP, or the times of the alerts of a key. -/
def under {β : Type} (key : String) (log : List (String × β)) : List β :=
  (log.filter fun entry => entry.1 = key).map Prod.snd

/-- The requests of a request's IP within the window, with the request itself. -/
def recentRequests (s : System) (req : Req) (elapsed : ℕ) : List Entry :=
  recent Entry.timestamp apiEnumeration (s.clock + elapsed)
    (under (getRequestIp req) s.requests ++ [⟨pathOf req, s.clock + elapsed⟩])

/-- The number of different paths. -/
def distinctPaths (requests : List Entry) : ℕ := (requests.map Entry.value).toFinset.card

/-- A call finds the threshold reached: there is an alert to raise. -/
def Finds (s : System) (req : Req) (elapsed : ℕ) : Prop :=
  ∃ alert, (step (.request req elapsed) s).waiting = s.waiting ++ [alert]

/-- A call finds the threshold reached as soon as the requests within the window cover it. -/
def FindsAll (event : Event) (s : System) : Prop :=
  match event with
  | .request req elapsed => Finds s req elapsed ↔
      isCounted (pathOf req) = true ∧
        API_ENUMERATION_THRESHOLD ≤ distinctPaths (recentRequests s req elapsed)
  | _ => True

/-- A call finds the threshold reached exactly when the last requests within the window cover it, so
never when all of them do not; and an alert is raised unless one with its key has been raised within
the cooldown. -/
def FindsLast (event : Event) (s : System) : Prop :=
  match event with
  | .request req elapsed =>
    (Finds s req elapsed ↔ isCounted (pathOf req) = true ∧ API_ENUMERATION_THRESHOLD ≤
        distinctPaths ((recentRequests s req elapsed).rtake MAX_WINDOW_EVENTS)) ∧
      (distinctPaths (recentRequests s req elapsed) < API_ENUMERATION_THRESHOLD →
        (step event s).waiting = s.waiting)
  | .alert i elapsed => ∀ alert, s.waiting[i]? = some alert →
      (step event s).raised = s.raised ++
        if ∃ t ∈ under alert.key s.raised, s.clock + elapsed - t < ALERT_COOLDOWN then []
        else [(alert.key, s.clock + elapsed)]
  | _ => (step event s).waiting = s.waiting ∧ (step event s).raised = s.raised

/-! ## One window -/

/-- The entries of a window, where there is one. -/
def entriesOf (window : Option Window) : List Entry := (window.map Window.entries).getD []

/-- The window of an IP, with all requests of the IP. -/
structure WindowInv (clock : ℕ) (window : Option Window) (history : List Entry) : Prop where
  width : ∀ state, window = some state → state.windowMs = apiEnumeration
  ordered : Ordered Entry.timestamp (entriesOf window)
  before : ∀ entry ∈ entriesOf window, entry.timestamp ≤ clock
  tracks : Tracks Entry.timestamp apiEnumeration MAX_WINDOW_EVENTS clock (entriesOf window) history

variable {clock now : ℕ} {window : Option Window} {history : List Entry}

theorem WindowInv.empty : WindowInv clock none [] where
  width := nofun
  ordered := List.Pairwise.nil
  before := nofun
  tracks := tracks_nil

theorem WindowInv.later (h : WindowInv clock window history) (hle : clock ≤ now) :
    WindowInv now window history where
  width := h.width
  ordered := h.ordered
  before := fun entry hentry => (h.before entry hentry).trans hle
  tracks := h.tracks.later hle

theorem pushedEntries_eq (now : ℕ) (window : Option Window) (path : String) (windowMs : ℕ) :
    pushedEntries now window path windowMs =
      (recent Entry.timestamp windowMs now (entriesOf window) ++ [Entry.mk path now]).rtake
        MAX_WINDOW_EVENTS := rfl

/-- What `pushWindowValue` keeps is read off from the requests. -/
theorem WindowInv.pushedEntries_eq (h : WindowInv clock window history) (hle : clock ≤ now)
    (path : String) : pushedEntries now window path apiEnumeration =
      (recent Entry.timestamp apiEnumeration now (history ++ [Entry.mk path now])).rtake
        MAX_WINDOW_EVENTS := by
  rw [RouteScans.pushedEntries_eq]
  exact h.tracks.push_eq hle h.ordered (fun entry hentry => (h.before entry hentry).trans hle) rfl

theorem entriesOf_some (entries : List Entry) (windowMs lastUpdatedAt : ℕ) :
    entriesOf (some ⟨entries, windowMs, lastUpdatedAt⟩) = entries := rfl

theorem WindowInv.push (h : WindowInv clock window history) (hle : clock ≤ now) (path : String) :
    WindowInv now (some ⟨pushedEntries now window path apiEnumeration, apiEnumeration, now⟩)
      (history ++ [Entry.mk path now]) := by
  have hbefore : ∀ entry ∈ entriesOf window, entry.timestamp ≤ now :=
    fun entry hentry => (h.before entry hentry).trans hle
  have hordered : Ordered Entry.timestamp
      (recent Entry.timestamp apiEnumeration now (entriesOf window) ++ [Entry.mk path now]) :=
    ordered_push h.ordered hbefore rfl
  constructor
  · intro state hstate
    rw [← Option.some.inj hstate]
  · rw [entriesOf_some, RouteScans.pushedEntries_eq]
    exact hordered.rtake
  · intro entry hentry
    rw [entriesOf_some, RouteScans.pushedEntries_eq] at hentry
    rcases List.mem_append.mp (mem_of_mem_rtake hentry) with hentry | hentry
    · exact hbefore entry (recent_sublist.subset hentry)
    · rw [List.mem_singleton.mp hentry]
  · rw [entriesOf_some, RouteScans.pushedEntries_eq]
    exact h.tracks.push hle h.ordered hbefore rfl

/-- The entries that a prune leaves. -/
theorem WindowInv.entriesOf_prune (h : WindowInv clock window history) :
    entriesOf (window.bind (pruneWindow now)) =
      (recent Entry.timestamp apiEnumeration now (entriesOf window)).rtake MAX_WINDOW_EVENTS := by
  cases window with
  | none => exact (List.rtake_nil _).symm
  | some state =>
    obtain ⟨entries, windowMs, lastUpdatedAt⟩ := state
    have hwidth : windowMs = apiEnumeration := h.width _ rfl
    simp only [Option.bind_some, pruneWindow, hwidth, entriesOf_some]
    rw [if_neg (by decide)]
    split_ifs with hnil
    · rw [hnil, List.rtake_nil]
      rfl
    · rw [entriesOf_some]

theorem WindowInv.prune (h : WindowInv clock window history) (hle : clock ≤ now) :
    WindowInv now (window.bind (pruneWindow now)) history where
  width := by
    intro state hstate
    obtain ⟨before, hbefore, hprune⟩ := Option.bind_eq_some_iff.mp hstate
    have hwidth := h.width before hbefore
    simp only [pruneWindow] at hprune
    split_ifs at hprune
    rw [← Option.some.inj hprune]
    exact hwidth
  ordered := by
    rw [h.entriesOf_prune]
    exact h.ordered.recent.rtake
  before := by
    intro entry hentry
    rw [h.entriesOf_prune] at hentry
    exact (h.before entry (recent_sublist.subset (mem_of_mem_rtake hentry))).trans hle
  tracks := by
    rw [h.entriesOf_prune]
    exact h.tracks.prune hle h.ordered

/-! ## One cooldown -/

/-- The cooldown of a key, with the times at which its alerts were raised. -/
structure CooldownInv (clock : ℕ) (cooldown : Option Cooldown) (raised : List ℕ) : Prop where
  last : ∀ state, cooldown = some state →
    state.timestamp ∈ raised ∧ ∀ t ∈ raised, t ≤ state.timestamp
  gone : cooldown = none → ∀ t ∈ raised, ALERT_COOLDOWN < clock - t

variable {cooldown : Option Cooldown} {raised : List ℕ}

theorem CooldownInv.empty : CooldownInv clock none [] := ⟨nofun, nofun⟩

theorem CooldownInv.later (h : CooldownInv clock cooldown raised) (hle : clock ≤ now) :
    CooldownInv now cooldown raised where
  last := h.last
  gone := fun hnone t ht => (h.gone hnone t ht).trans_le (Nat.sub_le_sub_right hle t)

/-- An alert is let through unless one has been raised within the cooldown. -/
theorem CooldownInv.emits_iff (h : CooldownInv now cooldown raised) :
    emits now cooldown = true ↔ ¬ ∃ t ∈ raised, now - t < ALERT_COOLDOWN := by
  cases hstate : cooldown with
  | none =>
    refine iff_of_true rfl ?_
    rintro ⟨t, ht, hlt⟩
    have hgone := h.gone hstate t ht
    omega
  | some state =>
    obtain ⟨hmem, hlast⟩ := h.last state hstate
    simp only [emits, Bool.not_eq_true', decide_eq_false_iff_not]
    refine not_congr ⟨fun hlt => ⟨state.timestamp, hmem, hlt⟩, ?_⟩
    rintro ⟨t, ht, hlt⟩
    have hle := hlast t ht
    omega

theorem CooldownInv.emit (h : CooldownInv now cooldown raised) (hbefore : ∀ t ∈ raised, t ≤ now) :
    CooldownInv now (some (cooldownAfter now cooldown))
      (raised ++ if emits now cooldown then [now] else []) where
  last := by
    intro state hstate
    rw [← Option.some.inj hstate]
    have hnew : ∀ t ∈ raised ++ [now], t ≤ now := by
      intro t ht
      rcases List.mem_append.mp ht with ht | ht
      · exact hbefore t ht
      · rw [List.mem_singleton.mp ht]
    have hnow : now ∈ raised ++ [now] := List.mem_append_right _ (List.mem_singleton_self now)
    cases hcooldown : cooldown with
    | none => exact ⟨hnow, hnew⟩
    | some existing =>
      by_cases hlt : now - existing.timestamp < ALERT_COOLDOWN
      · simpa [cooldownAfter, emits, hlt] using h.last existing hcooldown
      · rw [cooldownAfter, emits, if_neg hlt, decide_eq_false hlt]
        exact ⟨hnow, hnew⟩
  gone := nofun

theorem CooldownInv.prune (h : CooldownInv now cooldown raised) :
    CooldownInv now (cooldown.bind (pruneCooldown now)) raised where
  last := by
    intro state hstate
    obtain ⟨before, hbefore, hprune⟩ := Option.bind_eq_some_iff.mp hstate
    unfold pruneCooldown at hprune
    split_ifs at hprune
    rw [← Option.some.inj hprune]
    exact h.last before hbefore
  gone := by
    intro hnone t ht
    cases hcooldown : cooldown with
    | none => exact h.gone hcooldown t ht
    | some state =>
      rw [hcooldown, Option.bind_some, pruneCooldown] at hnone
      have hle := (h.last state hcooldown).2 t ht
      split_ifs at hnone with hold
      omega

/-! ## The system's invariant -/

theorem mem_under {β : Type} {key : String} {log : List (String × β)} {b : β} :
    b ∈ under key log ↔ (key, b) ∈ log := by
  simp [under]

theorem under_concat {β : Type} (key key' : String) (log : List (String × β)) (b : β) :
    under key (log ++ [(key', b)]) = if key = key' then under key log ++ [b] else under key log := by
  unfold under
  rw [List.filter_append, List.map_append]
  split_ifs with h
  · simp [h]
  · simp [Ne.symm h]

theorem under_append_if {β : Type} (key key' : String) (log : List (String × β)) (b : β) (p : Bool) :
    under key (log ++ if p then [(key', b)] else []) =
      if key = key' then under key log ++ (if p then [b] else []) else under key log := by
  cases p with
  | true => exact under_concat key key' log b
  | false => simp

theorem routesKey_injective {ip ip' : String} (h : routesKey ip = routesKey ip') : ip = ip' := by
  have hlist := congrArg String.toList h
  rw [routesKey, routesKey, String.toList_append, String.toList_append] at hlist
  exact String.toList_inj.mp (List.append_cancel_left hlist)

/-- Between two events: the maps are within their limit, each window tracks the requests of its IP,
and each cooldown the alerts of its key. -/
structure Inv (s : System) : Prop where
  within : Within s
  window : ∀ ip, WindowInv s.clock (s.eventWindows.get (routesKey ip)) (under ip s.requests)
  cooldown : ∀ alert : Alert,
    CooldownInv s.clock (s.alertCooldowns.get alert.key) (under alert.key s.raised)
  paths : ∀ request ∈ s.requests, request.2.value ≠ ""
  before : ∀ alert ∈ s.raised, alert.2 ≤ s.clock

/-- An event that keeps to its keys and leaves the maps within their limit. -/
def Ok (event : Event) (s : System) : Prop := event.Own ∧ Within (step event s)

theorem inv_start : Inv start where
  within := ⟨Nat.zero_le _, Nat.zero_le _⟩
  window := fun _ => .empty
  cooldown := fun _ => .empty
  paths := nofun
  before := nofun

theorem enforceMapLimit_of_within {β : Type} {map : OrderedMap String β}
    (h : map.size ≤ MAX_TELEMETRY_KEYS) (getTimestamp : β → ℕ) :
    enforceMapLimit map getTimestamp = map := if_pos h

theorem ne_empty_of_isCounted {path : String} (h : isCounted path = true) : path ≠ "" := by
  rintro rfl
  exact absurd h (by decide)

variable {s : System}

/-- Time passes, and nothing of the IPs' windows and the alerts' cooldowns changes. -/
theorem Inv.frame {s' : System} (h : Inv s) (hclock : s.clock ≤ s'.clock) (hwithin : Within s')
    (hwindow : ∀ ip, s'.eventWindows.get (routesKey ip) = s.eventWindows.get (routesKey ip))
    (hcooldown : ∀ alert : Alert,
      s'.alertCooldowns.get alert.key = s.alertCooldowns.get alert.key)
    (hrequests : s'.requests = s.requests) (hraised : s'.raised = s.raised) : Inv s' where
  within := hwithin
  window := fun ip => by
    rw [hwindow, hrequests]
    exact (h.window ip).later hclock
  cooldown := fun alert => by
    rw [hcooldown, hraised]
    exact (h.cooldown alert).later hclock
  paths := hrequests ▸ h.paths
  before := fun alert halert => (h.before alert (hraised ▸ halert)).trans hclock

theorem step_request (req : Req) (elapsed : ℕ) : step (.request req elapsed) s =
    { noteApiActivity (s.clock + elapsed) req s with clock := s.clock + elapsed } := rfl

theorem step_alert (i elapsed : ℕ) : step (.alert i elapsed) s =
    { emitSecurityAlert (s.clock + elapsed) i s with clock := s.clock + elapsed } := rfl

/-- A request of a path that is counted. -/
theorem step_of_counted {req : Req} (hcounted : isCounted (pathOf req) = true) {elapsed : ℕ} :
    step (.request req elapsed) s =
      let ip := getRequestIp req
      let routeEntries := pushedEntries (s.clock + elapsed) (s.eventWindows.get (routesKey ip))
        (pathOf req) apiEnumeration
      { s with
        clock := s.clock + elapsed
        eventWindows := pushWindowValue (s.clock + elapsed) s.eventWindows (routesKey ip)
          (pathOf req) apiEnumeration
        waiting :=
          if API_ENUMERATION_THRESHOLD ≤ (uniqueRoutes routeEntries).length then
            s.waiting ++ [⟨req.userId, ip, uniqueRoutes routeEntries⟩]
          else s.waiting
        requests := s.requests ++ [(ip, ⟨pathOf req, s.clock + elapsed⟩)] } := by
  rw [step_request, noteApiActivity, if_pos hcounted]

theorem step_of_not_counted {req : Req} (hcounted : isCounted (pathOf req) ≠ true) {elapsed : ℕ} :
    step (.request req elapsed) s = { s with clock := s.clock + elapsed } := by
  rw [step_request, noteApiActivity, if_neg hcounted]

/-- An alert of a call. -/
theorem step_of_alert {i : ℕ} {alert : Alert} (hi : s.waiting[i]? = some alert) {elapsed : ℕ} :
    step (.alert i elapsed) s =
      let existing := s.alertCooldowns.get alert.key
      { s with
        clock := s.clock + elapsed
        alertCooldowns :=
          s.alertCooldowns.set alert.key (cooldownAfter (s.clock + elapsed) existing)
        waiting := s.waiting.eraseIdx i
        raised := s.raised ++
          if emits (s.clock + elapsed) existing then [(alert.key, s.clock + elapsed)] else [] } := by
  rw [step_alert, emitSecurityAlert, hi]

theorem step_of_no_alert {i : ℕ} (hi : s.waiting[i]? = none) {elapsed : ℕ} :
    step (.alert i elapsed) s = { s with clock := s.clock + elapsed } := by
  rw [step_alert, emitSecurityAlert, hi]

theorem Inv.request (h : Inv s) (req : Req) (elapsed : ℕ)
    (hwithin : Within (step (.request req elapsed) s)) : Inv (step (.request req elapsed) s) := by
  have hle : s.clock ≤ s.clock + elapsed := Nat.le_add_right _ _
  by_cases hcounted : isCounted (pathOf req) = true
  · rw [step_of_counted hcounted] at hwithin ⊢
    constructor
    · exact hwithin
    · intro ip
      simp only [pushWindowValue]
      rw [OrderedMap.get_set, under_concat]
      by_cases hip : ip = getRequestIp req
      · rw [hip, if_pos rfl, if_pos rfl]
        exact (h.window _).push hle _
      · rw [if_neg fun heq => hip (routesKey_injective heq), if_neg hip]
        exact (h.window ip).later hle
    · exact fun alert => (h.cooldown alert).later hle
    · intro request hrequest
      rcases List.mem_append.mp hrequest with hrequest | hrequest
      · exact h.paths request hrequest
      · rw [List.mem_singleton.mp hrequest]
        exact ne_empty_of_isCounted hcounted
    · exact fun alert halert => (h.before alert halert).trans hle
  · rw [step_of_not_counted hcounted] at hwithin ⊢
    exact h.frame hle hwithin (fun _ => rfl) (fun _ => rfl) rfl rfl

theorem Inv.alert (h : Inv s) (i elapsed : ℕ) (hwithin : Within (step (.alert i elapsed) s)) :
    Inv (step (.alert i elapsed) s) := by
  have hle : s.clock ≤ s.clock + elapsed := Nat.le_add_right _ _
  cases hi : s.waiting[i]? with
  | none =>
    rw [step_of_no_alert hi] at hwithin ⊢
    exact h.frame hle hwithin (fun _ => rfl) (fun _ => rfl) rfl rfl
  | some alert =>
    rw [step_of_alert hi] at hwithin ⊢
    constructor
    · exact hwithin
    · exact fun ip => (h.window ip).later hle
    · intro other
      have hother := (h.cooldown other).later hle
      simp only
      rw [OrderedMap.get_set, under_append_if]
      by_cases hkey : other.key = alert.key
      · rw [if_pos hkey, if_pos hkey, hkey]
        rw [hkey] at hother
        exact hother.emit fun t ht => (h.before _ (mem_under.mp ht)).trans hle
      · rw [if_neg hkey, if_neg hkey]
        exact hother
    · exact h.paths
    · intro r hr
      rcases List.mem_append.mp hr with hr | hr
      · exact (h.before r hr).trans hle
      · split_ifs at hr
        · rw [List.mem_singleton.mp hr]
        · cases hr

theorem Inv.prune (h : Inv s) (elapsed : ℕ) : Inv (step (.prune elapsed) s) := by
  have hle : s.clock ≤ s.clock + elapsed := Nat.le_add_right _ _
  have hstep : step (.prune elapsed) s =
      { s with
        eventWindows := s.eventWindows.refresh (pruneWindow (s.clock + elapsed))
        alertCooldowns := s.alertCooldowns.refresh (pruneCooldown (s.clock + elapsed))
        clock := s.clock + elapsed } := by
    -- The maps were within their limit before, so that nothing overflows.
    have hwindows := (s.eventWindows.size_refresh_le (pruneWindow (s.clock + elapsed))).trans
      h.within.1
    have hcooldowns := (s.alertCooldowns.size_refresh_le (pruneCooldown (s.clock + elapsed))).trans
      h.within.2
    simp only [step, perform, Event.elapsed, pruneWindowEntries, pruneCooldowns]
    rw [enforceMapLimit_of_within hwindows, enforceMapLimit_of_within hcooldowns]
  rw [hstep]
  constructor
  · exact ⟨(OrderedMap.size_refresh_le _ _).trans h.within.1,
      (OrderedMap.size_refresh_le _ _).trans h.within.2⟩
  · intro ip
    simp only
    rw [OrderedMap.get_refresh]
    exact (h.window ip).prune hle
  · intro alert
    simp only
    rw [OrderedMap.get_refresh]
    exact ((h.cooldown alert).later hle).prune
  · exact h.paths
  · exact fun r hr => (h.before r hr).trans hle

theorem get_write_of_ne {β : Type} (map : OrderedMap String β) {key key' : String}
    (hne : key' ≠ key) (state : Option β) : (write map key state).get key' = map.get key' := by
  cases state with
  | none =>
    rw [write, OrderedMap.get_delete, if_neg hne]
  | some value =>
    rw [write, OrderedMap.get_set, if_neg hne]

/-- Every event that keeps to its keys and leaves the maps within their limit keeps the invariant. -/
theorem Inv.step {event : Event} (h : Inv s) (hok : Ok event s) : Inv (step event s) := by
  obtain ⟨hown, hwithin⟩ := hok
  have hle : s.clock ≤ s.clock + event.elapsed := Nat.le_add_right _ _
  cases event with
  | request req elapsed => exact h.request req elapsed hwithin
  | alert i elapsed => exact h.alert i elapsed hwithin
  | prune elapsed => exact h.prune elapsed
  | window key state elapsed =>
    exact h.frame hle hwithin (fun ip => get_write_of_ne _ (hown ip).symm state) (fun _ => rfl)
      rfl rfl
  | cooldown key state elapsed =>
    exact h.frame hle hwithin (fun _ => rfl)
      (fun alert => get_write_of_ne _ (hown alert).symm state) rfl rfl

/-! ## What a call finds -/

theorem length_unique (values : List String) : (unique values).length = values.toFinset.card := by
  rw [unique, List.length_reverse, ← List.card_toFinset, List.toFinset_reverse]

theorem length_uniqueRoutes {entries : List Entry} (h : ∀ entry ∈ entries, entry.value ≠ "") :
    (uniqueRoutes entries).length = distinctPaths entries := by
  have hfilter : (entries.map Entry.value).filter (· ≠ "") = entries.map Entry.value := by
    refine List.filter_eq_self.mpr fun value hvalue => ?_
    obtain ⟨entry, hentry, rfl⟩ := List.mem_map.mp hvalue
    exact decide_eq_true (h entry hentry)
  rw [uniqueRoutes, hfilter, length_unique, distinctPaths]

/-- Fewer requests cover no more paths. -/
theorem distinctPaths_mono {entries entries' : List Entry} (h : entries ⊆ entries') :
    distinctPaths entries ≤ distinctPaths entries' := by
  refine Finset.card_le_card fun value hvalue => ?_
  rw [List.mem_toFinset] at hvalue ⊢
  exact List.map_subset Entry.value h hvalue

/-- The paths of a request that is counted, and of those before it. -/
theorem Inv.paths_recent (h : Inv s) {req : Req} (hcounted : isCounted (pathOf req) = true)
    (elapsed : ℕ) : ∀ entry ∈ recentRequests s req elapsed, entry.value ≠ "" := by
  intro entry hentry
  rcases List.mem_append.mp (recent_sublist.subset hentry) with hentry | hentry
  · exact h.paths _ (mem_under.mp hentry)
  · rw [List.mem_singleton.mp hentry]
    exact ne_empty_of_isCounted hcounted

/-- The number of paths that a call counts. -/
theorem Inv.length_routes (h : Inv s) {req : Req} (hcounted : isCounted (pathOf req) = true)
    (elapsed : ℕ) :
    (uniqueRoutes (pushedEntries (s.clock + elapsed)
        (s.eventWindows.get (routesKey (getRequestIp req))) (pathOf req) apiEnumeration)).length =
      distinctPaths ((recentRequests s req elapsed).rtake MAX_WINDOW_EVENTS) := by
  rw [(h.window (getRequestIp req)).pushedEntries_eq (Nat.le_add_right _ _)]
  exact length_uniqueRoutes fun entry hentry =>
    h.paths_recent hcounted elapsed entry (mem_of_mem_rtake hentry)

/-- A call of a counted path waits to raise an alert when the last requests cover the threshold. -/
theorem Inv.waiting_request (h : Inv s) {req : Req} (hcounted : isCounted (pathOf req) = true)
    (elapsed : ℕ) : ∃ alert, (RouteScans.step (.request req elapsed) s).waiting =
      if API_ENUMERATION_THRESHOLD ≤
          distinctPaths ((recentRequests s req elapsed).rtake MAX_WINDOW_EVENTS) then
        s.waiting ++ [alert]
      else s.waiting := by
  rw [step_of_counted hcounted, ← h.length_routes hcounted elapsed]
  dsimp only
  generalize uniqueRoutes _ = routes
  exact ⟨⟨req.userId, getRequestIp req, routes⟩, rfl⟩

theorem waiting_of_not_counted {req : Req} (hcounted : isCounted (pathOf req) ≠ true)
    (elapsed : ℕ) : (step (.request req elapsed) s).waiting = s.waiting := by
  rw [step_of_not_counted hcounted]

theorem ne_concat {β : Type} (l : List β) (b : β) : l ≠ l ++ [b] := by
  intro h
  have hlength := congrArg List.length h
  rw [List.length_append, List.length_singleton] at hlength
  omega

theorem Inv.finds_iff (h : Inv s) (req : Req) (elapsed : ℕ) :
    Finds s req elapsed ↔ isCounted (pathOf req) = true ∧ API_ENUMERATION_THRESHOLD ≤
      distinctPaths ((recentRequests s req elapsed).rtake MAX_WINDOW_EVENTS) := by
  unfold Finds
  by_cases hcounted : isCounted (pathOf req) = true
  · obtain ⟨alert, hwaiting⟩ := h.waiting_request hcounted elapsed
    rw [hwaiting, and_iff_right hcounted]
    split_ifs with hreached
    · exact iff_of_true ⟨alert, rfl⟩ hreached
    · exact iff_of_false (fun ⟨other, hother⟩ => ne_concat _ other hother) hreached
  · rw [waiting_of_not_counted hcounted elapsed]
    exact iff_of_false (fun ⟨other, hother⟩ => ne_concat _ other hother) fun hreached =>
      hcounted hreached.1

/-- When all requests within the window cover fewer paths, no alert is raised. -/
theorem Inv.waiting_of_few (h : Inv s) {req : Req} {elapsed : ℕ}
    (hfew : distinctPaths (recentRequests s req elapsed) < API_ENUMERATION_THRESHOLD) :
    (RouteScans.step (.request req elapsed) s).waiting = s.waiting := by
  by_cases hcounted : isCounted (pathOf req) = true
  · obtain ⟨alert, hwaiting⟩ := h.waiting_request hcounted elapsed
    have hle : distinctPaths ((recentRequests s req elapsed).rtake MAX_WINDOW_EVENTS) ≤
        distinctPaths (recentRequests s req elapsed) :=
      distinctPaths_mono fun entry => mem_of_mem_rtake
    rw [hwaiting, if_neg (by omega)]
  · exact waiting_of_not_counted hcounted elapsed

/-- An alert is raised unless one with its key has been raised within the cooldown. -/
theorem Inv.raised_alert (h : Inv s) {i : ℕ} {alert : Alert} (hi : s.waiting[i]? = some alert)
    (elapsed : ℕ) : (RouteScans.step (.alert i elapsed) s).raised = s.raised ++
      if ∃ t ∈ under alert.key s.raised, s.clock + elapsed - t < ALERT_COOLDOWN then []
      else [(alert.key, s.clock + elapsed)] := by
  have hcooldown := (h.cooldown alert).later (Nat.le_add_right s.clock elapsed)
  rw [step_of_alert hi]
  simp only [hcooldown.emits_iff]
  rw [ite_not]

theorem Inv.findsLast (h : Inv s) (event : Event) : FindsLast event s := by
  cases event with
  | request req elapsed =>
    refine ⟨h.finds_iff req elapsed, ?_⟩
    intro hfew
    exact h.waiting_of_few hfew
  | alert i elapsed => exact fun alert hi => h.raised_alert hi elapsed
  | prune elapsed => exact ⟨rfl, rfl⟩
  | window key state elapsed => exact ⟨rfl, rfl⟩
  | cooldown key state elapsed => exact ⟨rfl, rfl⟩

/-- In every run in which the other functions keep to their keys and the maps stay within their
limit, each call finds what the last requests cover, and raises its alert unless it is in its
cooldown. -/
theorem scans_found (events : List Event) (h : Admits step Ok events start) :
    Admits step FindsLast events start :=
  h.imp (fun _ _ hinv hok => hinv.step hok) (fun event _ hinv _ => hinv.findsLast event) inv_start

/-! ## Runs of requests -/

/-- The events of some requests at one time. -/
def atOnce (reqs : List Req) : List Event := reqs.map fun req => .request req 0

theorem size_step_request (req : Req) :
    (step (.request req 0) s).eventWindows.size ≤ s.eventWindows.size + 1 ∧
      (step (.request req 0) s).alertCooldowns = s.alertCooldowns := by
  by_cases hcounted : isCounted (pathOf req) = true
  · rw [step_of_counted hcounted]
    exact ⟨OrderedMap.size_set_le _ _ _, rfl⟩
  · rw [step_of_not_counted hcounted]
    exact ⟨Nat.le_succ _, rfl⟩

/-- Fewer requests than the limit leave the maps within it. -/
theorem admits_atOnce (reqs : List Req) {s : System}
    (hwindows : s.eventWindows.size + reqs.length ≤ MAX_TELEMETRY_KEYS)
    (hcooldowns : s.alertCooldowns.size ≤ MAX_TELEMETRY_KEYS) :
    Admits step Ok (atOnce reqs) s := by
  induction reqs generalizing s with
  | nil => trivial
  | cons req reqs ih =>
    rw [List.length_cons] at hwindows
    obtain ⟨hsize, hsame⟩ := size_step_request (s := s) req
    have hwithin : (step (.request req 0) s).eventWindows.size + reqs.length ≤
        MAX_TELEMETRY_KEYS := by
      omega
    rw [← hsame] at hcooldowns
    exact ⟨⟨trivial, Nat.le_of_add_right_le hwithin, hcooldowns⟩, ih hwithin hcooldowns⟩

theorem run_atOnce_cons (req : Req) (reqs : List Req) (s : System) :
    run step (atOnce (req :: reqs)) s = run step (atOnce reqs) (step (.request req 0) s) := rfl

/-- The requests of one IP are recorded one after the other. -/
theorem run_atOnce {ip : String} (reqs : List Req) {s : System}
    (hreqs : ∀ req ∈ reqs, isCounted (pathOf req) = true ∧ getRequestIp req = ip) :
    (run step (atOnce reqs) s).clock = s.clock ∧
      under ip (run step (atOnce reqs) s).requests =
        under ip s.requests ++ reqs.map fun req => ⟨pathOf req, s.clock⟩ := by
  induction reqs generalizing s with
  | nil => exact ⟨rfl, (List.append_nil _).symm⟩
  | cons req reqs ih =>
    obtain ⟨hcounted, hip⟩ := hreqs req List.mem_cons_self
    have hclock : (step (.request req 0) s).clock = s.clock := by
      rw [step_of_counted hcounted]
      exact Nat.add_zero s.clock
    have hrequests : (step (.request req 0) s).requests =
        s.requests ++ [(ip, ⟨pathOf req, s.clock⟩)] := by
      rw [step_of_counted hcounted, hip]
      simp only [Nat.add_zero]
    obtain ⟨hrunclock, hrun⟩ := ih fun req' hreq' => hreqs req' (List.mem_cons_of_mem _ hreq')
    rw [run_atOnce_cons, hrun, hrunclock, hrequests, hclock, under_concat, if_pos rfl,
      List.map_cons, List.append_assoc]
    exact ⟨rfl, rfl⟩

/-! ## A scan that is not found -/

/-- The `n`-th of some paths. -/
def scanPath (n : ℕ) : List Char := "/api".toList ++ '/' :: List.replicate n 'x'

/-- A request of the `n`-th path. -/
def scan (n : ℕ) : Req where
  originalUrl := some (String.ofList (scanPath n))
  ip := some "203.0.113.9"

theorem mem_scanPath {n : ℕ} {c : Char} (h : c ∈ scanPath n) : c ∈ "/api/x".toList := by
  rcases List.mem_append.mp h with h | h
  · have hall : ("/api".toList.all fun c => decide (c ∈ "/api/x".toList)) = true := by decide
    exact of_decide_eq_true (List.all_eq_true.mp hall c h)
  · rcases List.mem_cons.mp h with rfl | h
    · decide
    · rw [List.eq_of_mem_replicate h]
      decide

theorem scanPath_injective : Function.Injective scanPath := by
  intro m n h
  exact List.replicate_left_injective 'x' (List.cons.inj (List.append_cancel_left h)).2

theorem startsWith_ofList {text : List Char} {start : String} :
    startsWith (String.ofList text) start = true ↔ start.toList <+: text := by
  rw [startsWith, String.toList_ofList, List.isPrefixOf_iff_prefix]

theorem pathOf_scan (n : ℕ) : pathOf (scan n) = String.ofList (scanPath n) := by
  have htruthy : truthy (scan n).originalUrl = true := by
    rw [scan, truthy_some, ne_eq, String.ofList_eq_empty_iff]
    exact List.append_ne_nil_of_right_ne_nil _ (List.cons_ne_nil _ _)
  rw [pathOf, orElse, if_pos htruthy, scan, Option.getD_some, firstPart, String.toList_ofList,
    List.takeWhile_eq_self_iff.mpr]
  have hall : ("/api/x".toList.all fun c => decide (c ≠ '?')) = true := by decide
  exact fun c hc => List.all_eq_true.mp hall c (mem_scanPath hc)

theorem scan_counted (n : ℕ) : isCounted (pathOf (scan n)) = true := by
  rw [pathOf_scan]
  have hapi : startsWith (String.ofList (scanPath n)) "/api" = true := by
    rw [startsWith_ofList]
    exact List.prefix_append _ _
  have hhealth : startsWith (String.ofList (scanPath n)) "/api/health" = false := by
    rw [Bool.eq_false_iff, ne_eq, startsWith_ofList]
    exact fun h => absurd (mem_scanPath (h.subset (by decide : 'h' ∈ _))) (by decide)
  have hmetrics : startsWith (String.ofList (scanPath n)) "/api/metrics" = false := by
    rw [Bool.eq_false_iff, ne_eq, startsWith_ofList]
    exact fun h => absurd (mem_scanPath (h.subset (by decide : 'm' ∈ _))) (by decide)
  rw [isCounted, hapi, hhealth, hmetrics]
  rfl

theorem scan_ip (n : ℕ) : getRequestIp (scan n) = "203.0.113.9" := rfl

/-- The entry of a request, when the clock shows zero. -/
def entryOf (req : Req) : Entry := ⟨pathOf req, 0⟩

/-- Requests of different paths. -/
theorem distinctPaths_scans (n : ℕ) :
    distinctPaths (((List.range n).map scan).map entryOf) = n := by
  have hvalues : (((List.range n).map scan).map entryOf).map Entry.value =
      ((List.range n).map scanPath).map String.ofList := by
    rw [List.map_map, List.map_map, List.map_map]
    exact List.map_congr_left fun m _ => pathOf_scan m
  have hnodup : (((List.range n).map scanPath).map String.ofList).Nodup :=
    (List.nodup_range.map scanPath_injective).map fun _ _ => String.ofList_inj.mp
  rw [distinctPaths, hvalues, List.toFinset_card_of_nodup hnodup, List.length_map, List.length_map,
    List.length_range]

/-- Twenty paths, then the first of them two hundred times. -/
def flood : List Req := (List.range 20).map scan ++ List.replicate 200 (scan 0)

theorem flood_counted {req : Req} (h : req ∈ flood) :
    isCounted (pathOf req) = true ∧ getRequestIp req = "203.0.113.9" := by
  obtain ⟨n, rfl⟩ : ∃ n, req = scan n := by
    rcases List.mem_append.mp h with h | h
    · obtain ⟨n, -, rfl⟩ := List.mem_map.mp h
      exact ⟨n, rfl⟩
    · exact ⟨0, List.eq_of_mem_replicate h⟩
  exact ⟨scan_counted n, scan_ip n⟩

/-- After them, the requests within the window are all, with the twenty-first path. -/
theorem recentRequests_flood :
    recentRequests (run step (atOnce flood) start) (scan 20) 0 =
      (flood ++ [scan 20]).map entryOf := by
  obtain ⟨hclock, hrequests⟩ := run_atOnce (s := start) flood fun req => flood_counted
  have hentries : under "203.0.113.9" (run step (atOnce flood) start).requests ++
      [⟨pathOf (scan 20), (run step (atOnce flood) start).clock + 0⟩] =
        (flood ++ [scan 20]).map entryOf := by
    rw [hrequests, hclock, List.map_append]
    rfl
  rw [recentRequests, scan_ip, hentries, hclock]
  refine recent_of_forall fun entry hentry => ?_
  obtain ⟨req, -, rfl⟩ := List.mem_map.mp hentry
  exact Nat.zero_le _

/-- All of them cover the threshold. -/
theorem flood_covers :
    API_ENUMERATION_THRESHOLD ≤ distinctPaths ((flood ++ [scan 20]).map entryOf) := by
  have hscans := distinctPaths_scans 21
  calc API_ENUMERATION_THRESHOLD = distinctPaths (((List.range 21).map scan).map entryOf) :=
        hscans.symm
    _ ≤ distinctPaths ((flood ++ [scan 20]).map entryOf) := by
        refine distinctPaths_mono (List.map_subset entryOf fun req hreq => ?_)
        rw [List.range_succ, List.map_append] at hreq
        rcases List.mem_append.mp hreq with hreq | hreq
        · exact List.mem_append_left _ (List.mem_append_left _ hreq)
        · exact List.mem_append_right _ hreq

/-- The last two hundred cover two paths. -/
theorem flood_hides : distinctPaths (((flood ++ [scan 20]).map entryOf).rtake MAX_WINDOW_EVENTS) <
    API_ENUMERATION_THRESHOLD := by
  have hlast : ((flood ++ [scan 20]).map entryOf).rtake MAX_WINDOW_EVENTS ⊆
      [entryOf (scan 0), entryOf (scan 20)] := by
    rw [flood, List.append_assoc, List.map_append, rtake_append_of_le]
    · intro entry hentry
      obtain ⟨req, hreq, rfl⟩ := List.mem_map.mp (mem_of_mem_rtake hentry)
      rcases List.mem_append.mp hreq with hreq | hreq
      · rw [List.eq_of_mem_replicate hreq]
        exact List.mem_cons_self
      · rw [List.mem_singleton.mp hreq]
        exact List.mem_cons_of_mem _ (List.mem_singleton_self _)
    · rw [List.length_map, List.length_append, List.length_replicate]
      exact Nat.le_succ 200
  have htwo : distinctPaths [entryOf (scan 0), entryOf (scan 20)] ≤ 2 :=
    List.toFinset_card_le _
  exact (distinctPaths_mono hlast).trans_lt (htwo.trans_lt (by decide))

theorem length_flood : (flood ++ [scan 20]).length = 221 := by
  rw [flood, List.length_append, List.length_append, List.length_map, List.length_range,
    List.length_replicate, List.length_singleton]

theorem admits_flood : Admits step Ok (atOnce (flood ++ [scan 20])) start :=
  admits_atOnce _ (by rw [length_flood]; decide) (Nat.zero_le _)

/-- A run within the limits, in which a call completes the paths and does not find the threshold
reached: two hundred requests of one path hide the others. -/
theorem scans_hidden :
    ¬ ∀ events : List Event, Admits step Ok events start → Admits step FindsAll events start := by
  intro h
  have hadmits := admits_flood
  have hall := h _ hadmits
  rw [atOnce, List.map_append, ← atOnce, admits_append] at hadmits hall
  have hinv : Inv (run step (atOnce flood) start) :=
    run_invariant (fun _ _ hinv hok => hinv.step hok) _ _ inv_start hadmits.1
  have hcovers := flood_covers
  have hhides := flood_hides
  rw [← recentRequests_flood] at hcovers hhides
  have hfinds := hall.2.1.mpr ⟨scan_counted 20, hcovers⟩
  have hlast := ((hinv.finds_iff (scan 20) 0).mp hfinds).2
  omega

/-- The run of the counterexample is one of those that the theorem is about. -/
theorem scans_found_flood : Admits step FindsLast (atOnce (flood ++ [scan 20])) start :=
  scans_found _ admits_flood

end Docketra.RouteScans
