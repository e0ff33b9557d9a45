import Docketra.AuditDiff
import Docketra.Lib.Runs
import Mathlib.Algebra.Order.Ring.Int

/-!
# The docket audit log

`createLog` of `services/docketAudit.service.js` adds an entry to the docket audit log, and
`writeAudit` of `services/docketWorkflow.service.js` does so through it. A unique index over the
firm, the docket, the action, `requestId` and `dedupeKey` is to refuse a second entry for one event.
The `requestId` that a caller gives is not stored: every entry gets a random one by default, and the
index refuses nothing. Each accepted call leaves an entry (`writers_run`), so that every event has
one entry exactly when no call is retried (`logged_once_iff`).
-/

namespace Docketra.AuditLog

open JsonText AuditDiff Runs

/-- Milliseconds since 1970. -/
abbrev Date := ℤ

/-- What the runtime and Node's crypto module provide. -/
structure Platform where
  /-- `String.prototype.toLowerCase`. -/
  lowerCase : Utf16 → Utf16
  /-- `String.prototype.toUpperCase`. -/
  upperCase : Utf16 → Utf16
  /-- No text is turned into the empty one. -/
  upperCase_ne_nil : ∀ s, s ≠ [] → upperCase s ≠ []
  /-- The hexadecimal digest of a text. -/
  sha256 : Utf16 → Utf16
  /-- The random UUIDs, in the order in which they are drawn. -/
  randomUUID : ℕ → Utf16
  /-- No UUID is drawn twice. -/
  randomUUID_injective : Function.Injective randomUUID

/-- White space and line terminators. -/
def isSpace (u : UInt16) : Bool :=
  (9 ≤ u && u ≤ 13) || (0x2000 ≤ u && u ≤ 0x200A) ||
    u ∈ ([0x20, 0xA0, 0x1680, 0x2028, 0x2029, 0x202F, 0x205F, 0x3000, 0xFEFF] : Utf16)

/-- `String.prototype.trim`. -/
def trim (s : Utf16) : Utf16 := ((s.dropWhile isSpace).reverse.dropWhile isSpace).reverse

/-! ## Objects -/

/-- `fields[key]`. -/
def fieldOf (fields : List (Utf16 × Value)) (key : String) : Value :=
  ((fields.find? (·.1 = utf16 key)).map (·.2)).getD .undefined

/-- `{ ...fields, [key]: value }`. -/
def setField (fields : List (Utf16 × Value)) (key : String) (value : Value) : List (Utf16 × Value) :=
  if fields.any (·.1 = utf16 key) then
    fields.map fun p => if p.1 = utf16 key then (p.1, value) else p
  else fields ++ [(utf16 key, value)]

/-- `delete fields[key]`. -/
def deleteField (fields : List (Utf16 × Value)) (key : String) : List (Utf16 × Value) :=
  fields.filter (·.1 ≠ utf16 key)

/-- `value || other`. -/
def orElse (value other : Value) : Value :=
  match orNull value with
  | .null => other
  | v => v

/-- A text, or `null`. -/
def textOrNull (text : Option Utf16) : Value := (text.map Value.string).getD .null

/-- A text, or `undefined`. -/
def textOrUndefined (text : Option Utf16) : Value := (text.map Value.string).getD .undefined

/-- `text || null`. -/
def nonEmpty (text : Option Utf16) : Option Utf16 := text.filter (· ≠ [])

/-- A Mongoose path of type `String` takes the value. -/
def castsToString : Value → Bool
  | .array _ | .object _ => false
  | _ => true

/-! ## Collections -/

/-- A document of `DocketAuditLog`. -/
structure LogEntry where
  firmId : Utf16
  tenantId : Utf16
  docketId : Utf16
  action : Utf16
  requestId : Utf16
  fromState : Option Utf16
  toState : Option Utf16
  performedBy : Utf16
  performedByRole : Utf16
  comment : Option Utf16
  changes : List Change
  metadata : Value
  dedupeKey : Utf16
  timestamp : Date

/-- The fields of the index `uniq_docket_audit_dedupe`. -/
def LogEntry.indexKey (entry : LogEntry) : List Utf16 :=
  [entry.firmId, entry.docketId, entry.action, entry.requestId, entry.dedupeKey]

/-- A document of `DocketAudit`. -/
structure CanonicalEvent where
  docketId : Utf16
  firmId : Utf16
  event : Utf16
  userId : Option Utf16
  userRole : Option Utf16
  fromState : Option Utf16
  toState : Option Utf16
  qcOutcome : Value
  reasonCode : Value
  metadata : List (Utf16 × Value)
  dedupeKey : Utf16

/-- The two collections, and the number of UUIDs that have been drawn. -/
structure Store where
  logs : List LogEntry := []
  events : List CanonicalEvent := []
  drawn : ℕ := 0

/-- A document that the schema refuses, by the path of the field. -/
structure ValidationError where
  path : String
  deriving DecidableEq, Repr

section operations

variable (P : Platform)

/-- `buildDedupeKey`. -/
def buildDedupeKey (payload : List (Utf16 × Value)) : Utf16 :=
  P.sha256 (stableStringify (.object payload))

/-- `normalizeRole`. -/
def normalizeRole (role : Option Utf16) : Utf16 :=
  let normalized := P.upperCase (trim (role.getD []))
  if (["ADMIN", "SUPER_ADMIN", "SUPERADMIN"].map utf16).contains normalized then utf16 "ADMIN"
  else if normalized = utf16 "SYSTEM" then utf16 "SYSTEM"
  else utf16 "USER"

/-- The sanitized fields of an object. -/
def sanitizeMetadata (metadata : List (Utf16 × Value)) : List (Utf16 × Value) :=
  match sanitizeValue P.lowerCase [] (.object metadata) with
  | .object fields => fields
  | _ => []

/-! ## `logDocketEvent` -/

/-- The arguments of `logDocketEvent`. -/
structure EventArgs where
  docketId : Utf16
  firmId : Utf16
  event : Utf16
  userId : Option Utf16
  userRole : Option Utf16
  fromState : Option Utf16
  toState : Option Utf16
  qcOutcome : Value
  metadata : List (Utf16 × Value)

/-- The metadata that `logDocketEvent` stores. -/
def normalizedMetadata (sanitized : List (Utf16 × Value)) : List (Utf16 × Value) :=
  ["reasonCode", "fromState", "toState", "actorId", "actorRole"].foldl deleteField
    (setField sanitized "source"
      (orElse (fieldOf sanitized "source") (.string (utf16 "docket.audit"))))

/-- The document of an event, without its `dedupeKey`. -/
def canonicalEvent (args : EventArgs) : CanonicalEvent :=
  let sanitized := sanitizeMetadata P args.metadata
  { docketId := args.docketId
    firmId := args.firmId
    event := P.upperCase (trim args.event)
    userId := (nonEmpty args.userId).map P.upperCase
    userRole := (nonEmpty args.userRole).map fun role => normalizeRole P (some role)
    fromState := nonEmpty args.fromState
    toState := nonEmpty args.toState
    qcOutcome := orElse args.qcOutcome .undefined
    reasonCode := orElse (fieldOf sanitized "reasonCode") .null
    metadata := normalizedMetadata sanitized
    dedupeKey := [] }

/-- The payload whose hash is the `dedupeKey` of an event. -/
def CanonicalEvent.payload (event : CanonicalEvent) : List (Utf16 × Value) :=
  [(utf16 "entityType", .string (utf16 "docket")),
    (utf16 "entityId", .string event.docketId),
    (utf16 "docketId", .string event.docketId),
    (utf16 "firmId", .string event.firmId),
    (utf16 "event", .string event.event),
    (utf16 "action", .string event.event),
    (utf16 "userId", textOrUndefined event.userId),
    (utf16 "userRole", textOrUndefined event.userRole),
    (utf16 "actorId", textOrUndefined event.userId),
    (utf16 "actorRole", textOrUndefined event.userRole),
    (utf16 "fromState", textOrUndefined event.fromState),
    (utf16 "toState", textOrUndefined event.toState),
    (utf16 "qcOutcome", event.qcOutcome),
    (utf16 "reasonCode", event.reasonCode),
    (utf16 "metadata", .object event.metadata)]

/-- `logDocketEvent`. The collection has no unique index. -/
def logDocketEvent (args : EventArgs) (s : Store) : Except ValidationError Store :=
  if args.event = [] ∨ args.docketId = [] ∨ args.firmId = [] then .ok s
  else
    let event := canonicalEvent P args
    if event.event = [] then .ok s
    else if castsToString event.qcOutcome = false then .error ⟨"qcOutcome"⟩
    else if castsToString event.reasonCode = false then .error ⟨"reasonCode"⟩
    else
      let event := { event with dedupeKey := buildDedupeKey P event.payload }
      .ok { s with events := s.events ++ [event] }

/-! ## `createLog` -/

/-- The arguments of `createLog`. A text that is not given is empty. `createLog` does not read
`requestId` and `tenantId`. -/
structure LogArgs where
  firmId : Utf16
  docketId : Utf16
  action : Utf16
  performedBy : Utf16
  requestId : Value := .undefined
  tenantId : Option Utf16 := none
  fromState : Option Utf16 := none
  toState : Option Utf16 := none
  performedByRole : Option Utf16 := some (utf16 "USER")
  comment : Option Utf16 := none
  changes : List Change := []
  metadata : List (Utf16 × Value) := []
  reasonCode : Value := .null
  timestamp : Option Date := none
  dedupeKey : Option Utf16 := none

/-- A change, as an object. -/
def changeValue (change : Change) : Value :=
  .object [(utf16 "field", .string change.field), (utf16 "from", change.fromValue),
    (utf16 "to", change.toValue)]

/-- `finalDedupeKey`. -/
def finalDedupeKey (args : LogArgs) : Utf16 :=
  (nonEmpty args.dedupeKey).getD <|
    buildDedupeKey P
      [(utf16 "firmId", .string args.firmId),
        (utf16 "docketId", .string args.docketId),
        (utf16 "action", .string (P.upperCase args.action)),
        (utf16 "fromState", textOrNull args.fromState),
        (utf16 "toState", textOrNull args.toState),
        (utf16 "performedBy", .string args.performedBy),
        (utf16 "normalizedChanges", .array (args.changes.map changeValue)),
        (utf16 "metadata", .object (sanitizeMetadata P args.metadata))]

/-- The call of `logDocketEvent` by which `createLog` copies the entry to the events. -/
def bridgeArgs (args : LogArgs) : EventArgs where
  docketId := args.docketId
  firmId := args.firmId
  event := args.action
  userId := some args.performedBy
  userRole := args.performedByRole
  fromState := args.fromState
  toState := args.toState
  qcOutcome := orNull (fieldOf args.metadata "qcOutcome")
  metadata :=
    let reasonCode := orElse args.reasonCode (orNull (fieldOf args.metadata "reasonCode"))
    let metadata := setField args.metadata "reasonCode" reasonCode
    let metadata := setField metadata "comment" (textOrNull (nonEmpty args.comment))
    let metadata := setField metadata "changes" (.array (args.changes.map changeValue))
    let metadata := setField metadata "legacyAction" (.string (P.upperCase args.action))
    setField metadata "source" (.string (utf16 "docket.audit.legacy_bridge"))

/-- The first change without a field. -/
def blankChange (changes : List Change) : Option ℕ :=
  changes.findIdx? fun change => trim change.field = []

/-- The document of an entry, after the setters, the defaults and the hook of the schema. -/
def entryOf (now : Date) (requestId : Utf16) (args : LogArgs) : LogEntry where
  firmId := args.firmId
  tenantId := trim args.firmId
  docketId := args.docketId
  action := P.upperCase (trim (P.upperCase args.action))
  requestId := requestId
  fromState := args.fromState
  toState := args.toState
  performedBy := P.upperCase (P.upperCase args.performedBy)
  performedByRole := normalizeRole P args.performedByRole
  comment := (nonEmpty args.comment).map (·.take 500)
  changes := args.changes.map fun change => { change with field := trim change.field }
  metadata := .object (sanitizeMetadata P args.metadata)
  dedupeKey := finalDedupeKey P args
  timestamp := args.timestamp.getD now

/-- The store after `createLog` has copied the entry to the events. A failure is swallowed. -/
def bridge (args : LogArgs) (s : Store) : Store :=
  match logDocketEvent P (bridgeArgs P args) s with
  | .ok bridged => bridged
  | .error _ => s

/-- `DocketAuditLog.create`. The `requestId` of the entry is the default of the schema, a random
UUID. The error 11000 of the unique index is answered with `null`. -/
def createEntry (now : Date) (args : LogArgs) (s : Store) :
    Except ValidationError (Option LogEntry) × Store :=
  let entry := entryOf P now (P.randomUUID s.drawn) args
  let drawn := { s with drawn := s.drawn + 1 }
  if entry.action = [] then (.error ⟨"action"⟩, drawn)
  else
    match blankChange args.changes with
    | some i => (.error ⟨"changes." ++ toString i ++ ".field"⟩, drawn)
    | none =>
      if s.logs.any (·.indexKey = entry.indexKey) then (.ok none, drawn)
      else (.ok (some entry), { drawn with logs := s.logs ++ [entry] })

/-- `createLog`. -/
def createLog (now : Date) (args : LogArgs) (s : Store) :
    Except ValidationError (Option LogEntry) × Store :=
  if args.firmId = [] ∨ args.docketId = [] ∨ args.action = [] ∨ args.performedBy = [] then
    (.ok none, s)
  else createEntry P now args (bridge P args s)

/-! ## `writeAudit` -/

/-- The arguments of `writeAudit`. -/
structure AuditArgs where
  docketId : Utf16
  fromState : Option Utf16
  toState : Option Utf16
  userId : Utf16
  comment : Option Utf16 := none
  performedByRole : Option Utf16 := some (utf16 "USER")
  firmId : Utf16
  action : Utf16
  metadata : List (Utf16 × Value) := []
  requestId : Option Utf16 := none
  changes : List Change := []

/-- The event of `writeAudit` is an action of quality control. -/
def isQcAction (args : AuditArgs) : Bool :=
  match fieldOf args.metadata "event" with
  | .string event => P.upperCase event = utf16 "QC_ACTION"
  | _ => false

/-- `requestId || metadata?.requestId`. -/
def givenRequestId (args : AuditArgs) : Value :=
  orElse (textOrUndefined args.requestId) (orNull (fieldOf args.metadata "requestId"))

/-- The call of `logDocketEvent` that `writeAudit` makes. -/
def eventArgs (args : AuditArgs) : EventArgs where
  docketId := args.docketId
  firmId := args.firmId
  event := if isQcAction P args then utf16 "QC_ACTION" else utf16 "STATE_CHANGED"
  userId := some args.userId
  userRole := args.performedByRole
  fromState := args.fromState
  toState := args.toState
  qcOutcome := orNull (fieldOf args.metadata "qcOutcome")
  metadata :=
    if isQcAction P args then
      setField (setField args.metadata "comment" (textOrNull (nonEmpty args.comment))) "source"
        (.string (utf16 "qcDecision"))
    else
      setField (setField args.metadata "action" (textOrNull (nonEmpty (some args.action))))
        "requestId" (givenRequestId args)

/-- The call of `createLog` that `writeAudit` makes. -/
def logArgs (args : AuditArgs) (requestId : Value) : LogArgs where
  firmId := args.firmId
  docketId := args.docketId
  action := args.action
  performedBy := args.userId
  requestId := requestId
  tenantId := some args.firmId
  fromState := args.fromState
  toState := args.toState
  performedByRole := args.performedByRole
  comment := args.comment
  changes := args.changes
  metadata :=
    setField (setField args.metadata "comment" (textOrNull args.comment)) "source"
      (.string (utf16 "docketWorkflow.service.writeAudit"))
  reasonCode := orNull (fieldOf args.metadata "reasonCode")

/-- `requestId || metadata?.requestId || randomUUID()`. -/
def requestIdOf (args : AuditArgs) (s : Store) : Value × Store :=
  match givenRequestId args with
  | .null => (.string (P.randomUUID s.drawn), { s with drawn := s.drawn + 1 })
  | requestId => (requestId, s)

/-- `writeAudit`, up to its entries in other collections. -/
def writeAudit (now : Date) (args : AuditArgs) (s : Store) : Except ValidationError Unit × Store :=
  -- Unlike in `createLog`, a failure of `logDocketEvent` is not swallowed here.
  match logDocketEvent P (eventArgs P args) s with
  | .error e => (.error e, s)
  | .ok audited =>
    let (requestId, drawn) := requestIdOf P args audited
    let (result, logged) := createLog P now (logArgs args requestId) drawn
    (result.map fun _ => (), logged)

end operations

/-! ## Runs -/

/-- A call of one of the two functions. -/
inductive Call where
  | createLog (args : LogArgs)
  | writeAudit (args : AuditArgs)

/-- The store after a call. -/
def Call.perform (P : Platform) (now : Date) (s : Store) : Call → Store
  | .createLog args => (AuditLog.createLog P now args s).2
  | .writeAudit args => (AuditLog.writeAudit P now args s).2

/-- An attempt to log an event. The attempts of one event are its call and the retries of it. -/
structure Attempt where
  event : ℕ
  now : Date

/-- The store, and beside it, for each entry of the log, the event whose call added it. -/
structure Ledger where
  store : Store := {}
  writers : List ℕ := []

section runs

variable (P : Platform) (callOf : ℕ → Call)

/-- What an attempt does. -/
def attempt (a : Attempt) (l : Ledger) : Ledger :=
  let store := (callOf a.event).perform P a.now l.store
  { store
    writers := l.writers ++ List.replicate (store.logs.length - l.store.logs.length) a.event }

/-- Each event has exactly one entry in the log. -/
def LoggedOnce (attempts : List Attempt) : Prop :=
  ∀ a ∈ attempts, (run (attempt P callOf) attempts {}).writers.count a.event = 1

/-- The schema accepts the document of an entry. -/
def LogArgs.valid (args : LogArgs) : Bool :=
  P.upperCase (trim (P.upperCase args.action)) ≠ [] &&
    args.changes.all fun change => trim change.field ≠ []

/-- `createLog` adds an entry for the arguments, unless the index refuses it. -/
def LogArgs.accepted (args : LogArgs) : Bool :=
  args.firmId ≠ [] && args.docketId ≠ [] && args.action ≠ [] && args.performedBy ≠ [] &&
    args.valid P

/-- `createLog` accepts the arguments of the call, and `logDocketEvent` those of `writeAudit`. -/
def Call.accepted : Call → Bool
  | .createLog args => args.accepted P
  | .writeAudit args =>
    (logArgs args .undefined).accepted P &&
      (castsToString (canonicalEvent P (eventArgs P args)).qcOutcome &&
        castsToString (canonicalEvent P (eventArgs P args)).reasonCode)

variable {P callOf}

/-- Entries have their `requestId` from the UUIDs that are drawn. -/
def Drawn (P : Platform) (s : Store) : Prop :=
  ∀ entry ∈ s.logs, ∃ i < s.drawn, entry.requestId = P.randomUUID i

theorem logDocketEvent_ok {args : EventArgs} {s s' : Store} (h : logDocketEvent P args s = .ok s') :
    s'.logs = s.logs ∧ s'.drawn = s.drawn := by
  unfold logDocketEvent at h
  split_ifs at h
  · cases h
    exact ⟨rfl, rfl⟩
  · dsimp only at h
    split_ifs at h <;> cases h <;> exact ⟨rfl, rfl⟩

/-- The index refuses no entry with a new UUID. -/
theorem not_indexed {s : Store} (hdrawn : Drawn P s) {i : ℕ} (hi : s.drawn ≤ i) (now : Date)
    (args : LogArgs) :
    s.logs.any (·.indexKey = (entryOf P now (P.randomUUID i) args).indexKey) = false := by
  rw [List.any_eq_false]
  intro entry hentry hkey
  obtain ⟨j, hj, hrequest⟩ := hdrawn entry hentry
  have hkey : entry.indexKey = (entryOf P now (P.randomUUID i) args).indexKey := by simpa using hkey
  have hsame : entry.requestId = P.randomUUID i := by
    simp only [LogEntry.indexKey, List.cons.injEq] at hkey
    exact hkey.2.2.2.1
  have hij : j = i := P.randomUUID_injective (hrequest.symm.trans hsame)
  omega

theorem Drawn.mono {s s' : Store} (h : Drawn P s) (hlogs : s'.logs = s.logs)
    (hdrawn : s.drawn ≤ s'.drawn) : Drawn P s' := by
  intro entry hentry
  rw [hlogs] at hentry
  obtain ⟨i, hi, hrequest⟩ := h entry hentry
  exact ⟨i, by omega, hrequest⟩

/-- The entries that a call adds: one if the call is accepted. -/
structure Adds (P : Platform) (accepted : Bool) (s s' : Store) : Prop where
  length : s'.logs.length = s.logs.length + if accepted then 1 else 0
  drawn : Drawn P s'

theorem adds_nothing {s s' : Store} (h : Drawn P s) (hlogs : s'.logs = s.logs)
    (hdrawn : s.drawn ≤ s'.drawn) : Adds P false s s' :=
  ⟨by rw [hlogs]; simp, h.mono hlogs hdrawn⟩

theorem blankChange_eq_none_iff (changes : List Change) :
    blankChange changes = none ↔ (changes.all fun change => trim change.field ≠ []) = true := by
  unfold blankChange
  simp [List.findIdx?_eq_none_iff]

theorem bridge_same (args : LogArgs) (s : Store) :
    (bridge P args s).logs = s.logs ∧ (bridge P args s).drawn = s.drawn := by
  unfold bridge
  cases h : logDocketEvent P (bridgeArgs P args) s with
  | ok bridged => exact logDocketEvent_ok h
  | error e => exact ⟨rfl, rfl⟩

theorem createEntry_adds {s : Store} (h : Drawn P s) (now : Date) (args : LogArgs) :
    Adds P (args.valid P) s (createEntry P now args s).2 := by
  unfold createEntry LogArgs.valid
  dsimp only
  by_cases haction : (entryOf P now (P.randomUUID s.drawn) args).action = []
  · have haction' : P.upperCase (trim (P.upperCase args.action)) = [] := haction
    rw [if_pos haction, haction']
    exact adds_nothing h rfl (Nat.le_succ _)
  · have haction' : P.upperCase (trim (P.upperCase args.action)) ≠ [] := haction
    rw [if_neg haction, decide_eq_true haction', Bool.true_and]
    cases hblank : blankChange args.changes with
    | some i =>
      have hchanges : (args.changes.all fun change => trim change.field ≠ []) = false := by
        rw [Bool.eq_false_iff, ne_eq, ← blankChange_eq_none_iff, hblank]
        exact Option.some_ne_none i
      rw [hchanges]
      exact adds_nothing h rfl (Nat.le_succ _)
    | none =>
      rw [(blankChange_eq_none_iff args.changes).1 hblank, not_indexed h le_rfl]
      refine ⟨by simp, ?_⟩
      intro entry hentry
      rcases List.mem_append.1 hentry with hentry | hentry
      · obtain ⟨i, hi, hrequest⟩ := h entry hentry
        exact ⟨i, Nat.lt_succ_of_lt hi, hrequest⟩
      · exact ⟨s.drawn, Nat.lt_succ_self _, by rw [List.mem_singleton.1 hentry]; rfl⟩

theorem createLog_adds {s : Store} (h : Drawn P s) (now : Date) (args : LogArgs) :
    Adds P (args.accepted P) s (createLog P now args s).2 := by
  unfold createLog
  by_cases hgiven : args.firmId = [] ∨ args.docketId = [] ∨ args.action = [] ∨ args.performedBy = []
  · have hrefused : args.accepted P = false := by
      unfold LogArgs.accepted
      rcases hgiven with h | h | h | h <;> simp [h]
    rw [if_pos hgiven, hrefused]
    exact adds_nothing h rfl le_rfl
  · have haccepted : args.accepted P = args.valid P := by
      simp only [not_or] at hgiven
      unfold LogArgs.accepted
      simp [hgiven]
    obtain ⟨hlogs, hdrawn⟩ := bridge_same (P := P) args s
    have hadds := createEntry_adds (h.mono hlogs hdrawn.ge) now args
    rw [if_neg hgiven, haccepted]
    exact ⟨by rw [hadds.length, hlogs], hadds.drawn⟩

/-- A failure of `logDocketEvent` is one of the schema's casts. -/
theorem casts_of_error {args : EventArgs} {s : Store} {e : ValidationError}
    (h : logDocketEvent P args s = .error e) :
    (castsToString (canonicalEvent P args).qcOutcome &&
      castsToString (canonicalEvent P args).reasonCode) = false := by
  unfold logDocketEvent at h
  split_ifs at h
  dsimp only at h
  split_ifs at h with _ hqc hreason
  · simp [hqc]
  · simp [hreason]

theorem casts_of_ok {args : EventArgs} {s s' : Store} (hdocketId : args.docketId ≠ [])
    (hfirmId : args.firmId ≠ []) (hevent : args.event ≠ [])
    (hupper : (canonicalEvent P args).event ≠ []) (h : logDocketEvent P args s = .ok s') :
    (castsToString (canonicalEvent P args).qcOutcome &&
      castsToString (canonicalEvent P args).reasonCode) = true := by
  unfold logDocketEvent at h
  rw [if_neg (by simp [hdocketId, hfirmId, hevent])] at h
  dsimp only at h
  rw [if_neg hupper] at h
  split_ifs at h with hqc hreason
  simp [hqc, hreason]

theorem eventArgs_event (args : AuditArgs) :
    (eventArgs P args).event ≠ [] ∧ (canonicalEvent P (eventArgs P args)).event ≠ [] := by
  have hevent : (eventArgs P args).event = utf16 "QC_ACTION" ∨
      (eventArgs P args).event = utf16 "STATE_CHANGED" := by
    unfold eventArgs
    dsimp only
    split_ifs <;> simp
  have htrim : trim (eventArgs P args).event ≠ [] := by
    rcases hevent with h | h <;> rw [h] <;> decide
  refine ⟨?_, P.upperCase_ne_nil _ htrim⟩
  rcases hevent with h | h <;> rw [h] <;> decide

theorem requestIdOf_same (args : AuditArgs) (s : Store) :
    (requestIdOf P args s).2.logs = s.logs ∧ s.drawn ≤ (requestIdOf P args s).2.drawn := by
  unfold requestIdOf
  split
  · exact ⟨rfl, Nat.le_succ _⟩
  · exact ⟨rfl, le_rfl⟩

/-- When `createLog` accepts the arguments that it gets, `logDocketEvent` decides. -/
theorem accepted_of_ok {args : AuditArgs} {s s' : Store}
    (h : logDocketEvent P (eventArgs P args) s = .ok s') (requestId : Value) :
    Call.accepted P (.writeAudit args) = (logArgs args requestId).accepted P := by
  have hrequestId : (logArgs args .undefined).accepted P = (logArgs args requestId).accepted P := rfl
  simp only [Call.accepted, hrequestId]
  cases haccepted : (logArgs args requestId).accepted P with
  | false => rfl
  | true =>
    unfold LogArgs.accepted at haccepted
    simp only [Bool.and_eq_true, decide_eq_true_eq] at haccepted
    rw [Bool.true_and]
    exact casts_of_ok haccepted.1.1.1.2 haccepted.1.1.1.1 (eventArgs_event args).1
      (eventArgs_event args).2 h

theorem writeAudit_adds {s : Store} (h : Drawn P s) (now : Date) (args : AuditArgs) :
    Adds P (Call.accepted P (.writeAudit args)) s (writeAudit P now args s).2 := by
  unfold writeAudit
  cases hevent : logDocketEvent P (eventArgs P args) s with
  | error e =>
    simp only [Call.accepted, casts_of_error hevent, Bool.and_false]
    exact adds_nothing h rfl le_rfl
  | ok audited =>
    obtain ⟨hlogs, hdrawn⟩ := logDocketEvent_ok hevent
    obtain ⟨hsame, hle⟩ := requestIdOf_same (P := P) args audited
    have hadds := createLog_adds (h.mono (hsame.trans hlogs) (hdrawn ▸ hle)) now
      (logArgs args (requestIdOf P args audited).1)
    rw [accepted_of_ok hevent (requestIdOf P args audited).1]
    exact ⟨by rw [hadds.length, hsame, hlogs], hadds.drawn⟩

theorem perform_adds {s : Store} (h : Drawn P s) (now : Date) (call : Call) :
    Adds P (call.accepted P) s (call.perform P now s) := by
  cases call with
  | createLog args => exact createLog_adds h now args
  | writeAudit args => exact writeAudit_adds h now args

/-- Each attempt of an accepted call adds an entry. -/
theorem writers_run (attempts : List Attempt) (l : Ledger) (h : Drawn P l.store) :
    (run (attempt P callOf) attempts l).writers =
      l.writers ++ (attempts.map (·.event)).filter fun event => (callOf event).accepted P := by
  induction attempts generalizing l with
  | nil => simp [run]
  | cons a attempts ih =>
    have hadds := perform_adds h a.now (callOf a.event)
    have hwriters : (attempt P callOf a l).writers = l.writers ++
        if (callOf a.event).accepted P then [a.event] else [] := by
      unfold attempt
      dsimp only
      rw [hadds.length, Nat.add_sub_cancel_left]
      split_ifs <;> rfl
    rw [run, ih _ hadds.drawn, hwriters, List.map_cons, List.filter_cons, List.append_assoc]
    congr 1
    split_ifs <;> rfl

/-- Every entry of the log has its event beside it. -/
theorem length_writers (attempts : List Attempt) (l : Ledger) (h : Drawn P l.store)
    (hlength : l.writers.length = l.store.logs.length) :
    (run (attempt P callOf) attempts l).writers.length =
      (run (attempt P callOf) attempts l).store.logs.length := by
  induction attempts generalizing l with
  | nil => exact hlength
  | cons a attempts ih =>
    have hadds := perform_adds h a.now (callOf a.event)
    refine ih (attempt P callOf a l) hadds.drawn ?_
    unfold attempt
    dsimp only
    rw [List.length_append, List.length_replicate, hlength, hadds.length]
    omega

theorem filter_accepted {attempts : List Attempt}
    (h : ∀ a ∈ attempts, (callOf a.event).accepted P = true) :
    ((attempts.map (·.event)).filter fun event => (callOf event).accepted P) =
      attempts.map (·.event) := by
  refine List.filter_eq_self.2 fun event hevent => ?_
  obtain ⟨a, ha, rfl⟩ := List.mem_map.1 hevent
  exact h a ha

/-- Every event has one entry exactly when every call is accepted and none is retried. -/
theorem logged_once_iff (P : Platform) (callOf : ℕ → Call) (attempts : List Attempt) :
    LoggedOnce P callOf attempts ↔
      (attempts.map (·.event)).Nodup ∧ ∀ a ∈ attempts, (callOf a.event).accepted P = true := by
  unfold LoggedOnce
  rw [writers_run attempts {} (by simp [Drawn]), List.nil_append]
  constructor
  · intro h
    have haccepted : ∀ a ∈ attempts, (callOf a.event).accepted P = true := by
      intro a ha
      have hpos : 0 < ((attempts.map (·.event)).filter fun event =>
          (callOf event).accepted P).count a.event := by
        rw [h a ha]
        exact Nat.one_pos
      exact (List.mem_filter.1 (List.count_pos_iff.1 hpos)).2
    rw [filter_accepted haccepted] at h
    exact ⟨List.nodup_iff_count_eq_one.2 (List.forall_mem_map.2 h), haccepted⟩
  · rintro ⟨hnodup, haccepted⟩ a ha
    rw [filter_accepted haccepted]
    exact List.count_eq_one_of_mem hnodup (List.mem_map_of_mem ha)

/-- A platform on which the UUIDs are told apart by their lengths. -/
def plainPlatform : Platform where
  lowerCase := id
  upperCase := id
  upperCase_ne_nil _ h := h
  sha256 := id
  randomUUID i := List.replicate i 0x61
  randomUUID_injective i j h := by simpa using congrArg List.length h

/-- A status change. -/
def statusChange : LogArgs where
  firmId := utf16 "FIRM001"
  docketId := utf16 "CASE-20260101-00001"
  action := utf16 "STATUS_CHANGED"
  performedBy := utf16 "X000001"
  requestId := .string (utf16 "5f0c")
  fromState := some (utf16 "OPEN")
  toState := some (utf16 "PENDING")

/-- A retry of `createLog` adds a second entry. -/
theorem logged_once_fails :
    ¬LoggedOnce plainPlatform (fun _ => .createLog statusChange) [⟨0, 1⟩, ⟨0, 2⟩] := by
  intro h
  have hcount := h ⟨0, 1⟩ (by simp)
  revert hcount
  rw [writers_run _ _ (by simp [Drawn])]
  decide

end runs

end Docketra.AuditLog
