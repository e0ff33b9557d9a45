import Docketra.Lib.Counts
import Docketra.Lib.Pages
import Docketra.Identifiers
import Docketra.SlaViews
import Mathlib.Data.List.Dedup

/-!
# The dashboard

`services/dashboard.service.js` lists the overdue dockets of a firm, a page at a time, and counts the
active dockets of its workbaskets. The query for the overdue dockets is spread together from parts,
and its last `$or` takes the place of the one that asks for the workbasket. The counts come from an
aggregation that compares the firm's ObjectId with the stored text.

So the overdue list is that of a workbasket exactly when no other docket is overdue, and the loads
are right exactly when there is nothing to count (`dashboard_agrees_iff`).
-/

namespace Docketra.Dashboard

open Counts
open Identifiers (HexId)
open SlaViews (SlaStatus)

/-! ## Dockets and workbaskets -/

/-- A value that a query compares. The driver stores an ObjectId as such, and not as text. -/
inductive Value where
  | text (s : String)
  | objectId (id : HexId)
  deriving DecidableEq

/-- What the dashboard reads of a Case document. `firmId` is text by the schema. -/
structure Docket where
  id : HexId
  firmId : String
  caseInternalId : Option HexId := none
  caseNumber : Option String := none
  caseId : Option String := none
  title : Option String := none
  caseName : Option String := none
  status : CaseStatus := .OPEN
  priority : String := "medium"
  dueDate : Option Date := none
  slaDueAt : Option Date := none
  workbasketId : Option HexId := none
  ownerTeamId : Option HexId := none
  routedToTeamId : Option HexId := none
  createdAt : Date := 0
  updatedAt : Date := 0
  deletedAt : Option Date := none
  deriving DecidableEq

/-- The types of a workbasket. -/
inductive TeamType where
  | PRIMARY | QC
  deriving DecidableEq, Repr

/-- A Team document. `enforceWorkbasketGuardrails` gives exactly the QC workbaskets a parent. -/
structure Team where
  id : HexId
  name : String
  firmId : HexId
  isActive : Bool := true
  type : TeamType := .PRIMARY
  parentWorkbasketId : Option HexId := none
  guardrails : type = .PRIMARY ↔ parentWorkbasketId = none

/-- `ACTIVE_DOCKET_STATUSES`. -/
def activeDocketStatuses : List CaseStatus := [.OPEN, .IN_PROGRESS]

/-! ## Queries -/

/-- A member of an `$or`. A field without a date is before no date. -/
inductive Clause where
  | workbasketId (id : HexId)
  | ownerTeamId (id : HexId)
  | routedToTeamId (id : HexId)
  | slaDueAtBefore (now : Date)
  | dueDateBefore (now : Date)

def Clause.holds (docket : Docket) : Clause → Bool
  | .workbasketId id => docket.workbasketId = some id
  | .ownerTeamId id => docket.ownerTeamId = some id
  | .routedToTeamId id => docket.routedToTeamId = some id
  | .slaDueAtBefore now => docket.slaDueAt.any fun due => due < now
  | .dueDateBefore now => docket.dueDate.any fun due => due < now

/-- A query object, by its keys. -/
structure Query where
  firmId : Option Value := none
  status : Option (List CaseStatus) := none
  or : Option (List Clause) := none

/-- `{ ...earlier, ...later }`: the later value of a key stays. -/
def Query.spread (earlier later : Query) : Query where
  firmId := later.firmId.or earlier.firmId
  status := later.status.or earlier.status
  or := later.or.or earlier.or

/-- What mongoose casts a value to that is compared with a field of type String. -/
def castToString : Value → Value
  | .text s => .text s
  | .objectId id => .text id.hex

/-- `find` and `countDocuments` cast the query, and the soft-delete plugin adds `deletedAt`. -/
def Query.selects (query : Query) (docket : Docket) : Bool :=
  query.firmId.all (fun firmId => castToString firmId = .text docket.firmId) &&
    query.status.all (fun statuses => docket.status ∈ statuses) &&
    query.or.all (fun clauses => clauses.any (Clause.holds docket)) && docket.deletedAt = none

/-! ## Lists -/

/-- `SORT_OPTIONS`. -/
inductive SortOption where
  | NEWEST | PRIORITY | SLA
  deriving DecidableEq, Repr

/-- `normalizeSort`. -/
def normalizeSort (sort : String) : SortOption :=
  let normalized := toUpperCase (trim sort)
  if normalized = "PRIORITY" then .PRIORITY
  else if normalized = "SLA" then .SLA
  else .NEWEST

/-- `resolveSort`: how the database compares two dockets. No document has a `priorityRank`, and a
missing date comes before the others. -/
def resolveSort (sort : SortOption) (a b : Docket) : Ordering :=
  let newest := (compare b.createdAt a.createdAt).then (compare a.id.hex b.id.hex)
  match sort with
  | .NEWEST => newest
  | .PRIORITY => newest
  | .SLA => ((compare a.slaDueAt b.slaDueAt).then (compare a.dueDate b.dueDate)).then newest

/-- An item of a list. -/
structure Item where
  id : HexId
  caseInternalId : Option HexId
  docketId : Option String
  title : Option String
  status : CaseStatus
  priority : String
  dueDate : Option Date
  slaDueAt : Option Date
  slaDueDate : Option Date
  slaStatus : SlaStatus
  slaBadge : SlaStatus
  workbasketId : Option HexId
  createdAt : Date
  updatedAt : Date
  isOverdue : Bool
  deriving DecidableEq

/-- `resolveSlaBadge`. The projection leaves `slaDueDate` out. -/
def resolveSlaBadge (now : Date) (docket : Docket) : SlaStatus :=
  SlaViews.getSlaStatus now
    { firmId := docket.firmId, status := docket.status, slaDueAt := docket.slaDueAt }

/-- The first workbasket of a docket, among the three fields for one. -/
def firstWorkbasket (docket : Docket) : Option HexId :=
  docket.workbasketId.or (docket.ownerTeamId.or docket.routedToTeamId)

/-- `mapDocket`, with `isOverdue`. -/
def mapDocket (now : Date) (docket : Docket) : Item where
  id := docket.id
  caseInternalId := docket.caseInternalId
  docketId := orElse docket.caseNumber docket.caseId
  title := orElse docket.title docket.caseName
  status := docket.status
  priority := docket.priority
  dueDate := docket.dueDate
  slaDueAt := docket.slaDueAt
  slaDueDate := docket.slaDueAt.or docket.dueDate
  slaStatus := resolveSlaBadge now docket
  slaBadge := resolveSlaBadge now docket
  workbasketId := firstWorkbasket docket
  createdAt := docket.createdAt
  updatedAt := docket.updatedAt
  isOverdue := true

/-- What `getOverdueDockets` returns. -/
structure Listing where
  items : List Item
  page : ℕ
  limit : ℕ
  total : ℕ
  hasNextPage : Bool
  sort : SortOption
  deriving DecidableEq

/-- `Math.max(Number(page) || 1, 1)`. -/
def pageNumber (page : ℤ) : ℕ := (max page 1).toNat

/-- `Math.min(Math.max(Number(limit) || 10, 1), 25)`. -/
def pageLimit (limit : ℤ) : ℕ := (min (max (if limit = 0 then 10 else limit) 1) 25).toNat

/-- The part of a query that asks for a workbasket. -/
def workbasketFilter (workbasketId : Option HexId) : Query :=
  match workbasketId with
  | none => {}
  | some id => { or := some [.workbasketId id, .ownerTeamId id, .routedToTeamId id] }

/-- The query of `getOverdueDockets`, with the firm. -/
def overdueQuery (firmId : HexId) (workbasketId : Option HexId) (now : Date) : Query :=
  let query := ({ status := some activeDocketStatuses } : Query).spread
    (workbasketFilter workbasketId)
  -- This `$or` is the later value of the key, and replaces the workbasket's.
  ({ firmId := some (.objectId firmId) } : Query).spread
    (query.spread { or := some [.slaDueAtBefore now, .dueDateBefore now] })

/-- `getOverdueDockets`, with the time that it reads from the clock. -/
def getOverdueDockets (firmId : HexId) (workbasketId : Option HexId) (page limit : ℤ)
    (sort : String) (now : Date) (store : List Docket) : Listing :=
  let query := overdueQuery firmId workbasketId now
  let sorted := (store.filter query.selects).mergeSort fun a b =>
    (resolveSort (normalizeSort sort) a b).isLE
  let skip := (pageNumber page - 1) * pageLimit limit
  let items := Pages.page (pageLimit limit) (pageNumber page - 1) sorted
  let total := store.countP query.selects
  { items := items.map (mapDocket now)
    page := pageNumber page
    limit := pageLimit limit
    total
    hasNextPage := skip + items.length < total
    sort := normalizeSort sort }

/-! ## Loads -/

/-- An entry of `getWorkbasketLoad`. -/
structure Load where
  workbasketId : HexId
  name : String
  count : ℕ
  deriving DecidableEq

/-- `Team.find`, whose `firmId` is an ObjectId. -/
def findWorkbaskets (firmId : HexId) (teams : List Team) : List Team :=
  teams.filter fun team =>
    team.firmId = firmId && team.parentWorkbasketId = none && team.isActive

/-- The first `$match` of the aggregation, which is not cast. -/
def matchesLoad (firmId : HexId) (docket : Docket) : Bool :=
  Value.text docket.firmId = Value.objectId firmId && docket.status ∈ activeDocketStatuses &&
    docket.deletedAt = none

/-- The `$group`: the workbaskets that there are, with how often there are. -/
def group (ids : List HexId) : List (HexId × ℕ) := ids.dedup.map fun id => (id, ids.count id)

/-- `getWorkbasketLoad`. -/
def getWorkbasketLoad (localeCompare : String → String → Ordering) (firmId : HexId)
    (teams : List Team) (store : List Docket) : List Load :=
  let counts := group ((store.filter (matchesLoad firmId)).filterMap firstWorkbasket)
  let loads := (findWorkbaskets firmId teams).map fun team =>
    { workbasketId := team.id, name := team.name, count := (counts.lookup team.id).getD 0 : Load }
  loads.mergeSort fun a b =>
    ((compare b.count a.count).then (localeCompare a.name b.name)).isLE

/-! ## What the dashboard is about -/

/-- A docket of a firm that is not deleted. -/
def isOfFirm (firmId : HexId) (docket : Docket) : Bool :=
  docket.firmId = firmId.hex && docket.deletedAt = none

def isActive (docket : Docket) : Bool := docket.status ∈ activeDocketStatuses

/-- A docket is in a workbasket by any of its three fields for one. -/
def isIn (workbasketId : HexId) (docket : Docket) : Bool :=
  docket.workbasketId = some workbasketId || docket.ownerTeamId = some workbasketId ||
    docket.routedToTeamId = some workbasketId

def isOverdue (now : Date) (docket : Docket) : Bool :=
  (docket.slaDueAt.any fun due => due < now) || docket.dueDate.any fun due => due < now

/-- The active overdue dockets of a firm. -/
def isLate (firmId : HexId) (now : Date) (docket : Docket) : Bool :=
  isOfFirm firmId docket && isActive docket && isOverdue now docket

/-- The active dockets of a firm that have a workbasket first. -/
def isLoad (firmId workbasketId : HexId) (docket : Docket) : Bool :=
  isOfFirm firmId docket && isActive docket && firstWorkbasket docket = some workbasketId

/-- The active primary workbaskets of a firm. -/
def primaryWorkbaskets (firmId : HexId) (teams : List Team) : List Team :=
  teams.filter fun team => team.firmId = firmId && team.type = .PRIMARY && team.isActive

/-- The dashboard of a firm agrees with its dockets. -/
structure DashboardAgrees (localeCompare : String → String → Ordering) (firmId workbasketId : HexId)
    (teams : List Team) (now : Date) (store : List Docket) : Prop where
  total : ∀ page limit sort,
    (getOverdueDockets firmId (some workbasketId) page limit sort now store).total =
      store.countP fun docket => isLate firmId now docket && isIn workbasketId docket
  /-- All pages together list each docket once. -/
  pages : ∀ limit sort n,
    (getOverdueDockets firmId (some workbasketId) 1 limit sort now store).total ≤
        n * pageLimit limit →
      ((List.range n).flatMap fun k : ℕ =>
          (getOverdueDockets firmId (some workbasketId) (k + 1) limit sort now store).items).Perm
        ((store.filter fun docket =>
          isLate firmId now docket && isIn workbasketId docket).map (mapDocket now))
  workbaskets : ((getWorkbasketLoad localeCompare firmId teams store).map (·.workbasketId)).Perm
    ((primaryWorkbaskets firmId teams).map (·.id))
  loads : ∀ entry ∈ getWorkbasketLoad localeCompare firmId teams store,
    entry.count = store.countP (isLoad firmId entry.workbasketId)

/-! ## The overdue list -/

section

variable {firmId workbasketId : HexId} {now : Date} {store : List Docket}

/-- The query asks for the overdue dockets, in whichever workbasket they are. -/
theorem overdueQuery_selects (docket : Docket) :
    (overdueQuery firmId (some workbasketId) now).selects docket = isLate firmId now docket := by
  have hid : (Value.text firmId.hex = Value.text docket.firmId) = (docket.firmId = firmId.hex) := by
    rw [Value.text.injEq]
    exact propext eq_comm
  simp only [overdueQuery, Query.selects, Query.spread, workbasketFilter, castToString, isLate,
    isOfFirm, isActive, isOverdue, Option.none_or, Option.some_or, Option.or_none, Option.all_some,
    List.any_cons, List.any_nil, Bool.or_false, Clause.holds, hid]
  rw [Bool.and_right_comm, Bool.and_right_comm _ _ (decide (docket.deletedAt = none))]

/-- A page says that there is another one exactly when the pages up to it do not hold all that is
counted. -/
theorem hasNextPage_iff (workbasketId : Option HexId) (page limit : ℤ) (sort : String) :
    (getOverdueDockets firmId workbasketId page limit sort now store).hasNextPage = true ↔
      pageNumber page * pageLimit limit <
        (getOverdueDockets firmId workbasketId page limit sort now store).total := by
  have hpage : pageNumber page - 1 + 1 = pageNumber page := by
    have : 1 ≤ pageNumber page := by
      unfold pageNumber
      omega
    omega
  have hcount : store.countP (overdueQuery firmId workbasketId now).selects =
      ((store.filter (overdueQuery firmId workbasketId now).selects).mergeSort fun a b =>
        (resolveSort (normalizeSort sort) a b).isLE).length := by
    rw [List.length_mergeSort, List.countP_eq_length_filter]
  simp only [getOverdueDockets, decide_eq_true_eq]
  rw [hcount, Pages.skipped_add_length_lt_iff, hpage]

/-- The list counts what is late in the workbasket exactly when nothing else is late. -/
theorem total_iff :
    (∀ page limit sort,
        (getOverdueDockets firmId (some workbasketId) page limit sort now store).total =
          store.countP fun docket => isLate firmId now docket && isIn workbasketId docket) ↔
      ∀ docket ∈ store, isLate firmId now docket = true → isIn workbasketId docket = true := by
  have htotal (page limit : ℤ) (sort : String) :
      (getOverdueDockets firmId (some workbasketId) page limit sort now store).total =
        store.countP (isLate firmId now) :=
    List.countP_congr fun docket _ => by rw [overdueQuery_selects]
  simp only [htotal, forall_const]
  rw [eq_comm, countP_eq_iff_of_imp fun docket _ h => (Bool.and_eq_true_iff.mp h).1]
  refine forall₂_congr fun docket _ => ?_
  rw [Bool.and_eq_true]
  exact ⟨fun h hlate => (h hlate).2, fun h hlate => ⟨hlate, h hlate⟩⟩

/-- The pages together are the late dockets, sorted. -/
theorem flatMap_items {limit : ℤ} {sort : String} {n : ℕ}
    (hn : store.countP (isLate firmId now) ≤ n * pageLimit limit) :
    ((List.range n).flatMap fun k : ℕ =>
        (getOverdueDockets firmId (some workbasketId) (k + 1) limit sort now store).items).Perm
      ((store.filter (isLate firmId now)).map (mapDocket now)) := by
  have hselects : (overdueQuery firmId (some workbasketId) now).selects = isLate firmId now :=
    funext overdueQuery_selects
  have hpage (k : ℕ) : pageNumber (k + 1) - 1 = k := by
    unfold pageNumber
    omega
  -- Items are mapped one by one, so that the pages can be put together before.
  simp only [getOverdueDockets, hselects, hpage]
  rw [← List.map_flatMap]
  refine List.Perm.map _ ?_
  have hlength : ((store.filter (isLate firmId now)).mergeSort fun a b =>
      (resolveSort (normalizeSort sort) a b).isLE).length ≤ n * pageLimit limit := by
    rw [List.length_mergeSort, ← List.countP_eq_length_filter]
    exact hn
  rw [Pages.flatMap_page_eq_self hlength]
  exact List.mergeSort_perm _ _

/-! ## The loads -/

/-- A PRIMARY workbasket is one without a parent. -/
theorem findWorkbaskets_eq (firmId : HexId) (teams : List Team) :
    findWorkbaskets firmId teams = primaryWorkbaskets firmId teams :=
  List.filter_congr fun team _ => by simp only [team.guardrails]

/-- A text is no ObjectId: the aggregation finds no docket. -/
theorem filter_matchesLoad (firmId : HexId) (store : List Docket) :
    store.filter (matchesLoad firmId) = [] := by
  rw [List.filter_eq_nil_iff]
  intro docket _ hmatch
  simp [matchesLoad] at hmatch

/-- So every workbasket has the load 0. -/
theorem getWorkbasketLoad_perm (localeCompare : String → String → Ordering) (firmId : HexId)
    (teams : List Team) (store : List Docket) :
    (getWorkbasketLoad localeCompare firmId teams store).Perm
      ((primaryWorkbaskets firmId teams).map fun team => ⟨team.id, team.name, 0⟩) := by
  unfold getWorkbasketLoad
  rw [filter_matchesLoad, findWorkbaskets_eq]
  exact List.mergeSort_perm _ _

/-- The loads are right exactly when there is nothing to count. -/
theorem loads_iff (localeCompare : String → String → Ordering) (teams : List Team) :
    (∀ entry ∈ getWorkbasketLoad localeCompare firmId teams store,
        entry.count = store.countP (isLoad firmId entry.workbasketId)) ↔
      ∀ team ∈ primaryWorkbaskets firmId teams, ∀ docket ∈ store,
        isLoad firmId team.id docket = false := by
  have hmem (entry : Load) := (getWorkbasketLoad_perm localeCompare firmId teams store).mem_iff
    (a := entry)
  simp only [hmem, List.mem_map, forall_exists_index, and_imp, forall_apply_eq_imp_iff₂]
  refine forall₂_congr fun team _ => ?_
  rw [eq_comm, List.countP_eq_zero]
  simp only [Bool.not_eq_true]

end

/-! ## When the dashboard agrees -/

/-- The dashboard agrees with the dockets exactly when every late docket is in the workbasket, and no
primary workbasket has an active docket. -/
theorem dashboard_agrees_iff (localeCompare : String → String → Ordering)
    (firmId workbasketId : HexId) (teams : List Team) (now : Date) (store : List Docket) :
    DashboardAgrees localeCompare firmId workbasketId teams now store ↔
      (∀ docket ∈ store, isLate firmId now docket = true → isIn workbasketId docket = true) ∧
        ∀ team ∈ primaryWorkbaskets firmId teams, ∀ docket ∈ store,
          isLoad firmId team.id docket = false := by
  constructor
  · intro h
    exact ⟨total_iff.mp h.total, (loads_iff localeCompare teams).mp h.loads⟩
  · rintro ⟨hlate, hload⟩
    refine ⟨total_iff.mpr hlate, ?_, ?_, (loads_iff localeCompare teams).mpr hload⟩
    · intro limit sort n hn
      have hfilter : (store.filter fun docket =>
          isLate firmId now docket && isIn workbasketId docket) =
          store.filter (isLate firmId now) := by
        refine List.filter_congr fun docket hmem => ?_
        cases hdocket : isLate firmId now docket with
        | false => rfl
        | true => rw [hlate docket hmem hdocket, Bool.and_self]
      have htotal : store.countP (isLate firmId now) ≤ n * pageLimit limit := by
        rw [total_iff.mpr hlate, List.countP_eq_length_filter, hfilter] at hn
        rwa [List.countP_eq_length_filter]
      rw [hfilter]
      exact flatMap_items htotal
    · have hids := (getWorkbasketLoad_perm localeCompare firmId teams store).map (·.workbasketId)
      rw [List.map_map] at hids
      exact hids

/-- A firm, and two of its workbaskets. -/
def someFirm : HexId := ⟨"65f0c3a2b1d4e5f607182900", by decide⟩

def someWorkbasket : HexId := ⟨"65f0c3a2b1d4e5f607182901", by decide⟩

def otherWorkbasket : HexId := ⟨"65f0c3a2b1d4e5f607182902", by decide⟩

/-- An overdue docket of the other workbasket. -/
def lateElsewhere : Docket where
  id := ⟨"65f0c3a2b1d4e5f607182903", by decide⟩
  firmId := someFirm.hex
  slaDueAt := some 0
  workbasketId := some otherWorkbasket

/-- The other workbasket. -/
def otherTeam : Team where
  id := otherWorkbasket
  name := "Other"
  firmId := someFirm
  guardrails := by decide

/-- An overdue docket is on the list of the workbasket that it is not in, and its own workbasket has
no load. -/
theorem dashboard_agrees_fails :
    (getOverdueDockets someFirm (some someWorkbasket) 1 10 "NEWEST" 1 [lateElsewhere]).total = 1 ∧
      (getWorkbasketLoad compare someFirm [otherTeam] [lateElsewhere]).map (·.count) = [0] ∧
      ¬ DashboardAgrees compare someFirm someWorkbasket [otherTeam] 1 [lateElsewhere] := by
  refine ⟨by decide +kernel, by decide +kernel, ?_⟩
  intro h
  have htotal := h.total 1 10 "NEWEST"
  revert htotal
  decide

end Docketra.Dashboard
