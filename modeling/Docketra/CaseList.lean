import Docketra.Lib.Checked
import Docketra.Lib.LastWrite
import Docketra.Assignment
import Docketra.Identifiers

/-!
# The docket list

`getCases` of `services/caseQuery.service.js` assigns the filters of a request to the fields of one
query object, and after them the restriction of the user's clients that `applyClientAccessFilter` of
`middleware/clientAccess.middleware.js` has left on the request. The restriction is a condition on
`clientId`, as is a filter by the client's display id, which it overwrites. So the list is exact on
every database unless a restricted user filters by a display id (`list_exact_iff`).

A docket is what it has in the fields of the query, and a database lists its dockets in the order of
the sort. `isInternal` and `workType` are one filter, which `applyWorkModeFilter` makes of both. What
happens to the dockets that are found, and the log of the list, are left out.
-/

namespace Docketra.CaseList

open Checked
open Assignment (isXID)

/-- The fields that the query asks for. -/
inductive Key where
  | status
  | category
  | priority
  | assignedToXID
  | createdBy
  | crmClientId
  | clientId
  | isInternal
  | workType
  | dealId
  | employeeXID
  | firmId
  | deletedAt
  deriving DecidableEq, Repr

inductive Value where
  | text (s : String)
  | bool (b : Bool)
  deriving DecidableEq, Repr

/-- What a docket has in the fields; `none` is `null`. -/
abbrev Docket := Key → Option Value

/-- A condition on a field. A plain value is `eq`, and a list of texts is `isIn`. -/
inductive Condition where
  | eq (value : Option Value)
  | isIn (first : String) (others : List String)
  | nin (values : List String)
  deriving DecidableEq, Repr

/-- The setters of the schema, which a query applies to its values. -/
def Key.cast : Key → String → String
  | .category, s | .clientId, s => trim s
  | .createdBy, s => trim (toLowerCase s)
  | .assignedToXID, s | .employeeXID, s => castXID s
  | .crmClientId, s | .dealId, s => toLowerCase s
  | _, s => s

def Value.cast (key : Key) : Value → Value
  | .text s => .text (key.cast s)
  | .bool b => .bool b

def isText (value : Option Value) (s : String) : Bool := value == some (.text s)

/-- The condition accepts what a docket has in its field. -/
def Condition.accepts (key : Key) (value : Option Value) : Condition → Bool
  | .eq expected => value == expected.map (Value.cast key)
  | .isIn first others => (first :: others).any fun s => isText value (key.cast s)
  | .nin values => !values.any fun s => isText value (key.cast s)

/-- A query object. -/
abbrev Query := AList fun _ : Key => Condition

def Query.matches (query : Query) (docket : Docket) : Bool :=
  query.entries.all fun entry => entry.2.accepts entry.1 (docket entry.1)

/-- A field, and the condition that is assigned to it. -/
abbrev Filter := Key × Condition

/-- Assignments in their order. -/
def assign (query : Query) (assignments : List Filter) : Query :=
  assignments.foldl (fun q a => q.insert a.1 a.2) query

/-! ## Requests -/

/-- A parameter that is repeated in the query string is a list. -/
inductive Given where
  | text (s : String)
  | list (first : String) (others : List String)
  deriving DecidableEq, Repr

inductive Flag where
  | bool (b : Bool)
  | text (s : String)
  deriving DecidableEq, Repr

structure Request where
  status : Option Given := none
  category : Option String := none
  priority : Option Given := none
  assignedTo : Option String := none
  createdBy : Option String := none
  clientId : Option Given := none
  isInternal : Option Flag := none
  workType : Option String := none
  dealId : Option String := none
  employeeXID : Option String := none
  page : ℕ := 1
  limit : ℕ := 20

/-- A user. The schema has no restricted client whose id is not `C123456`. -/
structure User where
  firmId : String
  restrictedClientIds : List String
  trimmed : ∀ id ∈ restrictedClientIds, trim id = id

/-- The values of `part.split(',')`. -/
def splitComma (s : String) : List String := (s.toList.splitOn ',').map String.ofList

def normalizedStatuses : Option Given → List String
  | none => []
  | some (.text s) => ((splitComma s).map trim).filter (· != "")
  | some (.list first others) =>
    (((first :: others).flatMap splitComma).map trim).filter (· != "")

/-- `if (value)`. -/
def Given.isTruthy : Given → Bool
  | .text s => s != ""
  | .list _ _ => true

def Given.condition : Given → Condition
  | .text s => .eq (some (.text s))
  | .list first others => .isIn first others

/-- `mongoose.Types.ObjectId.isValid`. -/
def Given.isObjectId : Given → Bool
  | .text s => Identifiers.isHex24 s
  | .list _ _ => false

def normalizeIsInternal : Flag → Bool
  | .bool b => b
  | .text s => ["true", "internal", "1"].contains (toLowerCase (trim s))

def deriveWorkTypeFromIsInternal (isInternal : Bool) : String :=
  if isInternal then "internal" else "client"

/-- `normalizeWorkType(value) === 'internal'`. -/
def isInternalWorkType (workType : String) : Bool := toLowerCase (trim workType) == "internal"

/-! ## The filters -/

/-- A filter by text, which assigns nothing when it is not given. -/
def textFilter (key : Key) (value : Option String) (normalize : String → String) :
    List Filter :=
  match value with
  | some s => if s = "" then [] else [(key, .eq (some (.text (normalize s))))]
  | none => []

def statusFilter (request : Request) : List Filter :=
  match normalizedStatuses request.status with
  | [] => []
  | [s] => [(.status, .eq (some (.text s)))]
  | first :: others => [(.status, .isIn first others)]

def priorityFilter (request : Request) : List Filter :=
  match request.priority with
  | some given => if given.isTruthy then [(.priority, given.condition)] else []
  | none => []

def clientFilter (request : Request) : List Filter :=
  match request.clientId with
  | some given =>
    if given.isTruthy then
      -- Only a display id takes the field that the restriction takes as well.
      [(if given.isObjectId then .crmClientId else .clientId, given.condition)]
    else []
  | none => []

/-- The two assignments of a work mode. -/
def workMode (isInternal : Bool) : List Filter :=
  [(.isInternal, .eq (some (.bool isInternal))),
    (.workType, .eq (some (.text (deriveWorkTypeFromIsInternal isInternal))))]

def applyWorkModeFilter (request : Request) : List Filter :=
  match request.isInternal with
  -- `workType` is not looked at when `isInternal` is given.
  | some flag => workMode (normalizeIsInternal flag)
  | none =>
    match request.workType with
    | some workType => if trim workType = "" then [] else workMode (isInternalWorkType workType)
    | none => []

/-- What the filters of a request assign, in the order of the source. -/
def filters (request : Request) : List Filter :=
  statusFilter request ++ textFilter .category request.category id ++ priorityFilter request ++
    textFilter .assignedToXID request.assignedTo (fun s => toUpperCase (trim s)) ++
    textFilter .createdBy request.createdBy toLowerCase ++ clientFilter request ++
    applyWorkModeFilter request ++ textFilter .dealId request.dealId id ++
    textFilter .employeeXID request.employeeXID fun s => toUpperCase (trim s)

/-- `applyClientAccessFilter`. -/
def clientAccessFilter (user : User) : List Filter :=
  if user.restrictedClientIds = [] then [] else [(.clientId, .nin user.restrictedClientIds)]

/-- `enforceTenantScope`, and the default of the soft deletion. -/
def scope (user : User) : List Filter :=
  [(.firmId, .eq (some (.text user.firmId))), (.deletedAt, .eq none)]

inductive Rejection where
  | assignedTo
  | dealId
  | employeeXID
  | noFirm
  deriving DecidableEq, Repr

def Rejection.message : Rejection → String
  | .assignedTo => "Email-based assignedTo queries are not supported. " ++
      "Please use xID (format: X123456)"
  | .dealId => "Invalid dealId"
  | .employeeXID => "employeeXID must be in xID format (X123456)"
  | .noFirm => "Firm context missing from authenticated user"

/-- A parameter that is given does not pass its test. -/
def isRejected (value : Option String) (test : String → Bool) : Bool :=
  truthy value && !value.all test

/-- The query of a request. -/
def getCasesQuery (user : User) (request : Request) : Except Rejection Query := do
  throwIf (isRejected request.assignedTo fun s => isXID (trim s)) .assignedTo
  throwIf (isRejected request.dealId Identifiers.isHex24) .dealId
  throwIf (isRejected request.employeeXID fun s => isXID (toUpperCase (trim s))) .employeeXID
  throwIf (user.firmId = "") .noFirm
  -- A later assignment to a field replaces an earlier one.
  pure (assign ∅ (filters request ++ clientAccessFilter user ++ scope user))

/-- A page of dockets, and how many there are. -/
structure Listing where
  dockets : List Docket
  total : ℕ

def Request.listing (request : Request) (found : List Docket) : Listing where
  dockets := (found.drop ((request.page - 1) * request.limit)).take request.limit
  total := found.length

def getCases (user : User) (request : Request) (database : List Docket) :
    Except Rejection Listing := do
  let query ← getCasesQuery user request
  pure (request.listing (database.filter query.matches))

/-! ## What is asked -/

/-- A docket satisfies every filter of a request. -/
def satisfies (request : Request) (docket : Docket) : Bool :=
  (filters request).all fun filter => filter.2.accepts filter.1 (docket filter.1)

/-- A docket of the user's firm, which is not deleted, and not of a restricted client. -/
def isOpenTo (user : User) (docket : Docket) : Bool :=
  isText (docket .firmId) user.firmId && docket .deletedAt == none &&
    !user.restrictedClientIds.any fun id => isText (docket .clientId) id

/-- A request gives all filters of another one. -/
def Extends (request request' : Request) : Prop :=
  ∀ filter ∈ filters request, filter ∈ filters request'

/-- The list is that of the dockets that are asked for, and more filters find no more dockets. -/
structure Exact (user : User) (request : Request) (database : List Docket) : Prop where
  listing : ∀ listing, getCases user request database = .ok listing →
    listing = request.listing (database.filter fun docket =>
      isOpenTo user docket && satisfies request docket)
  narrows : ∀ request' query query', Extends request request' →
    getCasesQuery user request = .ok query → getCasesQuery user request' = .ok query' →
      ∀ docket ∈ database, query'.matches docket = true → query.matches docket = true

/-- The request filters by the display id of a client. -/
def FiltersByDisplayId (request : Request) : Prop :=
  ∃ given, request.clientId = some given ∧ given.isTruthy = true ∧ given.isObjectId = false

/-! ## Queries -/

theorem Query.matches_iff {query : Query} {docket : Docket} :
    query.matches docket = true ↔
      ∀ key condition, query.lookup key = some condition →
        condition.accepts key (docket key) = true := by
  rw [Query.matches, List.all_eq_true]
  constructor
  · intro h key condition hlookup
    exact h ⟨key, condition⟩ (AList.mem_lookup_iff.mp hlookup)
  · rintro h ⟨key, condition⟩ hmem
    exact h key condition (AList.mem_lookup_iff.mpr hmem)

/-- A field has the condition that was assigned to it last. -/
theorem lookup_assign (assignments : List Filter) (key : Key) :
    (assign ∅ assignments).lookup key =
      (LastWrite.last (fun a => a.1 = key) assignments).map Prod.snd := by
  unfold assign
  rw [LastWrite.lookup_foldl_insert, AList.lookup_empty, Option.or_none]

/-- When no field is assigned to twice, every assignment is kept. -/
theorem lookup_assign_of_nodup {assignments : List Filter}
    (h : (assignments.map Prod.fst).Nodup) {key : Key} {condition : Condition} :
    (assign ∅ assignments).lookup key = some condition ↔ (key, condition) ∈ assignments := by
  rw [lookup_assign]
  constructor
  · intro hlookup
    obtain ⟨a, hlast, rfl⟩ := Option.map_eq_some_iff.mp hlookup
    obtain ⟨hmem, hkey⟩ := LastWrite.mem_of_last hlast
    rw [← of_decide_eq_true hkey]
    exact hmem
  · intro hmem
    obtain ⟨a, hlast⟩ := LastWrite.exists_last_key Prod.fst hmem (rfl : (key, condition).1 = key)
    obtain ⟨ha, hkey⟩ := LastWrite.mem_of_last hlast
    have heq : a = (key, condition) :=
      List.inj_on_of_nodup_map h ha hmem (of_decide_eq_true hkey)
    rw [hlast, heq]
    rfl

theorem matches_assign_of_nodup {assignments : List Filter}
    (h : (assignments.map Prod.fst).Nodup) (docket : Docket) :
    (assign ∅ assignments).matches docket =
      assignments.all fun a => a.2.accepts a.1 (docket a.1) := by
  rw [Bool.eq_iff_iff, Query.matches_iff, List.all_eq_true]
  simp only [lookup_assign_of_nodup h, Prod.forall]

/-! ## The fields of the filters -/

theorem keys_textFilter (key : Key) (value : Option String) (normalize : String → String) :
    ((textFilter key value normalize).map Prod.fst).Sublist [key] := by
  unfold textFilter
  split
  · split_ifs
    · exact List.nil_sublist _
    · exact List.Sublist.refl _
  · exact List.nil_sublist _

theorem keys_statusFilter (request : Request) :
    ((statusFilter request).map Prod.fst).Sublist [.status] := by
  unfold statusFilter
  split
  · exact List.nil_sublist _
  · exact List.Sublist.refl _
  · exact List.Sublist.refl _

theorem keys_priorityFilter (request : Request) :
    ((priorityFilter request).map Prod.fst).Sublist [.priority] := by
  unfold priorityFilter
  split
  · split_ifs
    · exact List.Sublist.refl _
    · exact List.nil_sublist _
  · exact List.nil_sublist _

theorem keys_applyWorkModeFilter (request : Request) :
    ((applyWorkModeFilter request).map Prod.fst).Sublist [.isInternal, .workType] := by
  unfold applyWorkModeFilter
  split
  · exact List.Sublist.refl _
  · split
    · split_ifs
      · exact List.nil_sublist _
      · exact List.Sublist.refl _
    · exact List.nil_sublist _

/-- The fields that a filter by client may assign to. -/
def clientKeys (request : Request) : List Key := (clientFilter request).map Prod.fst

theorem clientKeys_sublist (request : Request) :
    (clientKeys request).Sublist [.crmClientId, .clientId] := by
  unfold clientKeys clientFilter
  split
  · split_ifs
    · exact List.sublist_append_left [Key.crmClientId] [Key.clientId]
    · exact List.sublist_cons_self _ _
    · exact List.nil_sublist _
  · exact List.nil_sublist _

theorem mem_clientKeys_iff (request : Request) :
    .clientId ∈ clientKeys request ↔ FiltersByDisplayId request := by
  unfold clientKeys clientFilter FiltersByDisplayId
  cases request.clientId with
  | none => simp
  | some given =>
    by_cases htruthy : given.isTruthy = true
    · by_cases hobject : given.isObjectId = true <;> simp [htruthy, hobject]
    · simp [htruthy]

/-- The fields before and after those of the client. -/
def keysBefore : List Key := [.status, .category, .priority, .assignedToXID, .createdBy]

def keysAfter : List Key := [.isInternal, .workType, .dealId, .employeeXID]

theorem keys_filters (request : Request) :
    ((filters request).map Prod.fst).Sublist (keysBefore ++ clientKeys request ++ keysAfter) := by
  unfold filters
  simp only [List.map_append]
  have hbefore := ((((keys_statusFilter request).append
    (keys_textFilter .category request.category id)).append (keys_priorityFilter request)).append
    (keys_textFilter .assignedToXID request.assignedTo fun s => toUpperCase (trim s))).append
    (keys_textFilter .createdBy request.createdBy toLowerCase)
  have hall := (((hbefore.append (List.Sublist.refl (clientKeys request))).append
    (keys_applyWorkModeFilter request)).append (keys_textFilter .dealId request.dealId id)).append
    (keys_textFilter .employeeXID request.employeeXID fun s => toUpperCase (trim s))
  simpa only [clientKeys, keysBefore, keysAfter, List.append_assoc, List.cons_append,
    List.nil_append] using hall

/-- The filters assign to each field once. -/
theorem nodup_keys_filters (request : Request) : ((filters request).map Prod.fst).Nodup := by
  have hkeys : (keysBefore ++ clientKeys request ++ keysAfter).Sublist
      (keysBefore ++ [Key.crmClientId, .clientId] ++ keysAfter) :=
    ((List.Sublist.refl _).append (clientKeys_sublist request)).append (List.Sublist.refl _)
  have hnodup : (keysBefore ++ [Key.crmClientId, .clientId] ++ keysAfter).Nodup := by decide
  exact hnodup.sublist ((keys_filters request).trans hkeys)

/-- What is assigned after the filters. -/
def rest (user : User) : List Filter := clientAccessFilter user ++ scope user

theorem keys_rest (user : User) :
    ((rest user).map Prod.fst).Sublist [.clientId, .firmId, .deletedAt] := by
  unfold rest clientAccessFilter
  split_ifs
  · exact List.sublist_cons_self _ _
  · exact List.Sublist.refl _

theorem clientId_mem_rest (user : User) :
    .clientId ∈ (rest user).map Prod.fst ↔ user.restrictedClientIds ≠ [] := by
  unfold rest clientAccessFilter scope
  split_ifs with h <;> simp [h]

/-- Neither a restriction nor the filters are assigned to a field again, unless both are on the
display id. -/
theorem nodup_keys {user : User} {request : Request}
    (h : user.restrictedClientIds = [] ∨ ¬ FiltersByDisplayId request) :
    ((filters request ++ rest user).map Prod.fst).Nodup := by
  rw [List.map_append, List.nodup_append]
  have hrest : ([.clientId, .firmId, .deletedAt] : List Key).Nodup := by decide
  refine ⟨nodup_keys_filters request, hrest.sublist (keys_rest user),
    fun key hfilter key' hrest' => ?_⟩
  rintro rfl
  have hmem := (keys_filters request).subset hfilter
  have hnot : key ∉ keysBefore ++ [Key.crmClientId] ++ keysAfter := by
    have hcases := (keys_rest user).subset hrest'
    simp only [List.mem_cons, List.not_mem_nil, or_false] at hcases
    rcases hcases with rfl | rfl | rfl <;> decide
  simp only [List.mem_append, not_or, List.mem_singleton] at hmem hnot
  have hclient : key ∈ clientKeys request := by
    rcases hmem with (hbefore | hclient) | hafter
    · exact absurd hbefore hnot.1.1
    · exact hclient
    · exact absurd hafter hnot.2
  have hkey : key = .clientId := by
    have hpair := (clientKeys_sublist request).subset hclient
    simp only [List.mem_cons, List.not_mem_nil, or_false] at hpair
    exact hpair.resolve_left hnot.1.2
  subst hkey
  rcases h with hnone | hdisplay
  · exact (clientId_mem_rest user).mp hrest' hnone
  · exact hdisplay ((mem_clientKeys_iff request).mp hclient)

/-! ## The list -/

theorem getCasesQuery_eq_ok {user : User} {request : Request} {query : Query}
    (h : getCasesQuery user request = .ok query) :
    query = assign ∅ (filters request ++ rest user) := by
  unfold getCasesQuery at h
  obtain ⟨_, _, h⟩ := bind_eq_ok.mp h
  obtain ⟨_, _, h⟩ := bind_eq_ok.mp h
  obtain ⟨_, _, h⟩ := bind_eq_ok.mp h
  obtain ⟨_, _, h⟩ := bind_eq_ok.mp h
  rw [List.append_assoc] at h
  exact (Except.ok.inj h).symm

/-- What is assigned after the filters asks for the dockets that are open to the user. -/
theorem all_rest (user : User) (docket : Docket) :
    ((rest user).all fun a => a.2.accepts a.1 (docket a.1)) = isOpenTo user docket := by
  have hcast : (user.restrictedClientIds.any fun id =>
      isText (docket .clientId) (Key.clientId.cast id)) =
      user.restrictedClientIds.any fun id => isText (docket .clientId) id := by
    rw [Bool.eq_iff_iff, List.any_eq_true, List.any_eq_true]
    refine exists_congr fun id => and_congr_right fun hid => ?_
    show isText (docket .clientId) (trim id) = true ↔ _
    rw [user.trimmed id hid]
  have haccess : ((clientAccessFilter user).all fun a => a.2.accepts a.1 (docket a.1)) =
      !user.restrictedClientIds.any fun id => isText (docket .clientId) id := by
    unfold clientAccessFilter
    split_ifs with hnone
    · rw [hnone]
      rfl
    · rw [List.all_cons, List.all_nil, Bool.and_true, Condition.accepts, hcast]
  have hscope : ((scope user).all fun a => a.2.accepts a.1 (docket a.1)) =
      (isText (docket .firmId) user.firmId && docket .deletedAt == none) := by
    rw [scope, List.all_cons, List.all_cons, List.all_nil, Bool.and_true]
    rfl
  rw [rest, List.all_append, haccess, hscope, isOpenTo, Bool.and_comm]

/-- Without a conflict, the query finds what is asked for. -/
theorem matches_eq {user : User} {request : Request}
    (h : user.restrictedClientIds = [] ∨ ¬ FiltersByDisplayId request) (docket : Docket) :
    (assign ∅ (filters request ++ rest user)).matches docket =
      (isOpenTo user docket && satisfies request docket) := by
  rw [matches_assign_of_nodup (nodup_keys h), List.all_append, all_rest, satisfies, Bool.and_comm]

/-! ## More filters -/

/-- A restriction is kept whatever the filters are. -/
theorem last_rest {user : User} (filters : List Filter) {key : Key}
    (h : key ∈ (rest user).map Prod.fst) :
    LastWrite.last (fun a => a.1 = key) (filters ++ rest user) =
      LastWrite.last (fun a => a.1 = key) (rest user) := by
  obtain ⟨a, ha, hkey⟩ := List.mem_map.mp h
  obtain ⟨b, hb⟩ := LastWrite.exists_last_key Prod.fst ha hkey
  unfold LastWrite.last at hb ⊢
  rw [List.reverse_append, List.find?_append, hb]
  rfl

theorem last_filters {user : User} (filters : List Filter) {key : Key}
    (h : key ∉ (rest user).map Prod.fst) :
    LastWrite.last (fun a => a.1 = key) (filters ++ rest user) =
      LastWrite.last (fun a => a.1 = key) filters := by
  have hnone : LastWrite.last (fun a : Filter => a.1 = key) (rest user) = none := by
    unfold LastWrite.last
    rw [List.find?_eq_none]
    intro a ha hkey
    exact h (List.mem_map.mpr ⟨a, List.mem_reverse.mp ha, of_decide_eq_true hkey⟩)
  unfold LastWrite.last at hnone ⊢
  rw [List.reverse_append, List.find?_append, hnone]
  rfl

/-- A request with more filters has a query with more conditions. -/
theorem lookup_of_extends {user : User} {request request' : Request} (h : Extends request request')
    {key : Key} {condition : Condition}
    (hlookup : (assign ∅ (filters request ++ rest user)).lookup key = some condition) :
    (assign ∅ (filters request' ++ rest user)).lookup key = some condition := by
  rw [lookup_assign] at hlookup ⊢
  by_cases hrest : key ∈ (rest user).map Prod.fst
  · rw [last_rest _ hrest] at hlookup ⊢
    exact hlookup
  · rw [last_filters _ hrest] at hlookup ⊢
    rw [← lookup_assign, lookup_assign_of_nodup (nodup_keys_filters _)] at hlookup ⊢
    exact h _ hlookup

theorem matches_of_extends {user : User} {request request' : Request}
    (h : Extends request request') {docket : Docket}
    (hmatches : (assign ∅ (filters request' ++ rest user)).matches docket = true) :
    (assign ∅ (filters request ++ rest user)).matches docket = true := by
  rw [Query.matches_iff] at hmatches ⊢
  exact fun key condition hlookup => hmatches key condition (lookup_of_extends h hlookup)

/-! ## A restricted user who filters by a display id -/

/-- What a condition accepts. -/
def sample (key : Key) : Condition → Option Value
  | .eq expected => expected.map (Value.cast key)
  | .isIn first _ => some (.text (key.cast first))
  | .nin _ => none

theorem accepts_sample (key : Key) (condition : Condition) :
    condition.accepts key (sample key condition) = true := by
  cases condition with
  | eq expected => exact beq_self_eq_true _
  | isIn first others =>
    rw [Condition.accepts, List.any_cons, Bool.or_eq_true]
    exact Or.inl (beq_self_eq_true _)
  | nin values =>
    rw [Condition.accepts, Bool.not_eq_true', List.any_eq_false]
    exact fun _ _ h => nomatch h

/-- A docket that a query finds. -/
def Query.docket (query : Query) : Docket := fun key => (query.lookup key).bind (sample key)

theorem Query.matches_docket (query : Query) : query.matches query.docket = true := by
  rw [Query.matches_iff]
  intro key condition hlookup
  rw [Query.docket, hlookup]
  exact accepts_sample key condition

/-- A filter by client does not accept a docket without a client. -/
theorem Given.accepts_none (given : Given) : given.condition.accepts .clientId none = false := by
  cases given with
  | text s => rfl
  | list first others =>
    rw [Given.condition, Condition.accepts, List.any_eq_false]
    exact fun _ _ h => nomatch h

theorem mem_filters_of_filtersByDisplayId {request : Request} (h : FiltersByDisplayId request) :
    ∃ given : Given, (.clientId, given.condition) ∈ filters request := by
  obtain ⟨given, hgiven, htruthy, hobject⟩ := h
  have hclient : clientFilter request = [(.clientId, given.condition)] := by
    unfold clientFilter
    rw [hgiven]
    simp only [htruthy, hobject, if_true, Bool.false_eq_true, if_false]
  refine ⟨given, ?_⟩
  unfold filters
  rw [hclient]
  simp

/-- The restriction is what is left of the two. -/
theorem lookup_clientId {user : User} (h : user.restrictedClientIds ≠ []) (request : Request) :
    (assign ∅ (filters request ++ rest user)).lookup .clientId =
      some (.nin user.restrictedClientIds) := by
  rw [lookup_assign, last_rest _ ((clientId_mem_rest user).mpr h)]
  unfold rest clientAccessFilter
  rw [if_neg h]
  rfl

/-- The query finds a docket that the filter does not ask for. -/
theorem exists_not_exact {user : User} {request : Request} {query : Query}
    (hquery : getCasesQuery user request = .ok query) (hrestricted : user.restrictedClientIds ≠ [])
    (hdisplay : FiltersByDisplayId request) : ¬ Exact user request [query.docket] := by
  intro h
  have heq := getCasesQuery_eq_ok hquery
  obtain ⟨given, hgiven⟩ := mem_filters_of_filtersByDisplayId hdisplay
  have hnone : query.docket .clientId = none := by
    rw [Query.docket, heq, lookup_clientId hrestricted]
    rfl
  have hnot : satisfies request query.docket = false := by
    rw [satisfies, List.all_eq_false]
    refine ⟨_, hgiven, ?_⟩
    show ¬ given.condition.accepts .clientId (query.docket .clientId) = true
    rw [hnone, given.accepts_none]
    exact Bool.false_ne_true
  have hlist := h.listing (request.listing [query.docket]) (by
    rw [getCases, hquery]
    show Except.ok (request.listing ([query.docket].filter query.matches)) = _
    rw [List.filter_cons_of_pos query.matches_docket, List.filter_nil])
  have htotal := congrArg Listing.total hlist
  rw [List.filter_cons_of_neg (by rw [hnot, Bool.and_false]; exact Bool.false_ne_true)] at htotal
  exact Nat.one_ne_zero htotal

/-! ## The result -/

/-- `getCases` takes the request. -/
def Accepted (user : User) (request : Request) : Prop :=
  ∃ query, getCasesQuery user request = .ok query

theorem exact_of_no_conflict {user : User} {request : Request}
    (h : user.restrictedClientIds = [] ∨ ¬ FiltersByDisplayId request) (database : List Docket) :
    Exact user request database := by
  constructor
  · intro listing hlisting
    obtain ⟨query, hquery, hlisting⟩ := bind_eq_ok.mp hlisting
    have hfound : query.matches = fun docket =>
        isOpenTo user docket && satisfies request docket := by
      funext docket
      rw [getCasesQuery_eq_ok hquery, matches_eq h]
    rw [hfound] at hlisting
    exact (Except.ok.inj hlisting).symm
  · intro request' query query' hextends hquery hquery' docket _ hmatches
    rw [getCasesQuery_eq_ok hquery'] at hmatches
    rw [getCasesQuery_eq_ok hquery]
    exact matches_of_extends hextends hmatches

/-- **The list of a request is exact on every database exactly when the user has no restrictions, or
the request does not filter by the display id of a client.** -/
theorem list_exact_iff (user : User) (request : Request) :
    (∀ database, Exact user request database) ↔
      (Accepted user request →
        user.restrictedClientIds = [] ∨ ¬ FiltersByDisplayId request) := by
  constructor
  · rintro h ⟨query, hquery⟩
    by_contra hconflict
    rw [not_or, not_not] at hconflict
    exact exists_not_exact hquery hconflict.1 hconflict.2 (h [query.docket])
  · intro h database
    by_cases haccepted : Accepted user request
    · exact exact_of_no_conflict (h haccepted) database
    · constructor
      · intro listing hlisting
        obtain ⟨query, hquery, -⟩ := bind_eq_ok.mp hlisting
        exact absurd ⟨query, hquery⟩ haccepted
      · intro _ query _ _ hquery
        exact absurd ⟨query, hquery⟩ haccepted

/-! ## A list of another client's dockets -/

def restrictedUser : User where
  firmId := "firm-1"
  restrictedClientIds := ["C000002"]
  trimmed := by decide

def byClient : Request := { clientId := some (.text "C000001") }

/-- A docket of a client that is neither asked for nor restricted. -/
def otherDocket : Docket
  | .firmId => some (.text "firm-1")
  | .clientId => some (.text "C000003")
  | _ => none

/-- The list has the docket, and the filter does not. -/
theorem list_exact_fails :
    (∃ listing, getCases restrictedUser byClient [otherDocket] = .ok listing ∧ listing.total = 1) ∧
      satisfies byClient otherDocket = false ∧ ¬ Exact restrictedUser byClient [otherDocket] := by
  have hok : getCases restrictedUser byClient [otherDocket] =
      .ok (byClient.listing [otherDocket]) := rfl
  refine ⟨⟨_, hok, rfl⟩, by decide, fun h => ?_⟩
  have htotal := congrArg Listing.total (h.listing _ hok)
  exact absurd htotal (by decide)

end Docketra.CaseList
