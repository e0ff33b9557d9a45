import Docketra.Docket
import Docketra.Lib.Directory

/-!
# Bulk upload of dockets

`validateBulkDockets` of `services/bulkUpload.service.js` looks up what each row of an upload names
in what the firm has, and returns a result for each row. The module loads the model of clients only,
while `buildValidationContext` reads those of workbaskets and categories as well, so no upload is
validated (`validateBulkDockets_never`).

With all three models, each row has its own result (`validateBulkDockets_loaded`), and when no text
names two categories, the results are exact but for the status of a row, which the code never
compares with `ALLOWED_STATUSES` (`exact_loaded_iff`).
-/

namespace Docketra.BulkDockets

open Checked

/-! ## What a firm has -/

structure Team where
  _id : ObjectId
  firmId : ObjectId
  name : String
  isActive : Bool
  deriving DecidableEq, Repr

structure Subcategory where
  id : String
  name : String
  workbasketId : ObjectId
  isActive : Bool
  deriving DecidableEq, Repr

structure Category where
  _id : ObjectId
  firmId : ObjectId
  name : String
  subcategories : List Subcategory
  isActive : Bool
  isDeleted : Bool
  deriving DecidableEq, Repr

structure Client where
  _id : ObjectId
  firmId : ObjectId
  clientId : String
  businessName : Option String
  isDeleted : Bool
  deriving DecidableEq, Repr

/-- The documents of all firms. -/
structure Database where
  teams : List Team
  categories : List Category
  clients : List Client

/-- The filters of `buildValidationContext`, with that of the soft-delete plugin. -/
def Database.teamsOf (db : Database) (firmId : ObjectId) : List Team :=
  db.teams.filter fun t => t.firmId = firmId && t.isActive

def Database.categoriesOf (db : Database) (firmId : ObjectId) : List Category :=
  db.categories.filter fun c => c.firmId = firmId && c.isActive && !c.isDeleted

def Database.clientsOf (db : Database) (firmId : ObjectId) : List Client :=
  db.clients.filter fun c => c.firmId = firmId && !c.isDeleted

/-! ## Rows -/

/-- A row of an upload. The route takes texts only. -/
abbrev Row := String → Option String

/-- `normalizeString`. -/
def normalizeString (value : Option String) : String := trim (value.getD "")

/-- A row as `normalizeBulkRow` reads it. -/
structure BulkRow where
  title : String
  description : String
  workbasket : String
  category : String
  subcategory : String
  priority : String
  clientId : String
  status : String
  startDate : String
  completedDate : String
  assignedToEmail : String
  docketId : String
  deriving DecidableEq, Repr

/-- `row.a || row.b || row.c`. -/
def firstOf (row : Row) (a b c : String) : Option String := orElse (orElse (row a) (row b)) (row c)

/-- `normalizeBulkRow`. -/
def normalizeBulkRow (row : Row) : BulkRow where
  title := normalizeString (firstOf row "title" "docketTitle" "summary")
  description := normalizeString (orElse (row "description") (row "notes"))
  workbasket := normalizeString (firstOf row "workbasket" "team" "workbasketName")
  category := normalizeString (firstOf row "category" "workType" "categoryName")
  subcategory := normalizeString (firstOf row "subcategory" "subCategory" "subcategoryName")
  priority := toLowerCase (normalizeString (orElse (row "priority") (some "medium")))
  clientId := normalizeString (orElse (firstOf row "clientId" "client_id" "client")
    (row "clientName"))
  status := toUpperCase (normalizeString (orElse (row "status") (some "RESOLVED")))
  startDate := normalizeString (firstOf row "startDate" "start_date" "createdAt")
  completedDate := normalizeString (firstOf row "completedDate" "completed_date" "finishedAt")
  assignedToEmail := normalizeString (firstOf row "assignedToEmail" "assignedTo" "assigned_to")
  docketId := normalizeString (firstOf row "docketId" "caseId" "caseNumber")

def ALLOWED_PRIORITIES : List String := ["low", "medium", "high"]

def ALLOWED_STATUSES : List String :=
  ["open", "pending", "resolved", "in_progress", "qc_pending", "qc_failed", "filed"]

/-! ## Lookups -/

/-- `getTeamLookupKey`. -/
def Team.keys (t : Team) : List String :=
  [trim t._id.hex, toLowerCase (trim t.name)].filter (· ≠ "")

def Category.keys (c : Category) : List String := [c._id.hex, toLowerCase (trim c.name)]

def Client.keys (c : Client) : List String :=
  (if c.clientId ≠ "" then [toUpperCase c.clientId] else []) ++
    (c.businessName.filter (· ≠ "")).elim [] (fun name => [toLowerCase (trim name)]) ++ [c._id.hex]

/-- `teamLookup.get(name) || teamLookup.get(teamKey)`. -/
def findTeam (teams : List Team) (name : String) : Option Team :=
  Directory.search Team.keys teams name (toLowerCase name)

def findCategory (categories : List Category) (name : String) : Option Category :=
  Directory.search Category.keys categories name (toLowerCase name)

def findClient (clients : List Client) (name : String) : Option Client :=
  Directory.search Client.keys clients (toUpperCase name) (toLowerCase name)

def Category.activeSubcategories (c : Category) : List Subcategory :=
  c.subcategories.filter (·.isActive)

/-- The answer of `buildValidationContext`. -/
structure Context where
  teams : List Team
  categories : List Category
  clients : List Client
  defaultCategory : Option Category

/-- The models that the service queries. -/
inductive Model where
  | Client | Team | Category
  deriving DecidableEq, Repr

def Model.name : Model → String
  | .Client => "Client"
  | .Team => "Team"
  | .Category => "Category"

/-- The models that `bulkUpload.service.js` requires. -/
def required : List Model := [.Client]

/-- A query by a model, whose name must be bound in the module. -/
def query {α : Type} (loaded : List Model) (model : Model) (found : List α) :
    Except String (List α) :=
  if model ∈ loaded then .ok found else .error (model.name ++ " is not defined")

/-- `buildValidationContext`, in a module with these models. -/
def buildValidationContext (loaded : List Model) (db : Database) (firmId : ObjectId) :
    Except String Context := do
  let teams ← query loaded .Team (db.teamsOf firmId)
  let categories ← query loaded .Category (db.categoriesOf firmId)
  let clients ← query loaded .Client (db.clientsOf firmId)
  return {
    teams
    categories
    clients
    defaultCategory := categories.find? fun c => c.subcategories.any (·.isActive) }

/-! ## Validation -/

/-- `String(sub.id) === subcategory || …`. -/
def Subcategory.isNamed (name : String) (sub : Subcategory) : Bool :=
  sub.id == name || toLowerCase (trim sub.name) == toLowerCase name

def resolveCategory (ctx : Context) (category : String) : Option Category :=
  if category ≠ "" then findCategory ctx.categories category else ctx.defaultCategory

def resolveSubcategory (team : Option Team) (category : Option Category) (subcategory : String) :
    Option Subcategory :=
  let active := category.elim [] Category.activeSubcategories
  if subcategory ≠ "" then active.find? (·.isNamed subcategory)
  else (active.find? fun sub => team.any fun t => sub.workbasketId == t._id).or active.head?

def resolveClient (ctx : Context) (clientId : String) : Option Client :=
  if clientId ≠ "" then findClient ctx.clients clientId else none

/-- `if (wrong) errors.push(message)`. -/
def errorIf (wrong : Bool) (message : String) : List String := if wrong then [message] else []

/-- What the names of a row stand for. -/
structure Resolved where
  team : Option Team
  category : Option Category
  subcategory : Option Subcategory
  client : Option Client
  deriving DecidableEq, Repr

def resolve (ctx : Context) (data : BulkRow) : Resolved :=
  let team := findTeam ctx.teams data.workbasket
  let category := resolveCategory ctx data.category
  { team
    category
    subcategory := resolveSubcategory team category data.subcategory
    client := resolveClient ctx data.clientId }

/-- The errors of a row, in their order. -/
def rowErrors (data : BulkRow) (found : Resolved) : List String :=
  errorIf (data.title = "") "Missing title" ++
  errorIf found.team.isNone "Invalid workbasket" ++
  errorIf found.category.isNone
    (if data.category ≠ "" then "Invalid category"
      else "No active category available for this firm") ++
  errorIf (data.subcategory ≠ "" && found.subcategory.isNone) "Invalid subcategory" ++
  errorIf (found.category.isSome && found.subcategory.isNone)
    "Subcategory is required for selected category" ++
  errorIf (data.priority ≠ "" && data.priority ∉ ALLOWED_PRIORITIES)
    "Invalid priority. Allowed values: LOW, MEDIUM, HIGH" ++
  errorIf (data.clientId ≠ "" && found.client.isNone)
    ("Client \"" ++ data.clientId ++ "\" not found")

/-- The docket that a valid row asks for. -/
structure NormalizedData where
  title : String
  description : String
  workbasketId : String
  workbasketName : String
  categoryId : String
  category : String
  subcategoryId : String
  subcategory : String
  priority : String
  clientId : Option String
  status : String
  startDate : Option String
  completedDate : Option String
  assignedTo : Option String
  isHistoricalImport : Bool
  deriving DecidableEq, Repr

structure RowResult where
  rowIndex : ℕ
  isValid : Bool
  normalizedData : Option NormalizedData
  errors : List String
  deriving DecidableEq, Repr

/-- `text || other`. -/
def orDefault (text other : String) : String := if text ≠ "" then text else other

/-- `text || undefined`. -/
def orUndefined (text : String) : Option String := if text ≠ "" then some text else none

def normalizedData (data : BulkRow) (client : Option Client) (team : Team) (category : Category)
    (sub : Subcategory) : NormalizedData where
  title := data.title
  description := orDefault data.description "Bulk uploaded historical docket"
  workbasketId := team._id.hex
  workbasketName := team.name
  categoryId := category._id.hex
  category := category.name
  subcategoryId := sub.id
  subcategory := sub.name
  priority := orDefault data.priority "medium"
  clientId := client.map (·.clientId)
  status := orDefault data.status "RESOLVED"
  startDate := orUndefined data.startDate
  completedDate := orUndefined data.completedDate
  assignedTo := orUndefined data.assignedToEmail
  isHistoricalImport := true

/-- The data of a row whose names all stand for something. A row without errors is such a row
(`resolved_of_valid`). -/
def dataOf (data : BulkRow) (found : Resolved) : Option NormalizedData := do
  return normalizedData data found.client (← found.team) (← found.category) (← found.subcategory)

/-- The result of one row. -/
def validateRow (ctx : Context) (index : ℕ) (row : Row) : RowResult :=
  let data := normalizeBulkRow row
  let found := resolve ctx data
  let errors := rowErrors data found
  { rowIndex := index + 1
    isValid := errors.isEmpty
    normalizedData := if errors.isEmpty then dataOf data found else none
    errors }

/-- `validateBulkDockets`, in a module with these models. -/
def validateWith (loaded : List Model) (db : Database) (rows : List Row) (firmId : ObjectId) :
    Except String (List RowResult) := do
  let ctx ← buildValidationContext loaded db firmId
  return rows.mapIdx (validateRow ctx)

/-- `validateBulkDockets`. -/
def validateBulkDockets (db : Database) (rows : List Row) (firmId : ObjectId) :
    Except String (List RowResult) :=
  validateWith required db rows firmId

/-! ## What the results have to be -/

/-- A name stands for a document: it is its id or its name, in upper or lower case. -/
def Team.NamedBy (name : String) (t : Team) : Prop := name ∈ t.keys ∨ toLowerCase name ∈ t.keys

def Category.NamedBy (name : String) (c : Category) : Prop :=
  name ∈ c.keys ∨ toLowerCase name ∈ c.keys

def Client.NamedBy (name : String) (c : Client) : Prop :=
  toUpperCase name ∈ c.keys ∨ toLowerCase name ∈ c.keys

section spec

variable (db : Database) (firmId : ObjectId)

/-- No text names two categories of the firm. -/
def Unambiguous : Prop :=
  ∀ name, ∀ c ∈ db.categoriesOf firmId, ∀ d ∈ db.categoriesOf firmId,
    c.NamedBy name → d.NamedBy name → c = d

/-- The first category of the firm with an active subcategory. -/
def defaultCategory : Option Category :=
  (db.categoriesOf firmId).find? fun c => c.subcategories.any (·.isActive)

/-- The category is one that the row names, or the default when it names none. -/
def Chosen (data : BulkRow) (c : Category) : Prop :=
  if data.category ≠ "" then c ∈ db.categoriesOf firmId ∧ c.NamedBy data.category
  else defaultCategory db firmId = some c

/-- The subcategory is active, and the row names it or none. -/
def ChosenSub (data : BulkRow) (c : Category) (sub : Subcategory) : Prop :=
  sub ∈ c.activeSubcategories ∧ (data.subcategory ≠ "" → sub.isNamed data.subcategory = true)

/-- A valid row, apart from its status. -/
structure Resolvable (data : BulkRow) : Prop where
  title : data.title ≠ ""
  workbasket : ∃ t ∈ db.teamsOf firmId, t.NamedBy data.workbasket
  category : ∃ c, Chosen db firmId data c ∧ ∃ sub, ChosenSub data c sub
  priority : data.priority ≠ "" → data.priority ∈ ALLOWED_PRIORITIES
  client : data.clientId ≠ "" → ∃ c ∈ db.clientsOf firmId, c.NamedBy data.clientId

def StatusAllowed (data : BulkRow) : Prop :=
  data.status ≠ "" → toLowerCase data.status ∈ ALLOWED_STATUSES

/-- The normalized data refer to what the row names. -/
structure Refers (data : BulkRow) (out : NormalizedData) : Prop where
  workbasket : ∃ t ∈ db.teamsOf firmId, t.NamedBy data.workbasket ∧ out.workbasketId = t._id.hex
  category : ∃ c, Chosen db firmId data c ∧ out.categoryId = c._id.hex ∧
    ∃ sub, ChosenSub data c sub ∧ out.subcategoryId = sub.id
  client : if data.clientId ≠ "" then
      ∃ c ∈ db.clientsOf firmId, c.NamedBy data.clientId ∧ out.clientId = some c.clientId
    else out.clientId = none

/-- The result is that of the row. -/
structure ExactFor (row : Row) (result : RowResult) : Prop where
  valid : result.isValid = true ↔
    Resolvable db firmId (normalizeBulkRow row) ∧ StatusAllowed (normalizeBulkRow row)
  refers : result.isValid = true →
    ∃ out, result.normalizedData = some out ∧ Refers db firmId (normalizeBulkRow row) out

/-- There is one result for each row, in their order, which is that of the row, and depends on no
other row. -/
structure Exact (loaded : List Model) (rows : List Row) (results : List RowResult) : Prop where
  each : List.Forall₂ (ExactFor db firmId) rows results
  rowOnly : ∀ rows' results', validateWith loaded db rows' firmId = .ok results' →
    ∀ (i j : ℕ) (row : Row) (result result' : RowResult),
      rows[i]? = some row → rows'[j]? = some row → results[i]? = some result →
        results'[j]? = some result' → result = { result' with rowIndex := i + 1 }

/-- The rows are validated as they should be. -/
def Validated (loaded : List Model) (rows : List Row) : Prop :=
  ∃ results, validateWith loaded db rows firmId = .ok results ∧ Exact db firmId loaded rows results

end spec

/-! ## The module as it is -/

/-- No rows of any firm are validated. -/
theorem validateBulkDockets_never (db : Database) (rows : List Row) (firmId : ObjectId) :
    validateBulkDockets db rows firmId = .error "Team is not defined" ∧
      ¬Validated db firmId required rows := by
  have herror : validateWith required db rows firmId = .error "Team is not defined" := rfl
  refine ⟨herror, ?_⟩
  rintro ⟨results, hok, -⟩
  rw [herror] at hok
  cases hok

/-- A firm with a workbasket and a category. -/
def taxFirm : Database where
  teams := [⟨⟨"64b1"⟩, ⟨"64f0"⟩, "Tax desk", true⟩]
  categories := [⟨⟨"64c1"⟩, ⟨"64f0"⟩, "Tax", [⟨"s1", "Filing", ⟨"64b1"⟩, true⟩], true, false⟩]
  clients := []

/-- `{ title: 'Return 2023', workbasket: 'Tax desk' }`. -/
def returnRow : Row := fun column =>
  if column = "title" then some "Return 2023"
  else if column = "workbasket" then some "Tax desk"
  else none

theorem validateBulkDockets_fails :
    ¬∀ db rows firmId, Validated db firmId required rows := by
  intro h
  obtain ⟨results, hok, -⟩ := h taxFirm [returnRow] ⟨"64f0"⟩
  cases hok

/-! ## The module with its models -/

variable {db : Database} {firmId : ObjectId} {loaded : List Model} {data : BulkRow}

/-- The context that the firm's documents make. -/
def contextOf (db : Database) (firmId : ObjectId) : Context where
  teams := db.teamsOf firmId
  categories := db.categoriesOf firmId
  clients := db.clientsOf firmId
  defaultCategory := defaultCategory db firmId

/-- With all models, each row gets the result of the row in the firm. -/
theorem validateBulkDockets_loaded (hloaded : ∀ model, model ∈ loaded) (rows : List Row) :
    validateWith loaded db rows firmId =
      .ok (rows.mapIdx (validateRow (contextOf db firmId))) := by
  unfold validateWith buildValidationContext query
  rw [if_pos (hloaded .Team), if_pos (hloaded .Category), if_pos (hloaded .Client)]
  rfl

theorem errorIf_eq_nil {wrong : Bool} {message : String} :
    errorIf wrong message = [] ↔ wrong = false := by
  cases wrong
  · exact iff_of_true rfl rfl
  · exact iff_of_false (List.cons_ne_nil _ _) Bool.true_eq_false.mp

/-- A row has no error exactly when it has a title and an allowed priority, and all its names stand
for something. -/
theorem rowErrors_eq_nil {found : Resolved} :
    rowErrors data found = [] ↔ data.title ≠ "" ∧ found.team.isSome ∧ found.category.isSome ∧
      found.subcategory.isSome ∧ (data.priority ≠ "" → data.priority ∈ ALLOWED_PRIORITIES) ∧
      (data.clientId ≠ "" → found.client.isSome) := by
  simp only [rowErrors, List.append_eq_nil_iff, errorIf_eq_nil]
  cases found.team <;> cases found.category <;> cases found.subcategory <;>
    cases found.client <;> simp [and_assoc]

theorem findTeam_isSome {teams : List Team} {name : String} :
    (findTeam teams name).isSome ↔ ∃ t ∈ teams, t.NamedBy name :=
  Directory.search_isSome_iff

theorem findClient_isSome {clients : List Client} {name : String} :
    (findClient clients name).isSome ↔ ∃ c ∈ clients, c.NamedBy name :=
  Directory.search_isSome_iff

theorem findCategory_isSome {categories : List Category} {name : String} :
    (findCategory categories name).isSome ↔ ∃ c ∈ categories, c.NamedBy name :=
  Directory.search_isSome_iff

theorem chosen_of_resolve {c : Category}
    (h : resolveCategory (contextOf db firmId) data.category = some c) :
    Chosen db firmId data c := by
  unfold resolveCategory at h
  unfold Chosen
  split_ifs at h ⊢ with hnamed
  · exact Directory.search_spec h
  · exact h

/-- When no text names two categories, a row resolves to the category that it chooses. -/
theorem resolve_of_chosen (hnames : Unambiguous db firmId) {c : Category}
    (h : Chosen db firmId data c) :
    resolveCategory (contextOf db firmId) data.category = some c := by
  unfold Chosen at h
  unfold resolveCategory
  split_ifs at h ⊢ with hnamed
  · obtain ⟨d, hd⟩ := Option.isSome_iff_exists.1 (findCategory_isSome.2 ⟨c, h⟩)
    obtain ⟨hmem, hd'⟩ := Directory.search_spec hd
    have hcd : d = c := hnames _ d hmem c h.1 hd' h.2
    rw [← hcd]
    exact hd
  · exact h

theorem chosenSub_of_resolve {team : Option Team} {c : Category} {sub : Subcategory}
    (h : resolveSubcategory team (some c) data.subcategory = some sub) : ChosenSub data c sub := by
  unfold resolveSubcategory at h
  dsimp only [Option.elim_some] at h
  split_ifs at h with hnamed
  · exact ⟨List.mem_of_find?_eq_some h, fun _ => List.find?_some h⟩
  · refine ⟨?_, fun hne => absurd hne hnamed⟩
    rcases Option.or_eq_some_iff.1 h with h | ⟨-, h⟩
    · exact List.mem_of_find?_eq_some h
    · exact List.mem_of_head? h

theorem resolveSubcategory_isSome {team : Option Team} {c : Category} :
    (resolveSubcategory team (some c) data.subcategory).isSome ↔ ∃ sub, ChosenSub data c sub := by
  constructor
  · intro h
    obtain ⟨sub, hsub⟩ := Option.isSome_iff_exists.1 h
    exact ⟨sub, chosenSub_of_resolve hsub⟩
  · rintro ⟨sub, hmem, hname⟩
    unfold resolveSubcategory
    dsimp only [Option.elim_some]
    split_ifs with hnamed
    · exact List.find?_isSome.2 ⟨sub, hmem, hname hnamed⟩
    · -- A row that names none gets the first one, if no other.
      obtain ⟨first, rest, hactive⟩ := List.exists_cons_of_ne_nil (List.ne_nil_of_mem hmem)
      rw [Option.isSome_or, hactive, List.head?_cons]
      exact Bool.or_true _

theorem isValid_validateRow (ctx : Context) (index : ℕ) (row : Row) :
    (validateRow ctx index row).isValid =
      (rowErrors (normalizeBulkRow row) (resolve ctx (normalizeBulkRow row))).isEmpty := by
  rw [validateRow]

theorem normalizedData_validateRow {ctx : Context} {index : ℕ} {row : Row}
    (h : (validateRow ctx index row).isValid = true) :
    (validateRow ctx index row).normalizedData =
      dataOf (normalizeBulkRow row) (resolve ctx (normalizeBulkRow row)) := by
  rw [isValid_validateRow] at h
  rw [validateRow, if_pos h]

/-- The place of a row shows in its `rowIndex` only. -/
theorem validateRow_index (ctx : Context) (i j : ℕ) (row : Row) :
    validateRow ctx i row = { validateRow ctx j row with rowIndex := i + 1 } := by
  rw [validateRow, validateRow]

/-- A row is valid for the code exactly when it is, apart from its status. -/
theorem validateRow_isValid (hnames : Unambiguous db firmId) (index : ℕ) (row : Row) :
    (validateRow (contextOf db firmId) index row).isValid = true ↔
      Resolvable db firmId (normalizeBulkRow row) := by
  rw [isValid_validateRow, List.isEmpty_iff, rowErrors_eq_nil]
  generalize normalizeBulkRow row = data
  constructor
  · rintro ⟨htitle, hteam, hcategory, hsub, hpriority, hclient⟩
    obtain ⟨c, hc⟩ := Option.isSome_iff_exists.1 hcategory
    refine ⟨htitle, findTeam_isSome.1 hteam, ⟨c, chosen_of_resolve hc, ?_⟩, hpriority, ?_⟩
    · -- The subcategory is looked up in the category that was found.
      have hresolve : resolveCategory (contextOf db firmId) data.category = some c := hc
      dsimp only [resolve] at hsub
      rw [hresolve] at hsub
      exact resolveSubcategory_isSome.1 hsub
    · intro hne
      have hfound := hclient hne
      dsimp only [resolve, resolveClient] at hfound
      rw [if_pos hne] at hfound
      exact findClient_isSome.1 hfound
  · rintro ⟨htitle, hteam, ⟨c, hchosen, hsub⟩, hpriority, hclient⟩
    have hresolve := resolve_of_chosen hnames hchosen
    refine ⟨htitle, findTeam_isSome.2 hteam, ?_, ?_, hpriority, ?_⟩
    · dsimp only [resolve]
      rw [hresolve]
      rfl
    · dsimp only [resolve]
      rw [hresolve]
      exact resolveSubcategory_isSome.2 hsub
    · intro hne
      dsimp only [resolve, resolveClient]
      rw [if_pos hne]
      exact findClient_isSome.2 (hclient hne)

/-- The data of a valid row refer to what it names. -/
theorem validateRow_refers {index : ℕ} {row : Row}
    (h : (validateRow (contextOf db firmId) index row).isValid = true) :
    ∃ out, (validateRow (contextOf db firmId) index row).normalizedData = some out ∧
      Refers db firmId (normalizeBulkRow row) out := by
  rw [normalizedData_validateRow h]
  rw [isValid_validateRow, List.isEmpty_iff, rowErrors_eq_nil] at h
  generalize normalizeBulkRow row = data at h ⊢
  obtain ⟨-, hteam, hcategory, hsub, -, hclient⟩ := h
  obtain ⟨t, ht⟩ := Option.isSome_iff_exists.1 hteam
  obtain ⟨c, hc⟩ := Option.isSome_iff_exists.1 hcategory
  obtain ⟨sub, hs⟩ := Option.isSome_iff_exists.1 hsub
  refine ⟨normalizedData data (resolve (contextOf db firmId) data).client t c sub, ?_, ?_, ?_, ?_⟩
  · rw [dataOf, ht, hc, hs]
    rfl
  · obtain ⟨hmem, hname⟩ := Directory.search_spec ht
    exact ⟨t, hmem, hname, rfl⟩
  · have hresolve : resolveCategory (contextOf db firmId) data.category = some c := hc
    dsimp only [resolve] at hs
    rw [hresolve] at hs
    exact ⟨c, chosen_of_resolve hc, rfl, sub, chosenSub_of_resolve hs, rfl⟩
  · dsimp only [resolve, resolveClient, normalizedData] at hclient ⊢
    split_ifs at hclient ⊢ with hne
    · obtain ⟨d, hd⟩ := Option.isSome_iff_exists.1 (hclient hne)
      obtain ⟨hmem, hname⟩ := Directory.search_spec hd
      exact ⟨d, hmem, hname, by rw [hd]; rfl⟩
    · rfl

/-- With all models, when no text names two categories, the rows are validated as they should be
exactly when each that is valid apart from its status has an allowed one. -/
theorem exact_loaded_iff (hloaded : ∀ model, model ∈ loaded)
    (hnames : Unambiguous db firmId) (rows : List Row) :
    Validated db firmId loaded rows ↔
      ∀ row ∈ rows, Resolvable db firmId (normalizeBulkRow row) →
        StatusAllowed (normalizeBulkRow row) := by
  have hrun : ∀ rows, validateWith loaded db rows firmId =
      .ok (rows.mapIdx (validateRow (contextOf db firmId))) := validateBulkDockets_loaded hloaded
  constructor
  · rintro ⟨results, hok, hexact⟩ row hrow hresolvable
    rw [hrun rows] at hok
    cases hok
    obtain ⟨i, hi, hget⟩ := List.getElem_of_mem hrow
    have hfor := (List.forall₂_iff_get.1 hexact.each).2 i hi (by rwa [List.length_mapIdx])
    simp only [List.get_eq_getElem, List.getElem_mapIdx, hget] at hfor
    -- The code takes the row for valid, so its status must be allowed.
    exact (hfor.valid.1 ((validateRow_isValid hnames i row).2 hresolvable)).2
  · intro hstatus
    refine ⟨_, hrun rows, ?_, ?_⟩
    · refine List.forall₂_iff_get.2 ⟨List.length_mapIdx.symm, fun i hi hi' => ?_⟩
      simp only [List.get_eq_getElem, List.getElem_mapIdx]
      have hvalid := validateRow_isValid hnames i rows[i]
      refine ⟨⟨fun h => ?_, fun h => hvalid.2 h.1⟩, validateRow_refers⟩
      exact ⟨hvalid.1 h, hstatus _ (List.getElem_mem hi) (hvalid.1 h)⟩
    · -- Each result is the row's, put at its place.
      intro rows' results' hok i j row result result' hrow hrow' hresult hresult'
      rw [hrun rows'] at hok
      cases hok
      rw [List.getElem?_mapIdx, hrow] at hresult
      rw [List.getElem?_mapIdx, hrow'] at hresult'
      rw [← Option.some.inj hresult, ← Option.some.inj hresult']
      exact validateRow_index _ i j row

end Docketra.BulkDockets
