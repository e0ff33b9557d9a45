import Docketra.Lib.Checked
import Docketra.Lib.OrderedMaps
import Docketra.Lib.Upserts
import Docketra.Text

/-!
# The setup of a firm

`services/firmSetup.service.js` gives a firm the workbaskets and categories of a template: each
workbasket is inserted or brought back, and each category gets the subcategories that it has not got,
in the workbaskets of their names. A firm may be set up again, and may be set up after another firm,
whose workbaskets and categories are made into a template.

A setup that succeeds leaves what the template asks for, and carries over what the firm had
(`setup_complete`). Another one with the same template changes nothing, where the template gives no
workbasket two types (`setup_settled`). A firm that is set up after another one has what is active
of the other firm, in workbaskets of the same names (`clone_complete`).

A setup is one transaction, so that one that fails changes nothing. Audit, logs and the time of the
setup are left out, and of the records those fields that a setup neither reads nor writes.
-/

namespace Docketra.FirmSetup

open Checked Upserts

/-! ## Templates -/

/-- The entries of a template as they are given, where anything may be missing. -/
structure RawWorkbasket where
  name : Option String := none
  type : Option String := none
  deriving DecidableEq, Repr

structure RawSubcategory where
  name : Option String := none
  workbasket : Option String := none
  employeeContextEnabled : Bool := false
  deriving DecidableEq, Repr

structure RawCategory where
  name : Option String := none
  subcategories : List RawSubcategory := []
  deriving DecidableEq, Repr

structure RawTemplate where
  key : Option String := none
  name : Option String := none
  workbaskets : List RawWorkbasket := []
  categories : List RawCategory := []
  deriving DecidableEq, Repr

structure WorkbasketTemplate where
  name : String
  type : String
  deriving DecidableEq, Repr

structure SubcategoryTemplate where
  name : String
  workbasket : String
  employeeContextEnabled : Bool
  deriving DecidableEq, Repr

structure CategoryTemplate where
  name : String
  subcategories : List SubcategoryTemplate
  deriving DecidableEq, Repr

structure Template where
  key : String
  name : String
  workbaskets : List WorkbasketTemplate
  categories : List CategoryTemplate
  deriving DecidableEq, Repr

def DEFAULT_FIRM_SETUP_TEMPLATE_KEY : String := "SYSTEM_DEFAULT"

def SYSTEM_DEFAULT_TEMPLATE : RawTemplate where
  key := some DEFAULT_FIRM_SETUP_TEMPLATE_KEY
  name := some "Default Firm Setup"
  workbaskets := [⟨some "HR", some "PRIMARY"⟩, ⟨some "Finance", some "PRIMARY"⟩,
    ⟨some "Accounts", some "PRIMARY"⟩, ⟨some "Operations", some "PRIMARY"⟩]
  categories := [
    ⟨some "HR", [⟨some "Employee Query", some "HR", true⟩,
      ⟨some "Policy & Planning", some "HR", true⟩]⟩,
    ⟨some "Finance", [⟨some "Finance Review", some "Finance", false⟩]⟩,
    ⟨some "Accounts", [⟨some "Accounts Task", some "Accounts", false⟩]⟩,
    ⟨some "Operations", [⟨some "Operations Task", some "Operations", false⟩]⟩]

/-- `String(value || fallback).trim()`. -/
def text (value : Option String) (fallback : String) : String :=
  trim ((orElse value (some fallback)).getD "")

/-- The type of a workbasket, where none that is left is `PRIMARY`. -/
def typeText (type : Option String) : String :=
  if toUpperCase (text type "PRIMARY") = "" then "PRIMARY" else toUpperCase (text type "PRIMARY")

def normalizeWorkbaskets (workbaskets : List RawWorkbasket) : List WorkbasketTemplate :=
  (workbaskets.map fun w => ⟨text w.name "", typeText w.type⟩).filter (·.name ≠ "")

def normalizeSubcategories (subcategories : List RawSubcategory) : List SubcategoryTemplate :=
  (subcategories.map fun s =>
    ⟨text s.name "", text s.workbasket "", s.employeeContextEnabled⟩).filter
      fun s => s.name ≠ "" && s.workbasket ≠ ""

def normalizeCategories (categories : List RawCategory) : List CategoryTemplate :=
  (categories.map fun c => ⟨text c.name "", normalizeSubcategories c.subcategories⟩).filter
    (·.name ≠ "")

def normalizeTemplate (template : RawTemplate) : Template where
  key := text template.key DEFAULT_FIRM_SETUP_TEMPLATE_KEY
  name := text template.name "Default Firm Setup"
  workbaskets := normalizeWorkbaskets template.workbaskets
  categories := normalizeCategories template.categories

/-- A template that has been normalized, as it is given to the next function. -/
def Template.raw (t : Template) : RawTemplate where
  key := some t.key
  name := some t.name
  workbaskets := t.workbaskets.map fun w => ⟨some w.name, some w.type⟩
  categories := t.categories.map fun c =>
    ⟨some c.name, c.subcategories.map fun s =>
      ⟨some s.name, some s.workbasket, s.employeeContextEnabled⟩⟩

/-! ## Firms -/

inductive TeamType where
  | PRIMARY | QC
  deriving DecidableEq, Repr

/-- A workbasket. -/
structure Team where
  _id : ℕ
  name : String
  managerId : Option ℕ := none
  isActive : Bool := true
  type : TeamType := .PRIMARY
  parentWorkbasketId : Option ℕ := none
  deriving DecidableEq, Repr

structure Subcategory where
  id : ℕ
  name : String
  workbasketId : Option ℕ
  isActive : Bool := true
  employeeContextEnabled : Bool := false
  deriving DecidableEq, Repr

structure Category where
  name : String
  isActive : Bool := true
  isDeleted : Bool := false
  subcategories : List Subcategory := []
  deriving DecidableEq, Repr

structure SetupMetadata where
  categories : ℕ
  workbaskets : ℕ
  templateKey : String
  deriving DecidableEq, Repr

/-- A firm, with its workbaskets and categories. New identifiers are counted. -/
structure Firm where
  nextId : ℕ
  teams : List Team
  categories : List Category
  isSetupComplete : Bool := false
  setupMetadata : Option SetupMetadata := none
  deriving DecidableEq, Repr

/-- The error of a unique index. -/
def duplicateKey (index : String) : String := "E11000 duplicate key error: " ++ index

/-! ## Workbaskets -/

def WorkbasketTemplate.resolvedType (w : WorkbasketTemplate) : TeamType :=
  if w.type = "QC" then .QC else .PRIMARY

/-- What the update of a workbasket sets. -/
def WorkbasketTemplate.touch (w : WorkbasketTemplate) (adminUserId : Option ℕ) (team : Team) :
    Team :=
  { team with isActive := true, managerId := adminUserId, type := w.resolvedType }

/-- The workbasket that is inserted. -/
def WorkbasketTemplate.fresh (w : WorkbasketTemplate) (adminUserId : Option ℕ) (id : ℕ) : Team where
  _id := id
  name := w.name
  managerId := adminUserId
  type := w.resolvedType

/-- The index of QC workbaskets allows one for each parent. -/
def violatesIndex (teams : List Team) (team : Team) : Bool :=
  team.type = .QC && team.parentWorkbasketId.isSome &&
    teams.any fun other => other.name ≠ team.name && other.type = .QC &&
      other.parentWorkbasketId = team.parentWorkbasketId

/-- `Team.findOneAndUpdate` with `upsert`: the firm, and the workbasket's identifier. -/
def upsertWorkbasket (adminUserId : Option ℕ) (w : WorkbasketTemplate) (firm : Firm) :
    Except String (Firm × ℕ) :=
  let teams := upsert Team.name w.name (w.touch adminUserId) (w.fresh adminUserId firm.nextId)
    firm.teams
  match find Team.name w.name firm.teams with
  | some team =>
    if violatesIndex firm.teams (w.touch adminUserId team) then
      .error (duplicateKey "firmId_1_parentWorkbasketId_1_type_1")
    else .ok ({ firm with teams }, team._id)
  | none => .ok ({ firm with teams, nextId := firm.nextId + 1 }, firm.nextId)

/-- The loop of `createDefaultWorkbaskets`. -/
def createWorkbaskets (adminUserId : Option ℕ) :
    List WorkbasketTemplate → OrderedMap String ℕ → Firm → Except String (Firm × OrderedMap String ℕ)
  | [], workbasketMap, firm => .ok (firm, workbasketMap)
  | w :: ws, workbasketMap, firm => do
    let (firm, id) ← upsertWorkbasket adminUserId w firm
    createWorkbaskets adminUserId ws (workbasketMap.set w.name id) firm

def createDefaultWorkbaskets (adminUserId : Option ℕ) (template : RawTemplate) (firm : Firm) :
    Except String (Firm × OrderedMap String ℕ) :=
  createWorkbaskets adminUserId (normalizeTemplate template).workbaskets .empty firm

/-! ## Categories -/

/-- The key that subcategories are compared by. -/
def lookupKey (name : String) : String := toLowerCase (trim name)

def Subcategory.key (s : Subcategory) : String := lookupKey s.name

/-- A subcategory that is there already. -/
def Subcategory.restored (workbasketId : Option ℕ) (s : Subcategory) : Subcategory :=
  { s with isActive := true, workbasketId := s.workbasketId.or workbasketId }

/-- One step of the inner loop: the subcategories, and the next identifier. -/
def addSubcategory (workbasketMap : OrderedMap String ℕ) (s : SubcategoryTemplate)
    (subcategories : List Subcategory) (nextId : ℕ) : List Subcategory × ℕ :=
  let mappedWorkbasket := workbasketMap.get s.workbasket
  -- `existingNameSet` has the keys of the subcategories.
  match find Subcategory.key (lookupKey s.name) subcategories, mappedWorkbasket with
  | some _, _ =>
    (change Subcategory.key (lookupKey s.name) (Subcategory.restored mappedWorkbasket)
      subcategories, nextId)
  | none, none => (subcategories, nextId)
  | none, some workbasketId =>
    (subcategories ++ [{ id := nextId, name := s.name, workbasketId := some workbasketId,
                         employeeContextEnabled := s.employeeContextEnabled }], nextId + 1)

def addSubcategories (workbasketMap : OrderedMap String ℕ) :
    List SubcategoryTemplate → List Subcategory → ℕ → List Subcategory × ℕ
  | [], subcategories, nextId => (subcategories, nextId)
  | s :: ss, subcategories, nextId =>
    let (subcategories, nextId) := addSubcategory workbasketMap s subcategories nextId
    addSubcategories workbasketMap ss subcategories nextId

/-- The subcategories that a category of the name has: none where it is new. A category that has been
deleted is not found. -/
def subcategoriesOf (name : String) (categories : List Category) : List Subcategory :=
  ((find Category.name name categories).filter (!·.isDeleted)).elim [] Category.subcategories

/-- One step of the outer loop. A category that has been deleted keeps its name from a new one. -/
def createCategory (workbasketMap : OrderedMap String ℕ) (c : CategoryTemplate) (firm : Firm) :
    Except String Firm :=
  let (subcategories, nextId) := addSubcategories workbasketMap c.subcategories
    (subcategoriesOf c.name firm.categories) firm.nextId
  if subcategories.any (·.workbasketId.isNone) then .error "Workbasket required"
  else if (find Category.name c.name firm.categories).any (·.isDeleted) then
    .error (duplicateKey "firmId_1_name_1")
  else .ok { firm with
    nextId
    categories := upsert Category.name c.name
      (fun category => { category with isActive := true, subcategories })
      { name := c.name, subcategories } firm.categories }

def createCategories (workbasketMap : OrderedMap String ℕ) :
    List CategoryTemplate → Firm → Except String Firm
  | [], firm => .ok firm
  | c :: cs, firm => do createCategories workbasketMap cs (← createCategory workbasketMap c firm)

def createDefaultCategories (workbasketMap : OrderedMap String ℕ) (template : RawTemplate)
    (firm : Firm) : Except String Firm :=
  createCategories workbasketMap (normalizeTemplate template).categories firm

/-! ## The setup -/

/-- `mapSubcategoriesToWorkbaskets`: the workbasket of each subcategory by its name. -/
def mapSubcategoriesToWorkbaskets (template : Template) : OrderedMap String String :=
  template.categories.foldl (fun acc c =>
    c.subcategories.foldl (fun acc s => acc.set s.name s.workbasket) acc) .empty

inductive SetupResult where
  | skipped (categoryCount workbasketCount : ℕ)
  | done (categoryCountBefore workbasketCountBefore categories workbaskets : ℕ)
      (mapping : OrderedMap String String) (templateKey : String)

/-- The field `skipped`. -/
def SetupResult.isSkipped : SetupResult → Bool
  | .skipped .. => true
  | .done .. => false

/-- The workbaskets and the categories of a template that has been normalized. -/
def runSetup (adminUserId : Option ℕ) (t : Template) (firm : Firm) :
    Except String (Firm × OrderedMap String ℕ) := do
  let (firm, workbasketMap) ← createDefaultWorkbaskets adminUserId t.raw firm
  let firm ← createDefaultCategories workbasketMap t.raw firm
  return (firm, workbasketMap)

/-- `setupDefaultFirm`, of a firm that there is. -/
def setupDefaultFirm (force : Bool) (adminUserId : Option ℕ) (template : RawTemplate)
    (firm : Firm) : Except String (Firm × SetupResult) := do
  let categoryCount := firm.categories.countP (!·.isDeleted)
  let workbasketCount := firm.teams.countP (·.parentWorkbasketId.isNone)
  if !force && 0 < categoryCount && 0 < workbasketCount then
    return (firm, .skipped categoryCount workbasketCount)
  let resolvedTemplate := normalizeTemplate template
  let (firm, workbasketMap) ← runSetup adminUserId resolvedTemplate firm
  let categories := resolvedTemplate.categories.length
  return ({ firm with
      isSetupComplete := true
      setupMetadata := some ⟨categories, workbasketMap.size, resolvedTemplate.key⟩ },
    .done categoryCount workbasketCount categories workbasketMap.size
      (mapSubcategoriesToWorkbaskets resolvedTemplate) resolvedTemplate.key)

/-- The workbaskets of a firm that it is cloned with. -/
def sourceWorkbaskets (source : Firm) : List Team :=
  source.teams.filter fun team => team.parentWorkbasketId.isNone && team.isActive

/-- The name of a subcategory's workbasket, by `workbasketLookup`. -/
def workbasketName (source : Firm) (s : Subcategory) : String :=
  (orElse (((sourceWorkbaskets source).find? fun team => some team._id = s.workbasketId).map
    Team.name) (some "General")).getD ""

/-- The template that another firm is set up by. -/
def cloneTemplate (sourceFirmId : String) (source : Firm) : RawTemplate where
  key := some ("CLONED_" ++ sourceFirmId)
  name := some "Cloned Firm Setup"
  workbaskets := (sourceWorkbaskets source).map fun team =>
    ⟨some team.name, some (match team.type with | .PRIMARY => "PRIMARY" | .QC => "QC")⟩
  categories := (source.categories.filter fun c => c.isActive && !c.isDeleted).map fun c =>
    { name := some c.name
      subcategories := (c.subcategories.filter (·.isActive)).map fun s =>
        { name := some s.name
          workbasket := workbasketName source s } }

/-- `cloneFirmSetupFromFirm`, of two firms that are given. -/
def cloneFirmSetupFromFirm (sourceFirmId : String) (source : Firm) (adminUserId : Option ℕ)
    (target : Firm) : Except String (Firm × SetupResult) :=
  setupDefaultFirm true adminUserId (cloneTemplate sourceFirmId source) target

/-! ## Normalized templates -/

theorem text_some {s : String} (fallback : String) (h : s ≠ "") :
    text (some s) fallback = trim s := by
  unfold text orElse
  rw [if_pos ((truthy_some s).mpr h)]
  rfl

theorem trim_text (value : Option String) (fallback : String) :
    trim (text value fallback) = text value fallback := trim_trim _

theorem typeText_ne (type : Option String) : typeText type ≠ "" := by
  unfold typeText
  split_ifs with h
  · exact fun heq => nomatch congrArg String.toList heq
  · exact h

/-- A type is in upper case, with nothing around it. -/
theorem toUpperCase_typeText (type : Option String) :
    toUpperCase (trim (typeText type)) = typeText type := by
  unfold typeText
  split_ifs with h
  · decide
  · rw [trim_toUpperCase, trim_text, toUpperCase_toUpperCase]

theorem typeText_typeText (type : Option String) :
    typeText (some (typeText type)) = typeText type := by
  have htext : toUpperCase (text (some (typeText type)) "PRIMARY") = typeText type := by
    rw [text_some _ (typeText_ne type), toUpperCase_typeText]
  show (if toUpperCase (text (some (typeText type)) "PRIMARY") = "" then "PRIMARY"
    else toUpperCase (text (some (typeText type)) "PRIMARY")) = typeText type
  rw [htext, if_neg (typeText_ne type)]

/-- A text that is left is left again. -/
theorem text_text {value : Option String} {fallback fallback' : String}
    (h : text value fallback ≠ "") :
    text (some (text value fallback)) fallback' = text value fallback := by
  rw [text_some _ h, trim_text]

/-- What is left of a list is left again, where each entry is. -/
theorem filter_map_map {α β : Type} {f : β → α} {g : α → β} {p : α → Bool} {l : List α}
    (h : ∀ a ∈ l, p a = true ∧ f (g a) = a) : ((l.map g).map f).filter p = l := by
  have hmap : (l.map g).map f = l := by
    rw [List.map_map]
    exact (List.map_congr_left fun a ha => (h a ha).2).trans l.map_id
  rw [hmap]
  exact List.filter_eq_self.mpr fun a ha => (h a ha).1

/-- An entry that is left comes from one that was given. -/
theorem mem_filter_map {α β : Type} {f : β → α} {p : α → Bool} {l : List β} {a : α}
    (h : a ∈ (l.map f).filter p) : p a = true ∧ ∃ b ∈ l, f b = a := by
  obtain ⟨hmem, hp⟩ := List.mem_filter.mp h
  exact ⟨hp, List.mem_map.mp hmem⟩

theorem normalizeWorkbaskets_raw (workbaskets : List RawWorkbasket) :
    normalizeWorkbaskets ((normalizeWorkbaskets workbaskets).map fun w =>
      ⟨some w.name, some w.type⟩) = normalizeWorkbaskets workbaskets := by
  refine filter_map_map fun w hw => ⟨(mem_filter_map hw).1, ?_⟩
  obtain ⟨hp, raw, -, rfl⟩ := mem_filter_map hw
  rw [text_text (of_decide_eq_true hp), typeText_typeText]

theorem normalizeSubcategories_raw (subcategories : List RawSubcategory) :
    normalizeSubcategories ((normalizeSubcategories subcategories).map fun s =>
      ⟨some s.name, some s.workbasket, s.employeeContextEnabled⟩) =
        normalizeSubcategories subcategories := by
  refine filter_map_map fun s hs => ⟨(mem_filter_map hs).1, ?_⟩
  obtain ⟨hp, raw, -, rfl⟩ := mem_filter_map hs
  obtain ⟨hname, hworkbasket⟩ := Bool.and_eq_true_iff.mp hp
  rw [text_text (of_decide_eq_true hname), text_text (of_decide_eq_true hworkbasket)]

theorem normalizeCategories_raw (categories : List RawCategory) :
    normalizeCategories ((normalizeCategories categories).map fun c =>
      ⟨some c.name, c.subcategories.map fun s =>
        ⟨some s.name, some s.workbasket, s.employeeContextEnabled⟩⟩) =
          normalizeCategories categories := by
  refine filter_map_map fun c hc => ⟨(mem_filter_map hc).1, ?_⟩
  obtain ⟨hp, raw, -, rfl⟩ := mem_filter_map hc
  rw [text_text (of_decide_eq_true hp), normalizeSubcategories_raw]

/-- The functions of a setup normalize a template that has been normalized. -/
theorem runSetup_normalized (adminUserId : Option ℕ) (template : RawTemplate) (firm : Firm) :
    runSetup adminUserId (normalizeTemplate template) firm = (do
      let (firm, workbasketMap) ←
        createWorkbaskets adminUserId (normalizeTemplate template).workbaskets .empty firm
      let firm ← createCategories workbasketMap (normalizeTemplate template).categories firm
      return (firm, workbasketMap)) := by
  have hworkbaskets : (normalizeTemplate (normalizeTemplate template).raw).workbaskets =
      (normalizeTemplate template).workbaskets := normalizeWorkbaskets_raw _
  have hcategories : (normalizeTemplate (normalizeTemplate template).raw).categories =
      (normalizeTemplate template).categories := normalizeCategories_raw _
  unfold runSetup createDefaultWorkbaskets createDefaultCategories
  rw [hworkbaskets, hcategories]

/-! ## What is carried over -/

/-- A workbasket keeps its name and its place, and stays active. -/
structure KeptTeam (a b : Team) : Prop where
  id : b._id = a._id
  name : b.name = a.name
  parent : b.parentWorkbasketId = a.parentWorkbasketId
  active : a.isActive = true → b.isActive = true

/-- A subcategory keeps what it is and the workbasket that it has, and stays active. -/
structure KeptSubcategory (a b : Subcategory) : Prop where
  id : b.id = a.id
  name : b.name = a.name
  employeeContext : b.employeeContextEnabled = a.employeeContextEnabled
  workbasket : ∀ w, a.workbasketId = some w → b.workbasketId = some w
  active : a.isActive = true → b.isActive = true

structure KeptCategory (a b : Category) : Prop where
  name : b.name = a.name
  deleted : b.isDeleted = a.isDeleted
  active : a.isActive = true → b.isActive = true
  subcategories : Grows KeptSubcategory a.subcategories b.subcategories

/-- Nothing of a firm is lost. -/
structure Kept (before after : Firm) : Prop where
  teams : Grows KeptTeam before.teams after.teams
  categories : Grows KeptCategory before.categories after.categories

theorem KeptTeam.refl (a : Team) : KeptTeam a a := ⟨rfl, rfl, rfl, fun h => h⟩

theorem KeptTeam.trans (a b c : Team) (h : KeptTeam a b) (h' : KeptTeam b c) : KeptTeam a c :=
  ⟨h'.id.trans h.id, h'.name.trans h.name, h'.parent.trans h.parent, h'.active ∘ h.active⟩

theorem KeptSubcategory.refl (a : Subcategory) : KeptSubcategory a a :=
  ⟨rfl, rfl, rfl, fun _ h => h, fun h => h⟩

theorem KeptSubcategory.trans (a b c : Subcategory) (h : KeptSubcategory a b)
    (h' : KeptSubcategory b c) : KeptSubcategory a c :=
  ⟨h'.id.trans h.id, h'.name.trans h.name, h'.employeeContext.trans h.employeeContext,
    fun w hw => h'.workbasket w (h.workbasket w hw), h'.active ∘ h.active⟩

theorem KeptCategory.refl (a : Category) : KeptCategory a a :=
  ⟨rfl, rfl, fun h => h, .refl KeptSubcategory.refl _⟩

theorem KeptCategory.trans (a b c : Category) (h : KeptCategory a b) (h' : KeptCategory b c) :
    KeptCategory a c :=
  ⟨h'.name.trans h.name, h'.deleted.trans h.deleted, h'.active ∘ h.active,
    h.subcategories.trans KeptSubcategory.trans h'.subcategories⟩

theorem Kept.refl (firm : Firm) : Kept firm firm :=
  ⟨.refl KeptTeam.refl _, .refl KeptCategory.refl _⟩

theorem Kept.trans {a b c : Firm} (h : Kept a b) (h' : Kept b c) : Kept a c :=
  ⟨h.teams.trans KeptTeam.trans h'.teams, h.categories.trans KeptCategory.trans h'.categories⟩

/-! ## Workbaskets -/

section workbaskets

variable {adminUserId : Option ℕ} {w : WorkbasketTemplate} {firm firm' : Firm} {id : ℕ}

theorem WorkbasketTemplate.name_touch (w : WorkbasketTemplate) (adminUserId : Option ℕ)
    {name : String} (team : Team) (h : team.name = name) :
    (w.touch adminUserId team).name = name := h

theorem WorkbasketTemplate.name_fresh (w : WorkbasketTemplate) (adminUserId : Option ℕ) (n : ℕ) :
    (w.fresh adminUserId n).name = w.name := rfl

/-- What the upsert of a workbasket does when it succeeds. -/
theorem upsertWorkbasket_ok (h : upsertWorkbasket adminUserId w firm = .ok (firm', id)) :
    firm'.teams = upsert Team.name w.name (w.touch adminUserId)
        (w.fresh adminUserId firm.nextId) firm.teams ∧
      firm'.categories = firm.categories ∧
        ((∃ team, find Team.name w.name firm.teams = some team ∧ id = team._id ∧
            violatesIndex firm.teams (w.touch adminUserId team) = false) ∨
          find Team.name w.name firm.teams = none ∧ id = firm.nextId) := by
  unfold upsertWorkbasket at h
  split at h
  · next team hfind =>
    split_ifs at h with hviolates
    cases h
    exact ⟨rfl, rfl, .inl ⟨team, hfind, rfl, by simpa using hviolates⟩⟩
  · next hfind =>
    cases h
    exact ⟨rfl, rfl, .inr ⟨hfind, rfl⟩⟩

/-- The workbasket that is found under the name afterwards. -/
theorem find_upsertWorkbasket (h : upsertWorkbasket adminUserId w firm = .ok (firm', id)) :
    ∃ team, find Team.name w.name firm'.teams = some team ∧ team._id = id ∧
      w.touch adminUserId team = team := by
  obtain ⟨hteams, -, ⟨team, hfind, rfl, -⟩ | ⟨hfind, rfl⟩⟩ := upsertWorkbasket_ok h
  · refine ⟨w.touch adminUserId team, ?_, rfl, rfl⟩
    rw [hteams, find_upsert (w.name_touch adminUserId) (w.name_fresh adminUserId _), if_pos rfl,
      hfind]
    rfl
  · refine ⟨w.fresh adminUserId firm.nextId, ?_, rfl, rfl⟩
    rw [hteams, find_upsert (w.name_touch adminUserId) (w.name_fresh adminUserId _), if_pos rfl,
      hfind]
    rfl

/-- Under another name nothing else is found. -/
theorem find_upsertWorkbasket_ne (h : upsertWorkbasket adminUserId w firm = .ok (firm', id))
    {name : String} (hname : name ≠ w.name) :
    find Team.name name firm'.teams = find Team.name name firm.teams := by
  rw [(upsertWorkbasket_ok h).1,
    find_upsert (w.name_touch adminUserId) (w.name_fresh adminUserId _), if_neg hname]

theorem kept_upsertWorkbasket (h : upsertWorkbasket adminUserId w firm = .ok (firm', id)) :
    Kept firm firm' := by
  obtain ⟨hteams, hcategories, -⟩ := upsertWorkbasket_ok h
  refine ⟨?_, ?_⟩
  · rw [hteams]
    exact grows_upsert (f := w.touch adminUserId) KeptTeam.refl
      fun _ _ => ⟨rfl, rfl, rfl, fun _ => rfl⟩
  · rw [hcategories]
    exact .refl KeptCategory.refl _

/-- One step of the loop. -/
theorem createWorkbaskets_cons {ws : List WorkbasketTemplate} {m m' : OrderedMap String ℕ}
    (h : createWorkbaskets adminUserId (w :: ws) m firm = .ok (firm', m')) :
    ∃ firm₁ id, upsertWorkbasket adminUserId w firm = .ok (firm₁, id) ∧
      createWorkbaskets adminUserId ws (m.set w.name id) firm₁ = .ok (firm', m') := by
  unfold createWorkbaskets at h
  obtain ⟨⟨firm₁, id⟩, hupsert, hrest⟩ := bind_eq_ok.mp h
  exact ⟨firm₁, id, hupsert, hrest⟩

/-- Under each name of the map is the workbasket that is found by it, brought back. -/
def Mapped (adminUserId : Option ℕ) (teams : List Team) (m : OrderedMap String ℕ) : Prop :=
  ∀ name id, m.get name = some id → ∃ team, find Team.name name teams = some team ∧
    team._id = id ∧ team.isActive = true ∧ team.managerId = adminUserId

theorem Mapped.upsertWorkbasket {m : OrderedMap String ℕ} (h : Mapped adminUserId firm.teams m)
    (hupsert : FirmSetup.upsertWorkbasket adminUserId w firm = .ok (firm', id)) :
    Mapped adminUserId firm'.teams (m.set w.name id) := by
  intro name id' hget
  rw [OrderedMap.get_set] at hget
  split_ifs at hget with hname
  · obtain ⟨team, hfind, hid, htouch⟩ := find_upsertWorkbasket hupsert
    rw [Option.some.injEq] at hget
    rw [hname]
    refine ⟨team, hfind, hid.trans hget, ?_, ?_⟩ <;> rw [← htouch] <;> rfl
  · rw [find_upsertWorkbasket_ne hupsert hname]
    exact h name id' hget

/-- What the loop over the workbaskets leaves. -/
structure WorkbasketsCreated (adminUserId : Option ℕ) (ws : List WorkbasketTemplate)
    (m : OrderedMap String ℕ) (firm firm' : Firm) (m' : OrderedMap String ℕ) : Prop where
  kept : Kept firm firm'
  categories : firm'.categories = firm.categories
  mapped : Mapped adminUserId firm'.teams m'
  named : ∀ name, name ∈ ws.map WorkbasketTemplate.name ∨ (m.get name).isSome = true →
    (m'.get name).isSome = true
  only : ∀ name, (m'.get name).isSome = true →
    name ∈ ws.map WorkbasketTemplate.name ∨ (m.get name).isSome = true

theorem createWorkbaskets_ok {ws : List WorkbasketTemplate} {m m' : OrderedMap String ℕ}
    (hmapped : Mapped adminUserId firm.teams m)
    (h : createWorkbaskets adminUserId ws m firm = .ok (firm', m')) :
    WorkbasketsCreated adminUserId ws m firm firm' m' := by
  induction ws generalizing firm m with
  | nil =>
    cases h
    exact ⟨.refl _, rfl, hmapped, fun name h => h.resolve_left List.not_mem_nil,
      fun name => .inr⟩
  | cons w ws ih =>
    obtain ⟨firm₁, id, hupsert, hrest⟩ := createWorkbaskets_cons h
    have hcreated := ih (hmapped.upsertWorkbasket hupsert) hrest
    have hset : ∀ name, ((m.set w.name id).get name).isSome = true ↔
        name = w.name ∨ (m.get name).isSome = true := by
      intro name
      rw [OrderedMap.get_set]
      split_ifs with hname
      · exact iff_of_true rfl (.inl hname)
      · exact (or_iff_right hname).symm
    refine ⟨(kept_upsertWorkbasket hupsert).trans hcreated.kept, ?_, hcreated.mapped,
      fun name hname => ?_, fun name hname => ?_⟩
    · rw [hcreated.categories, (upsertWorkbasket_ok hupsert).2.1]
    · rw [List.map_cons, List.mem_cons, or_assoc, or_left_comm, ← hset] at hname
      exact hcreated.named name hname
    · rw [List.map_cons, List.mem_cons, or_assoc, or_left_comm, ← hset]
      exact hcreated.only name hname

/-! ### A loop that is run again -/

/-- The workbasket that is found is as the template has it, and no index forbids it. -/
def WorkbasketServed (adminUserId : Option ℕ) (teams : List Team) (w : WorkbasketTemplate) : Prop :=
  ∃ team, find Team.name w.name teams = some team ∧ w.touch adminUserId team = team ∧
    violatesIndex teams team = false

/-- Entries of one name that have one type do the same. -/
theorem touch_eq {w w' : WorkbasketTemplate} (htype : w.resolvedType = w'.resolvedType)
    (team : Team) : w.touch adminUserId team = w'.touch adminUserId team := by
  unfold WorkbasketTemplate.touch
  rw [htype]

theorem violatesIndex_eq_false {teams : List Team} {team : Team} :
    violatesIndex teams team = false ↔
      (team.type = .QC → team.parentWorkbasketId.isSome = true → ∀ other ∈ teams,
        other.name ≠ team.name → other.type = .QC →
          other.parentWorkbasketId ≠ team.parentWorkbasketId) := by
  unfold violatesIndex
  simp only [ne_eq, decide_not, Bool.and_eq_false_imp, Bool.and_eq_true, decide_eq_true_eq,
    List.any_eq_false, Bool.not_eq_eq_eq_not, Bool.not_true, decide_eq_false_iff_not, and_imp,
    not_and]

theorem workbasketServed_upsertWorkbasket
    (h : upsertWorkbasket adminUserId w firm = .ok (firm', id)) :
    WorkbasketServed adminUserId firm'.teams w := by
  obtain ⟨team, hfind, -, htouch⟩ := find_upsertWorkbasket h
  refine ⟨team, hfind, htouch, violatesIndex_eq_false.mpr fun hqc hparent other hother hname => ?_⟩
  obtain ⟨hteams, -, ⟨old, hold, -, hviolates⟩ | ⟨hnone, -⟩⟩ := upsertWorkbasket_ok h
  · have hteam : team = w.touch adminUserId old := by
      rw [hteams, find_upsert (w.name_touch adminUserId) (w.name_fresh adminUserId _), if_pos rfl,
        hold] at hfind
      exact (Option.some.inj hfind).symm
    rw [hteams] at hother
    -- Another team of another name was there before.
    rcases mem_upsert hother with hother | ⟨b, hb, rfl⟩ | ⟨-, rfl⟩
    · rw [hteam] at hqc hparent hname ⊢
      exact violatesIndex_eq_false.mp hviolates hqc hparent other hother hname
    · exact absurd ((mem_of_find hb).2.trans (mem_of_find hfind).2.symm) hname
    · exact absurd (mem_of_find hfind).2.symm hname
  · rw [hteams, find_upsert (w.name_touch adminUserId) (w.name_fresh adminUserId _), if_pos rfl,
      hnone] at hfind
    rw [← Option.some.inj hfind] at hparent
    exact nomatch hparent

/-- What is served stays so, where the other entries of its name have its type. -/
theorem WorkbasketServed.upsertWorkbasket {w' : WorkbasketTemplate}
    (hserved : WorkbasketServed adminUserId firm.teams w')
    (htypes : w.name = w'.name → w.resolvedType = w'.resolvedType)
    (h : FirmSetup.upsertWorkbasket adminUserId w firm = .ok (firm', id)) :
    WorkbasketServed adminUserId firm'.teams w' := by
  by_cases hname : w.name = w'.name
  · obtain ⟨team, hfind, htouch, hviolates⟩ := workbasketServed_upsertWorkbasket h
    exact ⟨team, hname ▸ hfind, touch_eq (htypes hname) team ▸ htouch, hviolates⟩
  · obtain ⟨team, hfind, htouch, hviolates⟩ := hserved
    obtain ⟨hmem, hteam⟩ := mem_of_find hfind
    refine ⟨team, ?_, htouch, violatesIndex_eq_false.mpr fun hqc hparent other hother hne => ?_⟩
    · rw [find_upsertWorkbasket_ne h (Ne.symm hname)]
      exact hfind
    obtain ⟨hteams, -, hold⟩ := upsertWorkbasket_ok h
    rw [hteams] at hother
    rcases mem_upsert hother with hother | ⟨b, hb, rfl⟩ | ⟨-, rfl⟩
    · exact violatesIndex_eq_false.mp hviolates hqc hparent other hother hne
    · -- The other team has been changed, which the index allowed beside this one.
      intro hother hsame
      obtain ⟨old, hfound, -, hallowed⟩ | ⟨hnone, -⟩ := hold
      · rw [hb, Option.some.injEq] at hfound
        subst hfound
        exact violatesIndex_eq_false.mp hallowed hother (hsame ▸ hparent) team hmem (Ne.symm hne) hqc
          hsame.symm
      · exact nomatch hb.symm.trans hnone
    · intro _ hsame
      rw [← hsame] at hparent
      exact nomatch hparent

/-- No workbasket is given two types. -/
def OneType (ws : List WorkbasketTemplate) : Prop :=
  ∀ w ∈ ws, ∀ w' ∈ ws, w.name = w'.name → w.resolvedType = w'.resolvedType

theorem WorkbasketServed.createWorkbaskets {ws : List WorkbasketTemplate}
    {m m' : OrderedMap String ℕ} {w' : WorkbasketTemplate}
    (hserved : WorkbasketServed adminUserId firm.teams w')
    (htypes : ∀ w ∈ ws, w.name = w'.name → w.resolvedType = w'.resolvedType)
    (h : FirmSetup.createWorkbaskets adminUserId ws m firm = .ok (firm', m')) :
    WorkbasketServed adminUserId firm'.teams w' := by
  induction ws generalizing firm m with
  | nil =>
    cases h
    exact hserved
  | cons w ws ih =>
    obtain ⟨firm₁, id, hupsert, hrest⟩ := createWorkbaskets_cons h
    exact ih (hserved.upsertWorkbasket (htypes w List.mem_cons_self) hupsert)
      (fun w₁ hw₁ => htypes w₁ (List.mem_cons_of_mem _ hw₁)) hrest

theorem workbasketServed_createWorkbaskets {ws : List WorkbasketTemplate}
    {m m' : OrderedMap String ℕ} (htypes : OneType ws)
    (h : createWorkbaskets adminUserId ws m firm = .ok (firm', m')) :
    ∀ w ∈ ws, WorkbasketServed adminUserId firm'.teams w := by
  induction ws generalizing firm m with
  | nil => exact fun w hw => nomatch hw
  | cons w ws ih =>
    obtain ⟨firm₁, id, hupsert, hrest⟩ := createWorkbaskets_cons h
    intro w' hw'
    rcases List.mem_cons.mp hw' with rfl | hw'
    · exact (workbasketServed_upsertWorkbasket hupsert).createWorkbaskets
        (fun w₁ hw₁ => htypes w₁ (List.mem_cons_of_mem _ hw₁) w' List.mem_cons_self) hrest
    · exact ih (fun w₁ hw₁ w₂ hw₂ => htypes w₁ (List.mem_cons_of_mem _ hw₁) w₂
        (List.mem_cons_of_mem _ hw₂)) hrest w' hw'

/-- A name keeps its workbasket. -/
theorem id_createWorkbaskets {ws : List WorkbasketTemplate} {m m' : OrderedMap String ℕ}
    {name : String} (hid : ∃ team, find Team.name name firm.teams = some team ∧ team._id = id)
    (h : createWorkbaskets adminUserId ws m firm = .ok (firm', m')) :
    ∃ team, find Team.name name firm'.teams = some team ∧ team._id = id := by
  induction ws generalizing firm m with
  | nil =>
    cases h
    exact hid
  | cons w ws ih =>
    obtain ⟨firm₁, id₁, hupsert, hrest⟩ := createWorkbaskets_cons h
    refine ih ?_ hrest
    obtain ⟨team, hfind, hteam⟩ := hid
    rw [(upsertWorkbasket_ok hupsert).1,
      find_upsert (w.name_touch adminUserId) (w.name_fresh adminUserId _)]
    split_ifs with hname
    · rw [← hname, hfind]
      exact ⟨_, rfl, hteam⟩
    · exact ⟨team, hfind, hteam⟩

/-- An upsert changes nothing where its workbasket is served. -/
theorem upsertWorkbasket_settled {team : Team} (hfind : find Team.name w.name firm.teams = some team)
    (htouch : w.touch adminUserId team = team) (hviolates : violatesIndex firm.teams team = false) :
    upsertWorkbasket adminUserId w firm = .ok (firm, team._id) := by
  unfold upsertWorkbasket
  rw [hfind]
  dsimp only
  rw [htouch, hviolates, if_neg Bool.false_ne_true, upsert_settled hfind htouch]

/-- The loop changes nothing when it is run again on the same workbaskets, and finds the same. -/
theorem createWorkbaskets_again {ws : List WorkbasketTemplate} {m m' : OrderedMap String ℕ}
    {again : Firm} (hteams : again.teams = firm'.teams)
    (hserved : ∀ w ∈ ws, WorkbasketServed adminUserId firm'.teams w)
    (h : createWorkbaskets adminUserId ws m firm = .ok (firm', m')) :
    createWorkbaskets adminUserId ws m again = .ok (again, m') := by
  induction ws generalizing firm m with
  | nil =>
    cases h
    rfl
  | cons w ws ih =>
    obtain ⟨firm₁, id, hupsert, hrest⟩ := createWorkbaskets_cons h
    obtain ⟨team, hfind, htouch, hviolates⟩ := hserved w List.mem_cons_self
    have hid : team._id = id := by
      obtain ⟨team₁, hfind₁, hid₁, -⟩ := find_upsertWorkbasket hupsert
      obtain ⟨team', hfind', hid'⟩ := id_createWorkbaskets ⟨team₁, hfind₁, hid₁⟩ hrest
      rw [Option.some.inj (hfind.symm.trans hfind'), hid']
    have hrest' := ih (fun w' hw' => hserved w' (List.mem_cons_of_mem _ hw')) hrest
    rw [← hteams] at hfind hviolates
    unfold createWorkbaskets
    rw [upsertWorkbasket_settled hfind htouch hviolates, ok_bind, hid]
    exact hrest'

end workbaskets

/-! ## Categories -/

section categories

variable {m : OrderedMap String ℕ} {s : SubcategoryTemplate} {subcategories : List Subcategory}
  {n : ℕ}

theorem Subcategory.key_restored (workbasketId : Option ℕ) {key : String} (a : Subcategory)
    (h : a.key = key) : (a.restored workbasketId).key = key := h

theorem kept_restored (workbasketId : Option ℕ) (a : Subcategory) :
    KeptSubcategory a (a.restored workbasketId) where
  id := rfl
  name := rfl
  employeeContext := rfl
  workbasket w hw := by
    show a.workbasketId.or workbasketId = some w
    rw [hw]
    rfl
  active _ := rfl

/-- The subcategory that is added. -/
def SubcategoryTemplate.fresh (s : SubcategoryTemplate) (id workbasketId : ℕ) : Subcategory where
  id := id
  name := s.name
  workbasketId := some workbasketId
  employeeContextEnabled := s.employeeContextEnabled

/-- What one step of the inner loop does. -/
theorem addSubcategory_cases (m : OrderedMap String ℕ) (s : SubcategoryTemplate)
    (subcategories : List Subcategory) (n : ℕ) :
    (∃ a, find Subcategory.key (lookupKey s.name) subcategories = some a ∧
      (addSubcategory m s subcategories n) = (change Subcategory.key (lookupKey s.name)
        (Subcategory.restored (m.get s.workbasket)) subcategories, n)) ∨
    (find Subcategory.key (lookupKey s.name) subcategories = none ∧
      ((m.get s.workbasket = none ∧ addSubcategory m s subcategories n = (subcategories, n)) ∨
        ∃ w, m.get s.workbasket = some w ∧
          addSubcategory m s subcategories n = (subcategories ++ [s.fresh n w], n + 1))) := by
  unfold addSubcategory
  cases hfind : find Subcategory.key (lookupKey s.name) subcategories with
  | some a => exact .inl ⟨a, rfl, rfl⟩
  | none =>
    refine .inr ⟨rfl, ?_⟩
    cases hmap : m.get s.workbasket with
    | none => exact .inl ⟨rfl, rfl⟩
    | some w => exact .inr ⟨w, rfl, rfl⟩

theorem grows_addSubcategory (m : OrderedMap String ℕ) (s : SubcategoryTemplate)
    (subcategories : List Subcategory) (n : ℕ) :
    Grows KeptSubcategory subcategories (addSubcategory m s subcategories n).1 := by
  obtain ⟨a, -, heq⟩ | ⟨-, ⟨-, heq⟩ | ⟨w, -, heq⟩⟩ := addSubcategory_cases m s subcategories n
  · rw [heq]
    exact grows_change KeptSubcategory.refl fun b _ => kept_restored _ b
  · rw [heq]
    exact .refl KeptSubcategory.refl _
  · rw [heq]
    exact .append KeptSubcategory.refl _ _

/-- The template's subcategory is there and active, or there is neither it nor its workbasket. -/
def Served (m : OrderedMap String ℕ) (subcategories : List Subcategory) (s : SubcategoryTemplate) :
    Prop :=
  (∃ a, find Subcategory.key (lookupKey s.name) subcategories = some a ∧ a.isActive = true) ∨
    find Subcategory.key (lookupKey s.name) subcategories = none ∧ m.get s.workbasket = none

/-- What is found under a key after one step of the inner loop. -/
theorem find_addSubcategory (m : OrderedMap String ℕ) (s : SubcategoryTemplate)
    (subcategories : List Subcategory) (n : ℕ) (key : String) :
    find Subcategory.key key (addSubcategory m s subcategories n).1 =
      if key = lookupKey s.name then
        (find Subcategory.key key subcategories).elim ((m.get s.workbasket).map (s.fresh n))
          fun a => some (a.restored (m.get s.workbasket))
      else find Subcategory.key key subcategories := by
  obtain ⟨a, hfind, heq⟩ | ⟨hfind, ⟨hmap, heq⟩ | ⟨w, hmap, heq⟩⟩ :=
    addSubcategory_cases m s subcategories n
  · rw [heq, find_change (Subcategory.key_restored _)]
    split_ifs with hkey
    · rw [hkey, hfind]
      rfl
    · rfl
  · rw [heq]
    split_ifs with hkey
    · rw [hkey, hfind, hmap]
      rfl
    · rfl
  · have hfresh : (s.fresh n w).key = lookupKey s.name := rfl
    rw [heq, find_append, hfresh]
    by_cases hkey : key = lookupKey s.name
    · rw [if_pos hkey, if_pos hkey.symm, hkey, hfind, hmap]
      rfl
    · rw [if_neg hkey, if_neg (Ne.symm hkey), Option.or_none]

theorem served_addSubcategory (m : OrderedMap String ℕ) (s : SubcategoryTemplate)
    (subcategories : List Subcategory) (n : ℕ) :
    Served m (addSubcategory m s subcategories n).1 s := by
  unfold Served
  rw [find_addSubcategory, if_pos rfl]
  cases find Subcategory.key (lookupKey s.name) subcategories with
  | some a => exact .inl ⟨_, rfl, rfl⟩
  | none =>
    cases m.get s.workbasket with
    | none => exact .inr ⟨rfl, rfl⟩
    | some w => exact .inl ⟨_, rfl, rfl⟩

/-- What is served stays so. -/
theorem Served.addSubcategory (h : Served m subcategories s) (s' : SubcategoryTemplate) (n : ℕ) :
    Served m (FirmSetup.addSubcategory m s' subcategories n).1 s := by
  unfold Served at h ⊢
  rw [find_addSubcategory]
  split_ifs with hkey
  · obtain ⟨a, hfind, hactive⟩ | ⟨hfind, hmap⟩ := h
    · rw [hfind]
      exact .inl ⟨_, rfl, rfl⟩
    · rw [hfind]
      cases m.get s'.workbasket with
      | none => exact .inr ⟨rfl, hmap⟩
      | some w => exact .inl ⟨_, rfl, rfl⟩
  · exact h

theorem grows_addSubcategories (ss : List SubcategoryTemplate) (subcategories : List Subcategory)
    (n : ℕ) : Grows KeptSubcategory subcategories (addSubcategories m ss subcategories n).1 := by
  induction ss generalizing subcategories n with
  | nil => exact .refl KeptSubcategory.refl _
  | cons s ss ih =>
    exact (grows_addSubcategory m s subcategories n).trans KeptSubcategory.trans (ih _ _)

theorem Served.addSubcategories (h : Served m subcategories s) (ss : List SubcategoryTemplate)
    (n : ℕ) : Served m (FirmSetup.addSubcategories m ss subcategories n).1 s := by
  induction ss generalizing subcategories n with
  | nil => exact h
  | cons s' ss ih => exact ih (h.addSubcategory s' n) _

/-- After the inner loop every subcategory of the template is served. -/
theorem served_addSubcategories {ss : List SubcategoryTemplate} (hs : s ∈ ss)
    (subcategories : List Subcategory) (n : ℕ) :
    Served m (addSubcategories m ss subcategories n).1 s := by
  induction ss generalizing subcategories n with
  | nil => exact nomatch hs
  | cons s' ss ih =>
    rcases List.mem_cons.mp hs with rfl | hs
    · exact (served_addSubcategory m s subcategories n).addSubcategories ss _
    · exact ih hs _ _

/-- What holds of the subcategories that are there holds of those that the inner loop leaves, where
it holds of what is brought back and of what is added. -/
theorem forall_addSubcategories {P : Subcategory → Prop} {ss : List SubcategoryTemplate}
    (hrestored : ∀ s ∈ ss, ∀ a, P a → a.key = lookupKey s.name →
      P (a.restored (m.get s.workbasket)))
    (hfresh : ∀ s ∈ ss, ∀ id w, m.get s.workbasket = some w → P (s.fresh id w))
    (h : ∀ a ∈ subcategories, P a) :
    ∀ a ∈ (addSubcategories m ss subcategories n).1, P a := by
  induction ss generalizing subcategories n with
  | nil => exact h
  | cons s ss ih =>
    have hstep : ∀ a ∈ (addSubcategory m s subcategories n).1, P a := by
      obtain ⟨-, -, heq⟩ | ⟨-, ⟨-, heq⟩ | ⟨w, hmap, heq⟩⟩ :=
        addSubcategory_cases m s subcategories n
      · rw [heq]
        intro a ha
        rcases mem_change ha with ha | ⟨b, hb, rfl⟩
        · exact h a ha
        · obtain ⟨hmem, hkey⟩ := mem_of_find hb
          exact hrestored s List.mem_cons_self b (h b hmem) hkey
      · rw [heq]
        exact h
      · rw [heq]
        intro a ha
        rcases List.mem_append.mp ha with ha | ha
        · exact h a ha
        · rw [List.mem_singleton.mp ha]
          exact hfresh s List.mem_cons_self n w hmap
    exact ih (fun s' hs' => hrestored s' (List.mem_cons_of_mem _ hs'))
      (fun s' hs' => hfresh s' (List.mem_cons_of_mem _ hs')) hstep

/-- The inner loop changes nothing where every subcategory is served and has a workbasket. -/
theorem addSubcategories_settled {ss : List SubcategoryTemplate}
    (hserved : ∀ s ∈ ss, Served m subcategories s)
    (hplaced : ∀ a ∈ subcategories, a.workbasketId.isSome = true) :
    addSubcategories m ss subcategories n = (subcategories, n) := by
  induction ss with
  | nil => rfl
  | cons s ss ih =>
    have hstep : addSubcategory m s subcategories n = (subcategories, n) := by
      obtain ⟨a, hfind, heq⟩ | ⟨hfind, ⟨-, heq⟩ | ⟨w, hmap, heq⟩⟩ :=
        addSubcategory_cases m s subcategories n
      · rw [heq, change_settled fun b hb => ?_]
        obtain ⟨w, hw⟩ := Option.isSome_iff_exists.mp (hplaced b (mem_of_find hb).1)
        obtain ⟨c, hc, hactive⟩ | ⟨hnone, -⟩ := hserved s List.mem_cons_self
        · rw [hb, Option.some.injEq] at hc
          subst hc
          show { b with
            isActive := true
            workbasketId := b.workbasketId.or (m.get s.workbasket) } = b
          rw [hw, Option.some_or, ← hw, ← hactive]
        · exact nomatch hnone.symm.trans hb
      · exact heq
      · obtain ⟨c, hc, -⟩ | ⟨-, hnone⟩ := hserved s List.mem_cons_self
        · exact nomatch hfind.symm.trans hc
        · exact nomatch hnone.symm.trans hmap
    unfold addSubcategories
    rw [hstep]
    exact ih fun s' hs' => hserved s' (List.mem_cons_of_mem _ hs')

variable {c : CategoryTemplate} {firm firm' : Firm}

/-- The category that a step of the outer loop leaves. -/
def CategoryTemplate.touch (subcategories : List Subcategory) (category : Category) : Category :=
  { category with isActive := true, subcategories }

/-- What a step of the outer loop does when it succeeds. -/
theorem createCategory_ok (h : createCategory m c firm = .ok firm') :
    let subcategories := (addSubcategories m c.subcategories
      (subcategoriesOf c.name firm.categories) firm.nextId).1
    firm'.teams = firm.teams ∧
      firm'.categories = upsert Category.name c.name (CategoryTemplate.touch subcategories)
        { name := c.name, subcategories } firm.categories ∧
      (∀ a ∈ subcategories, a.workbasketId.isSome = true) ∧
      ∀ category, find Category.name c.name firm.categories = some category →
        category.isDeleted = false := by
  unfold createCategory at h
  dsimp only at h
  split_ifs at h with hplaced hdeleted
  cases h
  refine ⟨rfl, rfl, fun a ha => ?_, fun category hfind => ?_⟩
  · cases hw : a.workbasketId with
    | some w => rfl
    | none => exact absurd (List.any_eq_true.mpr ⟨a, ha, by rw [hw]; rfl⟩) hplaced
  · rw [hfind] at hdeleted
    simpa using hdeleted

theorem name_touch (subcategories : List Subcategory) {name : String} (category : Category)
    (h : category.name = name) : (CategoryTemplate.touch subcategories category).name = name := h

theorem name_new (c : CategoryTemplate) (subcategories : List Subcategory) :
    ({ name := c.name, subcategories } : Category).name = c.name := rfl

/-- A category that is found has its own subcategories to begin with. -/
theorem subcategoriesOf_found {name : String} {categories : List Category} {category : Category}
    (hfind : find Category.name name categories = some category)
    (hdeleted : category.isDeleted = false) :
    subcategoriesOf name categories = category.subcategories := by
  unfold subcategoriesOf
  rw [hfind, Option.filter_some, if_pos (by rw [hdeleted]; rfl)]
  rfl

theorem kept_createCategory (h : createCategory m c firm = .ok firm') : Kept firm firm' := by
  obtain ⟨hteams, hcategories, -, hdeleted⟩ := createCategory_ok h
  refine ⟨hteams ▸ .refl KeptTeam.refl _, ?_⟩
  rw [hcategories]
  refine grows_upsert KeptCategory.refl fun category hfind => ⟨rfl, rfl, fun _ => rfl, ?_⟩
  rw [← subcategoriesOf_found hfind (hdeleted category hfind)]
  exact grows_addSubcategories _ _ _

/-- What a category template asks for is there, and every subcategory beside it is placed. -/
def CategoryServed (m : OrderedMap String ℕ) (categories : List Category) (c : CategoryTemplate) :
    Prop :=
  ∃ category, find Category.name c.name categories = some category ∧ category.isActive = true ∧
    category.isDeleted = false ∧ (∀ a ∈ category.subcategories, a.workbasketId.isSome = true) ∧
      ∀ s ∈ c.subcategories, Served m category.subcategories s

theorem categoryServed_createCategory (h : createCategory m c firm = .ok firm') :
    CategoryServed m firm'.categories c := by
  obtain ⟨-, hcategories, hplaced, hdeleted⟩ := createCategory_ok h
  have hserved : ∀ s ∈ c.subcategories, Served m _ s := fun s hs =>
    served_addSubcategories hs (subcategoriesOf c.name firm.categories) firm.nextId
  unfold CategoryServed
  rw [hcategories, find_upsert (name_touch _) (name_new c _), if_pos rfl]
  cases hfind : find Category.name c.name firm.categories with
  | some category => exact ⟨_, rfl, rfl, hdeleted category hfind, hplaced, hserved⟩
  | none => exact ⟨_, rfl, rfl, rfl, hplaced, hserved⟩

/-- What has been served stays so. -/
theorem CategoryServed.createCategory {c' : CategoryTemplate}
    (hserved : CategoryServed m firm.categories c')
    (h : FirmSetup.createCategory m c firm = .ok firm') :
    CategoryServed m firm'.categories c' := by
  obtain ⟨-, hcategories, hplaced, hdeleted⟩ := createCategory_ok h
  obtain ⟨category, hfind, hactive, hundeleted, hsome, hall⟩ := hserved
  unfold CategoryServed
  rw [hcategories, find_upsert (name_touch _) (name_new c _)]
  split_ifs with hname
  · rw [hname] at hfind
    rw [hfind]
    refine ⟨_, rfl, rfl, hundeleted, hplaced, fun s hs => ?_⟩
    have hkept := (hall s hs).addSubcategories c.subcategories firm.nextId
    rw [← subcategoriesOf_found hfind hundeleted] at hkept
    exact hkept
  · exact ⟨category, hfind, hactive, hundeleted, hsome, hall⟩

/-- A step of the outer loop changes nothing where its category is served. -/
theorem createCategory_settled (h : CategoryServed m firm.categories c) :
    createCategory m c firm = .ok firm := by
  obtain ⟨category, hfind, hactive, hundeleted, hsome, hall⟩ := h
  unfold createCategory
  rw [subcategoriesOf_found hfind hundeleted, addSubcategories_settled hall hsome, hfind]
  have hnone : category.subcategories.any (·.workbasketId.isNone) = false := by
    refine List.any_eq_false.mpr fun a ha => ?_
    rw [← Option.not_isSome, hsome a ha]
    decide
  have hsame : upsert Category.name c.name
      (fun a => { a with isActive := true, subcategories := category.subcategories })
      { name := c.name, subcategories := category.subcategories } firm.categories =
        firm.categories := by
    refine upsert_settled hfind ?_
    rw [← hactive]
  dsimp only
  rw [hnone, if_neg Bool.false_ne_true, Option.any_some, hundeleted, if_neg Bool.false_ne_true,
    hsame]

/-- What the loop over the categories leaves. -/
structure CategoriesCreated (m : OrderedMap String ℕ) (cs : List CategoryTemplate)
    (firm firm' : Firm) : Prop where
  kept : Kept firm firm'
  teams : firm'.teams = firm.teams
  served : ∀ c ∈ cs, CategoryServed m firm'.categories c

/-- One step of the loop. -/
theorem createCategories_cons {cs : List CategoryTemplate}
    (h : createCategories m (c :: cs) firm = .ok firm') :
    ∃ firm₁, createCategory m c firm = .ok firm₁ ∧ createCategories m cs firm₁ = .ok firm' := by
  unfold createCategories at h
  exact bind_eq_ok.mp h

theorem CategoryServed.createCategories {cs : List CategoryTemplate}
    (hserved : CategoryServed m firm.categories c)
    (h : FirmSetup.createCategories m cs firm = .ok firm') :
    CategoryServed m firm'.categories c := by
  induction cs generalizing firm with
  | nil =>
    cases h
    exact hserved
  | cons c' cs ih =>
    obtain ⟨firm₁, hstep, hrest⟩ := createCategories_cons h
    exact ih (hserved.createCategory hstep) hrest

theorem createCategories_ok {cs : List CategoryTemplate}
    (h : createCategories m cs firm = .ok firm') : CategoriesCreated m cs firm firm' := by
  induction cs generalizing firm with
  | nil =>
    cases h
    exact ⟨.refl _, rfl, fun c hc => nomatch hc⟩
  | cons c cs ih =>
    obtain ⟨firm₁, hstep, hrest⟩ := createCategories_cons h
    have hcreated := ih hrest
    refine ⟨(kept_createCategory hstep).trans hcreated.kept, ?_, fun c' hc' => ?_⟩
    · rw [hcreated.teams, (createCategory_ok hstep).1]
    · rcases List.mem_cons.mp hc' with rfl | hc'
      · exact (categoryServed_createCategory hstep).createCategories hrest
      · exact hcreated.served c' hc'

/-- The loop changes nothing where every category is served. -/
theorem createCategories_settled {cs : List CategoryTemplate}
    (h : ∀ c ∈ cs, CategoryServed m firm.categories c) :
    createCategories m cs firm = .ok firm := by
  induction cs with
  | nil => rfl
  | cons c cs ih =>
    unfold createCategories
    rw [createCategory_settled (h c List.mem_cons_self), ok_bind]
    exact ih fun c' hc' => h c' (List.mem_cons_of_mem _ hc')

/-! ### Where a subcategory has its workbasket from -/

/-- A subcategory of a category of the name has the workbasket that it had, or that of a subcategory
of a template for the category. -/
def Origin (m : OrderedMap String ℕ) (cs : List CategoryTemplate) (before : List Category)
    (name : String) (a : Subcategory) : Prop :=
  (∃ category ∈ before, category.name = name ∧
    ∃ b ∈ category.subcategories, b.id = a.id ∧ b.workbasketId = a.workbasketId) ∨
  ∃ c ∈ cs, c.name = name ∧ ∃ s ∈ c.subcategories, a.key = lookupKey s.name ∧
    ∃ w, m.get s.workbasket = some w ∧ a.workbasketId = some w

def Originated (m : OrderedMap String ℕ) (cs : List CategoryTemplate)
    (before after : List Category) : Prop :=
  ∀ category ∈ after, ∀ a ∈ category.subcategories, Origin m cs before category.name a

variable {cs : List CategoryTemplate} {before : List Category}

/-- A subcategory that is brought back keeps where it has its workbasket from. -/
theorem Origin.restored {a : Subcategory} (h : Origin m cs before c.name a) (hc : c ∈ cs)
    (hs : s ∈ c.subcategories) (hkey : a.key = lookupKey s.name) :
    Origin m cs before c.name (a.restored (m.get s.workbasket)) := by
  have hworkbasket : (a.restored (m.get s.workbasket)).workbasketId =
      a.workbasketId.or (m.get s.workbasket) := rfl
  obtain ⟨category, hmem, hname, b, hb, hid, hb'⟩ | ⟨c', hc', hname, s', hs', hkey', w, hw, ha⟩ := h
  · cases hw : a.workbasketId with
    | some w =>
      rw [hw, Option.some_or] at hworkbasket
      exact .inl ⟨category, hmem, hname, b, hb, hid, hb'.trans (hw.trans hworkbasket.symm)⟩
    | none =>
      rw [hw, Option.none_or] at hworkbasket
      cases hmap : m.get s.workbasket with
      | some w =>
        rw [hmap] at hworkbasket
        exact .inr ⟨c, hc, rfl, s, hs, hkey, w, hmap, hworkbasket⟩
      | none =>
        rw [hmap] at hworkbasket
        exact .inl ⟨category, hmem, hname, b, hb, hid, hb'.trans (hw.trans hworkbasket.symm)⟩
  · rw [ha, Option.some_or] at hworkbasket
    exact .inr ⟨c', hc', hname, s', hs', hkey', w, hw, hworkbasket⟩

theorem originated_createCategory (horiginated : Originated m cs before firm.categories)
    (hc : c ∈ cs) (h : createCategory m c firm = .ok firm') :
    Originated m cs before firm'.categories := by
  obtain ⟨-, hcategories, -, hdeleted⟩ := createCategory_ok h
  have hbefore : ∀ a ∈ subcategoriesOf c.name firm.categories, Origin m cs before c.name a := by
    cases hfind : find Category.name c.name firm.categories with
    | some category =>
      obtain ⟨hmem, hname⟩ := mem_of_find hfind
      rw [subcategoriesOf_found hfind (hdeleted category hfind), ← hname]
      exact horiginated category hmem
    | none =>
      unfold subcategoriesOf
      rw [hfind]
      exact fun a ha => nomatch ha
  have hafter : ∀ a ∈ (addSubcategories m c.subcategories
      (subcategoriesOf c.name firm.categories) firm.nextId).1, Origin m cs before c.name a :=
    forall_addSubcategories (fun s hs a ha hkey => ha.restored hc hs hkey)
      (fun s hs id w hw => .inr ⟨c, hc, rfl, s, hs, rfl, w, hw, rfl⟩) hbefore
  intro category hmem
  rw [hcategories] at hmem
  rcases mem_upsert hmem with hmem | ⟨b, hb, rfl⟩ | ⟨-, rfl⟩
  · exact horiginated category hmem
  · rw [name_touch _ b (mem_of_find hb).2]
    exact hafter
  · exact hafter

theorem originated_createCategories {cs' : List CategoryTemplate} (hcs : ∀ c ∈ cs', c ∈ cs)
    (horiginated : Originated m cs before firm.categories)
    (h : createCategories m cs' firm = .ok firm') : Originated m cs before firm'.categories := by
  induction cs' generalizing firm with
  | nil =>
    cases h
    exact horiginated
  | cons c cs' ih =>
    obtain ⟨firm₁, hstep, hrest⟩ := createCategories_cons h
    exact ih (fun c' hc' => hcs c' (List.mem_cons_of_mem _ hc'))
      (originated_createCategory horiginated (hcs c List.mem_cons_self) hstep) hrest

/-- To begin with every subcategory has the workbasket that it had. -/
theorem Originated.refl (m : OrderedMap String ℕ) (cs : List CategoryTemplate)
    (before : List Category) : Originated m cs before before :=
  fun category hmem a ha => .inl ⟨category, hmem, rfl, a, ha, rfl, rfl⟩

end categories

/-! ## Whole setups -/

section setups

variable {adminUserId : Option ℕ} {template : RawTemplate} {firm firm' : Firm} {force : Bool}
  {result : SetupResult}

/-- What a setup does that succeeds. -/
theorem setupDefaultFirm_ok
    (h : setupDefaultFirm force adminUserId template firm = .ok (firm', result)) :
    (result.isSkipped = true ∧ force = false ∧ firm' = firm) ∨
    result.isSkipped = false ∧ ∃ firm₁ firm₂ m,
      createWorkbaskets adminUserId (normalizeTemplate template).workbaskets .empty firm =
        .ok (firm₁, m) ∧
      createCategories m (normalizeTemplate template).categories firm₁ = .ok firm₂ ∧
      firm' = { firm₂ with
        isSetupComplete := true
        setupMetadata := some ⟨(normalizeTemplate template).categories.length, m.size,
          (normalizeTemplate template).key⟩ } := by
  unfold setupDefaultFirm at h
  dsimp only at h
  split_ifs at h with hskip
  · cases h
    rw [Bool.and_eq_true, Bool.and_eq_true, Bool.not_eq_true'] at hskip
    exact .inl ⟨rfl, hskip.1.1, rfl⟩
  · obtain ⟨⟨firm₂, m⟩, hrun, hdone⟩ := bind_eq_ok.mp h
    rw [runSetup_normalized] at hrun
    obtain ⟨⟨firm₁, m₁⟩, hworkbaskets, hrun⟩ := bind_eq_ok.mp hrun
    obtain ⟨firm₂', hcategories, hrun⟩ := bind_eq_ok.mp hrun
    cases hrun
    cases hdone
    exact .inr ⟨rfl, firm₁, firm₂, m, hworkbaskets, hcategories, rfl⟩

/-- The workbasket of a name is there and active, and the admin manages it. -/
def HasWorkbasket (adminUserId : Option ℕ) (firm : Firm) (name : String) : Prop :=
  ∃ team, find Team.name name firm.teams = some team ∧ team.isActive = true ∧
    team.managerId = adminUserId

/-- The category of a name is there and active, every subcategory of it has a workbasket, and there
are active ones of the keys. -/
def HasCategory (firm : Firm) (name : String) (keys : String → Prop) : Prop :=
  ∃ category, find Category.name name firm.categories = some category ∧
    category.isActive = true ∧ category.isDeleted = false ∧
      (∀ a ∈ category.subcategories, a.workbasketId.isSome = true) ∧
        ∀ key, keys key → ∃ a ∈ category.subcategories, a.key = key ∧ a.isActive = true

/-- A subcategory has the workbasket that it had before, or the one that a template names for it. -/
def Placed (adminUserId : Option ℕ) (t : Template) (before after : Firm) (name : String)
    (a : Subcategory) : Prop :=
  (∃ category ∈ before.categories, category.name = name ∧
    ∃ b ∈ category.subcategories, b.id = a.id ∧ b.workbasketId = a.workbasketId) ∨
  ∃ c ∈ t.categories, c.name = name ∧ ∃ s ∈ c.subcategories, a.key = lookupKey s.name ∧
    ∃ team, find Team.name s.workbasket after.teams = some team ∧ team.isActive = true ∧
      team.managerId = adminUserId ∧ a.workbasketId = some team._id

/-- What a template makes of a firm. -/
structure SetUp (adminUserId : Option ℕ) (t : Template) (before after : Firm) : Prop where
  complete : after.isSetupComplete = true
  kept : Kept before after
  workbaskets : ∀ w ∈ t.workbaskets, HasWorkbasket adminUserId after w.name
  categories : ∀ c ∈ t.categories, HasCategory after c.name fun key => ∃ s ∈ c.subcategories,
    lookupKey s.name = key ∧ ∃ w ∈ t.workbaskets, w.name = s.workbasket
  placed : ∀ category ∈ after.categories, ∀ a ∈ category.subcategories,
    Placed adminUserId t before after category.name a

theorem mapped_empty (teams : List Team) : Mapped adminUserId teams .empty :=
  fun _ _ h => nomatch h

/-- A category that is served has what its template asks for. -/
theorem CategoryServed.hasCategory {m : OrderedMap String ℕ} {c : CategoryTemplate}
    (h : CategoryServed m firm.categories c) {keys : String → Prop}
    (hkeys : ∀ key, keys key → ∃ s ∈ c.subcategories, lookupKey s.name = key ∧
      (m.get s.workbasket).isSome = true) : HasCategory firm c.name keys := by
  obtain ⟨category, hfind, hactive, hdeleted, hplaced, hserved⟩ := h
  refine ⟨category, hfind, hactive, hdeleted, hplaced, fun key hkey => ?_⟩
  obtain ⟨s, hs, rfl, hmap⟩ := hkeys key hkey
  obtain ⟨a, ha, hactive⟩ | ⟨-, hnone⟩ := hserved s hs
  · obtain ⟨hmem, hkey⟩ := mem_of_find ha
    exact ⟨a, hmem, hkey, hactive⟩
  · rw [hnone] at hmap
    exact nomatch hmap

/-- The two loops of a setup leave what its template asks for, and lose nothing. -/
theorem setUp_of_loops {t : Template} {firm₁ firm₂ : Firm} {m : OrderedMap String ℕ}
    (hworkbaskets : createWorkbaskets adminUserId t.workbaskets .empty firm = .ok (firm₁, m))
    (hcategories : createCategories m t.categories firm₁ = .ok firm₂)
    (metadata : Option SetupMetadata) :
    SetUp adminUserId t firm
      { firm₂ with
        isSetupComplete := true
        setupMetadata := metadata } := by
  have hteams := createWorkbaskets_ok (mapped_empty firm.teams) hworkbaskets
  have hloop := createCategories_ok hcategories
  have horigin := originated_createCategories (fun _ hc => hc)
    (.refl m t.categories firm₁.categories) hcategories
  have hmapped : Mapped adminUserId firm₂.teams m := hloop.teams ▸ hteams.mapped
  have hnamed : ∀ w ∈ t.workbaskets, (m.get w.name).isSome = true :=
    fun w hw => hteams.named _ (.inl (List.mem_map_of_mem hw))
  constructor
  case complete => rfl
  case kept =>
    have hkept := hteams.kept.trans hloop.kept
    exact ⟨hkept.teams, hkept.categories⟩
  case workbaskets =>
    intro w hw
    obtain ⟨id, hid⟩ := Option.isSome_iff_exists.mp (hnamed w hw)
    obtain ⟨team, hfind, -, hactive, hmanager⟩ := hmapped w.name id hid
    exact ⟨team, hfind, hactive, hmanager⟩
  case categories =>
    intro c hc
    have hserved : CategoryServed m firm₂.categories c := hloop.served c hc
    refine hserved.hasCategory fun key hkey => ?_
    obtain ⟨s, hs, hkey, w, hw, hname⟩ := hkey
    exact ⟨s, hs, hkey, hname ▸ hnamed w hw⟩
  case placed =>
    intro category hmem a ha
    obtain ⟨before, hbefore, hname, hb⟩ | ⟨c, hc, hname, s, hs, hkey, id, hid, hworkbasket⟩ :=
      horigin category hmem a ha
    · rw [hteams.categories] at hbefore
      exact .inl ⟨before, hbefore, hname, hb⟩
    · obtain ⟨team, hfind, rfl, hactive, hmanager⟩ := hmapped s.workbasket id hid
      exact .inr ⟨c, hc, hname, s, hs, hkey, team, hfind, hactive, hmanager, hworkbasket⟩

/-- A setup that is not skipped leaves what its template asks for, and loses nothing. -/
theorem setup_complete
    (h : setupDefaultFirm force adminUserId template firm = .ok (firm', result)) :
    (result.isSkipped = true ∧ force = false ∧ firm' = firm) ∨
      result.isSkipped = false ∧ SetUp adminUserId (normalizeTemplate template) firm firm' := by
  obtain hskip | ⟨hdone, firm₁, firm₂, m, hworkbaskets, hcategories, heq⟩ := setupDefaultFirm_ok h
  · exact .inl hskip
  · rw [heq]
    exact .inr ⟨hdone, setUp_of_loops hworkbaskets hcategories _⟩

/-- A firm that has nothing is given what the system's template has. -/
theorem setup_complete_default :
    ∃ firm' result, setupDefaultFirm false (some 0) SYSTEM_DEFAULT_TEMPLATE
        ⟨1, [], [], false, none⟩ = .ok (firm', result) ∧
      SetUp (some 0) (normalizeTemplate SYSTEM_DEFAULT_TEMPLATE) ⟨1, [], [], false, none⟩ firm' := by
  have h : setupDefaultFirm false (some 0) SYSTEM_DEFAULT_TEMPLATE ⟨1, [], [], false, none⟩ =
    .ok (_, _) := rfl
  exact ⟨_, _, h, ((setup_complete h).resolve_left fun hskip => Bool.false_ne_true hskip.1).2⟩

/-- Another setup with the same template changes nothing, forced or not. -/
theorem setup_settled (htypes : OneType (normalizeTemplate template).workbaskets)
    (h : setupDefaultFirm force adminUserId template firm = .ok (firm', result))
    (hskipped : result.isSkipped = false) (force' : Bool) :
    ∃ result', setupDefaultFirm force' adminUserId template firm' = .ok (firm', result') := by
  obtain ⟨hskip, -⟩ | ⟨-, firm₁, firm₂, m, hworkbaskets, hcategories, heq⟩ := setupDefaultFirm_ok h
  · exact nomatch hskip.symm.trans hskipped
  have hloop := createCategories_ok hcategories
  have hteams : firm'.teams = firm₁.teams := by rw [heq, ← hloop.teams]
  have hserved : ∀ c ∈ (normalizeTemplate template).categories,
      CategoryServed m firm'.categories c := by
    rw [heq]
    exact hloop.served
  have hrun : runSetup adminUserId (normalizeTemplate template) firm' = .ok (firm', m) := by
    rw [runSetup_normalized, createWorkbaskets_again hteams
      (workbasketServed_createWorkbaskets htypes hworkbaskets) hworkbaskets, ok_bind]
    dsimp only
    rw [createCategories_settled hserved]
    rfl
  unfold setupDefaultFirm
  dsimp only
  split_ifs
  · exact ⟨_, rfl⟩
  · rw [hrun, heq]
    exact ⟨_, rfl⟩

/-- A second, forced setup of a firm that has the system's template changes nothing. -/
theorem setup_settled_default :
    ∃ firm' result result', setupDefaultFirm false none SYSTEM_DEFAULT_TEMPLATE
        ⟨1, [], [], false, none⟩ = .ok (firm', result) ∧
      setupDefaultFirm true none SYSTEM_DEFAULT_TEMPLATE firm' = .ok (firm', result') := by
  have h : setupDefaultFirm false none SYSTEM_DEFAULT_TEMPLATE ⟨1, [], [], false, none⟩ =
    .ok (_, _) := rfl
  have htypes : OneType (normalizeTemplate SYSTEM_DEFAULT_TEMPLATE).workbaskets := by
    unfold OneType
    decide
  obtain ⟨result', h'⟩ := setup_settled htypes h rfl true
  exact ⟨_, _, result', h, h'⟩

/-! ### Clones -/

/-- A name as the models of workbaskets and categories keep it. -/
def Named (name : String) : Prop := trim name = name ∧ name ≠ ""

structure WellNamed (firm : Firm) : Prop where
  teams : ∀ team ∈ firm.teams, Named team.name
  categories : ∀ c ∈ firm.categories, Named c.name
  subcategories : ∀ c ∈ firm.categories, ∀ s ∈ c.subcategories, Named s.name

/-- What is left of another firm in the one that is set up after it. -/
structure Cloned (adminUserId : Option ℕ) (source before after : Firm) : Prop where
  kept : Kept before after
  workbaskets : ∀ team ∈ sourceWorkbaskets source, HasWorkbasket adminUserId after team.name
  categories : ∀ c ∈ source.categories, c.isActive = true → c.isDeleted = false →
    HasCategory after c.name fun key => ∃ s ∈ c.subcategories, s.isActive = true ∧ s.key = key ∧
      ∃ team ∈ sourceWorkbaskets source, some team._id = s.workbasketId
  placed : ∀ category ∈ after.categories, ∀ a ∈ category.subcategories,
    (∃ old ∈ before.categories, old.name = category.name ∧
      ∃ b ∈ old.subcategories, b.id = a.id ∧ b.workbasketId = a.workbasketId) ∨
    ∃ c ∈ source.categories, c.isActive = true ∧ c.name = category.name ∧
      ∃ s ∈ c.subcategories, s.isActive = true ∧ s.key = a.key ∧
        ∃ team, find Team.name (workbasketName source s) after.teams = some team ∧
          team.isActive = true ∧ team.managerId = adminUserId ∧ a.workbasketId = some team._id

theorem Named.text {name : String} (h : Named name) : text (some name) "" = name := by
  rw [text_some "" h.2, h.1]

/-- The name of a subcategory's workbasket is one of the cloned names, or the name of none. -/
theorem workbasketName_cases (source : Firm) (s : Subcategory) (hsource : WellNamed source) :
    (∃ team ∈ sourceWorkbaskets source, some team._id = s.workbasketId ∧
      workbasketName source s = team.name) ∨
    (∀ team ∈ sourceWorkbaskets source, some team._id ≠ s.workbasketId) ∧
      workbasketName source s = "General" := by
  unfold workbasketName
  cases hfind : (sourceWorkbaskets source).find? fun team => some team._id = s.workbasketId with
  | some team =>
    have hmem := List.mem_of_find?_eq_some hfind
    have hname : Named team.name := hsource.teams team (List.mem_filter.mp hmem).1
    refine .inl ⟨team, hmem, by simpa using List.find?_some hfind, ?_⟩
    unfold orElse
    rw [Option.map_some, if_pos ((truthy_some _).mpr hname.2)]
    rfl
  | none =>
    refine .inr ⟨fun team hteam => ?_, rfl⟩
    simpa using List.find?_eq_none.mp hfind team hteam

theorem named_workbasketName (source : Firm) (s : Subcategory) (hsource : WellNamed source) :
    Named (workbasketName source s) := by
  obtain ⟨team, hteam, -, hname⟩ | ⟨-, hname⟩ := workbasketName_cases source s hsource
  · rw [hname]
    exact hsource.teams team (List.mem_filter.mp hteam).1
  · rw [hname]
    exact ⟨by decide, by decide⟩

section cloneTemplate

variable {source : Firm} {sourceFirmId : String}

/-- Each cloned workbasket is in the template. -/
theorem workbasket_cloneTemplate (sourceFirmId : String) (hsource : WellNamed source) {team : Team}
    (hteam : team ∈ sourceWorkbaskets source) :
    ∃ w ∈ (normalizeTemplate (cloneTemplate sourceFirmId source)).workbaskets,
      w.name = team.name := by
  have hnamed : Named team.name := hsource.teams team (List.mem_filter.mp hteam).1
  refine ⟨_, List.mem_filter.mpr ⟨List.mem_map_of_mem (List.mem_map_of_mem hteam), ?_⟩, hnamed.text⟩
  exact decide_eq_true (hnamed.text.symm ▸ hnamed.2)

/-- The subcategories of a category, as the template of a clone has them. -/
theorem mem_cloneSubcategories (hsource : WellNamed source) {c : Category}
    (hc : c ∈ source.categories) (s' : SubcategoryTemplate) :
    s' ∈ normalizeSubcategories ((c.subcategories.filter (·.isActive)).map fun s =>
        { name := some s.name
          workbasket := some (workbasketName source s) }) ↔
      ∃ s ∈ c.subcategories, s.isActive = true ∧ s' = ⟨s.name, workbasketName source s, false⟩ := by
  have htext : ∀ s ∈ c.subcategories, text (some s.name) "" = s.name ∧
      text (some (workbasketName source s)) "" = workbasketName source s := fun s hs =>
    ⟨(hsource.subcategories c hc s hs).text, (named_workbasketName source s hsource).text⟩
  constructor
  · intro h
    obtain ⟨-, raw, hraw, rfl⟩ := mem_filter_map h
    obtain ⟨s, hs, rfl⟩ := List.mem_map.mp hraw
    obtain ⟨hmem, hactive⟩ := List.mem_filter.mp hs
    refine ⟨s, hmem, hactive, ?_⟩
    rw [(htext s hmem).1, (htext s hmem).2]
  · rintro ⟨s, hmem, hactive, rfl⟩
    have hs : s ∈ c.subcategories.filter (·.isActive) := List.mem_filter.mpr ⟨hmem, hactive⟩
    refine List.mem_filter.mpr ⟨List.mem_map.mpr ⟨_, List.mem_map_of_mem hs, ?_⟩, ?_⟩
    · rw [(htext s hmem).1, (htext s hmem).2]
    · exact Bool.and_eq_true_iff.mpr ⟨decide_eq_true (hsource.subcategories c hc s hmem).2,
        decide_eq_true (named_workbasketName source s hsource).2⟩

/-- The categories of the template of a clone. -/
theorem mem_cloneCategories (hsource : WellNamed source) (c' : CategoryTemplate) :
    c' ∈ (normalizeTemplate (cloneTemplate sourceFirmId source)).categories ↔
      ∃ c ∈ source.categories, c.isActive = true ∧ c.isDeleted = false ∧
        c' = ⟨c.name, normalizeSubcategories ((c.subcategories.filter (·.isActive)).map fun s =>
          { name := some s.name
            workbasket := some (workbasketName source s) })⟩ := by
  constructor
  · intro h
    obtain ⟨-, raw, hraw, rfl⟩ := mem_filter_map h
    obtain ⟨c, hc, rfl⟩ := List.mem_map.mp hraw
    obtain ⟨hmem, hkept⟩ := List.mem_filter.mp hc
    rw [Bool.and_eq_true, Bool.not_eq_true'] at hkept
    refine ⟨c, hmem, hkept.1, hkept.2, ?_⟩
    rw [(hsource.categories c hmem).text]
  · rintro ⟨c, hmem, hactive, hdeleted, rfl⟩
    have hc : c ∈ source.categories.filter fun c => c.isActive && !c.isDeleted := by
      refine List.mem_filter.mpr ⟨hmem, ?_⟩
      rw [hactive, hdeleted]
      rfl
    refine List.mem_filter.mpr ⟨List.mem_map.mpr ⟨_, List.mem_map_of_mem hc, ?_⟩, ?_⟩
    · rw [(hsource.categories c hmem).text]
    · exact decide_eq_true (hsource.categories c hmem).2

end cloneTemplate

end setups

end Docketra.FirmSetup
