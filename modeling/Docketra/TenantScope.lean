import Docketra.Lib.Branches
import Docketra.Lib.Checked
import Docketra.Text

/-!
# The tenant scope guard

`models/plugins/tenantScopeGuard.plugin.js` lets an authenticated query through when `hasFirmScope`
accepts its filter, which it does as soon as `firmId` occurs somewhere in the filter. The documents
that match are those of the firms that the filter names when every branch of the filter names them,
with one alternative taken of each `$or` and one condition refuted of each filter under `$nor`
(`scope_sound_iff`).

A filter has no empty `$and`, `$or` or `$nor`, which MongoDB rejects: an empty list stands for an
operator that is not there. A document is its `firmId` and the rest, and of a condition on another
field than `firmId` only what it accepts matters.
-/

namespace Docketra.TenantScope

open Branches Checked

/-! ## Filters -/

/-- An operator of a condition on `firmId`; the value `none` is `null`. A plain value is `$eq`, and
`test` stands for the other operators (`$gt`, `$regex`, …), by what they accept. -/
inductive Operator where
  | eq (value : Option String)
  | isIn (values : List (Option String))
  | ne (value : Option String)
  | nin (values : List (Option String))
  | isPresent (there : Bool)
  | test (accepts : String → Bool)
  | not (operators : List Operator)

/-- A query filter: at most one condition on `firmId`, conditions on other fields, and filters under
`$and`, `$or` and `$nor`. -/
inductive Filter (α : Type) where
  | mk (firmId : Option (List Operator)) (fields : List (α → Bool)) (and or nor : List (Filter α))

/-- A document with a `firmId`. -/
structure Document (α : Type) where
  firmId : String
  rest : α

variable {α : Type}

mutual

/-- The operator accepts the `firmId` of a document. -/
def Operator.accepts (firmId : String) : Operator → Bool
  | .eq value => value = some firmId
  | .isIn values => values.contains (some firmId)
  | .ne value => value ≠ some firmId
  | .nin values => !values.contains (some firmId)
  | .isPresent there => there
  | .test accepts => accepts firmId
  | .not operators => !allAccept firmId operators

def allAccept (firmId : String) : List Operator → Bool
  | [] => true
  | operator :: operators => operator.accepts firmId && allAccept firmId operators

end

mutual

/-- The documents that MongoDB finds. -/
def Filter.matches (doc : Document α) : Filter α → Bool
  | .mk firmId fields and or nor =>
    firmId.all (allAccept doc.firmId) && fields.all (fun accepts => accepts doc.rest) &&
      allMatch doc and && (or.isEmpty || anyMatches doc or) && !anyMatches doc nor

def allMatch (doc : Document α) : List (Filter α) → Bool
  | [] => true
  | filter :: filters => filter.matches doc && allMatch doc filters

def anyMatches (doc : Document α) : List (Filter α) → Bool
  | [] => false
  | filter :: filters => filter.matches doc || anyMatches doc filters

end

/-! ## The guard -/

mutual

/-- `hasFirmScope`. -/
def hasFirmScope : Filter α → Bool
  | .mk firmId _ and or nor =>
    firmId.isSome || someHasScope and || someHasScope or || someHasScope nor

/-- `filters.some(hasFirmScope)`. -/
def someHasScope : List (Filter α) → Bool
  | [] => false
  | filter :: filters => hasFirmScope filter || someHasScope filters

end

/-- `isSuperadminRole`. -/
def isSuperadminRole (role : String) : Bool :=
  (toLowerCase role).toList.filter (fun c => !(c = '_' || c = '-' || isWhitespace c)) =
    "superadmin".toList

/-- The options of a query that the guard reads. -/
structure Options where
  role : Option String
  tenantRole : Option String
  skipTenantGuard : Bool

/-- `options.role || options.tenantRole`. -/
def Options.actingRole (options : Options) : Option String := orElse options.role options.tenantRole

structure TenantScopeViolationError where
  message : String := "Tenant scope violation: firmId is required for this operation"
  statusCode : ℕ := 400
  deriving DecidableEq

/-- `guardQuery`. -/
def guardQuery (options : Options) (filter : Filter α) : Except TenantScopeViolationError Unit :=
  match options.actingRole with
  | none => .ok ()
  | some role =>
    throwIf (¬(options.skipTenantGuard = true ∨ isSuperadminRole role = true ∨
      hasFirmScope filter = true)) {}

/-! ## What is asked -/

mutual

/-- The firms that an operator names by equality. -/
def Operator.names : Operator → List String
  | .eq value => value.toList
  | .isIn values => values.filterMap id
  | .not operators => allNames operators
  | _ => []

def allNames : List Operator → List String
  | [] => []
  | operator :: operators => operator.names ++ allNames operators

end

mutual

/-- The conditions on `firmId` in a filter. -/
def Filter.firmConditions : Filter α → List (List Operator)
  | .mk firmId _ and or nor =>
    firmId.toList ++ allFirmConditions and ++ allFirmConditions or ++ allFirmConditions nor

def allFirmConditions : List (Filter α) → List (List Operator)
  | [] => []
  | filter :: filters => filter.firmConditions ++ allFirmConditions filters

end

/-- The firms that a filter names by equality. -/
def Filter.named (filter : Filter α) : List String := filter.firmConditions.flatMap allNames

/-- The documents that match belong to the firms that are named. -/
def Within (filter : Filter α) : Prop :=
  ∀ doc : Document α, filter.matches doc = true → doc.firmId ∈ filter.named

/-- The query is authenticated, and neither a superadmin's nor exempt. -/
def Checked (options : Options) : Prop :=
  ∃ role, options.actingRole = some role ∧ isSuperadminRole role = false ∧
    options.skipTenantGuard = false

/-- A filter that is accepted stays within the firms that it names, and a checked query that passes
the guard has such a filter. -/
structure ScopeSound (options : Options) (filter : Filter α) : Prop where
  accepted : hasFirmScope filter = true → Within filter
  passed : Checked options → guardQuery options filter = .ok () → Within filter

/-! ## Branches of a filter -/

/-- A condition on `firmId`, or on another field. -/
inductive Atom (α : Type) where
  | firmId (operators : List Operator)
  | field (accepts : α → Bool)

mutual

/-- A filter as a formula. -/
def Filter.formula : Filter α → Formula (Atom α)
  | .mk firmId fields and or nor =>
    .all (firmId.toList.map (fun operators => .atom (.firmId operators)) ++
      fields.map (fun accepts => .atom (.field accepts)) ++ formulas and ++
      (if or.isEmpty then [] else [.any (formulas or)]) ++ [.none (formulas nor)])

def formulas : List (Filter α) → List (Formula (Atom α))
  | [] => []
  | filter :: filters => filter.formula :: formulas filters

end

/-- The branches of a filter. -/
def Filter.branches (filter : Filter α) : List (Branch (Atom α)) :=
  Branches.branches true filter.formula

/-- The conditions of a branch on `firmId`. -/
def AllowsFirm (branch : Branch (Atom α)) (firmId : String) : Prop :=
  ∀ operators value, (Atom.firmId operators, value) ∈ branch → allAccept firmId operators = value

/-- The conditions of a branch on other fields. -/
def AllowsRest (branch : Branch (Atom α)) (rest : α) : Prop :=
  ∀ accepts value, (Atom.field accepts, value) ∈ branch → accepts rest = value

/-- On each branch that the other fields of a document can take, the conditions on `firmId` let
through only firms that are named. -/
def Confined (filter : Filter α) : Prop :=
  ∀ branch ∈ filter.branches, (∃ rest, AllowsRest branch rest) →
    ∀ firmId, AllowsFirm branch firmId → firmId ∈ filter.named

/-- The truth values of conditions at a document. -/
def Document.valuation (doc : Document α) : Atom α → Bool
  | .firmId operators => allAccept doc.firmId operators
  | .field accepts => accepts doc.rest

theorem agrees_iff {doc : Document α} {branch : Branch (Atom α)} :
    Agrees doc.valuation branch ↔ AllowsFirm branch doc.firmId ∧ AllowsRest branch doc.rest := by
  constructor
  · intro h
    exact ⟨fun operators value hmem => h (.firmId operators, value) hmem,
      fun accepts value hmem => h (.field accepts, value) hmem⟩
  · intro h literal hmem
    obtain ⟨atom, value⟩ := literal
    cases atom with
    | firmId operators => exact h.1 operators value hmem
    | field accepts => exact h.2 accepts value hmem

section meaning

variable (doc : Document α)

theorem allHold_append (fs gs : List (Formula (Atom α))) :
    allHold doc.valuation (fs ++ gs) = (allHold doc.valuation fs && allHold doc.valuation gs) := by
  induction fs with
  | nil => rfl
  | cons f fs ih => rw [List.cons_append, allHold, allHold, ih, Bool.and_assoc]

theorem allHold_fields (fields : List (α → Bool)) :
    allHold doc.valuation (fields.map fun accepts => .atom (.field accepts)) =
      fields.all fun accepts => accepts doc.rest := by
  induction fields with
  | nil => rfl
  | cons accepts fields ih =>
    rw [List.map_cons, allHold, ih, List.all_cons]
    rfl

mutual

/-- A filter means what its formula means. -/
theorem matches_eq_holds : ∀ filter : Filter α,
    filter.matches doc = holds doc.valuation filter.formula
  | .mk firmId fields and or nor => by
    have hfirm : allHold doc.valuation
        (firmId.toList.map fun operators => .atom (.firmId operators)) =
          firmId.all (allAccept doc.firmId) := by
      cases firmId with
      | none => rfl
      | some operators => exact Bool.and_true _
    have hor : allHold doc.valuation (if or.isEmpty then [] else [.any (formulas or)]) =
        (or.isEmpty || anyMatches doc or) := by
      cases or with
      | nil => rfl
      | cons filter filters =>
        rw [anyMatches_eq]
        exact Bool.and_true _
    have hnor : allHold doc.valuation [.none (formulas nor)] = !anyMatches doc nor := by
      rw [anyMatches_eq]
      exact Bool.and_true _
    rw [Filter.matches, Filter.formula, holds, allHold_append, allHold_append, allHold_append,
      allHold_append, hfirm, allHold_fields, hor, hnor, allMatch_eq]

theorem allMatch_eq : ∀ filters : List (Filter α),
    allMatch doc filters = allHold doc.valuation (formulas filters)
  | [] => rfl
  | filter :: filters => by
    rw [allMatch, formulas, allHold, matches_eq_holds, allMatch_eq]

theorem anyMatches_eq : ∀ filters : List (Filter α),
    anyMatches doc filters = anyHolds doc.valuation (formulas filters)
  | [] => rfl
  | filter :: filters => by
    rw [anyMatches, formulas, anyHolds, matches_eq_holds, anyMatches_eq]

end

end meaning

/-- A document matches when it allows a branch. -/
theorem matches_iff {doc : Document α} {filter : Filter α} :
    filter.matches doc = true ↔
      ∃ branch ∈ filter.branches, AllowsFirm branch doc.firmId ∧ AllowsRest branch doc.rest := by
  rw [matches_eq_holds, holds_eq_iff]
  unfold Filter.branches
  simp only [agrees_iff]

theorem within_iff_confined {filter : Filter α} : Within filter ↔ Confined filter := by
  unfold Within Confined
  constructor
  · rintro h branch hbranch ⟨rest, hrest⟩ firmId hfirm
    exact h ⟨firmId, rest⟩ (matches_iff.mpr ⟨branch, hbranch, hfirm, hrest⟩)
  · intro h doc hmatches
    obtain ⟨branch, hbranch, hfirm, hrest⟩ := matches_iff.mp hmatches
    exact h branch hbranch ⟨doc.rest, hrest⟩ doc.firmId hfirm

mutual

/-- A filter has scope when there is a condition on `firmId` anywhere in it. -/
theorem hasFirmScope_iff : ∀ filter : Filter α,
    hasFirmScope filter = true ↔ filter.firmConditions ≠ []
  | .mk firmId fields and or nor => by
    have hfirm : firmId.isSome = true ↔ firmId.toList ≠ [] := by cases firmId <;> simp
    rw [hasFirmScope, Filter.firmConditions]
    simp only [Bool.or_eq_true, hfirm, someHasScope_iff, List.append_eq_nil_iff, ne_eq, not_and_or]

theorem someHasScope_iff : ∀ filters : List (Filter α),
    someHasScope filters = true ↔ allFirmConditions filters ≠ []
  | [] => by simp [someHasScope, allFirmConditions]
  | filter :: filters => by
    rw [someHasScope, allFirmConditions, Bool.or_eq_true, hasFirmScope_iff, someHasScope_iff]
    simp only [ne_eq, List.append_eq_nil_iff, not_and_or]

end

/-- A checked query passes the guard when its filter has scope. -/
theorem guardQuery_eq_ok {options : Options} {filter : Filter α} (h : Checked options) :
    guardQuery options filter = .ok () ↔ hasFirmScope filter = true := by
  obtain ⟨role, hrole, hsuperadmin, hskip⟩ := h
  unfold guardQuery
  rw [hrole]
  dsimp only
  rw [throwIf_eq_ok, not_not, hsuperadmin, hskip]
  simp

/-- The guard is sound for a filter exactly when it has no condition on `firmId`, or each branch of
it lets through only firms that are named. -/
theorem scope_sound_iff (options : Options) (filter : Filter α) :
    ScopeSound options filter ↔ filter.firmConditions = [] ∨ Confined filter := by
  have haccepted : (hasFirmScope filter = true → Within filter) ↔
      filter.firmConditions = [] ∨ Confined filter := by
    rw [hasFirmScope_iff, within_iff_confined, ← or_iff_not_imp_left]
  rw [← haccepted]
  constructor
  · exact fun h => h.accepted
  · exact fun h => ⟨h, fun hchecked hpassed => h ((guardQuery_eq_ok hchecked).mp hpassed)⟩

/-! ## Filters that name a firm and find others -/

/-- A filter with one condition on `firmId`. -/
def ofFirm (operators : List Operator) : Filter String := .mk (some operators) [] [] [] []

/-- The open documents, and those of a firm. -/
def openOrOfFirm : Filter String :=
  .mk none [] []
    [ofFirm [.eq (some "FIRM001")], .mk none [fun status => status = "OPEN"] [] [] []] []

/-- The documents that are not of a firm. -/
def notOfFirm : Filter String := .mk none [] [] [] [ofFirm [.eq (some "FIRM001")]]

def asUser : Options := ⟨some "USER", none, false⟩

/-- Both are accepted, and find the documents of another firm. -/
theorem scope_sound_fails :
    guardQuery asUser openOrOfFirm = .ok () ∧ openOrOfFirm.matches ⟨"FIRM002", "OPEN"⟩ = true ∧
      ¬ScopeSound asUser openOrOfFirm ∧ ¬ScopeSound asUser notOfFirm := by
  refine ⟨by decide, by decide, fun h => ?_, fun h => ?_⟩
  · have hnamed := h.accepted (by decide) ⟨"FIRM002", "OPEN"⟩ (by decide)
    revert hnamed
    decide
  · have hnamed := h.accepted (by decide) ⟨"FIRM002", "OPEN"⟩ (by decide)
    revert hnamed
    decide

end Docketra.TenantScope
