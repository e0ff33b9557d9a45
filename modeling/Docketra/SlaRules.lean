import Docketra.Lib.Comparators
import Docketra.Docket

/-!
# The SLA rule of a docket

`resolveSlaRule` in `services/sla.service.js` picks, of the rules that a docket meets, the head of a
sort by `compareRules`: first the rule with the more specific selector, then the one with more
selectors, then the one updated last, and then the one created last. These are four keys, so that the
sort is by a consistent comparator (`compareRules_eq`), and the choice does not depend on the order
of the rules.

A docket of no firm has no rule. With a firm the selection is canonical (`canonical_iff`).

The dates are milliseconds. Only the sign of a difference of two dates is read, and the sign of a
difference of doubles is exact. Lower-casing is a parameter: no more is asked of it than that it is a
function.
-/

namespace Docketra.SlaRules

open Comparators

/-! ## Rules and dockets -/

/-- What the selection reads of a SlaRule document. -/
structure SlaRule where
  firmId : String
  category : Option String := none
  subcategory : Option String := none
  workbasketId : Option String := none
  isActive : Bool := true
  updatedAt : Option Date := none
  createdAt : Option Date := none
  deriving DecidableEq, Repr

/-- What the selection reads of a docket; an id is its text. -/
structure Docket where
  firmId : Option String := none
  category : Option String := none
  subcategory : Option String := none
  workbasketId : Option String := none
  ownerTeamId : Option String := none
  routedToTeamId : Option String := none
  deriving DecidableEq, Repr

/-- The options of `resolveSlaRule`. -/
structure Options where
  firmId : Option String := none
  rules : Option (List SlaRule) := none
  deriving DecidableEq, Repr

variable (lowerCase : String → String)

/-- `normalizeString`. -/
def normalizeString (value : Option String) : Option String :=
  let normalized := trim (value.getD "")
  if normalized ≠ "" then some (lowerCase normalized) else none

/-- `normalizeIdentifier`. -/
def normalizeIdentifier (value : Option String) : Option String :=
  let normalized := trim (value.getD "")
  if normalized ≠ "" then some normalized else none

/-- `getWorkbasketId`. -/
def getWorkbasketId (docket : Docket) : Option String :=
  orElse (orElse (normalizeIdentifier docket.workbasketId) (normalizeIdentifier docket.ownerTeamId))
    (normalizeIdentifier docket.routedToTeamId)

/-- `getRuleSelectorCount`. -/
def getRuleSelectorCount (rule : SlaRule) : ℕ :=
  ([normalizeString lowerCase rule.subcategory, normalizeString lowerCase rule.category,
    normalizeIdentifier rule.workbasketId].filter truthy).length

/-- `getRulePriority`. -/
def getRulePriority (rule : SlaRule) : ℕ :=
  if truthy (normalizeString lowerCase rule.subcategory) then 4
  else if truthy (normalizeString lowerCase rule.category) then 3
  else if truthy (normalizeIdentifier rule.workbasketId) then 2
  else 1

/-- `isRuleEligible`. -/
def isRuleEligible (rule : SlaRule) (docket : Docket) : Bool :=
  let docketCategory := normalizeString lowerCase docket.category
  let docketSubcategory := normalizeString lowerCase docket.subcategory
  let docketWorkbasketId := getWorkbasketId docket
  if truthy (normalizeString lowerCase rule.category) &&
      normalizeString lowerCase rule.category ≠ docketCategory then false
  else if truthy (normalizeString lowerCase rule.subcategory) &&
      normalizeString lowerCase rule.subcategory ≠ docketSubcategory then false
  else if truthy (normalizeIdentifier rule.workbasketId) &&
      normalizeIdentifier rule.workbasketId ≠ docketWorkbasketId then false
  else true

/-- `new Date(value || 0).getTime()`. -/
def time (value : Option Date) : ℤ := value.getD 0

/-- `compareRules`. -/
def compareRules (left right : SlaRule) : ℤ :=
  let priorityDiff : ℤ := getRulePriority lowerCase right - getRulePriority lowerCase left
  if priorityDiff ≠ 0 then priorityDiff else
  -- ties go to the rule that scopes more selectors
  let selectorDiff : ℤ := getRuleSelectorCount lowerCase right - getRuleSelectorCount lowerCase left
  if selectorDiff ≠ 0 then selectorDiff else
  let updatedAtDiff := time right.updatedAt - time left.updatedAt
  if updatedAtDiff ≠ 0 then updatedAtDiff else
  time right.createdAt - time left.createdAt

/-! ## `resolveSlaRule` -/

/-- `SlaRule.find({ firmId, isActive: true })`, of the stored rules. -/
def find (store : List SlaRule) (firmId : String) : List SlaRule :=
  store.filter fun rule => rule.firmId = firmId && rule.isActive

/-- The firm whose rules are read: the docket's, or else the options'. -/
def firmIdOf (docket : Docket) (options : Options) : Option String :=
  normalizeIdentifier (orElse docket.firmId options.firmId)

/-- `resolveSlaRule`, over the stored rules. -/
def resolveSlaRule (store : List SlaRule) (docket : Docket) (options : Options) : Option SlaRule :=
  match firmIdOf docket options with
  | none => none
  | some firmId =>
    let rules := options.rules.getD (find store firmId)
    let eligibleRules := rules.filter fun rule => isRuleEligible lowerCase rule docket
    if eligibleRules = [] then none else (sort (compareRules lowerCase) eligibleRules).head?

/-! ## The comparator -/

/-- The four keys of a rule, the first one first. -/
def ruleKeys : List (SlaRule → ℤ) :=
  [fun rule => getRulePriority lowerCase rule, fun rule => getRuleSelectorCount lowerCase rule,
    fun rule => time rule.updatedAt, fun rule => time rule.createdAt]

/-- The rules are compared by their keys. -/
theorem compareRules_eq : compareRules lowerCase = byKeys (ruleKeys lowerCase) := by
  funext left right
  simp only [compareRules, byKeys, ruleKeys, thenBy, descending]
  split_ifs <;> omega

theorem consistent_compareRules : Consistent (compareRules lowerCase) :=
  compareRules_eq lowerCase ▸ consistent_byKeys _

/-! ## The selection -/

/-- What is asked of a selection of one of a docket's rules, from any list. -/
structure Canonical (docket : Docket) (select : List SlaRule → Option SlaRule) : Prop where
  none_iff : ∀ rules, select rules = none ↔
    ∀ rule ∈ rules, isRuleEligible lowerCase rule docket = false
  maximal : ∀ rules rule, select rules = some rule →
    rule ∈ rules ∧ isRuleEligible lowerCase rule docket = true ∧
      ∀ other ∈ rules, isRuleEligible lowerCase other docket = true →
        LexLe (ruleKeys lowerCase) other rule
  perm : ∀ rules rules', rules.Perm rules' →
    Option.Rel (SameKeys (ruleKeys lowerCase)) (select rules) (select rules')
  ineligible : ∀ before rule after, isRuleEligible lowerCase rule docket = false →
    select (before ++ rule :: after) = select (before ++ after)

/-- The choice from a list of rules: the head of the docket's rules, sorted. -/
def choose (docket : Docket) (rules : List SlaRule) : Option SlaRule :=
  (sort (compareRules lowerCase)
    (rules.filter fun rule => isRuleEligible lowerCase rule docket)).head?

variable {lowerCase}

theorem resolveSlaRule_of_firm {docket : Docket} {options : Options} {firmId : String}
    (hfirm : firmIdOf docket options = some firmId) (store : List SlaRule) :
    resolveSlaRule lowerCase store docket options =
      choose lowerCase docket (options.rules.getD (find store firmId)) := by
  unfold resolveSlaRule
  rw [hfirm]
  simp only [choose]
  split_ifs with hnil
  · rw [hnil, head?_sort_eq_none_iff.mpr rfl]
  · rfl

theorem resolveSlaRule_of_no_firm {docket : Docket} {options : Options}
    (hfirm : firmIdOf docket options = none) (store : List SlaRule) :
    resolveSlaRule lowerCase store docket options = none := by
  unfold resolveSlaRule
  rw [hfirm]

/-- The list of rules has no part in which firm it is. -/
theorem firmIdOf_rules (docket : Docket) (options : Options) (rules : Option (List SlaRule)) :
    firmIdOf docket { options with rules := rules } = firmIdOf docket options := rfl

theorem choose_eq_none_iff (docket : Docket) (rules : List SlaRule) :
    choose lowerCase docket rules = none ↔
      ∀ rule ∈ rules, isRuleEligible lowerCase rule docket = false := by
  rw [choose, head?_sort_eq_none_iff, List.filter_eq_nil_iff]
  simp only [Bool.not_eq_true]

theorem choose_eq_none_of_perm {docket : Docket} {rules rules' : List SlaRule}
    (hperm : rules.Perm rules') (h : choose lowerCase docket rules = none) :
    choose lowerCase docket rules' = none := by
  rw [choose_eq_none_iff] at h ⊢
  exact fun rule hrule => h rule (hperm.mem_iff.mpr hrule)

/-- In any order of the rules, there is a choice or there is none, and its keys are the same. -/
theorem rel_choose_of_perm {docket : Docket} {rules rules' : List SlaRule}
    (hperm : rules.Perm rules') :
    Option.Rel (SameKeys (ruleKeys lowerCase)) (choose lowerCase docket rules)
      (choose lowerCase docket rules') := by
  cases h : choose lowerCase docket rules with
  | none =>
    rw [choose_eq_none_of_perm hperm h]
    exact .none
  | some rule =>
    cases h' : choose lowerCase docket rules' with
    | none =>
      -- A rule that is there in one order is there in the other.
      rw [choose_eq_none_of_perm hperm.symm h'] at h
      cases h
    | some rule' =>
      have heq := compare_eq_zero_of_perm (consistent_compareRules lowerCase)
        (hperm.filter _) h h'
      rw [compareRules_eq] at heq
      exact .some ((byKeys_eq_zero_iff _ _ _).mp heq)

theorem canonical_choose (docket : Docket) :
    Canonical lowerCase docket (choose lowerCase docket) where
  none_iff := choose_eq_none_iff docket
  maximal := by
    intro rules rule h
    obtain ⟨hmem, heligible⟩ := List.mem_filter.mp (mem_of_head h)
    refine ⟨hmem, heligible, ?_⟩
    intro other hother hothers
    have hle := le_of_head (consistent_compareRules lowerCase) h
      (List.mem_filter.mpr ⟨hother, hothers⟩)
    rw [compareRules_eq] at hle
    exact (byKeys_le_zero_iff _ _ _).mp hle
  perm := fun rules rules' => rel_choose_of_perm
  ineligible := by
    intro before rule after h
    have hfilter :
        (before ++ rule :: after).filter (fun rule => isRuleEligible lowerCase rule docket) =
          (before ++ after).filter fun rule => isRuleEligible lowerCase rule docket := by
      rw [List.filter_append, List.filter_append, List.filter_cons_of_neg]
      rw [h]
      exact Bool.false_ne_true
    rw [choose, choose, hfilter]

/-- A rule with no selector, which every docket meets. -/
def unrestricted : SlaRule := { firmId := "FIRM-1" }

theorem isRuleEligible_unrestricted (docket : Docket) :
    isRuleEligible lowerCase unrestricted docket = true := by
  have hblank : trim "" = "" := rfl
  simp [isRuleEligible, unrestricted, normalizeString, normalizeIdentifier, hblank]

/-- The selection from a given list of rules is canonical exactly where a firm is known: without one
there is no rule. Where no list is given, the active rules of the firm are the list. -/
theorem canonical_iff (lowerCase : String → String) (store : List SlaRule) (docket : Docket)
    (options : Options) :
    (Canonical lowerCase docket (fun rules =>
        resolveSlaRule lowerCase store docket { options with rules := some rules }) ↔
      firmIdOf docket options ≠ none) ∧
    (firmIdOf docket options = none → resolveSlaRule lowerCase store docket options = none) ∧
    ∀ firmId, firmIdOf docket options = some firmId →
      resolveSlaRule lowerCase store docket { options with rules := none } =
        resolveSlaRule lowerCase store docket
          { options with rules := some (find store firmId) } := by
  refine ⟨⟨?_, ?_⟩, fun hfirm => resolveSlaRule_of_no_firm hfirm store, ?_⟩
  · intro hcanonical hfirm
    have hnone : resolveSlaRule lowerCase store docket
        { options with rules := some [unrestricted] } = none :=
      resolveSlaRule_of_no_firm ((firmIdOf_rules docket options _).trans hfirm) store
    have hineligible := (hcanonical.none_iff [unrestricted]).mp hnone unrestricted
      List.mem_cons_self
    rw [isRuleEligible_unrestricted docket] at hineligible
    cases hineligible
  · intro hfirm
    obtain ⟨firmId, hfirm⟩ := Option.ne_none_iff_exists'.mp hfirm
    have hchoose : (fun rules =>
        resolveSlaRule lowerCase store docket { options with rules := some rules }) =
          choose lowerCase docket := by
      funext rules
      exact resolveSlaRule_of_firm ((firmIdOf_rules docket options _).trans hfirm) store
    rw [hchoose]
    exact canonical_choose docket
  · intro firmId hfirm
    rw [resolveSlaRule_of_firm ((firmIdOf_rules docket options _).trans hfirm),
      resolveSlaRule_of_firm ((firmIdOf_rules docket options _).trans hfirm), Option.getD_none,
      Option.getD_some]

/-- Without a firm a rule that the docket meets is not returned. -/
theorem canonical_fails_without_firm :
    ¬ ∀ (store : List SlaRule) (docket : Docket) (options : Options),
      Canonical toLowerCase docket (fun rules =>
        resolveSlaRule toLowerCase store docket { options with rules := some rules }) := by
  intro h
  have hnone := ((h [] {} {}).none_iff [unrestricted]).mp rfl unrestricted List.mem_cons_self
  rw [isRuleEligible_unrestricted] at hnone
  cases hnone

end Docketra.SlaRules
