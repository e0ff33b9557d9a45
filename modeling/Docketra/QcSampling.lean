import Mathlib.Algebra.Order.Monoid.WithTop
import Docketra.Workflow

/-!
# Sampling for quality check

`resolveQcRoutingDecision` on whatever the documents hold. A rate may be absent, or no number, or a
fraction, or infinite, and is rounded and clamped before it is used. The bucket of a docket is fixed,
so a docket that is sampled at a rate is sampled at every higher one (`sampling_law`). A rate of zero
is no override of a subcategory: it leaves the category's, as the absence of a rate does.

On the rates that the schemas admit, the decision is that of the workflow service
(`resolveQcRoutingDecision_ofDocuments`).
-/

namespace Docketra.QcSampling

open Workflow

/-! ## Rates -/

/-- A number other than `NaN`. -/
abbrev Extended := WithBot (WithTop ℚ)

/-- A rate of a document. -/
inductive Rate where
  | undefined
  | null
  /-- Any other value, by what `Number` reads of it. It reads `NaN` of what is no number. -/
  | value (number : Option Extended)

namespace Rate

/-- `Number(value)`. -/
def number : Rate → Option Extended
  | undefined => none
  | null => some 0
  | value n => n

/-- `Number(value) || 0`. -/
def percent (rate : Rate) : Extended := rate.number.getD 0

/-- `value !== undefined && value !== null`. -/
def isSet : Rate → Bool
  | value _ => true
  | _ => false

/-- A rate as the schemas admit it. -/
def ofOption : Option ℚ → Rate
  | none => undefined
  | some q => value (some (q : WithTop ℚ))

end Rate

/-- `Math.min(100, Math.max(0, Math.round(percent)))`. -/
def clampPercent : Extended → ℕ
  | none => 0
  | some none => 100
  | some (some q) => (min 100 (max 0 ⌊q + 1 / 2⌋)).toNat

/-- `normalizeQcPercent`. -/
def normalizeQcPercent (value : Rate) : ℕ := clampPercent value.percent

/-! ## The decision -/

/-- What the decision reads of a docket. -/
structure SampledDocket where
  caseId : String := ""
  _id : String := ""
  forceQc : Bool := false

/-- What it reads of a category, or of a subcategory. -/
structure RateEntry where
  qcPercent : Rate := .undefined
  forceQC : Bool := false

/-- What the rate depends on, each of which may be missing. -/
structure RateConfiguration where
  category : Option RateEntry := none
  subcategory : Option RateEntry := none
  /-- The `qcSamplingRate` of the resolver. -/
  resolverUser : Option Rate := none

namespace RateConfiguration

/-- `entry?.qcPercent`. -/
def rateOf (entry : Option RateEntry) : Rate := (entry.map (·.qcPercent)).getD .undefined

/-- `entry?.forceQC`. -/
def forcedBy (entry : Option RateEntry) : Bool := (entry.map (·.forceQC)).getD false

/-- The rate of the resolver, when it is set. -/
def userRate (config : RateConfiguration) : Option Rate := config.resolverUser.filter (·.isSet)

end RateConfiguration

open RateConfiguration

/-- `forcedByConfiguration`. -/
def forced (docket : SampledDocket) (config : RateConfiguration) : Bool :=
  docket.forceQc || forcedBy config.subcategory || forcedBy config.category

/-- `docket?.caseId || docket?._id`. -/
def SampledDocket.docketId (docket : SampledDocket) : String :=
  if docket.caseId ≠ "" then docket.caseId else docket._id

/-- `resolveQcRoutingDecision`. -/
def resolveQcRoutingDecision (env : Lookups) (docket : SampledDocket) (config : RateConfiguration)
    (sendToQC : Bool) : QcRouting :=
  if sendToQC then ⟨true, .manual, 100⟩
  else if forced docket config then ⟨true, .configured, 100⟩
  else
    let (effectivePercent, source) :=
      match config.userRate with
      | some rate => (normalizeQcPercent rate, QcSource.user_sampled)
      | none =>
        let subcategoryPercent := normalizeQcPercent (rateOf config.subcategory)
        let categoryPercent := normalizeQcPercent (rateOf config.category)
        (if subcategoryPercent > 0 then subcategoryPercent else categoryPercent, QcSource.sampled)
    let sampled := shouldRouteToQcByPercent env docket.docketId effectivePercent
    ⟨sampled, if sampled then source else .none, effectivePercent⟩

/-! ## Rounding and clamping -/

theorem clampPercent_le (p : Extended) : clampPercent p ≤ 100 := by
  match p with
  | none => exact Nat.zero_le 100
  | some none => exact le_refl 100
  | some (some q) =>
    change (min 100 (max 0 ⌊q + 1 / 2⌋)).toNat ≤ 100
    omega

/-- Of two percentages, the greater is rounded to no less. -/
theorem clampPercent_mono {p q : Extended} (h : p ≤ q) : clampPercent p ≤ clampPercent q := by
  match p, q with
  | none, _ => exact Nat.zero_le _
  | some p, none => exact absurd h (WithBot.not_coe_le_bot p)
  | some p, some none => exact clampPercent_le (some p)
  | some none, some (some q) =>
    have htop : (⊤ : WithTop ℚ) ≤ (q : WithTop ℚ) := WithBot.coe_le_coe.mp h
    exact absurd htop (WithTop.not_top_le_coe q)
  | some (some p), some (some q) =>
    have hle : p ≤ q := WithTop.coe_le_coe.mp (WithBot.coe_le_coe.mp h)
    have hfloor : ⌊p + 1 / 2⌋ ≤ ⌊q + 1 / 2⌋ := Int.floor_le_floor (by linarith)
    change (min 100 (max 0 ⌊p + 1 / 2⌋)).toNat ≤ (min 100 (max 0 ⌊q + 1 / 2⌋)).toNat
    omega

theorem clampPercent_zero : clampPercent 0 = 0 := by
  change (min 100 (max 0 ⌊(0 : ℚ) + 1 / 2⌋)).toNat = 0
  norm_num

theorem clampPercent_hundred : clampPercent 100 = 100 := by
  change (min 100 (max 0 ⌊(100 : ℚ) + 1 / 2⌋)).toNat = 100
  norm_num
  rfl

/-- A percentage up to zero is rounded to zero, and one from a hundred on to a hundred. -/
theorem clampPercent_of_le_zero {p : Extended} (h : p ≤ 0) : clampPercent p = 0 :=
  Nat.le_zero.mp (clampPercent_zero ▸ clampPercent_mono h)

theorem clampPercent_of_hundred_le {p : Extended} (h : 100 ≤ p) : clampPercent p = 100 :=
  le_antisymm (clampPercent_le p) (clampPercent_hundred ▸ clampPercent_mono h)

/-- The percentage of a routing decision is rounded once more, to itself. -/
theorem normalizeQcPercent_natCast {p : ℕ} (h : p ≤ 100) :
    Workflow.normalizeQcPercent (some p) = p := by
  have hfloor : ⌊(p : ℚ) + 1 / 2⌋ = p := by
    rw [Int.floor_eq_iff]
    push_cast
    constructor <;> linarith
  change (min 100 (max 0 ⌊(p : ℚ) + 1 / 2⌋)).toNat = p
  omega

/-- A docket is sampled when its bucket is below the percentage. -/
theorem shouldRouteToQcByPercent_iff {env : Lookups} {docketId : String} {p : ℕ} (h : p ≤ 100) :
    shouldRouteToQcByPercent env docketId p = true ↔ env.sha256UInt32BE docketId % 100 < p := by
  have hbucket : env.sha256UInt32BE docketId % 100 < 100 := Nat.mod_lt _ (by decide)
  unfold shouldRouteToQcByPercent
  rw [normalizeQcPercent_natCast h]
  dsimp only
  split_ifs with hzero hfull
  · exact iff_of_false not_false (by omega)
  · exact iff_of_true rfl (by omega)
  · exact decide_eq_true_iff

/-! ## The law of the overrides -/

/-- The rate that applies: that of the resolver, else that of the subcategory when it is rounded to
more than zero, else that of the category. -/
def RateConfiguration.effectiveRate (config : RateConfiguration) : Rate :=
  config.userRate.getD
    (if 0 < normalizeQcPercent (rateOf config.subcategory) then rateOf config.subcategory
      else rateOf config.category)

/-- A decision that is not forced is made at the rate that applies. -/
theorem percent_eq {env : Lookups} {docket : SampledDocket} {config : RateConfiguration}
    (h : forced docket config = false) :
    (resolveQcRoutingDecision env docket config false).percent =
      normalizeQcPercent config.effectiveRate := by
  unfold resolveQcRoutingDecision effectiveRate
  rw [if_neg Bool.false_ne_true, h, if_neg Bool.false_ne_true]
  cases config.userRate with
  | some rate => rfl
  | none =>
    dsimp only [Option.getD_none]
    split_ifs <;> rfl

/-- A docket is routed when that is asked or forced, or when its bucket is below the percentage. -/
theorem routeToQc_iff {env : Lookups} {docket : SampledDocket} {config : RateConfiguration}
    {sendToQC : Bool} :
    (resolveQcRoutingDecision env docket config sendToQC).routeToQc = true ↔
      sendToQC = true ∨ forced docket config = true ∨
        env.sha256UInt32BE docket.docketId % 100 < normalizeQcPercent config.effectiveRate := by
  cases sendToQC with
  | true => exact iff_of_true rfl (Or.inl rfl)
  | false =>
    cases hforced : forced docket config with
    | true =>
      refine iff_of_true ?_ (Or.inr (Or.inl rfl))
      rw [resolveQcRoutingDecision, if_neg Bool.false_ne_true, hforced, if_pos rfl]
    | false =>
      have hroute : (resolveQcRoutingDecision env docket config false).routeToQc =
          shouldRouteToQcByPercent env docket.docketId
            (resolveQcRoutingDecision env docket config false).percent := by
        rw [resolveQcRoutingDecision, if_neg Bool.false_ne_true, hforced, if_neg Bool.false_ne_true]
      have hle : normalizeQcPercent config.effectiveRate ≤ 100 := clampPercent_le _
      rw [hroute, percent_eq hforced, shouldRouteToQcByPercent_iff hle]
      simp only [Bool.false_eq_true, false_or]

/-- What the rates of a docket decide. -/
structure SamplingLaw (env : Lookups) (docket : SampledDocket) : Prop where
  /-- The rate that applies is the one that the decision reports. -/
  effective : ∀ config, forced docket config = false →
    (resolveQcRoutingDecision env docket config false).percent =
      normalizeQcPercent config.effectiveRate
  /-- What is routed at a rate is routed at every higher one. -/
  nested : ∀ sendToQC config config', forced docket config = forced docket config' →
    config.effectiveRate.percent ≤ config'.effectiveRate.percent →
      (resolveQcRoutingDecision env docket config sendToQC).routeToQc = true →
        (resolveQcRoutingDecision env docket config' sendToQC).routeToQc = true
  never : ∀ config, forced docket config = false → config.effectiveRate.percent ≤ 0 →
    (resolveQcRoutingDecision env docket config false).routeToQc = false
  always : ∀ sendToQC config, 100 ≤ config.effectiveRate.percent →
    (resolveQcRoutingDecision env docket config sendToQC).routeToQc = true
  asked : ∀ sendToQC config, sendToQC = true ∨ forced docket config = true →
    (resolveQcRoutingDecision env docket config sendToQC).routeToQc = true
  /-- A rate of the resolver applies whenever it is set. -/
  user : ∀ (config : RateConfiguration) (rate : Rate), forced docket config = false →
    config.resolverUser = some rate → rate.isSet = true →
      (resolveQcRoutingDecision env docket config false).percent = normalizeQcPercent rate
  /-- Without one, a rate of the subcategory that is rounded to more than zero applies. -/
  subcategory : ∀ config : RateConfiguration, forced docket config = false → config.userRate = none →
    0 < normalizeQcPercent (rateOf config.subcategory) →
      (resolveQcRoutingDecision env docket config false).percent =
        normalizeQcPercent (rateOf config.subcategory)
  /-- Any other rate of the subcategory leaves the category's. -/
  inherited : ∀ config : RateConfiguration, forced docket config = false → config.userRate = none →
    normalizeQcPercent (rateOf config.subcategory) = 0 →
      (resolveQcRoutingDecision env docket config false).percent =
        normalizeQcPercent (rateOf config.category)

theorem sampling_law (env : Lookups) (docket : SampledDocket) : SamplingLaw env docket where
  effective := fun _ => percent_eq
  nested := by
    intro sendToQC config config' hforced hle hroute
    rw [routeToQc_iff] at hroute ⊢
    have hmono : normalizeQcPercent config.effectiveRate ≤
        normalizeQcPercent config'.effectiveRate := clampPercent_mono hle
    rw [← hforced]
    exact hroute.imp_right fun h => h.imp_right fun h => h.trans_le hmono
  never := by
    intro config hforced hle
    have hzero : normalizeQcPercent config.effectiveRate = 0 := clampPercent_of_le_zero hle
    rw [← Bool.not_eq_true, routeToQc_iff, hzero, hforced]
    simp only [Bool.false_eq_true, Nat.not_lt_zero, or_self, not_false_eq_true]
  always := by
    intro sendToQC config hle
    have hfull : normalizeQcPercent config.effectiveRate = 100 := clampPercent_of_hundred_le hle
    rw [routeToQc_iff, hfull]
    exact Or.inr (Or.inr (Nat.mod_lt _ (by decide)))
  asked := by
    intro sendToQC config h
    rw [routeToQc_iff, ← or_assoc]
    exact Or.inl h
  user := by
    intro config rate hforced huser hset
    have hrate : config.userRate = some rate := by
      rw [userRate, huser, Option.filter_some, if_pos hset]
    rw [percent_eq hforced, effectiveRate, hrate, Option.getD_some]
  subcategory := by
    intro config hforced huser hpos
    rw [percent_eq hforced, effectiveRate, huser, Option.getD_none, if_pos hpos]
  inherited := by
    intro config hforced huser hzero
    rw [percent_eq hforced, effectiveRate, huser, Option.getD_none, if_neg (by omega)]

/-- Every rate of a subcategory that is set applies, unless the resolver has one. -/
def SubcategoryOverrides (env : Lookups) (docket : SampledDocket) : Prop :=
  ∀ config entry, forced docket config = false → config.userRate = none →
    config.subcategory = some entry → entry.qcPercent.isSet = true →
      (resolveQcRoutingDecision env docket config false).percent =
        normalizeQcPercent entry.qcPercent

/-- A subcategory that is not to be sampled, of a category that is always sampled, is always
sampled. -/
theorem subcategoryOverrides_fails : ¬SubcategoryOverrides {} { caseId := "DCK-1" } := by
  intro h
  let entry : RateEntry := { qcPercent := .value (some 0) }
  let config : RateConfiguration :=
    { category := some { qcPercent := .value (some 100) }, subcategory := some entry }
  have hpercent := h config entry rfl rfl rfl rfl
  have hzero : normalizeQcPercent entry.qcPercent = 0 := clampPercent_zero
  have hfull : normalizeQcPercent config.effectiveRate = 100 := by
    rw [effectiveRate, if_neg (by change ¬0 < normalizeQcPercent entry.qcPercent; omega)]
    exact clampPercent_hundred
  rw [percent_eq rfl, hfull, hzero] at hpercent
  exact absurd hpercent (by decide)

/-! ## The rates of the schemas -/

/-- The documents that the workflow service reads, as a configuration. -/
def ofDocuments (category : Option Category) (subcategory : Option Subcategory)
    (resolverUser : Option ResolverUser) : RateConfiguration where
  category := category.map fun category => ⟨.ofOption category.qcPercent, category.forceQC⟩
  subcategory := subcategory.map fun subcategory =>
    ⟨.ofOption subcategory.qcPercent, subcategory.forceQC⟩
  resolverUser := resolverUser.map fun user => .ofOption user.qcSamplingRate

theorem normalizeQcPercent_ofOption (rate : Option ℚ) :
    normalizeQcPercent (.ofOption rate) = Workflow.normalizeQcPercent rate := by
  cases rate with
  | some q => rfl
  | none => exact clampPercent_zero.trans (normalizeQcPercent_natCast (Nat.zero_le 100)).symm

theorem userRate_ofDocuments (category : Option Category) (subcategory : Option Subcategory)
    (resolverUser : Option ResolverUser) :
    (ofDocuments category subcategory resolverUser).userRate =
      (resolverUser.bind (·.qcSamplingRate)).map fun rate => .ofOption (some rate) := by
  cases resolverUser with
  | none => rfl
  | some user =>
    obtain ⟨rate⟩ := user
    cases rate with
    | none => rfl
    | some q => rfl

/-- On rates that the schemas admit, the decision is that of the workflow service. -/
theorem resolveQcRoutingDecision_ofDocuments (env : Lookups) (docket : Docket)
    (category : Option Category) (subcategory : Option Subcategory) (sendToQC : Bool)
    (resolverUser : Option ResolverUser) (h : docket.caseId ≠ "") :
    resolveQcRoutingDecision env { caseId := docket.caseId, forceQc := docket.forceQc }
        (ofDocuments category subcategory resolverUser) sendToQC =
      Workflow.resolveQcRoutingDecision env docket category subcategory sendToQC resolverUser := by
  have hid : SampledDocket.docketId { caseId := docket.caseId, forceQc := docket.forceQc } =
      docket.caseId := if_pos h
  have hsubcategory : normalizeQcPercent
      (rateOf (ofDocuments category subcategory resolverUser).subcategory) =
        Workflow.normalizeQcPercent (subcategory.bind (·.qcPercent)) := by
    cases subcategory with
    | none => exact normalizeQcPercent_ofOption none
    | some entry => exact normalizeQcPercent_ofOption entry.qcPercent
  have hcategory : normalizeQcPercent
      (rateOf (ofDocuments category subcategory resolverUser).category) =
        Workflow.normalizeQcPercent (category.bind (·.qcPercent)) := by
    cases category with
    | none => exact normalizeQcPercent_ofOption none
    | some entry => exact normalizeQcPercent_ofOption entry.qcPercent
  have hforced : forced { caseId := docket.caseId, forceQc := docket.forceQc }
      (ofDocuments category subcategory resolverUser) =
        (docket.forceQc || (subcategory.map (·.forceQC)).getD false ||
          (category.map (·.forceQC)).getD false) := by
    cases subcategory <;> cases category <;> rfl
  unfold resolveQcRoutingDecision Workflow.resolveQcRoutingDecision
  rw [hforced, hid, hsubcategory, hcategory, userRate_ofDocuments]
  cases resolverUser.bind (·.qcSamplingRate) with
  | none => rfl
  | some rate => rfl

end Docketra.QcSampling
