import Docketra.Lib.Checked
import Docketra.Lib.Doubles
import Docketra.Slugs

/-!
# Identifiers of new firms

`generateUniqueSlug` and `generateFirmId` of `services/signup.service.js` make the slug and the id of
a firm that signs up, and `createFirmAndAdmin` inserts it. A slug gets the suffix after the largest
one of the firms with the same slug, as numbers of the language, and the id is the one after that of
the newest firm. So they are new exactly when the name has a character for a slug, no suffix is lost
in a number that is too large, and no firm has the number after that of the newest firm
(`identifiers_fresh_iff`).
-/

namespace Docketra.FirmIdentifiers

open Checked Doubles Numerals Slugs

/-! ## Firms -/

/-- `RESERVED_FIRM_SLUGS` of `middleware/firmSlugGuard.middleware.js`. -/
def RESERVED_FIRM_SLUGS : List String :=
  ["auth", "api", "public", "superadmin", "sa", "users", "admin", "dashboard", "dockets", "clients",
    "settings", "reports", "security", "tenant", "files", "storage", "ai", "notifications", "teams",
    "bulk-upload", "product-updates", "cases", "tasks", "search", "worklists", "attachments", "firm",
    "compliance-control", "compliance-calendar", "client-approval", "crm", "landing-pages", "deals",
    "invoices", "insights", "knowledge-items", "docket-storage", "forms", "leads", "categories",
    "work-types", "sla", "docket-efforts"]

/-- `/^[a-z0-9]+(?:-[a-z0-9]+)*$/`, from a character on, after a letter or a digit or not. -/
def matchFirmSlug : Bool → List Char → Bool
  | started, [] => started
  | started, c :: cs =>
    if c.isLower || c.isDigit then matchFirmSlug true cs
    else c = '-' && started && matchFirmSlug false cs

/-- The format of `firmSlug`. -/
def isFirmSlug (slug : String) : Bool := matchFirmSlug false slug.toList

/-- The format of `firmId`, `/^FIRM\d{3,}$/`. -/
def isFirmId (firmId : String) : Bool :=
  match firmId.toList with
  | 'F' :: 'I' :: 'R' :: 'M' :: digits => 3 ≤ digits.length && digits.all Char.isDigit
  | _ => false

/-- A firm, as it is stored. Its id may be of another form, but is in upper case. -/
structure Firm where
  firmId : String
  firmSlug : String
  createdAt : Int
  firmId_upper : ∀ c ∈ firmId.toList, c.toUpper = c
  firmSlug_valid : isFirmSlug firmSlug = true

/-! ## Slugs -/

/-- The slug that the search starts from. -/
def originalSlug (firmName : String) : String :=
  let firmSlug := slugify (trim firmName)
  if firmSlug ∈ RESERVED_FIRM_SLUGS then firmSlug ++ "-workspace" else firmSlug

/-- The regular expression for a slug and the same slug with a number. A slug has no character that
`escapeRegExp` escapes. -/
def matchesSlug (slug candidate : String) : Bool :=
  slug.toList.isPrefixOf candidate.toList &&
    match candidate.toList.drop slug.toList.length with
    | [] => true
    | '-' :: digits => digits ≠ [] && digits.all Char.isDigit
    | _ => false

/-- The digits at the end of a slug, after a hyphen. -/
def suffixDigits (slug : List Char) : Option (List Char) :=
  let digits := slug.rtakeWhile Char.isDigit
  if digits ≠ [] ∧ (slug.rdropWhile Char.isDigit).getLast? = some '-' then some digits else none

def suffixNumber (slug : String) : Number := (suffixDigits slug.toList).elim (ofNat 0) parseInt

/-- `Math.max` of the suffixes. -/
def maxSuffix (slugs : List String) : Number :=
  slugs.foldl (fun max slug => Number.max max (suffixNumber slug)) (ofNat 0)

/-- The slugs of the firms that the query finds. -/
def existingSlugs (firms : List Firm) (slug : String) : List String :=
  (firms.map (·.firmSlug)).filter (matchesSlug slug)

/-- `maxSuffix + retryOffset + 1`. -/
def nextSuffix (firms : List Firm) (slug : String) (retryOffset : ℕ) : Number :=
  add (add (maxSuffix (existingSlugs firms slug)) retryOffset) 1

/-- A slug with a number. -/
def withSuffix (slug : String) (n : Number) : String :=
  String.ofList (slug.toList ++ '-' :: print n)

/-- `generateUniqueSlug`. -/
def generateUniqueSlug (firms : List Firm) (firmName : String) (retryOffset : ℕ) : String :=
  let slug := originalSlug firmName
  if existingSlugs firms slug ≠ [] ∨ 0 < retryOffset then
    withSuffix slug (nextSuffix firms slug retryOffset)
  else slug

/-! ## Ids -/

/-- `/FIRM(\d+)/`, anywhere in the id. -/
def firmDigits : List Char → Option (List Char)
  | [] => none
  | c :: cs =>
    let digits := ((c :: cs).drop 4).takeWhile Char.isDigit
    if ['F', 'I', 'R', 'M'].isPrefixOf (c :: cs) && digits ≠ [] then some digits
    else firmDigits cs

/-- The number of an id. An id without one counts as zero. -/
def firmNumber (firmId : String) : Number := (firmDigits firmId.toList).elim (ofNat 0) parseInt

/-- `FIRM${n.toString().padStart(3, '0')}`. -/
def firmIdOf (n : Number) : String :=
  String.ofList ('F' :: 'I' :: 'R' :: 'M' :: padStart 3 (print n))

/-- The number after that of the newest firm, if there is one. -/
def nextNumber (lastFirm : Option Firm) : Number :=
  match lastFirm.bind fun firm => firmDigits firm.firmId.toList with
  | some digits => add (parseInt digits) 1
  | none => ofNat 1

/-- `generateFirmId`. -/
def generateFirmId (lastFirm : Option Firm) : String := firmIdOf (nextNumber lastFirm)

/-- The query for the newest firm finds one of those that were created last. -/
def IsNewest (firms : List Firm) : Option Firm → Prop
  | none => firms = []
  | some firm => firm ∈ firms ∧ ∀ other ∈ firms, other.createdAt ≤ firm.createdAt

/-! ## Inserting a firm -/

/-- The reason why a firm is not inserted. -/
inductive InsertError where
  | validation
  | duplicateFirmId
  | duplicateFirmSlug
  deriving DecidableEq, Repr

/-- The setters of `firmSlug`. -/
def castSlug (slug : String) : String := trim (toLowerCase slug)

/-- `Firm.create`. The schema checks the two identifiers before the unique indexes do. -/
def insertFirm (firms : List Firm) (firmId firmSlug : String) :
    Except InsertError (String × String) := do
  let firmId := castXID firmId
  let firmSlug := castSlug firmSlug
  throwIf (¬(isFirmId firmId ∧ isFirmSlug firmSlug)) .validation
  throwIf (∃ firm ∈ firms, firm.firmId = firmId) .duplicateFirmId
  throwIf (∃ firm ∈ firms, firm.firmSlug = firmSlug) .duplicateFirmSlug
  return (firmId, firmSlug)

def MAX_SLUG_COLLISION_RETRIES : ℕ := 5

/-- The attempts of `createFirmAndAdmin`, from one on. Only a slug that a firm has leads to another
one. -/
def attempts (firms : List Firm) (firmId firmName : String) :
    ℕ → ℕ → Except InsertError (String × String)
  | 0, _ => .error .duplicateFirmSlug
  | left + 1, attempt =>
    match insertFirm firms firmId (generateUniqueSlug firms firmName attempt) with
    | .error .duplicateFirmSlug => attempts firms firmId firmName left (attempt + 1)
    | result => result

/-- The firm that `createFirmAndAdmin` inserts. -/
def createFirm (firms : List Firm) (lastFirm : Option Firm) (firmName : String) :
    Except InsertError (String × String) :=
  attempts firms (generateFirmId lastFirm) (trim firmName) MAX_SLUG_COLLISION_RETRIES 0

/-! ## What is asked -/

/-- The slug is one for a new firm, as the schema stores it. -/
structure GoodSlug (firms : List Firm) (slug : String) : Prop where
  nonempty : slug ≠ ""
  notReserved : slug ∉ RESERVED_FIRM_SLUGS
  fresh : ∀ firm ∈ firms, firm.firmSlug ≠ castSlug slug

/-- The identifiers of a new firm are new, whichever of the firms that were created last is found,
and no unique index refuses the firm. -/
structure Fresh (firms : List Firm) (firmName : String) : Prop where
  slug : ∀ retryOffset < MAX_SLUG_COLLISION_RETRIES,
    GoodSlug firms (generateUniqueSlug firms firmName retryOffset)
  firmId : ∀ lastFirm, IsNewest firms lastFirm →
    ∀ firm ∈ firms, firm.firmId ≠ generateFirmId lastFirm
  inserted : ∀ lastFirm, IsNewest firms lastFirm →
    createFirm firms lastFirm firmName ≠ .error .duplicateFirmId ∧
      createFirm firms lastFirm firmName ≠ .error .duplicateFirmSlug

/-- The name has a character for a slug. Where the sum for a suffix is lost, so that the number is
the largest suffix again, or infinity, no firm has the slug with it. No firm whose id is that of its
number has the number after that of the newest firm. -/
structure Distinct (firms : List Firm) (firmName : String) : Prop where
  named : ∃ d ∈ (trim firmName).toList, ∃ c ∈ lowerChar d, isWordChar c = true
  suffix : ∀ retryOffset < MAX_SLUG_COLLISION_RETRIES,
    let slug := originalSlug firmName
    let n := nextSuffix firms slug retryOffset
    n = maxSuffix (existingSlugs firms slug) ∨ n = Number.infinity →
      ∀ firm ∈ firms, firm.firmSlug ≠ castSlug (withSuffix slug n)
  number : ∀ lastFirm, IsNewest firms lastFirm →
    ∀ firm ∈ firms, firm.firmId = firmIdOf (firmNumber firm.firmId) →
      firmNumber firm.firmId ≠ nextNumber lastFirm

/-! ## Texts -/

theorem trim_of_not_isWhitespace {s : String} (h : ∀ c ∈ s.toList, isWhitespace c = false) :
    trim s = s := by
  have htrim : trimList s.toList = s.toList :=
    trimList_eq_self (fun c hc => h c (List.mem_of_head? hc)) fun c hc =>
      h c (List.mem_of_getLast? hc)
  rw [trim, htrim, String.ofList_toList]

/-- The setters leave a slug as it is. -/
theorem castSlug_eq_self {s : String} (h : ∀ c ∈ s.toList, isSlugChar c = true) :
    castSlug s = s := by
  have hlower : toLowerCase s = s := by
    have hmap : s.toList.map Char.toLower = s.toList :=
      (List.map_congr_left fun c hc => (isSlugChar_spec (h c hc)).1).trans (List.map_id _)
    rw [toLowerCase, hmap, String.ofList_toList]
  rw [castSlug, hlower]
  exact trim_of_not_isWhitespace fun c hc => (isSlugChar_spec (h c hc)).2

theorem isSlugChar_of_isDigit {c : Char} (h : c.isDigit = true) : isSlugChar c = true := by
  rw [isSlugChar, h, Bool.or_true]
  rfl

/-- The setters leave a plus sign where it is. -/
theorem plus_mem_castSlug {s : String} (h : '+' ∈ s.toList) : '+' ∈ (castSlug s).toList := by
  have hspace : isWhitespace '+' = false := by decide
  rw [castSlug, trim, String.toList_ofList, mem_trimList_iff hspace, toLowerCase,
    String.toList_ofList]
  exact List.mem_map.2 ⟨'+', h, by decide⟩

theorem plus_mem_castXID {s : String} (h : '+' ∈ s.toList) : '+' ∈ (castXID s).toList := by
  have hspace : isWhitespace '+' = false := by decide
  rw [castXID, trim, String.toList_ofList, mem_trimList_iff hspace, toUpperCase,
    String.toList_ofList]
  exact List.mem_map.2 ⟨'+', h, by decide⟩

theorem isSlugChar_of_matchFirmSlug {l : List Char} :
    ∀ {started : Bool}, matchFirmSlug started l = true → ∀ c ∈ l, isSlugChar c = true := by
  induction l with
  | nil => exact fun _ c hc => absurd hc List.not_mem_nil
  | cons d l ih =>
    intro started h c hc
    rw [matchFirmSlug] at h
    split_ifs at h with hd
    · rcases List.mem_cons.1 hc with rfl | hc
      · rw [isSlugChar, hd]
        rfl
      · exact ih h c hc
    · simp only [Bool.and_eq_true, decide_eq_true_eq] at h
      rcases List.mem_cons.1 hc with rfl | hc
      · rw [h.1.1]
        decide
      · exact ih h.2 c hc

theorem Firm.isSlugChar_of_mem (firm : Firm) {c : Char} (h : c ∈ firm.firmSlug.toList) :
    isSlugChar c = true :=
  isSlugChar_of_matchFirmSlug firm.firmSlug_valid c h

/-- The slug that the search starts from is one that the setters leave. -/
theorem isSlugChar_of_mem_originalSlug {firmName : String} {c : Char}
    (h : c ∈ (originalSlug firmName).toList) : isSlugChar c = true := by
  unfold originalSlug at h
  dsimp only at h
  split_ifs at h
  · rw [String.toList_append, List.mem_append] at h
    rcases h with h | h
    · exact isSlugChar_of_mem_slugify h
    · have hworkspace : "-workspace".toList.all isSlugChar = true := by decide
      exact List.all_eq_true.1 hworkspace c h
  · exact isSlugChar_of_mem_slugify h

theorem originalSlug_not_reserved (firmName : String) :
    originalSlug firmName ∉ RESERVED_FIRM_SLUGS := by
  have hworkspace : ∀ slug ∈ RESERVED_FIRM_SLUGS, slug ++ "-workspace" ∉ RESERVED_FIRM_SLUGS := by
    decide
  unfold originalSlug
  dsimp only
  split_ifs with h
  · exact hworkspace _ h
  · exact h

theorem originalSlug_eq_empty {firmName : String} :
    originalSlug firmName = "" ↔ slugify (trim firmName) = "" := by
  unfold originalSlug
  dsimp only
  split_ifs with h
  · refine iff_of_false (fun heq => ?_) fun heq => ?_
    · have happend := congrArg String.toList heq
      rw [String.toList_append] at happend
      exact absurd (List.append_eq_nil_iff.1 happend).2 (by decide)
    · rw [heq] at h
      exact absurd h (by decide)
  · exact Iff.rfl

/-! ## Slugs with numbers -/

theorem toList_withSuffix (slug : String) (n : Number) :
    (withSuffix slug n).toList = slug.toList ++ '-' :: print n := String.toList_ofList

theorem withSuffix_ne_empty (slug : String) (n : Number) : withSuffix slug n ≠ "" := by
  intro h
  have hlist := toList_withSuffix slug n
  rw [h] at hlist
  exact List.append_ne_nil_of_right_ne_nil _ (List.cons_ne_nil _ _) hlist.symm

/-- No reserved slug has a number. -/
theorem withSuffix_not_reserved (slug : String) {n : Number} (hn : IsNumber n) :
    withSuffix slug n ∉ RESERVED_FIRM_SLUGS := by
  have hall : (RESERVED_FIRM_SLUGS.all fun slug =>
      slug.toList.all fun c => !c.isDigit && c != 'I') = true := by
    decide
  have hreserved : ∀ slug ∈ RESERVED_FIRM_SLUGS, ∀ c ∈ slug.toList,
      c.isDigit = false ∧ c ≠ 'I' := by
    simpa using hall
  have hmem : ∀ c ∈ print n, c ∈ (withSuffix slug n).toList := by
    intro c hc
    rw [toList_withSuffix]
    exact List.mem_append_right _ (List.mem_cons_of_mem _ hc)
  intro h
  by_cases htop : n = Number.infinity
  · have hI : 'I' ∈ print n := by
      rw [htop]
      exact List.mem_cons_self
    exact (hreserved _ h 'I' (hmem _ hI)).2 rfl
  · obtain ⟨c, hc, hdigit⟩ := exists_digit_print hn htop
    rw [(hreserved _ h c (hmem c hc)).1] at hdigit
    cases hdigit

theorem matchesSlug_self (slug : String) : matchesSlug slug slug = true := by
  have hfirst : slug.toList.isPrefixOf slug.toList = true :=
    List.isPrefixOf_iff_prefix.2 List.prefix_rfl
  simp [matchesSlug, hfirst]

theorem matchesSlug_append {slug candidate : String} {digits : List Char}
    (h : candidate.toList = slug.toList ++ '-' :: digits) (hne : digits ≠ [])
    (hdigits : ∀ c ∈ digits, c.isDigit = true) : matchesSlug slug candidate = true := by
  rw [matchesSlug, h, List.drop_left]
  simp only [Bool.and_eq_true, List.isPrefixOf_iff_prefix, decide_eq_true_eq, List.all_eq_true]
  exact ⟨List.prefix_append _ _, hne, hdigits⟩

/-- The number at the end of a slug is read back. -/
theorem suffixNumber_append {slug candidate : String} {digits : List Char}
    (h : candidate.toList = slug.toList ++ '-' :: digits) (hne : digits ≠ [])
    (hdigits : ∀ c ∈ digits, c.isDigit = true) : suffixNumber candidate = parseInt digits := by
  have hreverse : ∀ c ∈ digits.reverse, c.isDigit = true := by
    intro c hc
    exact hdigits c (List.mem_reverse.1 hc)
  have hlist : candidate.toList.reverse = digits.reverse ++ '-' :: slug.toList.reverse := by
    rw [h, List.reverse_append, List.reverse_cons, List.append_assoc]
    rfl
  have htake : candidate.toList.rtakeWhile Char.isDigit = digits := by
    rw [List.rtakeWhile, hlist, List.takeWhile_append_of_pos hreverse,
      List.takeWhile_cons_of_neg (by decide), List.append_nil, List.reverse_reverse]
  have hdrop : candidate.toList.rdropWhile Char.isDigit = slug.toList ++ ['-'] := by
    rw [List.rdropWhile, hlist, List.dropWhile_append_of_pos hreverse,
      List.dropWhile_cons_of_neg (by decide), List.reverse_cons, List.reverse_reverse]
  rw [suffixNumber, suffixDigits, htake, hdrop, List.getLast?_concat, if_pos ⟨hne, rfl⟩,
    Option.elim_some]

theorem isNumber_suffixNumber (slug : String) : IsNumber (suffixNumber slug) := by
  unfold suffixNumber
  cases suffixDigits slug.toList with
  | none =>
    rw [Option.elim_none]
    exact isNumber_ofNat 0
  | some digits =>
    rw [Option.elim_some, parseInt]
    exact isNumber_ofNat _

/-- The largest of the suffixes and a number that the search has so far. -/
theorem foldl_max_spec (slugs : List String) (acc : Number) (hacc : IsNumber acc) :
    IsNumber (slugs.foldl (fun max slug => Number.max max (suffixNumber slug)) acc) ∧
      acc ≤ slugs.foldl (fun max slug => Number.max max (suffixNumber slug)) acc ∧
        ∀ slug ∈ slugs, suffixNumber slug ≤
          slugs.foldl (fun max slug => Number.max max (suffixNumber slug)) acc := by
  induction slugs generalizing acc with
  | nil => exact ⟨hacc, le_refl _, fun slug hslug => absurd hslug List.not_mem_nil⟩
  | cons first slugs ih =>
    obtain ⟨hfinal, hle, hall⟩ := ih _ (isNumber_max hacc (isNumber_suffixNumber first))
    obtain ⟨hleft, hright⟩ := Doubles.le_max acc (suffixNumber first)
    refine ⟨hfinal, hleft.trans hle, fun slug hslug => ?_⟩
    rcases List.mem_cons.1 hslug with rfl | hslug
    · exact hright.trans hle
    · exact hall slug hslug

/-- The largest suffix is a number, and none is larger. -/
theorem maxSuffix_spec (slugs : List String) :
    IsNumber (maxSuffix slugs) ∧ ∀ slug ∈ slugs, suffixNumber slug ≤ maxSuffix slugs := by
  obtain ⟨hfinal, -, hall⟩ := foldl_max_spec slugs (ofNat 0) (isNumber_ofNat 0)
  exact ⟨hfinal, hall⟩

/-- What a slug with a number is, once the setters have cast it: itself, when the number is read back
from its end, or no slug of a firm, or that with infinity. -/
theorem castSlug_withSuffix {slug : String} {n : Number} (hn : IsNumber n)
    (hslug : ∀ c ∈ slug.toList, isSlugChar c = true) (htop : n ≠ Number.infinity) {firm : Firm}
    (h : firm.firmSlug = castSlug (withSuffix slug n)) :
    matchesSlug slug firm.firmSlug = true ∧ suffixNumber firm.firmSlug = n := by
  rcases print_cases n hn with ⟨m, hprint, hm⟩ | ⟨m, hprint⟩ | hinfinity
  · -- Digits stay digits, and are read back as the number.
    have hdigits : ∀ c ∈ Nat.toDigits 10 m, c.isDigit = true := fun c => isDigit_of_mem_toDigits
    have hlist : (withSuffix slug n).toList = slug.toList ++ '-' :: Nat.toDigits 10 m := by
      rw [toList_withSuffix, hprint]
    have hcast : castSlug (withSuffix slug n) = withSuffix slug n := by
      refine castSlug_eq_self fun c hc => ?_
      rw [hlist, List.mem_append, List.mem_cons] at hc
      rcases hc with hc | rfl | hc
      · exact hslug c hc
      · decide
      · exact isSlugChar_of_isDigit (hdigits c hc)
    rw [h, hcast]
    refine ⟨matchesSlug_append hlist (toDigits_ne_nil m) hdigits, ?_⟩
    rw [suffixNumber_append hlist (toDigits_ne_nil m) hdigits, parseInt_toDigits, hm]
  · -- The exponential form has a plus sign, and no slug of a firm has.
    have hplus : '+' ∈ (withSuffix slug n).toList := by
      rw [toList_withSuffix, hprint]
      refine List.mem_append_right _ (List.mem_cons_of_mem _ (mem_exponential m ?_))
      exact List.mem_cons_of_mem _ List.mem_cons_self
    have hmem := plus_mem_castSlug hplus
    rw [← h] at hmem
    exact absurd (firm.isSlugChar_of_mem hmem) (by decide)
  · exact absurd hinfinity htop

/-- A firm has a slug with the next number only when the sum for it is lost. -/
theorem lost_of_nextSuffix {firms : List Firm} {slug : String} {retryOffset : ℕ} {firm : Firm}
    (hfirm : firm ∈ firms) (hslug : ∀ c ∈ slug.toList, isSlugChar c = true)
    (h : firm.firmSlug = castSlug (withSuffix slug (nextSuffix firms slug retryOffset))) :
    nextSuffix firms slug retryOffset = maxSuffix (existingSlugs firms slug) ∨
      nextSuffix firms slug retryOffset = Number.infinity := by
  by_contra hnot
  rw [not_or] at hnot
  obtain ⟨hmatch, hnumber⟩ := castSlug_withSuffix (isNumber_add _ _) hslug hnot.2 h
  obtain ⟨hmax, hle⟩ := maxSuffix_spec (existingSlugs firms slug)
  have hexisting : firm.firmSlug ∈ existingSlugs firms slug :=
    List.mem_filter.2 ⟨List.mem_map.2 ⟨firm, hfirm, rfl⟩, hmatch⟩
  -- The firm's slug is one of those that were searched, so its number is no larger than theirs.
  have hbelow := hle _ hexisting
  rw [hnumber] at hbelow
  have habove : maxSuffix (existingSlugs firms slug) ≤ nextSuffix firms slug retryOffset :=
    (le_add hmax retryOffset).trans (le_add (isNumber_add _ _) 1)
  exact hnot.1 (le_antisymm hbelow habove)

/-! ## The slug of a new firm -/

variable {firms : List Firm} {firmName : String}

/-- No slug of a firm is an empty slug, or one with a number. -/
theorem existingSlugs_empty : existingSlugs firms "" = [] := by
  refine List.filter_eq_nil_iff.2 fun slug hslug hmatch => ?_
  obtain ⟨firm, -, rfl⟩ := List.mem_map.1 hslug
  have hvalid : matchFirmSlug false firm.firmSlug.toList = true := firm.firmSlug_valid
  unfold matchesSlug at hmatch
  cases hlist : firm.firmSlug.toList with
  | nil =>
    rw [hlist] at hvalid
    cases hvalid
  | cons c cs =>
    rw [hlist] at hmatch hvalid
    have hhyphen : c = '-' := by
      by_contra hne
      simp [hne] at hmatch
    rw [hhyphen] at hvalid
    exact absurd hvalid (by simp [matchFirmSlug])

theorem generateUniqueSlug_cases (firms : List Firm) (firmName : String) (retryOffset : ℕ) :
    generateUniqueSlug firms firmName retryOffset =
        withSuffix (originalSlug firmName) (nextSuffix firms (originalSlug firmName) retryOffset) ∨
      existingSlugs firms (originalSlug firmName) = [] ∧ retryOffset = 0 ∧
        generateUniqueSlug firms firmName retryOffset = originalSlug firmName := by
  unfold generateUniqueSlug
  dsimp only
  split_ifs with h
  · exact .inl rfl
  · rw [not_or, not_not, Nat.pos_iff_ne_zero, not_not] at h
    exact .inr ⟨h.1, h.2, rfl⟩

theorem goodSlug_of_distinct (h : Distinct firms firmName) {retryOffset : ℕ}
    (hoffset : retryOffset < MAX_SLUG_COLLISION_RETRIES) :
    GoodSlug firms (generateUniqueSlug firms firmName retryOffset) := by
  have hchars : ∀ c ∈ (originalSlug firmName).toList, isSlugChar c = true :=
    fun c => isSlugChar_of_mem_originalSlug
  rcases generateUniqueSlug_cases firms firmName retryOffset with heq | ⟨hnone, -, heq⟩
  · rw [heq]
    refine ⟨withSuffix_ne_empty _ _, withSuffix_not_reserved _ (isNumber_add _ _), ?_⟩
    intro firm hfirm hcast
    exact h.suffix retryOffset hoffset (lost_of_nextSuffix hfirm hchars hcast) firm hfirm hcast
  · rw [heq]
    refine ⟨fun hempty => ?_, originalSlug_not_reserved _, fun firm hfirm hcast => ?_⟩
    · obtain ⟨d, hd, c, hc, hword⟩ := h.named
      rw [slugify_eq_empty.1 (originalSlug_eq_empty.1 hempty) d hd c hc] at hword
      cases hword
    · -- A firm with the slug itself would have been found by the search.
      rw [castSlug_eq_self hchars] at hcast
      have hexisting : firm.firmSlug ∈ existingSlugs firms (originalSlug firmName) := by
        refine List.mem_filter.2 ⟨List.mem_map.2 ⟨firm, hfirm, rfl⟩, ?_⟩
        rw [hcast]
        exact matchesSlug_self _
      rw [hnone] at hexisting
      exact absurd hexisting List.not_mem_nil

/-- A sum that is lost is one for a slug with a number. -/
theorem generateUniqueSlug_of_lost {retryOffset : ℕ}
    (h : nextSuffix firms (originalSlug firmName) retryOffset =
        maxSuffix (existingSlugs firms (originalSlug firmName)) ∨
      nextSuffix firms (originalSlug firmName) retryOffset = Number.infinity) :
    generateUniqueSlug firms firmName retryOffset =
      withSuffix (originalSlug firmName) (nextSuffix firms (originalSlug firmName) retryOffset) := by
  rcases generateUniqueSlug_cases firms firmName retryOffset with heq | ⟨hnone, hzero, -⟩
  · exact heq
  · rw [nextSuffix, hnone, hzero] at h
    exact absurd h (by decide +kernel)

/-! ## The id of a new firm -/

theorem toList_firmIdOf (n : Number) :
    (firmIdOf n).toList = 'F' :: 'I' :: 'R' :: 'M' :: padStart 3 (print n) := String.toList_ofList

theorem isNumber_nextNumber (lastFirm : Option Firm) : IsNumber (nextNumber lastFirm) := by
  unfold nextNumber
  split
  · exact isNumber_add _ _
  · exact isNumber_ofNat 1

theorem firmDigits_append {digits : List Char} (hne : digits ≠ [])
    (hdigits : ∀ c ∈ digits, c.isDigit = true) :
    firmDigits ('F' :: 'I' :: 'R' :: 'M' :: digits) = some digits := by
  have htake : digits.takeWhile Char.isDigit = digits :=
    List.takeWhile_eq_self_iff.2 hdigits
  simp only [firmDigits, List.drop_succ_cons, List.drop_zero, htake]
  simp [hne, List.isPrefixOf]

/-- The number of an id of digits is read back from it. -/
theorem firmNumber_firmIdOf {n : Number} {m : ℕ} (hprint : print n = Nat.toDigits 10 m)
    (hm : ofNat m = n) : firmNumber (firmIdOf n) = n := by
  have hpad : padStart 3 (print n) = padded 3 m := by rw [hprint, padded]
  have hne : padded 3 m ≠ [] := by
    have hlength := le_length_padded 3 m
    intro hnil
    rw [hnil] at hlength
    exact absurd hlength (by decide)
  have hdigits : firmDigits (firmIdOf n).toList = some (padded 3 m) := by
    rw [toList_firmIdOf, hpad]
    exact firmDigits_append hne fun c => isDigit_of_mem_padded
  rw [firmNumber, hdigits, Option.elim_some, parseInt, value_padded, hm]

/-- An id that is in upper case, or that the schema takes, has a number of digits. -/
theorem digits_of_firmIdOf {n : Number} (hn : IsNumber n)
    (h : (∀ c ∈ (firmIdOf n).toList, c.toUpper = c) ∨ isFirmId (castXID (firmIdOf n)) = true) :
    ∃ m, print n = Nat.toDigits 10 m ∧ ofNat m = n := by
  rcases print_cases n hn with hdigits | ⟨m, hprint⟩ | rfl
  · exact hdigits
  · -- The exponential form has an `e` in lower case, and a plus sign, which no casting takes away.
    have hmem : ∀ c ∈ exponential m, c ∈ (firmIdOf n).toList := by
      intro c hc
      rw [toList_firmIdOf, hprint, padStart]
      exact List.mem_append_right ['F', 'I', 'R', 'M'] (List.mem_append_right _ hc)
    rcases h with h | h
    · have he := h 'e' (hmem 'e' (mem_exponential m List.mem_cons_self))
      exact absurd he (by decide)
    · have hplus := plus_mem_castXID (hmem '+'
        (mem_exponential m (List.mem_cons_of_mem _ List.mem_cons_self)))
      unfold isFirmId at h
      split at h
      · next digits hlist =>
        rw [hlist] at hplus
        simp only [Bool.and_eq_true, List.all_eq_true] at h
        simp only [List.mem_cons] at hplus
        rcases hplus with heq | heq | heq | heq | hdigit
        · exact absurd heq (by decide)
        · exact absurd heq (by decide)
        · exact absurd heq (by decide)
        · exact absurd heq (by decide)
        · exact absurd (h.2 '+' hdigit) (by decide)
      · cases h
  · -- `FIRMInfinity` has letters in lower case, and is no id when they are cast.
    rcases h with h | h
    · exact absurd (h 'n' (by decide)) (by decide)
    · exact absurd h (by decide)

theorem castXID_firmIdOf {n : Number} {m : ℕ} (hprint : print n = Nat.toDigits 10 m) :
    castXID (firmIdOf n) = firmIdOf n := by
  have hpad : padStart 3 (print n) = padded 3 m := by rw [hprint, padded]
  have hdigit : ∀ c, c.isDigit = true → c.toUpper = c ∧ isWhitespace c = false := by
    intro c hc
    have hword : isWordChar c = true := by
      rw [isWordChar, Char.isAlphanum, hc, Bool.or_true]
      rfl
    exact forall_ascii (P := fun c => c.isDigit = true → c.toUpper = c ∧ isWhitespace c = false)
      (by decide) (toNat_lt_of_isWordChar hword) hc
  have hchars : ∀ c ∈ (firmIdOf n).toList, c.toUpper = c ∧ isWhitespace c = false := by
    intro c hc
    rw [toList_firmIdOf, hpad] at hc
    simp only [List.mem_cons] at hc
    rcases hc with rfl | rfl | rfl | rfl | hc
    · decide
    · decide
    · decide
    · decide
    · exact hdigit c (isDigit_of_mem_padded hc)
  have hupper : toUpperCase (firmIdOf n) = firmIdOf n := by
    have hmap : (firmIdOf n).toList.map Char.toUpper = (firmIdOf n).toList :=
      (List.map_congr_left fun c hc => (hchars c hc).1).trans (List.map_id _)
    rw [toUpperCase, hmap, String.ofList_toList]
  rw [castXID, hupper]
  exact trim_of_not_isWhitespace fun c hc => (hchars c hc).2

/-- No firm has the id after that of the newest firm, when none has the number. -/
theorem firmId_of_distinct (h : Distinct firms firmName) {lastFirm : Option Firm}
    (hlast : IsNewest firms lastFirm) {firm : Firm} (hfirm : firm ∈ firms) :
    firm.firmId ≠ generateFirmId lastFirm := by
  intro heq
  rw [generateFirmId] at heq
  have hupper := firm.firmId_upper
  rw [heq] at hupper
  obtain ⟨m, hprint, hm⟩ := digits_of_firmIdOf (isNumber_nextNumber lastFirm) (.inl hupper)
  have hnumber : firmNumber firm.firmId = nextNumber lastFirm := by
    rw [heq, firmNumber_firmIdOf hprint hm]
  refine h.number lastFirm hlast firm hfirm ?_ hnumber
  rw [hnumber]
  exact heq

/-! ## Inserting the new firm -/

/-- New identifiers are not refused by an index. -/
theorem insertFirm_of_fresh {lastFirm : Option Firm} {slug : String}
    (hid : ∀ firm ∈ firms, firm.firmId ≠ generateFirmId lastFirm)
    (hslug : ∀ firm ∈ firms, firm.firmSlug ≠ castSlug slug) :
    insertFirm firms (generateFirmId lastFirm) slug = .error .validation ∨
      ∃ stored, insertFirm firms (generateFirmId lastFirm) slug = .ok stored := by
  unfold insertFirm
  dsimp only
  by_cases hvalid : isFirmId (castXID (generateFirmId lastFirm)) ∧ isFirmSlug (castSlug slug)
  · have hnumber := isNumber_nextNumber lastFirm
    obtain ⟨m, hprint, -⟩ := digits_of_firmIdOf hnumber (.inr hvalid.1)
    have hcast : castXID (generateFirmId lastFirm) = generateFirmId lastFirm :=
      castXID_firmIdOf hprint
    have hnoId : ¬∃ firm ∈ firms, firm.firmId = castXID (generateFirmId lastFirm) := by
      rintro ⟨firm, hfirm, heq⟩
      exact hid firm hfirm (heq.trans hcast)
    have hnoSlug : ¬∃ firm ∈ firms, firm.firmSlug = castSlug slug := by
      rintro ⟨firm, hfirm, heq⟩
      exact hslug firm hfirm heq
    refine .inr ⟨(castXID (generateFirmId lastFirm), castSlug slug), ?_⟩
    rw [throwIf_neg (not_not.2 hvalid), throwIf_neg hnoId, throwIf_neg hnoSlug]
    rfl
  · refine .inl ?_
    rw [throwIf, if_pos hvalid]
    rfl

/-- The first attempt is not refused by an index, so the creation is not. -/
theorem createFirm_of_fresh {lastFirm : Option Firm}
    (hid : ∀ firm ∈ firms, firm.firmId ≠ generateFirmId lastFirm)
    (hslug : ∀ firm ∈ firms,
      firm.firmSlug ≠ castSlug (generateUniqueSlug firms (trim firmName) 0)) :
    createFirm firms lastFirm firmName ≠ .error .duplicateFirmId ∧
      createFirm firms lastFirm firmName ≠ .error .duplicateFirmSlug := by
  unfold createFirm MAX_SLUG_COLLISION_RETRIES attempts
  rcases insertFirm_of_fresh hid hslug with heq | ⟨stored, heq⟩
  · rw [heq]
    exact ⟨by simp, by simp⟩
  · rw [heq]
    exact ⟨by simp, by simp⟩

theorem generateUniqueSlug_trim (retryOffset : ℕ) :
    generateUniqueSlug firms (trim firmName) retryOffset =
      generateUniqueSlug firms firmName retryOffset := by
  unfold generateUniqueSlug originalSlug
  rw [trim_trim]

/-- The identifiers of a new firm are new exactly when they are told apart from those that there
are. -/
theorem identifiers_fresh_iff (firms : List Firm) (firmName : String) :
    Fresh firms firmName ↔ Distinct firms firmName := by
  constructor
  · rintro ⟨hslug, hid, -⟩
    refine ⟨?_, ?_, ?_⟩
    · by_contra hnone
      have hempty : originalSlug firmName = "" := by
        rw [originalSlug_eq_empty, slugify_eq_empty]
        intro d hd c hc
        by_contra hword
        exact hnone ⟨d, hd, c, hc, Bool.not_eq_false _ ▸ hword⟩
      have hgood := (hslug 0 (by decide)).nonempty
      rw [generateUniqueSlug, hempty, existingSlugs_empty] at hgood
      exact hgood rfl
    · intro retryOffset hoffset slug n hlost firm hfirm
      have hfresh := (hslug retryOffset hoffset).fresh firm hfirm
      rw [generateUniqueSlug_of_lost hlost] at hfresh
      exact hfresh
    · intro lastFirm hlast firm hfirm hcanonical hnumber
      refine hid lastFirm hlast firm hfirm ?_
      rw [hcanonical, hnumber, generateFirmId]
  · intro h
    refine ⟨fun retryOffset hoffset => goodSlug_of_distinct h hoffset,
      fun lastFirm hlast firm hfirm => firmId_of_distinct h hlast hfirm, fun lastFirm hlast => ?_⟩
    refine createFirm_of_fresh (fun firm hfirm => firmId_of_distinct h hlast hfirm) ?_
    rw [generateUniqueSlug_trim]
    exact (goodSlug_of_distinct h (by decide)).fresh

/-- A name without a character for a slug gets the empty one. -/
theorem identifiers_fresh_fails : ¬∀ firms firmName, Fresh firms firmName := by
  intro h
  have hgood := (h [] "東京").slug 0 (by decide)
  exact hgood.nonempty (by decide)

end Docketra.FirmIdentifiers
