import Mathlib.Data.List.Count
import Docketra.NumberForms

/-!
# Which docket an identifier names

A status update passes through four readings of one string: `resolveCaseIdentifier` before the
handler, `findByCaseId` and the filter of `updateStatus` in the repository, and `makeDocketQuery` in
`transitionDocket`. On a firm whose identifiers the generators of `services/caseIdGenerator.js` have
made, the four agree on a string that is a case number in any spelling, unless the docket of that
number is deleted, and on a string that names nothing; and on no other string (`agree_iff`).

Where they differ, `CaseService.updateStatus` still moves and updates one docket or none: what
`transitionDocket` finds after `findByCaseId` is what the filter of `updateStatus` selects
(`halvesMeet`).
-/

namespace Docketra.Identifiers

open Checked

/-! ## Generated identifiers -/

/-- `isValidCaseIdFormat`: `/^CASE-\d{8}-\d{5}$/`. -/
def isValidCaseIdFormat (caseId : String) : Bool :=
  caseId.toList.take 5 == "CASE-".toList && isBareNumber (String.ofList (caseId.toList.drop 5))

/-- `isValidDocketIdFormat`: `/^[A-Z]{2,4}\d{12}$/`. -/
def isValidDocketIdFormat (docketId : String) : Bool :=
  let l := docketId.toList
  14 ≤ l.length && l.length ≤ 16 && (l.take (l.length - 12)).all Char.isUpper &&
    (l.drop (l.length - 12)).all Char.isDigit

/-- A number that one of the two generators makes. -/
def IsGenerated (n : String) : Prop :=
  isValidCaseIdFormat n = true ∨ isValidDocketIdFormat n = true

instance (n : String) : Decidable (IsGenerated n) := inferInstanceAs (Decidable (_ ∨ _))

/-- A firm whose dockets have the identifiers that the generators produce. -/
structure GeneratedFirm (Oid : Type) extends Firm Oid where
  caseNumber_generated : ∀ d ∈ cases, IsGenerated d.caseNumber
  caseId_eq : ∀ d ∈ cases, d.caseId = some d.caseNumber
  caseNumber_unique : (cases.map CaseDocument.caseNumber).Nodup
  _id_unique : (cases.map CaseDocument._id).Nodup
  _id_ne_caseInternalId : ∀ d ∈ cases, ∀ e ∈ cases, d._id ≠ e.caseInternalId

/-- A generated case number is `CASE-` before a bare number. -/
theorem eq_join_of_isValidCaseIdFormat {n : String} (h : isValidCaseIdFormat n = true) :
    ∃ bare, isBareNumber bare = true ∧ n = NumberPrefix.CASE.join bare := by
  rw [isValidCaseIdFormat, Bool.and_eq_true, beq_iff_eq] at h
  refine ⟨_, h.2, ?_⟩
  rw [← String.toList_inj, toList_join, String.toList_ofList]
  calc n.toList = n.toList.take 5 ++ n.toList.drop 5 := (List.take_append_drop 5 _).symm
    _ = (NumberPrefix.CASE.value ++ "-").toList ++ n.toList.drop 5 := by rw [h.1]; rfl

/-- A docket id is letters and digits, 16 of them at most. -/
theorem of_isValidDocketIdFormat {n : String} (h : isValidDocketIdFormat n = true) :
    n.toList.length ≤ 16 ∧ ∀ c ∈ n.toList, c.isUpper = true ∨ c.isDigit = true := by
  simp only [isValidDocketIdFormat, Bool.and_eq_true, decide_eq_true_eq, List.all_eq_true] at h
  obtain ⟨⟨⟨-, hlength⟩, hletters⟩, hdigits⟩ := h
  refine ⟨hlength, ?_⟩
  intro c hc
  rw [← List.take_append_drop (n.toList.length - 12) n.toList, List.mem_append] at hc
  exact hc.imp (hletters c) (hdigits c)

theorem hyphen_mem_of_isBareNumber {bare : String} (h : isBareNumber bare = true) :
    '-' ∈ bare.toList := by
  simp only [isBareNumber, Bool.and_eq_true, beq_iff_eq] at h
  exact List.mem_of_getElem? h.1.2

theorem hyphen_mem_join (p : NumberPrefix) (s : String) : '-' ∈ (p.join s).toList := by
  rw [toList_join, List.mem_append]
  left
  cases p <;> decide

theorem hyphen_mem_forms {bare c : String} (hbare : isBareNumber bare = true)
    (hc : c ∈ forms bare) : '-' ∈ c.toList := by
  simp only [forms, List.mem_cons, List.not_mem_nil, or_false] at hc
  rcases hc with rfl | rfl | rfl
  · exact hyphen_mem_of_isBareNumber hbare
  · exact hyphen_mem_join .CASE bare
  · exact hyphen_mem_join .DOCKET bare

/-- A docket id has no hyphen. -/
theorem hyphen_notMem_of_isValidDocketIdFormat {n : String} (h : isValidDocketIdFormat n = true) :
    '-' ∉ n.toList := by
  intro hmem
  exact absurd ((of_isValidDocketIdFormat h).2 _ hmem) (by decide)

/-- A generated number is made of capitals, digits, and hyphens. -/
theorem IsGenerated.canonical {n : String} (h : IsGenerated n) : Canonical n := by
  rcases h with h | h
  · obtain ⟨bare, hbare, rfl⟩ := eq_join_of_isValidCaseIdFormat h
    exact (canonical_of_isBareNumber hbare).join .CASE
  · intro c hc
    rw [isCanonical, Bool.or_eq_true]
    exact ((of_isValidDocketIdFormat h).2 c hc).imp id isNumeric_of_isDigit

/-- The normal form of a string that is a canonical text but for the white space around it. -/
theorem normalize_of_trim {s n : String} (hn : Canonical n) (h : trim s = n) : normalize s = n := by
  subst h
  have htrim : trimList s.toList = (trim s).toList := (String.toList_ofList).symm
  have hself : hyphenate (trim s).toList = (trim s).toList :=
    hyphenate_eq_self fun c hc => not_isSeparator_of_isCanonical (hn c hc)
  rw [normalize, htrim, hself, String.ofList_toList]

theorem length_of_isGenerated {n : String} (h : IsGenerated n) : n.toList.length < 24 := by
  rcases h with h | h
  · obtain ⟨bare, hbare, rfl⟩ := eq_join_of_isValidCaseIdFormat h
    rw [toList_join, List.length_append, length_of_isBareNumber hbare]
    decide
  · have := (of_isValidDocketIdFormat h).1
    omega

/-- Of the forms of a number, the generators make the one after `CASE`. -/
theorem IsGenerated.mem_forms_iff {n bare : String} (h : IsGenerated n)
    (hbare : isBareNumber bare = true) : n ∈ forms bare ↔ n = NumberPrefix.CASE.join bare := by
  constructor
  · intro hmem
    rcases h with h | h
    · obtain ⟨b, hb, rfl⟩ := eq_join_of_isValidCaseIdFormat h
      rw [(names_of_mem_forms hbare hmem).unique
        (names_of_mem_forms hb (List.mem_cons_of_mem _ List.mem_cons_self))]
    · exact absurd (hyphen_mem_forms hbare hmem) (hyphen_notMem_of_isValidDocketIdFormat h)
  · rintro rfl
    exact List.mem_cons_of_mem _ List.mem_cons_self

/-! ## The queries on generated identifiers -/

variable {Oid : Type} {P : Platform Oid} {firm : GeneratedFirm Oid} {d : CaseDocument Oid}

/-- On canonical text, the caseless comparison is equality in capitals. -/
theorem matchesCaseless_iff (hP : P.Documented) {candidate n : String}
    (hc : isAscii candidate = true) (hn : IsGenerated n) :
    P.matchesCaseless candidate n = true ↔ toUpperCase candidate = n := by
  rw [hP.matchesCaseless_ascii candidate n hc (hn.canonical.isAscii),
    hn.canonical.toUpperCase_eq]

theorem identifierQuery_iff (hd : d ∈ firm.cases) {s : String} :
    identifierQuery P s d = true ↔
      ∃ c ∈ getIdentifierCandidates s, P.matchesCaseless c d.caseNumber = true := by
  simp only [identifierQuery, List.any_eq_true, firm.caseId_eq d hd, Option.any_some, Bool.or_self]

/-- What the repository selects by a string that names a number. -/
theorem Names.identifierQuery_iff (hP : P.Documented) (hd : d ∈ firm.cases) {s bare : String}
    (h : Names s bare) :
    identifierQuery P s d = true ↔ d.caseNumber = NumberPrefix.CASE.join bare := by
  have hgenerated := firm.caseNumber_generated d hd
  rw [Identifiers.identifierQuery_iff hd, ← hgenerated.mem_forms_iff h.isBareNumber]
  simp only [h.mem_getIdentifierCandidates]
  constructor
  · rintro ⟨c, hc, hmatch⟩
    have hcanonical := canonical_of_mem_forms h.isBareNumber hc
    rw [matchesCaseless_iff hP hcanonical.isAscii hgenerated,
      hcanonical.toUpperCase_eq] at hmatch
    exact hmatch ▸ hc
  · intro hmem
    have hcanonical := canonical_of_mem_forms h.isBareNumber hmem
    exact ⟨d.caseNumber, hmem, (matchesCaseless_iff hP hcanonical.isAscii
      hgenerated).mpr hcanonical.toUpperCase_eq⟩

theorem not_isSeparator_of_isHexDigit {c : Char} (h : isHexDigit c = true) :
    isSeparator c = false := by
  rw [isHexDigit_iff] at h
  rw [← Bool.not_eq_true, isSeparator_iff]
  simp only [isWhitespace, Bool.or_eq_true, Bool.and_eq_true, beq_iff_eq, decide_eq_true_eq]
  omega

/-- A string of 24 hexadecimal digits is its own normal form. -/
theorem normalize_of_isHex24 {s : String} (h : isHex24 s = true) : normalize s = s := by
  rw [isHex24, Bool.and_eq_true, List.all_eq_true] at h
  exact normalize_eq_self fun c hc => not_isSeparator_of_isHexDigit (h.2 c hc)

theorem length_of_isHex24 {s : String} (h : isHex24 s = true) : s.toList.length = 24 := by
  rw [isHex24, Bool.and_eq_true, beq_iff_eq] at h
  exact h.1

theorem isAscii_of_isHex24 {s : String} (h : isHex24 s = true) : isAscii s = true := by
  rw [isHex24, Bool.and_eq_true, List.all_eq_true] at h
  rw [isAscii, List.all_eq_true]
  intro c hc
  have := isHexDigit_iff.mp (h.2 c hc)
  rw [decide_eq_true_eq]
  omega

/-- No number is an object id. -/
theorem Names.not_isHex24 {s bare : String} (h : Names s bare) : isHex24 s = false := by
  rw [← Bool.not_eq_true]
  intro hhex
  have hlength := length_of_isHex24 hhex
  have hbare := length_of_isBareNumber h.isBareNumber
  rcases h.form with hform | ⟨p, hmatch⟩
  · rw [normalize_of_isHex24 hhex] at hform
    rw [← hform] at hbare
    omega
  · rw [normalize_of_isHex24 hhex] at hmatch
    have hlong := length_of_matchPrefix hmatch
    have hword : (p.value ++ "-").toList.length ≤ 7 := by cases p <;> decide
    omega

theorem newObjectId_eq_none (hP : P.Documented) {s : String} (h : isHex24 s = false) :
    P.newObjectId s = none := by
  rw [← Option.not_isSome_iff_eq_none, hP.isValid_iff, h]
  exact Bool.false_ne_true

/-- The candidate of the repository for a string that names no number. -/
theorem eq_normalize_of_mem {s c : String} (hformat : isValidCaseNumberFormat s ≠ true)
    (hc : c ∈ getIdentifierCandidates s) : c = normalize s := by
  rw [isValidCaseNumberFormat, ne_eq, Bool.or_eq_true, not_or, Option.any_eq_true,
    not_exists] at hformat
  obtain ⟨hword, hbare⟩ := hformat
  rw [getIdentifierCandidates] at hc
  split_ifs at hc with hempty
  · exact absurd hc List.not_mem_nil
  · cases hmatch : matchPrefix (normalize s) with
    | none =>
      rw [hmatch] at hc
      exact List.mem_singleton.mp hc
    | some groups =>
      have hgroups : isBareNumber groups.2 ≠ true := fun h => hword groups ⟨hmatch, h⟩
      rw [hmatch] at hc
      obtain ⟨p, bare⟩ := groups
      dsimp only at hc hgroups
      rw [if_neg hgroups] at hc
      exact List.mem_singleton.mp hc

/-- The repository finds nothing by an object id. -/
theorem identifierQuery_of_isHex24 (hP : P.Documented) (hd : d ∈ firm.cases) {s : String}
    (h : isHex24 s = true) : identifierQuery P s d = false := by
  have hgenerated := firm.caseNumber_generated d hd
  have hformat : isValidCaseNumberFormat s ≠ true := by
    intro hformat
    obtain ⟨bare, hnames⟩ := isValidCaseNumberFormat_iff.mp hformat
    rw [hnames.not_isHex24] at h
    exact Bool.false_ne_true h
  rw [← Bool.not_eq_true, Identifiers.identifierQuery_iff hd]
  rintro ⟨c, hc, hmatch⟩
  rw [eq_normalize_of_mem hformat hc, normalize_of_isHex24 h,
    matchesCaseless_iff hP (isAscii_of_isHex24 h) hgenerated] at hmatch
  have hlength := length_of_isHex24 h
  have hshort := length_of_isGenerated hgenerated
  rw [← hmatch, toUpperCase, String.toList_ofList, List.length_map] at hshort
  omega

variable [DecidableEq Oid]

/-- What `makeDocketQuery` selects by a string that is no object id. -/
theorem docketQuery_iff_of_not_isHex24 (hP : P.Documented) (hd : d ∈ firm.cases) {s : String}
    (hs : s ≠ "") (hhex : isHex24 s = false) :
    docketQuery P s d = true ↔
      ∃ c, (c = s ∨ c ∈ numberForms (P.toUpperCase (normalize s))) ∧ d.caseNumber = trim c := by
  simp only [docketQuery, docketCandidates, if_neg hs, newObjectId_eq_none hP hhex,
    Option.any_none, Bool.or_false, List.any_eq_true, List.mem_eraseDups, List.mem_cons,
    firm.caseId_eq d hd, Option.some.injEq, Bool.or_self, decide_eq_true_eq]

/-- What `makeDocketQuery` selects by a string that names a number. -/
theorem Names.docketQuery_iff (hP : P.Documented) (hd : d ∈ firm.cases) {s bare : String}
    (h : Names s bare) :
    docketQuery P s d = true ↔ d.caseNumber = NumberPrefix.CASE.join bare := by
  have hgenerated := firm.caseNumber_generated d hd
  have hforms : ∀ c, c ∈ numberForms (P.toUpperCase (normalize s)) ↔ c ∈ forms bare := by
    intro c
    rw [h.platform_toUpperCase hP]
    exact numberForms_of_mem_forms h.isBareNumber h.toUpperCase_mem
  rw [docketQuery_iff_of_not_isHex24 hP hd h.ne_empty h.not_isHex24,
    ← hgenerated.mem_forms_iff h.isBareNumber]
  simp only [hforms]
  constructor
  · rintro ⟨c, rfl | hc, hn⟩
    · have hnormal := normalize_of_trim hgenerated.canonical hn.symm
      have hmem := h.toUpperCase_mem
      rwa [hnormal, hgenerated.canonical.toUpperCase_eq] at hmem
    · rw [hn, (canonical_of_mem_forms h.isBareNumber hc).trim_eq]
      exact hc
  · intro hmem
    exact ⟨d.caseNumber, Or.inr hmem, hgenerated.canonical.trim_eq.symm⟩

/-! ## Agreement -/

variable (P)

/-- What `makeDocketQuery` selects. -/
def docketSelects (firm : Firm Oid) (docketId : String) : List (CaseDocument Oid) :=
  firm.cases.filter fun d => d.deletedAt.isNone && docketQuery P docketId d

/-- The four readings of a string select one docket, the same one, or none of them selects any. -/
def Agree (firm : Firm Oid) (role : Role) (s : String) : Prop :=
  (∃ d ∈ firm.cases,
    resolveCaseIdentifier P firm s role = .ok (P.toHexString d.caseInternalId) ∧
    findByCaseId P firm s role = .ok (some d) ∧
    updateStatusSelects P firm s = [d] ∧ docketSelects P firm s = [d]) ∨
  ((∀ id, resolveCaseIdentifier P firm s role ≠ .ok id) ∧
    (∀ d, findByCaseId P firm s role ≠ .ok (some d)) ∧
    updateStatusSelects P firm s = [] ∧ docketSelects P firm s = [])

/-- Where `CaseService.updateStatus` has found a docket, and `transitionDocket` has then found one,
the filter of the second half selects the docket that the first half has moved. -/
def HalvesMeet (firm : Firm Oid) (role : Role) (s : String) : Prop :=
  ∀ d e, findByCaseId P firm s role = .ok (some d) →
    firm.findOne (docketQuery P s) = some e → updateStatusSelects P firm s = [e]

/-- The strings on which the readings agree: a case number in any spelling, given by a role that
may read dockets, unless the docket of that number is deleted; and what names no docket. -/
def Unambiguous (firm : Firm Oid) (role : Role) (s : String) : Prop :=
  (role ≠ .SUPER_ADMIN ∧ isValidCaseNumberFormat s = true ∧
    ∀ d ∈ firm.cases, identifierQuery P s d = true → d.deletedAt = none) ∨
  ∀ d ∈ firm.cases, identifierQuery P s d = false ∧
    (d.deletedAt = none → docketQuery P s d = false)

variable {P}

/-- The selection that is true of one element. -/
theorem filter_eq_singleton {α : Type} [DecidableEq α] {l : List α} {a : α} {q : α → Bool}
    (hl : l.Nodup) (ha : a ∈ l) (h : ∀ b ∈ l, q b = true ↔ b = a) : l.filter q = [a] := by
  have hq : l.filter q = l.filter fun b => decide (b = a) := by
    refine List.filter_congr fun b hb => ?_
    rw [Bool.eq_iff_iff, decide_eq_true_eq, h b hb]
  rw [hq, List.filter_eq, List.count_eq_one_of_mem hl ha]
  rfl

theorem live_filter_eq_singleton {firm : Firm Oid} {query : CaseDocument Oid → Bool}
    {d : CaseDocument Oid} (hl : firm.cases.Nodup) (hd : d ∈ firm.cases)
    (hlive : d.deletedAt = none) (h : ∀ e ∈ firm.cases, query e = true ↔ e = d) :
    (firm.cases.filter fun e => e.deletedAt.isNone && query e) = [d] := by
  refine filter_eq_singleton hl hd fun e he => ?_
  rw [Bool.and_eq_true, Option.isNone_iff_eq_none, h e he]
  refine and_iff_right_of_imp ?_
  rintro rfl
  exact hlive

/-- The docket of a number, where the firm has it and it is not deleted, is what all four
readings select. -/
theorem Names.agree_of_mem (hP : P.Documented) (hd : d ∈ firm.cases) (hlive : d.deletedAt = none)
    {s : String} {role : Role} {bare : String} (h : Names s bare)
    (hn : d.caseNumber = NumberPrefix.CASE.join bare) (hrole : role ≠ .SUPER_ADMIN) :
    resolveCaseIdentifier P firm.toFirm s role = .ok (P.toHexString d.caseInternalId) ∧
      findByCaseId P firm.toFirm s role = .ok (some d) ∧
      updateStatusSelects P firm.toFirm s = [d] ∧ docketSelects P firm.toFirm s = [d] := by
  have hnodup : firm.cases.Nodup := List.Nodup.of_map _ firm.caseNumber_unique
  have hsame : ∀ e ∈ firm.cases, e.caseNumber = NumberPrefix.CASE.join bare ↔ e = d := by
    intro e he
    rw [← hn]
    exact ⟨List.inj_on_of_nodup_map firm.caseNumber_unique he hd, fun heq => heq ▸ rfl⟩
  have hidentifier : ∀ e ∈ firm.cases, identifierQuery P s e = true ↔ e = d := fun e he =>
    (h.identifierQuery_iff hP he).trans (hsame e he)
  have hdocket : ∀ e ∈ firm.cases, docketQuery P s e = true ↔ e = d := fun e he =>
    (h.docketQuery_iff hP he).trans (hsame e he)
  have hfind : firm.findOne (identifierQuery P s) = some d := by
    rw [Firm.findOne, ← List.head?_filter, live_filter_eq_singleton hnodup hd hlive hidentifier]
    rfl
  have hresolved : resolvedCase P firm.toFirm s = some d := by
    rw [resolvedCase, newObjectId_eq_none hP h.not_isHex24,
      if_pos (isValidCaseNumberFormat_iff.mpr ⟨bare, h⟩), hfind]
  exact ⟨(resolveCaseIdentifier_eq_ok hP).mpr ⟨hrole, d, hresolved, rfl⟩,
    (findByIdentifier_eq_ok h.ne_empty).mpr ⟨hrole, hfind⟩,
    filter_eq_singleton hnodup hd hidentifier,
    live_filter_eq_singleton hnodup hd hlive hdocket⟩

/-- What the resolver looks for is selected by one of the queries. -/
theorem selected_of_resolvedCase {firm : Firm Oid} {s : String} {d : CaseDocument Oid}
    (h : resolvedCase P firm s = some d) :
    identifierQuery P s d = true ∨ docketQuery P s d = true := by
  rw [resolvedCase] at h
  cases ho : P.newObjectId s with
  | none =>
    rw [ho] at h
    dsimp only at h
    split_ifs at h
    exact Or.inl (mem_of_findOne h).2.2
  | some o =>
    rw [ho] at h
    have hid := (mem_of_findOne h).2.2
    rw [docketQuery, ho, Option.any_some, hid, Bool.true_or, Bool.or_true]
    exact Or.inr rfl

/-- Nothing is resolved where no query selects anything. -/
theorem agree_of_none (hP : P.Documented) {firm : Firm Oid} {role : Role} {s : String}
    (h : ∀ d ∈ firm.cases, identifierQuery P s d = false ∧
      (d.deletedAt = none → docketQuery P s d = false)) : Agree P firm role s := by
  have hfind : ∀ d, firm.findOne (identifierQuery P s) ≠ some d := by
    intro d hfind
    obtain ⟨hd, -, hquery⟩ := mem_of_findOne hfind
    rw [(h d hd).1] at hquery
    exact Bool.false_ne_true hquery
  refine Or.inr ⟨?_, ?_, ?_, ?_⟩
  · intro id hok
    obtain ⟨-, d, hd, -⟩ := (resolveCaseIdentifier_eq_ok hP).mp hok
    obtain ⟨hmem, hlive⟩ := mem_of_resolvedCase hd
    have hneither := h d hmem
    rcases selected_of_resolvedCase hd with hquery | hquery
    · rw [hneither.1] at hquery
      exact Bool.false_ne_true hquery
    · rw [hneither.2 hlive] at hquery
      exact Bool.false_ne_true hquery
  · intro d hok
    by_cases hs : s = ""
    · subst hs
      exact absurd hok (by simp [findByCaseId, findByIdentifier])
    · exact hfind d ((findByIdentifier_eq_ok hs).mp hok).2
  · exact List.filter_eq_nil_iff.mpr fun d hd => by simp [(h d hd).1]
  · refine List.filter_eq_nil_iff.mpr fun d hd => ?_
    rw [Bool.and_eq_true, Option.isNone_iff_eq_none]
    rintro ⟨hlive, hquery⟩
    rw [(h d hd).2 hlive] at hquery
    exact Bool.false_ne_true hquery

/-- Where the readings agree, the two halves of a status update meet. -/
theorem Agree.halvesMeet {firm : Firm Oid} {role : Role} {s : String}
    (h : Agree P firm role s) : HalvesMeet P firm role s := by
  intro d e hfound hdocket
  rw [Firm.findOne, ← List.head?_filter] at hdocket
  rcases h with ⟨a, -, -, -, hselects, hsame⟩ | ⟨-, hnone, -, -⟩
  · have hhead : (docketSelects P firm s).head? = some e := hdocket
    rw [hsame, List.head?_cons, Option.some.injEq] at hhead
    rw [hselects, hhead]
  · exact absurd hfound (hnone d)

theorem Unambiguous.agree (hP : P.Documented) {role : Role} {s : String}
    (h : Unambiguous P firm.toFirm role s) : Agree P firm.toFirm role s := by
  rcases h with ⟨hrole, hformat, hlive⟩ | hnone
  · obtain ⟨bare, hnames⟩ := isValidCaseNumberFormat_iff.mp hformat
    by_cases hmem : ∃ d ∈ firm.cases, d.caseNumber = NumberPrefix.CASE.join bare
    · obtain ⟨d, hd, hn⟩ := hmem
      have hd_live := hlive d hd ((hnames.identifierQuery_iff hP hd).mpr hn)
      exact Or.inl ⟨d, hd, hnames.agree_of_mem hP hd hd_live hn hrole⟩
    · refine agree_of_none hP fun d hd => ?_
      have hn : ¬d.caseNumber = NumberPrefix.CASE.join bare := fun hn => hmem ⟨d, hd, hn⟩
      rw [← Bool.not_eq_true, ← Bool.not_eq_true, hnames.identifierQuery_iff hP hd,
        hnames.docketQuery_iff hP hd]
      exact ⟨hn, fun _ => hn⟩
  · exact agree_of_none hP hnone

theorem Agree.unambiguous (hP : P.Documented) {role : Role} {s : String}
    (h : Agree P firm.toFirm role s) : Unambiguous P firm.toFirm role s := by
  rcases h with ⟨d, hd, hresolve, hfound, hselects, -⟩ | ⟨-, -, hselects, hdocket⟩
  · obtain ⟨hrole, e, he, -⟩ := (resolveCaseIdentifier_eq_ok hP).mp hresolve
    have hs : s ≠ "" := by
      rintro rfl
      exact absurd hfound (by simp [findByCaseId, findByIdentifier])
    obtain ⟨-, hlive, hquery⟩ := mem_of_findOne ((findByIdentifier_eq_ok hs).mp hfound).2
    -- What the repository finds is named by no object id, so the resolver has read a number.
    have hhex : isHex24 s = false := by
      rw [← Bool.not_eq_true]
      intro hhex
      rw [identifierQuery_of_isHex24 hP hd hhex] at hquery
      exact Bool.false_ne_true hquery
    rw [resolvedCase, newObjectId_eq_none hP hhex] at he
    dsimp only at he
    split_ifs at he with hformat
    refine Or.inl ⟨hrole, hformat, ?_⟩
    intro a ha hselected
    have hmem : a ∈ updateStatusSelects P firm.toFirm s := List.mem_filter.mpr ⟨ha, hselected⟩
    rw [hselects, List.mem_singleton] at hmem
    rw [hmem, hlive]
  · refine Or.inr fun d hd => ⟨?_, fun hlive => ?_⟩
    · exact Bool.not_eq_true _ ▸ List.filter_eq_nil_iff.mp hselects d hd
    · have := List.filter_eq_nil_iff.mp hdocket d hd
      rw [hlive] at this
      simpa using this

/-- The readings of a string agree exactly when it is a case number whose docket is not deleted,
or names nothing. -/
theorem agree_iff (hP : P.Documented) (firm : GeneratedFirm Oid) (role : Role) (s : String) :
    (Agree P firm.toFirm role s ∧ HalvesMeet P firm.toFirm role s) ↔
      Unambiguous P firm.toFirm role s :=
  ⟨fun h => h.1.unambiguous hP, fun h => ⟨h.agree hP, (h.agree hP).halvesMeet⟩⟩

/-- The object ids of two dockets. -/
def firstId : HexId := ⟨"65f0c3a2b1d4e5f60718293a", by decide⟩

def firstInternalId : HexId := ⟨"65f0c3a2b1d4e5f60718293b", by decide⟩

def secondId : HexId := ⟨"65f0c3a2b1d4e5f60718293c", by decide⟩

def secondInternalId : HexId := ⟨"65f0c3a2b1d4e5f60718293d", by decide⟩

/-- A firm with a docket of each format. -/
def twoDockets : GeneratedFirm HexId where
  cases :=
    [{ _id := firstId
       caseInternalId := firstInternalId
       caseNumber := "CASE-20260308-00001"
       caseId := some "CASE-20260308-00001"
       clientId := none
       deletedAt := none },
     { _id := secondId
       caseInternalId := secondInternalId
       caseNumber := "CO202603084821"
       caseId := some "CO202603084821"
       clientId := none
       deletedAt := none }]
  caseInternalId_unique := by decide
  caseNumber_generated := by decide
  caseId_eq := by decide
  caseNumber_unique := by decide
  _id_unique := by decide
  _id_ne_caseInternalId := by decide

/-- The readings agree on a case number in an odd spelling, and on a number that no docket has. -/
theorem agree_iff_number :
    (updateStatusSelects asciiPlatform twoDockets.toFirm "docket_20260308 00001").length = 1 ∧
    (Agree asciiPlatform twoDockets.toFirm .ADMIN "docket_20260308 00001" ∧
      HalvesMeet asciiPlatform twoDockets.toFirm .ADMIN "docket_20260308 00001") ∧
    Unambiguous asciiPlatform twoDockets.toFirm .ADMIN "20260308-00002" :=
  ⟨by decide,
    (agree_iff asciiPlatform_documented twoDockets .ADMIN _).mpr
      (Or.inl ⟨by decide, by decide, by decide⟩),
    Or.inl ⟨by decide, by decide, by decide⟩⟩

/-- They differ on the `caseInternalId` of a docket, which the repository's queries do not read, and
on a docket id, which the resolver refuses. -/
theorem agree_fails :
    ¬Agree asciiPlatform twoDockets.toFirm .ADMIN "65f0c3a2b1d4e5f60718293b" ∧
    ¬Agree asciiPlatform twoDockets.toFirm .ADMIN "CO202603084821" := by
  constructor
  · rintro (⟨d, -, -, hfound, -, -⟩ | ⟨-, -, -, hdocket⟩)
    · have hnone : findByCaseId asciiPlatform twoDockets.toFirm "65f0c3a2b1d4e5f60718293b" .ADMIN =
          .ok none := by decide
      rw [hnone] at hfound
      exact absurd hfound (by simp)
    · exact absurd hdocket (by decide)
  · rintro (⟨d, -, hresolve, -, -, -⟩ | ⟨-, -, hselects, -⟩)
    · have hnone : (resolveCaseIdentifier asciiPlatform twoDockets.toFirm "CO202603084821"
          .ADMIN).toOption = none := by decide
      rw [hresolve] at hnone
      exact absurd hnone (by simp [Except.toOption])
    · exact absurd hselects (by decide)

/-! ## The two halves of a status update -/

/-- The caseless comparison of the database takes no letters as one that differ in capitals, but
where a capital beyond ASCII stands for an ASCII letter. -/
def FoldsToCapitals {Oid : Type} (P : Platform Oid) : Prop :=
  ∀ candidate text, isAscii text = true → P.matchesCaseless candidate text = true →
    P.toUpperCase candidate = toUpperCase text ∨
      ∃ c ∈ (P.toUpperCase candidate).toList, 128 ≤ c.toNat ∧ isWhitespace c = false

theorem mem_trimList {l : List Char} {c : Char} (hc : c ∈ l) (hspace : isWhitespace c = false) :
    c ∈ trimList l := by
  have hdrop : ∀ m : List Char, c ∈ m → c ∈ m.dropWhile isWhitespace := by
    intro m hm
    rw [← List.takeWhile_append_dropWhile (p := isWhitespace) (l := m), List.mem_append] at hm
    refine hm.resolve_left fun htake => ?_
    rw [List.mem_takeWhile_imp htake] at hspace
    exact Bool.noConfusion hspace
  rw [trimList, List.rdropWhile, List.mem_reverse]
  exact hdrop _ (List.mem_reverse.mpr (hdrop l hc))

/-- Every form of a number has the letters beyond ASCII that the string has. -/
theorem mem_of_mem_numberForms {n form : String} {c : Char} (hc : c ∈ n.toList)
    (hbeyond : 128 ≤ c.toNat) (hform : form ∈ numberForms n) : c ∈ form.toList := by
  have hjoin : ∀ (p : NumberPrefix) (s : String), c ∈ s.toList → c ∈ (p.join s).toList := by
    intro p s hs
    rw [toList_join]
    exact List.mem_append_right _ hs
  rw [numberForms] at hform
  cases hmatch : matchPrefix n with
  | none =>
    simp only [hmatch, List.mem_cons, List.not_mem_nil, or_false] at hform
    rcases hform with rfl | rfl | rfl
    · exact hc
    · exact hjoin _ _ hc
    · exact hjoin _ _ hc
  | some groups =>
    obtain ⟨p, bare⟩ := groups
    obtain ⟨head, hn, hhead⟩ := stripPrefix_eq_some.mp (matchPrefix_eq_some.mp hmatch).1
    have hbare : c ∈ bare.toList := by
      rw [hn, List.mem_append] at hc
      refine hc.resolve_left fun hword => ?_
      have hupper : c.toUpper ∈ (p.value ++ "-").toList := hhead ▸ List.mem_map_of_mem hword
      have hword_ascii := isCanonical_iff.mp (isCanonical_word p _ hupper)
      have := toNat_lt_of_toUpper (show c.toUpper.toNat < 128 by omega)
      omega
    simp only [hmatch, prefixedForms, List.mem_cons, List.not_mem_nil, or_false] at hform
    rcases hform with rfl | rfl | rfl
    · exact hjoin _ _ hbare
    · exact hjoin _ _ hbare
    · exact hbare

/-- Every form of a canonical text is canonical. -/
theorem Canonical.of_mem_numberForms {n form : String} (h : Canonical n)
    (hform : form ∈ numberForms n) : Canonical form := by
  rw [numberForms] at hform
  cases hmatch : matchPrefix n with
  | none =>
    simp only [hmatch, List.mem_cons, List.not_mem_nil, or_false] at hform
    rcases hform with rfl | rfl | rfl
    · exact h
    · exact h.join _
    · exact h.join _
  | some groups =>
    obtain ⟨p, bare⟩ := groups
    obtain ⟨head, hn, -⟩ := stripPrefix_eq_some.mp (matchPrefix_eq_some.mp hmatch).1
    have hbare : Canonical bare := fun c hc =>
      h c (hn ▸ List.mem_append_right head hc)
    simp only [hmatch, prefixedForms, List.mem_cons, List.not_mem_nil, or_false] at hform
    rcases hform with rfl | rfl | rfl
    · exact hbare.join _
    · exact hbare.join _
    · exact hbare

theorem stripPrefix_join (p : NumberPrefix) (s : String) : stripPrefix p (p.join s) = some s := by
  refine stripPrefix_eq_some.mpr ⟨_, toList_join p s, ?_⟩
  cases p <;> decide

/-- Of the forms of a generated number, only the number itself is generated. -/
theorem IsGenerated.eq_of_mem_numberForms {n m : String} (hn : IsGenerated n) (hm : IsGenerated m)
    (h : m ∈ numberForms n) : m = n := by
  rcases hn with hcase | hdocket
  · obtain ⟨bare, hbare, rfl⟩ := eq_join_of_isValidCaseIdFormat hcase
    have hforms := (numberForms_of_mem_forms hbare
      (List.mem_cons_of_mem _ List.mem_cons_self)).mp h
    exact (hm.mem_forms_iff hbare).mp hforms
  · have hhyphen := hyphen_notMem_of_isValidDocketIdFormat hdocket
    have hnone : matchPrefix n = none := by
      rw [Option.eq_none_iff_forall_ne_some]
      rintro ⟨p, bare⟩ hmatch
      have hupper := toUpperCase_of_matchPrefix hmatch
      rw [(IsGenerated.canonical (Or.inr hdocket)).toUpperCase_eq] at hupper
      exact hhyphen (hupper ▸ hyphen_mem_join p _)
    -- A docket id after a word is neither of the two formats.
    have hjoin : ∀ p : NumberPrefix, m ≠ p.join n := by
      rintro p rfl
      rcases hm with hm | hm
      · obtain ⟨bare, hbare, heq⟩ := eq_join_of_isValidCaseIdFormat hm
        have hstrip := stripPrefix_join p n
        rw [heq] at hstrip
        have hsame := (stripPrefix_unique hstrip (stripPrefix_join .CASE bare)).2
        exact hhyphen (hsame ▸ hyphen_mem_of_isBareNumber hbare)
      · exact hyphen_notMem_of_isValidDocketIdFormat hm (hyphen_mem_join p n)
    simp only [numberForms, hnone, List.mem_cons, List.not_mem_nil, or_false] at h
    rcases h with h | h | h
    · exact h
    · exact absurd h (hjoin _)
    · exact absurd h (hjoin _)

/-- The number that `makeDocketQuery` selects is the upper case of the string, where that is a
generated number, and it selects none where a letter beyond ASCII is left in it. -/
theorem caseNumber_of_docketQuery (hP : P.Documented) (hd : d ∈ firm.cases) {s n : String}
    (hs : s ≠ "") (hhex : isHex24 s = false) (hquery : docketQuery P s d = true)
    (hupper : (P.toUpperCase (normalize s) = n ∧ IsGenerated n) ∨
      ∃ c ∈ (P.toUpperCase (normalize s)).toList, 128 ≤ c.toNat ∧ isWhitespace c = false) :
    P.toUpperCase (normalize s) = n ∧ d.caseNumber = n := by
  have hgenerated := firm.caseNumber_generated d hd
  obtain ⟨c, hc, hn⟩ := (docketQuery_iff_of_not_isHex24 hP hd hs hhex).mp hquery
  -- A string that is the number but for white space is the number in capitals too.
  have hself : c = s → P.toUpperCase (normalize s) = d.caseNumber := by
    rintro rfl
    rw [normalize_of_trim hgenerated.canonical hn.symm,
      hP.toUpperCase_ascii _ (hgenerated.canonical.isAscii),
      hgenerated.canonical.toUpperCase_eq]
  rcases hupper with ⟨hupper, hnumber⟩ | ⟨x, hx, hbeyond, hspace⟩
  · refine ⟨hupper, ?_⟩
    rcases hc with hc | hc
    · rw [← hself hc, hupper]
    · rw [hupper] at hc
      rw [hn, (hnumber.canonical.of_mem_numberForms hc).trim_eq]
      refine hnumber.eq_of_mem_numberForms ?_ hc
      rwa [hn, (hnumber.canonical.of_mem_numberForms hc).trim_eq]
        at hgenerated
  · have hmem : x ∈ d.caseNumber.toList := by
      rcases hc with hc | hc
      · exact hself hc ▸ hx
      · rw [hn, trim, String.toList_ofList]
        exact mem_trimList (mem_of_mem_numberForms hx hbeyond hc) hspace
    have := isCanonical_iff.mp (hgenerated.canonical x hmem)
    omega

/-- For every string, what `transitionDocket` finds after `findByCaseId` is what the filter of
`updateStatus` selects, so no status update stops half way for the identifier it was given. -/
theorem halvesMeet (hP : P.Documented) (hfold : FoldsToCapitals P) (firm : GeneratedFirm Oid)
    (role : Role) (s : String) : HalvesMeet P firm.toFirm role s := by
  intro d e hfound hdocket
  have hs : s ≠ "" := by
    rintro rfl
    exact absurd hfound (by simp [findByCaseId, findByIdentifier])
  obtain ⟨hrole, hfind⟩ := (findByIdentifier_eq_ok hs).mp hfound
  obtain ⟨hd, -, hdquery⟩ := mem_of_findOne hfind
  obtain ⟨he, helive, hequery⟩ := mem_of_findOne hdocket
  by_cases hformat : isValidCaseNumberFormat s = true
  · obtain ⟨bare, hnames⟩ := isValidCaseNumberFormat_iff.mp hformat
    exact (hnames.agree_of_mem hP he helive ((hnames.docketQuery_iff hP he).mp hequery)
      hrole).2.2.1
  · have hhex : isHex24 s = false := by
      rw [← Bool.not_eq_true]
      intro hhex
      rw [identifierQuery_of_isHex24 hP hd hhex] at hdquery
      exact Bool.false_ne_true hdquery
    -- A docket that the repository selects has the string in capitals for its number.
    have hnumber : ∀ a ∈ firm.cases, identifierQuery P s a = true →
        P.toUpperCase (normalize s) = a.caseNumber ∧ e.caseNumber = a.caseNumber := by
      intro a ha hselected
      have hgenerated := firm.caseNumber_generated a ha
      obtain ⟨c, hc, hmatch⟩ := (Identifiers.identifierQuery_iff ha).mp hselected
      rw [eq_normalize_of_mem hformat hc] at hmatch
      have hfolded := hfold _ _ (hgenerated.canonical.isAscii) hmatch
      rw [hgenerated.canonical.toUpperCase_eq] at hfolded
      exact caseNumber_of_docketQuery hP he hs hhex hequery
        (hfolded.imp_left fun h => ⟨h, hgenerated⟩)
    have hsame : ∀ a ∈ firm.cases, identifierQuery P s a = true → a = e := fun a ha hselected =>
      List.inj_on_of_nodup_map firm.caseNumber_unique ha he (hnumber a ha hselected).2.symm
    have hde := hsame d hd hdquery
    refine filter_eq_singleton (List.Nodup.of_map _ firm.caseNumber_unique) he fun a ha => ?_
    refine ⟨hsame a ha, ?_⟩
    rintro rfl
    exact hde ▸ hdquery

end Docketra.Identifiers
