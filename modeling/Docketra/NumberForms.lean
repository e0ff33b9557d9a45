import Mathlib.Data.List.Nodup
import Docketra.Decimal
import Docketra.Identifiers

/-!
# The forms of a case number

A case number is a date and a sequence, bare or after one of two words, and a string in any of the
forms names the same number: `Names`. The candidates that the repository and the resolver make of
such a string are its three forms, in one order or another, so the loop of
`resolveCaseIdentifier` makes the same query each time, and one query is enough
(`resolveCaseIdentifier_eq_ok`).
-/

namespace Docketra.Identifiers

open Checked

/-! ## Characters -/

/-- A capital, a digit, or a hyphen. -/
def isCanonical (c : Char) : Bool := c.isUpper || isNumeric c

theorem isCanonical_iff {c : Char} :
    isCanonical c = true ↔ (65 ≤ c.toNat ∧ c.toNat ≤ 90) ∨ (45 ≤ c.toNat ∧ c.toNat ≤ 57) := by
  have hupper : c.isUpper = true ↔ 65 ≤ c.toNat ∧ c.toNat ≤ 90 := decide_eq_true_iff
  rw [isCanonical, Bool.or_eq_true, isNumeric_iff, hupper]

theorem toUpper_of_isCanonical {c : Char} (h : isCanonical c = true) : c.toUpper = c := by
  rw [isCanonical_iff] at h
  rw [← Char.toNat_inj, toNat_toUpper, if_neg (by omega)]

theorem isSeparator_iff {c : Char} :
    isSeparator c = true ↔ c.toNat = 95 ∨ isWhitespace c = true := by
  rw [isSeparator, Bool.or_eq_true, beq_iff_eq, ← Char.toNat_inj]
  rfl

theorem not_isSeparator_of_isCanonical {c : Char} (h : isCanonical c = true) :
    isSeparator c = false := by
  rw [isCanonical_iff] at h
  rw [← Bool.not_eq_true, isSeparator_iff]
  simp only [isWhitespace, Bool.or_eq_true, Bool.and_eq_true, beq_iff_eq, decide_eq_true_eq]
  omega

/-! ## Normalization -/

theorem hyphenate_eq_self {l : List Char} (h : ∀ c ∈ l, isSeparator c = false) :
    hyphenate l = l := by
  induction l with
  | nil => rfl
  | cons c cs ih =>
    rw [hyphenate, if_neg (by rw [h c List.mem_cons_self]; exact Bool.false_ne_true),
      ih fun d hd => h d (List.mem_cons_of_mem c hd)]

theorem trimList_of_not_isSeparator {l : List Char} (h : ∀ c ∈ l, isSeparator c = false) :
    trimList l = l := by
  have hspace : ∀ c ∈ l, isWhitespace c = false := by
    intro c hc
    have hseparator := h c hc
    rw [isSeparator, Bool.or_eq_false_iff] at hseparator
    exact hseparator.2
  exact trimList_eq_self (fun c hc => hspace c (List.mem_of_mem_head? hc))
    fun c hc => hspace c (List.mem_of_mem_getLast? hc)

/-- A string without separators is its own normal form. -/
theorem normalize_eq_self {s : String} (h : ∀ c ∈ s.toList, isSeparator c = false) :
    normalize s = s := by
  rw [normalize, trimList_of_not_isSeparator h, hyphenate_eq_self h, String.ofList_toList]

theorem toUpperCase_eq_self {s : String} (h : ∀ c ∈ s.toList, c.toUpper = c) :
    toUpperCase s = s := by
  rw [toUpperCase, List.map_congr_left h, List.map_id', String.ofList_toList]

/-! ## Canonical text -/

/-- A text that is left as it is by the normalization, by the upper case, and by the setters. -/
def Canonical (s : String) : Prop := ∀ c ∈ s.toList, isCanonical c = true

theorem Canonical.toUpperCase_eq {s : String} (h : Canonical s) : toUpperCase s = s :=
  toUpperCase_eq_self fun c hc => toUpper_of_isCanonical (h c hc)

theorem Canonical.normalize_eq {s : String} (h : Canonical s) : normalize s = s :=
  normalize_eq_self fun c hc => not_isSeparator_of_isCanonical (h c hc)

theorem Canonical.trim_eq {s : String} (h : Canonical s) : trim s = s := by
  rw [trim, trimList_of_not_isSeparator fun c hc => not_isSeparator_of_isCanonical (h c hc),
    String.ofList_toList]

theorem Canonical.isAscii {s : String} (h : Canonical s) : isAscii s = true := by
  rw [Identifiers.isAscii, List.all_eq_true]
  intro c hc
  have := isCanonical_iff.mp (h c hc)
  rw [decide_eq_true_eq]
  omega

theorem toList_join (p : NumberPrefix) (bare : String) :
    (p.join bare).toList = (p.value ++ "-").toList ++ bare.toList := by
  rw [NumberPrefix.join, String.toList_append]

/-- The words and the hyphen are canonical. -/
theorem isCanonical_word (p : NumberPrefix) :
    ∀ c ∈ (p.value ++ "-").toList, isCanonical c = true := by
  rw [← List.all_eq_true]
  cases p <;> rfl

/-- A canonical text is canonical after a word. -/
theorem Canonical.join {s : String} (h : Canonical s) (p : NumberPrefix) :
    Canonical (p.join s) := by
  intro c hc
  rw [toList_join, List.mem_append] at hc
  rcases hc with hc | hc
  · exact isCanonical_word p c hc
  · exact h c hc

/-! ## Numbers -/

theorem length_of_isBareNumber {bare : String} (h : isBareNumber bare = true) :
    bare.toList.length = 14 := by
  simp only [isBareNumber, Bool.and_eq_true, beq_iff_eq] at h
  exact h.1.1.1

/-- What a bare number is made of. -/
theorem isNumeric_of_isBareNumber {bare : String} (h : isBareNumber bare = true) {c : Char}
    (hc : c ∈ bare.toList) : isNumeric c = true := by
  have hlength := length_of_isBareNumber h
  simp only [isBareNumber, Bool.and_eq_true, List.all_eq_true, beq_iff_eq] at h
  obtain ⟨⟨⟨-, hdate⟩, hhyphen⟩, hsequence⟩ := h
  have hdrop : bare.toList.drop 8 = '-' :: bare.toList.drop 9 := by
    rw [List.drop_eq_getElem_cons (by omega), ← Option.some_inj.mp
      ((List.getElem?_eq_getElem (by omega)).symm.trans hhyphen)]
  rw [← List.take_append_drop 8 bare.toList, hdrop, List.mem_append, List.mem_cons] at hc
  rcases hc with hc | rfl | hc
  · exact isNumeric_of_isDigit (hdate c hc)
  · decide
  · exact isNumeric_of_isDigit (hsequence c hc)

theorem canonical_of_isBareNumber {bare : String} (h : isBareNumber bare = true) :
    Canonical bare := by
  intro c hc
  rw [isCanonical, isNumeric_of_isBareNumber h hc, Bool.or_true]

theorem isLine_of_isBareNumber {bare : String} (h : isBareNumber bare = true) :
    isLine bare = true := by
  have hlength := length_of_isBareNumber h
  simp only [isLine, Bool.and_eq_true, Bool.not_eq_true', List.isEmpty_eq_false_iff,
    List.all_eq_true, bne_iff_ne]
  refine ⟨List.ne_nil_of_length_pos (by omega), ?_⟩
  intro c hc
  have hnumeric := isNumeric_iff.mp (isNumeric_of_isBareNumber h hc)
  have hnewline : ∀ d : Char, c = d → c.toNat = d.toNat := fun d => congrArg Char.toNat
  refine ⟨⟨⟨?_, ?_⟩, ?_⟩, ?_⟩
  · exact fun heq => absurd (hnewline _ heq ▸ hnumeric) (by decide)
  · exact fun heq => absurd (hnewline _ heq ▸ hnumeric) (by decide)
  · omega
  · omega

/-! ## Words before a number -/

/-- The word, its hyphen, and what follows them. -/
theorem stripPrefix_eq_some {p : NumberPrefix} {s bare : String} :
    stripPrefix p s = some bare ↔
      ∃ head, s.toList = head ++ bare.toList ∧ head.map Char.toUpper = (p.value ++ "-").toList := by
  rw [stripPrefix]
  constructor
  · intro h
    split_ifs at h with hhead
    refine ⟨s.toList.take (p.value ++ "-").toList.length, ?_, hhead⟩
    rw [← Option.some_inj.mp h, String.toList_ofList, List.take_append_drop]
  · rintro ⟨head, hs, hhead⟩
    have hlength : (p.value ++ "-").toList.length = head.length := by
      rw [← hhead, List.length_map]
    rw [hlength, hs, List.take_left, if_pos hhead, List.drop_left, String.ofList_toList]

/-- Only one of the two words starts a string. -/
theorem stripPrefix_unique {p q : NumberPrefix} {s b b' : String} (h : stripPrefix p s = some b)
    (h' : stripPrefix q s = some b') : p = q ∧ b = b' := by
  obtain ⟨head, hs, hhead⟩ := stripPrefix_eq_some.mp h
  obtain ⟨head', hs', hhead'⟩ := stripPrefix_eq_some.mp h'
  have hfirst : ∀ {r : NumberPrefix} {l m : List Char},
      l.map Char.toUpper = (r.value ++ "-").toList → s.toList = l ++ m →
        s.toList.head?.map Char.toUpper = (r.value ++ "-").toList.head? := by
    intro r l m hl hs
    cases l with
    | nil => cases r <;> exact absurd hl (by decide)
    | cons c cs => rw [hs, ← hl]; rfl
  have hpq : p = q := by
    have := (hfirst hhead hs).symm.trans (hfirst hhead' hs')
    cases p <;> cases q <;> first | rfl | exact absurd this (by decide)
  subst hpq
  have hlength : head.length = head'.length := by
    have := congrArg List.length (hhead.trans hhead'.symm)
    rwa [List.length_map, List.length_map] at this
  have := (List.append_inj (hs.symm.trans hs') hlength).2
  exact ⟨rfl, String.toList_inj.mp this⟩

theorem matchPrefix_eq_some {s bare : String} {p : NumberPrefix} :
    matchPrefix s = some (p, bare) ↔ stripPrefix p s = some bare ∧ isLine bare = true := by
  have hunique := fun {q b'} (h' : stripPrefix q s = some b') (h : stripPrefix p s = some bare) =>
    stripPrefix_unique h h'
  rw [matchPrefix, Option.filter_eq_some_iff]
  refine and_congr_left fun _ => ?_
  cases hcase : stripPrefix .CASE s with
  | some b =>
    simp only [Option.map_some, Option.some_or, Option.some.injEq, Prod.mk.injEq]
    constructor
    · rintro ⟨rfl, rfl⟩
      exact hcase
    · intro h
      exact (hunique hcase h).imp Eq.symm Eq.symm
  | none =>
    cases hdocket : stripPrefix .DOCKET s with
    | some b =>
      simp only [Option.map_some, Option.map_none, Option.none_or, Option.some.injEq, Prod.mk.injEq]
      constructor
      · rintro ⟨rfl, rfl⟩
        exact hdocket
      · intro h
        exact (hunique hdocket h).imp Eq.symm Eq.symm
    | none => cases p <;> simp [hcase, hdocket]

theorem matchPrefix_join {bare : String} (p : NumberPrefix) (h : isLine bare = true) :
    matchPrefix (p.join bare) = some (p, bare) := by
  refine matchPrefix_eq_some.mpr ⟨stripPrefix_eq_some.mpr ⟨_, toList_join p bare, ?_⟩, h⟩
  cases p <;> decide

/-- A match, put in capitals, is the word before the rest in capitals. -/
theorem toUpperCase_of_matchPrefix {s bare : String} {p : NumberPrefix}
    (h : matchPrefix s = some (p, bare)) : toUpperCase s = p.join (toUpperCase bare) := by
  obtain ⟨head, hs, hhead⟩ := stripPrefix_eq_some.mp (matchPrefix_eq_some.mp h).1
  rw [← String.toList_inj, toList_join, toUpperCase, String.toList_ofList, hs, List.map_append,
    hhead, toUpperCase, String.toList_ofList]

/-! ## The number that a string names -/

/-- The string is the number, bare or after a word, but for the case of the word, the white space
around it, and the separators in it. -/
structure Names (s bare : String) : Prop where
  isBareNumber : isBareNumber bare = true
  form : normalize s = bare ∨ ∃ p, matchPrefix (normalize s) = some (p, bare)

/-- The format check accepts exactly the strings that name a number. -/
theorem isValidCaseNumberFormat_iff {s : String} :
    isValidCaseNumberFormat s = true ↔ ∃ bare, Names s bare := by
  rw [isValidCaseNumberFormat, Bool.or_eq_true, Option.any_eq_true]
  constructor
  · rintro (⟨⟨p, bare⟩, hmatch, hbare⟩ | hbare)
    · exact ⟨bare, hbare, Or.inr ⟨p, hmatch⟩⟩
    · exact ⟨normalize s, hbare, Or.inl rfl⟩
  · rintro ⟨bare, hbare, hform⟩
    rcases hform with rfl | ⟨p, hmatch⟩
    · exact Or.inr hbare
    · exact Or.inl ⟨(p, bare), hmatch, hbare⟩

/-- The bare number, and the number after either word. -/
def forms (bare : String) : List String :=
  [bare, NumberPrefix.CASE.join bare, NumberPrefix.DOCKET.join bare]

theorem mem_prefixedForms {p : NumberPrefix} {bare c : String} :
    c ∈ prefixedForms p bare ↔ c ∈ forms bare := by
  cases p <;> simp only [prefixedForms, forms, NumberPrefix.other, List.mem_cons,
    List.not_mem_nil, or_false] <;> tauto

/-- The length of a string after a word. -/
theorem length_of_matchPrefix {s bare : String} {p : NumberPrefix}
    (h : matchPrefix s = some (p, bare)) :
    s.toList.length = (p.value ++ "-").toList.length + bare.toList.length := by
  obtain ⟨head, hs, hhead⟩ := stripPrefix_eq_some.mp (matchPrefix_eq_some.mp h).1
  rw [hs, List.length_append, ← hhead, List.length_map]

theorem length_value_pos (p : NumberPrefix) : 0 < (p.value ++ "-").toList.length := by
  cases p <;> decide

/-- The candidates of the repository are the forms of the number. -/
theorem Names.mem_getIdentifierCandidates {s bare c : String} (h : Names s bare) :
    c ∈ getIdentifierCandidates s ↔ c ∈ forms bare := by
  have hlength := length_of_isBareNumber h.isBareNumber
  rcases h.form with hform | ⟨p, hmatch⟩
  · have hne : bare ≠ "" := by
      rintro rfl
      exact absurd hlength (by decide)
    rw [getIdentifierCandidates, hform, if_neg hne, if_pos h.isBareNumber, forms]
  · have hlong := length_of_matchPrefix hmatch
    have hpos := length_value_pos p
    have hne : normalize s ≠ "" := by
      intro heq
      rw [heq] at hlong
      simp at hlong
      omega
    have hbare : Identifiers.isBareNumber (normalize s) ≠ true := by
      intro hbare
      have := length_of_isBareNumber hbare
      omega
    rw [getIdentifierCandidates, if_neg hne, if_neg hbare, hmatch]
    simp only [h.isBareNumber, if_true]
    exact mem_prefixedForms

theorem canonical_of_mem_forms {bare c : String} (hbare : isBareNumber bare = true)
    (hc : c ∈ forms bare) : Canonical c := by
  have hdigits := canonical_of_isBareNumber hbare
  simp only [forms, List.mem_cons, List.not_mem_nil, or_false] at hc
  rcases hc with rfl | rfl | rfl
  · exact hdigits
  · exact hdigits.join .CASE
  · exact hdigits.join .DOCKET

/-- Each form of a number names it. -/
theorem names_of_mem_forms {bare c : String} (hbare : isBareNumber bare = true)
    (hc : c ∈ forms bare) : Names c bare := by
  have hline := isLine_of_isBareNumber hbare
  refine ⟨hbare, ?_⟩
  rw [(canonical_of_mem_forms hbare hc).normalize_eq]
  simp only [forms, List.mem_cons, List.not_mem_nil, or_false] at hc
  rcases hc with rfl | rfl | rfl
  · exact Or.inl rfl
  · exact Or.inr ⟨.CASE, matchPrefix_join .CASE hline⟩
  · exact Or.inr ⟨.DOCKET, matchPrefix_join .DOCKET hline⟩

/-- A string names one number. -/
theorem Names.unique {s b b' : String} (h : Names s b) (h' : Names s b') : b = b' := by
  have hlength := length_of_isBareNumber h.isBareNumber
  have hlength' := length_of_isBareNumber h'.isBareNumber
  rcases h.form with hform | ⟨p, hmatch⟩ <;> rcases h'.form with hform' | ⟨q, hmatch'⟩
  · exact hform.symm.trans hform'
  · have := length_of_matchPrefix hmatch'
    have := length_value_pos q
    rw [hform] at *
    omega
  · have := length_of_matchPrefix hmatch
    have := length_value_pos p
    rw [hform'] at *
    omega
  · exact (Prod.mk.inj (Option.some_inj.mp (hmatch.symm.trans hmatch'))).2

theorem Names.ne_empty {s bare : String} (h : Names s bare) : s ≠ "" := by
  rintro rfl
  have hlength := length_of_isBareNumber h.isBareNumber
  have hempty : normalize "" = "" := rfl
  rcases h.form with hform | ⟨p, hmatch⟩
  · rw [← hform, hempty] at hlength
    exact absurd hlength (by decide)
  · have := length_of_matchPrefix hmatch
    have hnil : (normalize "").toList.length = 0 := rfl
    omega

/-- No word is before a bare number. -/
theorem matchPrefix_of_isBareNumber {bare : String} (h : isBareNumber bare = true) :
    matchPrefix bare = none := by
  rw [Option.eq_none_iff_forall_ne_some]
  rintro ⟨p, b⟩ hmatch
  have hupper := toUpperCase_of_matchPrefix hmatch
  rw [(canonical_of_isBareNumber h).toUpperCase_eq] at hupper
  have hmem : ∃ c ∈ bare.toList, isNumeric c = false := by
    rw [hupper, toList_join]
    cases p
    · exact ⟨'C', by simp [NumberPrefix.value], by decide⟩
    · exact ⟨'D', by simp [NumberPrefix.value], by decide⟩
  obtain ⟨c, hc, hfalse⟩ := hmem
  exact absurd (isNumeric_of_isBareNumber h hc) (by rw [hfalse]; exact Bool.false_ne_true)

/-- The upper case of a character is ASCII only of an ASCII one. -/
theorem toNat_lt_of_toUpper {c : Char} (h : c.toUpper.toNat < 128) : c.toNat < 128 := by
  rw [toNat_toUpper] at h
  split_ifs at h <;> omega

theorem isAscii_of_toUpperCase {s : String} (h : isAscii (toUpperCase s) = true) :
    isAscii s = true := by
  simp only [isAscii, List.all_eq_true, decide_eq_true_eq] at h ⊢
  intro c hc
  refine toNat_lt_of_toUpper (h c.toUpper ?_)
  rw [toUpperCase, String.toList_ofList]
  exact List.mem_map_of_mem hc

/-- In capitals, a string that names a number is one of its forms. -/
theorem Names.toUpperCase_mem {s bare : String} (h : Names s bare) :
    toUpperCase (normalize s) ∈ forms bare := by
  rcases h.form with hform | ⟨p, hmatch⟩
  · rw [hform, (canonical_of_isBareNumber h.isBareNumber).toUpperCase_eq]
    exact List.mem_cons_self
  · rw [toUpperCase_of_matchPrefix hmatch, (canonical_of_isBareNumber h.isBareNumber).toUpperCase_eq]
    exact mem_prefixedForms.mp List.mem_cons_self

theorem numberForms_of_mem_forms {bare n c : String} (hbare : isBareNumber bare = true)
    (hn : n ∈ forms bare) : c ∈ numberForms n ↔ c ∈ forms bare := by
  have hjoin : ∀ p : NumberPrefix, c ∈ numberForms (p.join bare) ↔ c ∈ forms bare := by
    intro p
    rw [numberForms, matchPrefix_join p (isLine_of_isBareNumber hbare)]
    exact mem_prefixedForms
  simp only [forms, List.mem_cons, List.not_mem_nil, or_false] at hn
  rcases hn with rfl | rfl | rfl
  · rw [numberForms, matchPrefix_of_isBareNumber hbare, forms]
  · exact hjoin .CASE
  · exact hjoin .DOCKET

/-! ## One query is enough -/

variable {Oid : Type} {P : Platform Oid}

theorem Names.platform_toUpperCase (hP : P.Documented) {s bare : String} (h : Names s bare) :
    P.toUpperCase (normalize s) = toUpperCase (normalize s) :=
  hP.toUpperCase_ascii _ (isAscii_of_toUpperCase
    (canonical_of_mem_forms h.isBareNumber h.toUpperCase_mem).isAscii)

/-- The candidates of the resolver are the forms of the number. -/
theorem Names.mem_getCaseNumberCandidates (hP : P.Documented) {s bare c : String}
    (h : Names s bare) : c ∈ getCaseNumberCandidates P s ↔ c ∈ forms bare := by
  have hmem := h.toUpperCase_mem
  have hne : toUpperCase (normalize s) ≠ "" := by
    intro heq
    rw [heq] at hmem
    exact (names_of_mem_forms h.isBareNumber hmem).ne_empty rfl
  rw [getCaseNumberCandidates, h.platform_toUpperCase hP, if_neg hne]
  exact numberForms_of_mem_forms h.isBareNumber hmem

/-- Two strings that name one number are one query to the repository. -/
theorem Names.identifierQuery_eq {s t bare : String} (h : Names s bare) (h' : Names t bare) :
    identifierQuery P s = identifierQuery P t := by
  funext d
  rw [Bool.eq_iff_iff]
  simp only [identifierQuery, List.any_eq_true, h.mem_getIdentifierCandidates,
    h'.mem_getIdentifierCandidates]

/-- A lookup by an identifier succeeds for every role but the superadmin's. -/
theorem findByIdentifier_eq_ok {firm : Firm Oid} {s : String} {role : Role}
    {found : Option (CaseDocument Oid)} (hs : s ≠ "") :
    findByIdentifier P firm s role = .ok found ↔
      role ≠ .SUPER_ADMIN ∧ firm.findOne (identifierQuery P s) = found := by
  rw [findByIdentifier, if_neg hs]
  simp only [bind_eq_ok, CaseRepository.guardSuperadmin, throwIf_eq_ok, exists_const, pure_eq,
    Except.ok.injEq, ne_eq]

/-- The loop makes one query when every candidate is the same query. -/
theorem findFirst_eq {firm : Firm Oid} {role : Role} {query : CaseDocument Oid → Bool}
    {candidates : List String} (hrole : role ≠ .SUPER_ADMIN) (hne : candidates ≠ [])
    (h : ∀ c ∈ candidates, c ≠ "" ∧ identifierQuery P c = query) :
    findFirst P firm role candidates = .ok (firm.findOne query) := by
  induction candidates with
  | nil => exact absurd rfl hne
  | cons c cs ih =>
    obtain ⟨hc, rfl⟩ := h c List.mem_cons_self
    have hfind : findByIdentifier P firm c role = .ok (firm.findOne (identifierQuery P c)) :=
      (findByIdentifier_eq_ok hc).mpr ⟨hrole, rfl⟩
    simp only [findFirst, findByCaseNumber, findByCaseId, hfind, ok_bind, pure_eq]
    split_ifs with hsome
    · rfl
    · -- Nothing was found: the other candidates find nothing either.
      by_cases hcs : cs = []
      · rw [hcs, Option.not_isSome_iff_eq_none.mp hsome]
        rfl
      · exact ih hcs fun d hd => h d (List.mem_cons_of_mem c hd)

/-- A superadmin finds nothing by a number. -/
theorem findFirst_superadmin {firm : Firm Oid} {c : String} {cs : List String}
    {found : Option (CaseDocument Oid)} (hc : c ≠ "") :
    findFirst P firm .SUPER_ADMIN (c :: cs) ≠ .ok found := by
  intro h
  simp only [findFirst, findByCaseNumber, bind_eq_ok, findByIdentifier_eq_ok hc, ne_eq,
    not_true_eq_false, false_and, exists_const] at h

/-- The one query that the loop of the resolver comes to. -/
theorem Names.findFirst_eq_ok (hP : P.Documented) {firm : Firm Oid} {s bare : String} {role : Role}
    {found : Option (CaseDocument Oid)} (h : Names s bare) :
    findFirst P firm role (getCaseNumberCandidates P s) = .ok found ↔
      role ≠ .SUPER_ADMIN ∧ firm.findOne (identifierQuery P s) = found := by
  have hcandidate : ∀ c ∈ getCaseNumberCandidates P s,
      c ≠ "" ∧ identifierQuery P c = identifierQuery P s := by
    intro c hc
    have hnames := names_of_mem_forms h.isBareNumber ((h.mem_getCaseNumberCandidates hP).mp hc)
    exact ⟨hnames.ne_empty, hnames.identifierQuery_eq h⟩
  have hbare : bare ∈ getCaseNumberCandidates P s :=
    (h.mem_getCaseNumberCandidates hP).mpr List.mem_cons_self
  by_cases hrole : role = .SUPER_ADMIN
  · subst hrole
    refine iff_of_false ?_ fun hand => hand.1 rfl
    cases hlist : getCaseNumberCandidates P s with
    | nil => exact absurd (hlist ▸ hbare) List.not_mem_nil
    | cons c cs => exact findFirst_superadmin (hcandidate c (hlist ▸ List.mem_cons_self)).1
  · rw [findFirst_eq hrole (List.ne_nil_of_mem hbare) hcandidate, Except.ok.injEq]
    exact (and_iff_right hrole).symm

/-! ## What the resolver resolves to -/

theorem isValidObjectId_eq (hP : P.Documented) (s : String) :
    isValidObjectId P s = (P.newObjectId s).isSome := by
  rw [isValidObjectId, ← hP.isValid_iff, Bool.and_self]

theorem newObjectId_empty (hP : P.Documented) : P.newObjectId "" = none := by
  rw [← Option.not_isSome_iff_eq_none, hP.isValid_iff]
  decide

/-- What a query finds is a docket of the firm that is not deleted. -/
theorem mem_of_findOne {firm : Firm Oid} {query : CaseDocument Oid → Bool} {d : CaseDocument Oid}
    (h : firm.findOne query = some d) :
    d ∈ firm.cases ∧ d.deletedAt = none ∧ query d = true := by
  have hquery := List.find?_some h
  rw [Bool.and_eq_true, Option.isNone_iff_eq_none] at hquery
  exact ⟨List.mem_of_find?_eq_some h, hquery⟩

variable [DecidableEq Oid]

/-- A docket that is not deleted is the one of its `caseInternalId`. -/
theorem findOne_caseInternalId {firm : Firm Oid} {d : CaseDocument Oid} (hd : d ∈ firm.cases)
    (hlive : d.deletedAt = none) :
    firm.findOne (fun e => e.caseInternalId = d.caseInternalId) = some d := by
  rw [Firm.findOne]
  cases hfind : firm.cases.find? fun e => e.deletedAt.isNone &&
      decide (e.caseInternalId = d.caseInternalId) with
  | none =>
    have := List.find?_eq_none.mp hfind d hd
    simp [hlive] at this
  | some e =>
    have he := List.find?_some hfind
    simp only [Bool.and_eq_true, decide_eq_true_eq] at he
    have hmem := List.mem_of_find?_eq_some hfind
    rw [List.inj_on_of_nodup_map firm.caseInternalId_unique hmem hd he.2]

/-- The docket that `resolveCaseIdentifier` looks for: by `caseInternalId` when the string is an
object id, and by its number otherwise. -/
def resolvedCase (P : Platform Oid) (firm : Firm Oid) (identifier : String) :
    Option (CaseDocument Oid) :=
  match P.newObjectId identifier with
  | some o => firm.findOne fun d => d.caseInternalId = o
  | none =>
    if isValidCaseNumberFormat identifier then firm.findOne (identifierQuery P identifier) else none

theorem findByInternalId_eq_ok {firm : Firm Oid} {s : String} {o : Oid} {role : Role}
    {found : Option (CaseDocument Oid)} (hs : s ≠ "") (ho : P.newObjectId s = some o) :
    findByInternalId P firm s role = .ok found ↔
      role ≠ .SUPER_ADMIN ∧ firm.findOne (fun d => d.caseInternalId = o) = found := by
  rw [findByInternalId, if_neg hs]
  simp only [bind_eq_ok, CaseRepository.guardSuperadmin, throwIf_eq_ok, exists_const, pure_eq,
    ho, Except.ok.injEq, ne_eq]

theorem mem_of_resolvedCase {firm : Firm Oid} {s : String} {d : CaseDocument Oid}
    (h : resolvedCase P firm s = some d) : d ∈ firm.cases ∧ d.deletedAt = none := by
  rw [resolvedCase] at h
  cases ho : P.newObjectId s with
  | some o =>
    rw [ho] at h
    exact ⟨(mem_of_findOne h).1, (mem_of_findOne h).2.1⟩
  | none =>
    rw [ho] at h
    dsimp only at h
    split_ifs at h
    exact ⟨(mem_of_findOne h).1, (mem_of_findOne h).2.1⟩

/-- When the resolver succeeds, and with what. -/
theorem resolveCaseIdentifier_eq_ok (hP : P.Documented) {firm : Firm Oid} {s id : String}
    {role : Role} :
    resolveCaseIdentifier P firm s role = .ok id ↔
      role ≠ .SUPER_ADMIN ∧ ∃ d, resolvedCase P firm s = some d ∧
        id = P.toHexString d.caseInternalId := by
  have hfound : ∀ r : Except Failure (Option (CaseDocument Oid)),
      (r >>= internalIdOf P) = .ok id ↔
        ∃ d, r = .ok (some d) ∧ id = P.toHexString d.caseInternalId := by
    rintro (e | _ | d) <;> simp [internalIdOf, throw, throwThe, MonadExceptOf.throw, eq_comm]
  by_cases hs : s = ""
  · subst hs
    have hnone : resolvedCase P firm "" = none := by
      rw [resolvedCase, newObjectId_empty hP]
      rfl
    have herror : resolveCaseIdentifier P firm "" role =
        .error (plainError "Case identifier is required") := by
      rw [resolveCaseIdentifier, throwIf, if_pos rfl, error_bind]
    rw [herror, hnone]
    simp only [reduceCtorEq, false_and, exists_false, and_false]
  · rw [resolveCaseIdentifier, throwIf_neg hs, ok_bind, isValidObjectId_eq hP, resolvedCase]
    cases ho : P.newObjectId s with
    | some o =>
      rw [if_pos (by rfl)]
      refine (hfound _).trans ?_
      simp only [findByInternalId_eq_ok hs ho, and_assoc, exists_and_left]
    | none =>
      rw [if_neg (by exact Bool.false_ne_true)]
      by_cases hformat : isValidCaseNumberFormat s = true
      · obtain ⟨bare, hnames⟩ := isValidCaseNumberFormat_iff.mp hformat
        rw [if_pos hformat]
        refine (hfound _).trans ?_
        simp only [hnames.findFirst_eq_ok hP, if_pos hformat, and_assoc, exists_and_left]
      · rw [if_neg hformat]
        simp [hformat, throw, throwThe, MonadExceptOf.throw]

end Docketra.Identifiers
