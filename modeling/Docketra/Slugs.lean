import Docketra.Text
import Docketra.Lib.UrlEncoded

/-!
# Slugs

`slugify` of `utils/slugify.js`, with its regular expressions as functions on lists of characters. A
slug has lower-case letters, digits, underscores, and hyphens in it (`isSlugChar_of_mem_slugify`),
and it is empty exactly when no character of the text stands for one of the first three
(`slugify_eq_empty`). Of the characters that are not ASCII, lower-casing makes ASCII letters of the
Kelvin sign and of the capital I with a dot only.
-/

namespace Docketra.Slugs

/-- `toLowerCase()`, of one character. -/
def lowerChar (c : Char) : List Char :=
  if c = Char.ofNat 0x212A then ['k']
  else if c = Char.ofNat 0x130 then ['i', Char.ofNat 0x307]
  else [c.toLower]

/-- `\w`. -/
def isWordChar (c : Char) : Bool := c.isAlphanum || c = '_'

/-- Each run of such characters becomes one character. -/
def replaceRuns (p : Char → Bool) (d : Char) : List Char → List Char
  | [] => []
  | c :: cs =>
    if p c then (if cs.head?.any p then replaceRuns p d cs else d :: replaceRuns p d cs)
    else c :: replaceRuns p d cs

def isHyphen (c : Char) : Bool := c = '-'

/-- `slugify`. -/
def slugify (text : String) : String :=
  let lowered := text.toList.flatMap lowerChar
  let hyphenated := replaceRuns isWhitespace '-' (trimList lowered)
  let words := hyphenated.filter fun c => isWordChar c || isHyphen c
  let single := replaceRuns isHyphen '-' words
  String.ofList ((single.dropWhile isHyphen).rdropWhile isHyphen)

/-! ## The characters that stay -/

section lists

variable {p : Char → Bool} {c d : Char} {l : List Char}

theorem mem_dropWhile_iff (hp : p c = false) : c ∈ l.dropWhile p ↔ c ∈ l := by
  refine ⟨fun hc => (List.dropWhile_sublist p).mem hc, fun hc => ?_⟩
  rw [← List.takeWhile_append_dropWhile (p := p) (l := l), List.mem_append] at hc
  refine hc.resolve_left fun hc => ?_
  rw [List.mem_takeWhile_imp hc] at hp
  cases hp

theorem mem_rdropWhile_iff (hp : p c = false) : c ∈ l.rdropWhile p ↔ c ∈ l := by
  rw [List.rdropWhile, List.mem_reverse, mem_dropWhile_iff hp, List.mem_reverse]

theorem mem_replaceRuns_iff (hp : p c = false) (hd : c ≠ d) :
    c ∈ replaceRuns p d l ↔ c ∈ l := by
  induction l with
  | nil => rfl
  | cons a l ih =>
    by_cases ha : p a = true
    · have hne : c ≠ a := by
        rintro rfl
        rw [ha] at hp
        cases hp
      rw [replaceRuns, if_pos ha, List.mem_cons, or_iff_right hne]
      split_ifs
      · exact ih
      · rw [List.mem_cons, or_iff_right hd, ih]
    · rw [replaceRuns, if_neg ha, List.mem_cons, List.mem_cons, ih]

theorem mem_trimList_iff (hc : isWhitespace c = false) : c ∈ trimList l ↔ c ∈ l := by
  rw [trimList, mem_rdropWhile_iff hc, mem_dropWhile_iff hc]

end lists

/-- A statement about an ASCII character is checked on all of them. -/
theorem forall_ascii {P : Char → Prop} (h : ∀ n < 128, P (Char.ofNat n)) {c : Char}
    (hc : c.toNat < 128) : P c := by
  rw [← Char.ofNat_toNat c]
  exact h _ hc

theorem toNat_lt_of_isWordChar {c : Char} (h : isWordChar c = true) : c.toNat < 128 := by
  rw [isWordChar, Bool.or_eq_true, UrlEncoded.isAlphanum_iff, decide_eq_true_eq] at h
  rcases h with h | rfl
  · omega
  · decide

/-- A word character is neither white space nor a hyphen. -/
theorem isWordChar_spec {c : Char} (h : isWordChar c = true) :
    isWhitespace c = false ∧ isHyphen c = false ∧ c ≠ '-' :=
  forall_ascii (P := fun c => isWordChar c = true →
    isWhitespace c = false ∧ isHyphen c = false ∧ c ≠ '-') (by decide)
    (toNat_lt_of_isWordChar h) h

/-- Lower-casing leaves what it has made. -/
theorem toLower_of_mem_lowerChar {c d : Char} (h : c ∈ lowerChar d) : c.toLower = c := by
  unfold lowerChar at h
  split_ifs at h
  · rw [List.mem_singleton.1 h]
    decide
  · rcases List.mem_pair.1 h with rfl | rfl
    · decide
    · decide
  · rw [List.mem_singleton.1 h, toLower_toLower]

/-! ## The slug of a text -/

/-- A character of a slug. -/
def isSlugChar (c : Char) : Bool := c.isLower || c.isDigit || c = '_' || isHyphen c

theorem isSlugChar_of_isWordChar {c : Char} (h : isWordChar c = true) (hlower : c.toLower = c) :
    isSlugChar c = true :=
  forall_ascii (P := fun c => isWordChar c = true → c.toLower = c → isSlugChar c = true)
    (by decide) (toNat_lt_of_isWordChar h) h hlower

theorem isWordChar_of_isSlugChar {c : Char} (h : isSlugChar c = true) (hc : isHyphen c = false) :
    isWordChar c = true := by
  have halphanum : c.isAlphanum = (c.isUpper || c.isLower || c.isDigit) := rfl
  rw [isSlugChar, hc, Bool.or_false, Bool.or_assoc, Bool.or_eq_true, Bool.or_eq_true] at h
  rw [isWordChar, halphanum, Bool.or_eq_true, Bool.or_eq_true, Bool.or_eq_true]
  tauto

/-- A character of a slug is in lower case, and no white space. -/
theorem isSlugChar_spec {c : Char} (h : isSlugChar c = true) :
    c.toLower = c ∧ isWhitespace c = false := by
  by_cases hhyphen : isHyphen c = true
  · rw [of_decide_eq_true hhyphen]
    decide
  · have hword := isWordChar_of_isSlugChar h (Bool.eq_false_iff.2 hhyphen)
    exact forall_ascii (P := fun c => isSlugChar c = true →
      c.toLower = c ∧ isWhitespace c = false) (by decide) (toNat_lt_of_isWordChar hword) h

/-- A slug has no other characters. -/
theorem isSlugChar_of_mem_slugify {text : String} {c : Char} (h : c ∈ (slugify text).toList) :
    isSlugChar c = true := by
  rw [slugify, String.toList_ofList] at h
  by_cases hhyphen : isHyphen c = true
  · rw [isSlugChar, hhyphen]
    exact Bool.or_true _
  · have hc : isHyphen c = false := Bool.eq_false_iff.2 hhyphen
    have hne : c ≠ '-' := fun heq => hhyphen (decide_eq_true heq)
    rw [mem_rdropWhile_iff hc, mem_dropWhile_iff hc, mem_replaceRuns_iff hc hne, List.mem_filter,
      hc, Bool.or_false] at h
    have hspace := (isWordChar_spec h.2).1
    rw [mem_replaceRuns_iff hspace hne, mem_trimList_iff hspace, List.mem_flatMap] at h
    obtain ⟨⟨d, -, hd⟩, hword⟩ := h
    exact isSlugChar_of_isWordChar hword (toLower_of_mem_lowerChar hd)

/-- The word characters of a slug are those of the text in lower case. -/
theorem mem_slugify_iff {text : String} {c : Char} (h : isWordChar c = true) :
    c ∈ (slugify text).toList ↔ ∃ d ∈ text.toList, c ∈ lowerChar d := by
  obtain ⟨hspace, hhyphen, hne⟩ := isWordChar_spec h
  rw [slugify, String.toList_ofList, mem_rdropWhile_iff hhyphen, mem_dropWhile_iff hhyphen,
    mem_replaceRuns_iff hhyphen hne, List.mem_filter, h, Bool.true_or,
    mem_replaceRuns_iff hspace hne, mem_trimList_iff hspace, List.mem_flatMap]
  exact and_iff_left rfl

/-- A slug is empty exactly when the text has no character that stands for a word character. -/
theorem slugify_eq_empty {text : String} :
    slugify text = "" ↔ ∀ d ∈ text.toList, ∀ c ∈ lowerChar d, isWordChar c = false := by
  constructor
  · intro h d hd c hc
    by_contra hword
    have hmem := (mem_slugify_iff (Bool.not_eq_false _ ▸ hword)).2 ⟨d, hd, hc⟩
    rw [h] at hmem
    exact absurd hmem List.not_mem_nil
  · intro h
    by_contra hne
    have hlist : (slugify text).toList ≠ [] := fun hnil => hne (String.toList_eq_nil_iff.1 hnil)
    -- the last character is no hyphen, so it is a word character
    have hlast := List.getLast_mem hlist
    have hnot : ∀ hne, isHyphen ((slugify text).toList.getLast hne) = false := by
      rw [slugify, String.toList_ofList]
      exact fun hne => Bool.eq_false_iff.2 (List.rdropWhile_last_not _ _ hne)
    have hword := isWordChar_of_isSlugChar (isSlugChar_of_mem_slugify hlast) (hnot hlist)
    obtain ⟨d, hd, hc⟩ := (mem_slugify_iff hword).1 hlast
    rw [h d hd _ hc] at hword
    cases hword

end Docketra.Slugs
