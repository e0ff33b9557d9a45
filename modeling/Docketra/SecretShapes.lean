import Docketra.Lib.UrlEncoded
import Docketra.Text
import Mathlib.Data.List.Infix

/-!
# Texts that are secrets by their shape

The tests of `redaction.js` on a text, and the replacement that it makes in a text that it could not
read as a URL. `isSecretText` is what is redacted whole: a JSON web token, a bearer header, an
Aadhaar number, a PAN. `maskValues` replaces what stands behind a sensitive name and `=`. It makes no
secret (`isSecretText_maskValues`), and masking twice is masking (`maskValues_maskValues`).
-/

namespace Docketra.Redaction

/-- A text, as its characters. -/
abbrev Chars := List Char

/-- `REDACTED`. -/
def redacted : Chars := "[REDACTED]".toList

/-- The alternatives of `SECRET_KEY_PATTERN`. -/
def secretKeyPattern : List String :=
  ["password", "passcode", "otp", "totp", "token", "secret", "authorization", "cookie", "session",
    "csrf", "xsrf", "apikey", "api_key", "api-key", "reset", "verification", "verify", "oauth",
    "google", "jwt", "signed", "signature"]

/-- The alternatives of `IDENTITY_KEY_PATTERN`. -/
def identityKeyPattern : List String := ["pan", "aadhaar", "aadhar"]

/-- The alternatives of `PUBLIC_DIAGNOSTIC_SENSITIVE_PATTERN`, less their optional ends. -/
def publicDiagnosticSensitivePattern : List String :=
  ["comment", "description", "note", "narrative", "client", "case", "attachment"]

/-- The alternatives of `SENSITIVE_URL_PARAM_PATTERN`. -/
def sensitiveUrlParamPattern : List String :=
  ["token", "otp", "password", "reset", "verification", "verify", "signature", "sig", "key", "auth",
    "code", "state", "expires", "x-goog-signature", "x-amz-signature", "googleaccess",
    "refreshtoken"]

/-- A pattern of alternatives, with the flag `i`: one of them occurs in the text, in either case. -/
def mentions (pattern : List String) (value : Chars) : Bool :=
  pattern.any fun word => decide (word.toList <:+: value.map Char.toLower)

/-! ## The shapes -/

/-- `\w`. -/
def isWord (c : Char) : Bool := c.isAlphanum || c == '_'

/-- `[A-Za-z0-9-_]`. -/
def inToken (c : Char) : Bool := isWord c || c == '-'

/-- `\b`, between the character before and the character behind. -/
def isBoundary (before after : Option Char) : Bool := before.any isWord != after.any isWord

/-- `[A-Za-z0-9-_]{10,}\.`, of which `n` characters are read, and the rest of the pattern. The run
takes every character of its class, since a dot is none. -/
def readsRun (n : ℕ) (rest : Chars → Bool) : Chars → Bool
  | [] => false
  | c :: l => if inToken c then readsRun (n + 1) rest l else 10 ≤ n && c == '.' && rest l

/-- `[A-Za-z0-9-_]{10,}\b`, of which `n` characters are read. The run may end at any boundary. -/
def readsLastRun (n : ℕ) (before : Option Char) : Chars → Bool
  | [] => 10 ≤ n && isBoundary before none
  | c :: l =>
    (10 ≤ n && isBoundary before (some c)) || (inToken c && readsLastRun (n + 1) (some c) l)

/-- `JWT_REGEX` matches at the start of a text that stands behind a character. -/
def jwtHere (before : Option Char) (value : Chars) : Bool :=
  isBoundary before value.head? && readsRun 0 (readsRun 0 (readsLastRun 0 (some '.'))) value

/-- `JWT_REGEX.test(value)`, of a text that stands behind a character. -/
def hasJwt (before : Option Char) : Chars → Bool
  | [] => false
  | c :: l => jwtHere before (c :: l) || hasJwt (some c) l

/-- A word at the start of a text, in either case, and white space behind it. -/
def startsWithWord : Chars → Chars → Bool
  | [], value => value.head?.any isWhitespace
  | _ :: _, [] => false
  | w :: word, c :: value => c.toLower == w && startsWithWord word value

/-- `/^Bearer\s+/i.test(value.trim())`. -/
def isBearer (value : Chars) : Bool := startsWithWord "bearer".toList (trimList value)

/-- `/^\d{12}$/` matches what is left of the text without its white space and hyphens. -/
def isAadhaar (value : Chars) : Bool :=
  let digits := value.filter fun c => !(isWhitespace c || c == '-')
  digits.length == 12 && digits.all Char.isDigit

/-- `/^[A-Z]{5}\d{4}[A-Z]$/i.test(value.trim())`. -/
def isPan (value : Chars) : Bool :=
  let text := trimList value
  text.length == 10 && (text.take 5).all Char.isAlpha && ((text.drop 5).take 4).all Char.isDigit &&
    (text.drop 9).all Char.isAlpha

/-- A text that `sanitizeScalar` redacts whole. -/
def isSecretText (value : Chars) : Bool :=
  hasJwt none value || isBearer value || isAadhaar value || isPan value

/-- `/https?:\/\//i.test(value)`. -/
def mentionsHttp (value : Chars) : Bool := mentions ["http://", "https://"] value

/-- The test that `sanitizeScalar` makes before `sanitizeUrl`, and `sanitizeUrl` before it replaces
by pattern. -/
def mentionsSecretUrl (value : Chars) : Bool :=
  mentionsHttp value && mentions sensitiveUrlParamPattern value

/-! ## The replacement -/

/-- `[^&\s]`. -/
def inValue (c : Char) : Bool := c != '&' && !isWhitespace c

/-- A sensitive name behind the first `?` or `&` of a text without `=`. -/
def opensSecret (block : Chars) : Bool :=
  mentions sensitiveUrlParamPattern (block.dropWhile fun c => c != '?' && c != '&')

/-- The replacement of `/([?&][^=]*?(…)[^=]*=)([^&\s]+)/ig` by `$1[REDACTED]`. Between the opening
character and the `=` of a match stands no `=`, so a match ends its name at the next `=`, and there
is one if and only if the text from the first opening character on holds a sensitive name and a
value follows. The search goes on behind the value. -/
def maskValues (value : Chars) : Chars :=
  match _h : value.dropWhile (· ≠ '=') with
  | [] => value
  | _ :: rest =>
    let block := value.takeWhile (· ≠ '=')
    if opensSecret block && rest.head?.any inValue then
      block ++ '=' :: (redacted ++ maskValues (rest.dropWhile inValue))
    else block ++ '=' :: maskValues rest
termination_by value.length
decreasing_by
  all_goals
    have hlength := congrArg List.length _h
    have hdrop := (List.dropWhile_suffix (l := value) (· ≠ '=')).length_le
    have hvalue := (List.dropWhile_suffix (l := rest) inValue).length_le
    simp only [List.length_cons] at hlength
    omega

/-! ## Patterns -/

theorem mentions_iff {pattern : List String} {value : Chars} : mentions pattern value = true ↔
    ∃ word ∈ pattern, word.toList <:+: value.map Char.toLower := by
  simp [mentions]

/-- What a part of a text mentions, the text mentions. -/
theorem mentions_mono {pattern : List String} {s t : Chars} (h : s <:+: t)
    (hs : mentions pattern s = true) : mentions pattern t = true := by
  obtain ⟨word, hword, hin⟩ := mentions_iff.mp hs
  exact mentions_iff.mpr ⟨word, hword, hin.trans (h.map Char.toLower)⟩

/-! ## Web tokens -/

/-- A character that stands in no web token. -/
def breaks (c : Char) : Bool := !inToken c && c != '.'

theorem isWord_of_breaks {b : Char} (hb : breaks b = true) : isWord b = false := by
  simp only [breaks, inToken, Bool.and_eq_true, Bool.not_eq_true', Bool.or_eq_false_iff] at hb
  exact hb.1.1

/-- A run ends at a character of no token as at the end of the text. -/
theorem readsRun_append {b : Char} (hb : breaks b = true) {rest : Chars → Bool} {y : Chars}
    (hrest : ∀ x, rest (x ++ b :: y) = rest x) (n : ℕ) (x : Chars) :
    readsRun n rest (x ++ b :: y) = readsRun n rest x := by
  have hsplit : inToken b = false ∧ (b == '.') = false := by
    simpa [breaks] using hb
  induction x generalizing n with
  | nil => simp [readsRun, hsplit]
  | cons c x ih =>
    rw [List.cons_append, readsRun, readsRun, ih, hrest]

theorem readsLastRun_append {b : Char} (hb : breaks b = true) (y : Chars) (n : ℕ)
    (before : Option Char) (x : Chars) :
    readsLastRun n before (x ++ b :: y) = readsLastRun n before x := by
  have htoken : inToken b = false := by
    simp only [breaks, Bool.and_eq_true, Bool.not_eq_true'] at hb
    exact hb.1
  induction x generalizing n before with
  | nil => simp [readsLastRun, htoken, isBoundary, isWord_of_breaks hb]
  | cons c x ih => rw [List.cons_append, readsLastRun, readsLastRun, ih]

/-- A web token stands before or behind a character of no token. -/
theorem hasJwt_append {b : Char} (hb : breaks b = true) (before : Option Char) (x y : Chars) :
    hasJwt before (x ++ b :: y) = (hasJwt before x || hasJwt none y) := by
  have hread (x : Chars) : readsRun 0 (readsRun 0 (readsLastRun 0 (some '.'))) (x ++ b :: y) =
      readsRun 0 (readsRun 0 (readsLastRun 0 (some '.'))) x :=
    readsRun_append hb (readsRun_append hb (readsLastRun_append hb y 0 _) 0) 0 x
  induction x generalizing before with
  | nil =>
    have hhere : jwtHere before (b :: y) = false := by
      have := hread []
      rw [List.nil_append] at this
      rw [jwtHere, this, readsRun, Bool.and_false]
    have hnone : hasJwt (some b) y = hasJwt none y := by
      cases y with
      | nil => rfl
      | cons c y => simp [hasJwt, jwtHere, isBoundary, isWord_of_breaks hb]
    show (jwtHere before (b :: y) || hasJwt (some b) y) = (false || hasJwt none y)
    rw [hhere, hnone]
  | cons c x ih =>
    rw [List.cons_append, hasJwt, hasJwt, ih, Bool.or_assoc]
    have := hread (c :: x)
    rw [List.cons_append] at this
    rw [jwtHere, jwtHere, this, List.head?_cons, List.head?_cons]

/-! ## The replacement -/

theorem maskValues_of_notMem {value : Chars} (h : '=' ∉ value) : maskValues value = value := by
  have hdrop : value.dropWhile (· ≠ '=') = [] := by
    rw [List.dropWhile_eq_nil_iff]
    intro c hc
    simpa using fun heq : c = '=' => h (heq ▸ hc)
  rw [maskValues]
  split
  · rfl
  · next heq =>
    rw [hdrop] at heq
    exact absurd heq (by simp)

theorem maskValues_append {block : Chars} (h : '=' ∉ block) (rest : Chars) :
    maskValues (block ++ '=' :: rest) =
      if opensSecret block && rest.head?.any inValue then
        block ++ '=' :: (redacted ++ maskValues (rest.dropWhile inValue))
      else block ++ '=' :: maskValues rest := by
  have hblock : ∀ c ∈ block, decide (c ≠ '=') = true := fun c hc => by
    simpa using fun heq : c = '=' => h (heq ▸ hc)
  have htake : (block ++ '=' :: rest).takeWhile (· ≠ '=') = block := by
    rw [List.takeWhile_append_of_pos hblock]
    simp
  have hdrop : (block ++ '=' :: rest).dropWhile (· ≠ '=') = '=' :: rest := by
    rw [List.dropWhile_append_of_pos hblock]
    simp
  rw [maskValues]
  split
  · next heq =>
    rw [hdrop] at heq
    exact absurd heq (by simp)
  · next heq =>
    rw [hdrop] at heq
    obtain ⟨-, rfl⟩ := List.cons.inj heq
    rw [htake]

/-- A text has no `=`, or a first one. -/
theorem blocks_induction {motive : Chars → Prop} (free : ∀ s, '=' ∉ s → motive s)
    (block : ∀ block rest, '=' ∉ block → (∀ r, r <:+ rest → motive r) →
      motive (block ++ '=' :: rest)) (s : Chars) : motive s := by
  induction hn : s.length using Nat.strong_induction_on generalizing s with
  | _ n ih =>
    by_cases hmem : '=' ∈ s
    · obtain ⟨b, rest, rfl, hb⟩ := List.eq_append_cons_of_mem hmem
      refine block b rest hb fun r hr => ih r.length ?_ r rfl
      have := hr.length_le
      simp only [List.length_append, List.length_cons] at hn
      omega
    · exact free s hmem

/-- A replacement keeps the first character. -/
theorem head?_maskValues (s : Chars) : (maskValues s).head? = s.head? := by
  induction s using blocks_induction with
  | free s h => rw [maskValues_of_notMem h]
  | block block rest h ih =>
    rw [maskValues_append h]
    cases block <;> split_ifs <;> rfl

/-- What is left behind a value starts with no character of a value. -/
theorem head?_dropWhile_inValue (s : Chars) :
    ∀ c ∈ (s.dropWhile inValue).head?, inValue c = false := by
  intro c hc
  have := List.head?_dropWhile_not inValue s
  rw [Option.mem_def.mp hc] at this
  exact this

theorem redacted_inValue : ∀ c ∈ redacted, inValue c = true :=
  List.all_eq_true.mp (by decide)

/-- The replaced value is read as one value. -/
theorem dropWhile_redacted {s : Chars} (h : ∀ c ∈ s.head?, inValue c = false) :
    (redacted ++ s).dropWhile inValue = s := by
  rw [List.dropWhile_append_of_pos redacted_inValue]
  cases s with
  | nil => rfl
  | cons c s => rw [List.dropWhile_cons_of_neg (by simp [h c rfl])]

/-- Masking twice is masking. -/
theorem maskValues_maskValues (s : Chars) : maskValues (maskValues s) = maskValues s := by
  induction s using blocks_induction with
  | free s h => rw [maskValues_of_notMem h, maskValues_of_notMem h]
  | block block rest h ih =>
    rw [maskValues_append h]
    split_ifs with hcond
    · have hopens : opensSecret block = true := by
        simp only [Bool.and_eq_true] at hcond
        exact hcond.1
      have hhead : ∀ c ∈ (maskValues (rest.dropWhile inValue)).head?, inValue c = false := by
        rw [head?_maskValues]
        exact head?_dropWhile_inValue rest
      have hvalue : (redacted ++ maskValues (rest.dropWhile inValue)).head?.any inValue = true := rfl
      rw [maskValues_append h, hopens, hvalue, Bool.and_self, if_pos rfl, dropWhile_redacted hhead,
        ih _ (List.dropWhile_suffix inValue)]
    · rw [maskValues_append h, head?_maskValues, if_neg hcond, ih rest List.suffix_rfl]

/-- A replacement that changes the text writes a bracket. -/
theorem maskValues_eq_or_mem (s : Chars) : maskValues s = s ∨ '[' ∈ maskValues s := by
  induction s using blocks_induction with
  | free s h => exact .inl (maskValues_of_notMem h)
  | block block rest h ih =>
    rw [maskValues_append h]
    split_ifs with hcond
    · refine .inr ?_
      have : '[' ∈ redacted := by decide
      simp [this]
    · rcases ih rest List.suffix_rfl with heq | hmem
      · exact .inl (by rw [heq])
      · exact .inr (by simp [hmem])

/-- What stands at no place of the first text stands in the second. -/
theorem exists_append_of_notMem {α : Type*} {a : α} {x z p r : List α} (ha : a ∉ p)
    (h : x ++ a :: z = p ++ r) : ∃ x', x' ++ a :: z = r := by
  rcases List.append_eq_append_iff.mp h with ⟨l, hp, hr⟩ | ⟨l, -, hr⟩
  · cases l with
    | nil => exact ⟨[], hr⟩
    | cons b l =>
      obtain ⟨rfl, -⟩ := List.cons.inj hr
      exact absurd (by simp [hp]) ha
  · exact ⟨l, hr.symm⟩

/-- A sensitive name with a value that is not masked is masked: a text that masking leaves has no
name of the pattern, behind `?` or `&`, with a value that starts otherwise than a masked one. -/
theorem maskValues_ne {x name y : Chars} {o d : Char} (ho : o = '?' ∨ o = '&')
    (hname : mentions sensitiveUrlParamPattern name = true) (hfree : '=' ∉ name)
    (hd : inValue d = true) (hbracket : d ≠ '[') :
    maskValues (x ++ o :: (name ++ '=' :: d :: y)) ≠ x ++ o :: (name ++ '=' :: d :: y) := by
  generalize hs : x ++ o :: (name ++ '=' :: d :: y) = s
  induction s using blocks_induction generalizing x with
  | free s h => exact absurd (by simp [← hs]) h
  | block block rest h ih =>
    have ho' : o ≠ '=' := by rcases ho with rfl | rfl <;> decide
    by_cases hx : '=' ∈ x
    · -- The name stands behind the first `=`.
      obtain ⟨b, x', rfl, hb⟩ := List.eq_append_cons_of_mem hx
      obtain ⟨rfl, hrest⟩ := append_cons_inj_left hb h (by simpa using hs)
      rw [maskValues_append h]
      split_ifs with hcond
      · intro heq
        -- The value that is masked was masked before, so the name stands behind it.
        have hmasked : redacted ++ maskValues (rest.dropWhile inValue) = rest := by
          simpa using heq
        have hhead : ∀ c ∈ (maskValues (rest.dropWhile inValue)).head?, inValue c = false := by
          rw [head?_maskValues]
          exact head?_dropWhile_inValue rest
        have hfixed : rest.dropWhile inValue = maskValues (rest.dropWhile inValue) := by
          conv_lhs => rw [← hmasked]
          exact dropWhile_redacted hhead
        rw [← hfixed, ← hrest] at hmasked
        have hnotMem : o ∉ redacted := by rcases ho with rfl | rfl <;> decide
        obtain ⟨x'', hx''⟩ := exists_append_of_notMem hnotMem hmasked.symm
        rw [hrest] at hx''
        exact ih _ (List.dropWhile_suffix inValue) hx'' hfixed.symm
      · intro heq
        exact ih rest List.suffix_rfl hrest (by simpa using heq)
    · have hfirst : '=' ∉ x ++ o :: name := by simp [hx, ho'.symm, hfree]
      obtain ⟨rfl, hrest⟩ := append_cons_inj_left hfirst h (by simpa using hs)
      have hopens : opensSecret (x ++ o :: name) = true := by
        refine mentions_mono (List.IsSuffix.isInfix ?_) hname
        rw [List.dropWhile_append]
        split_ifs
        · rw [List.dropWhile_cons_of_neg (by rcases ho with rfl | rfl <;> decide)]
          exact List.suffix_cons o name
        · exact (List.suffix_cons o name).trans (List.suffix_append _ _)
      rw [maskValues_append h, ← hrest, hopens]
      simp only [List.head?_cons, Option.any_some, hd, Bool.and_self, if_true]
      intro heq
      have hvalue := (List.cons.inj (List.append_cancel_left heq)).2
      have hredacted : redacted = '[' :: redacted.tail := rfl
      rw [hredacted, List.cons_append] at hvalue
      exact hbracket (List.cons.inj hvalue).1.symm

/-- Letters and digits are no white space. -/
theorem isWhitespace_of_isAlphanum {c : Char} (h : c.isAlphanum = true) :
    isWhitespace c = false := by
  rw [UrlEncoded.isAlphanum_iff] at h
  rw [Bool.eq_false_iff]
  simp only [isWhitespace, ne_eq, Bool.or_eq_true, Bool.and_eq_true, beq_iff_eq,
    decide_eq_true_eq]
  omega

/-- A character of a value's end stands in no web token. -/
theorem breaks_of_inValue {c : Char} (h : inValue c = false) : breaks c = true := by
  simp only [inValue, Bool.and_eq_false_iff, bne_eq_false_iff_eq, Bool.not_eq_false'] at h
  rcases h with rfl | hspace
  · decide
  · have hletter : c.isAlphanum = false := by
      rw [Bool.eq_false_iff]
      intro hletter
      rw [isWhitespace_of_isAlphanum hletter] at hspace
      exact absurd hspace (by decide)
    have hsign (d : Char) (hd : isWhitespace d = false) : (c == d) = false := by
      rw [beq_eq_false_iff_ne]
      rintro rfl
      rw [hd] at hspace
      exact absurd hspace (by decide)
    simp [breaks, inToken, isWord, hletter, hsign '_' (by decide), hsign '-' (by decide),
      ← beq_eq_false_iff_ne, hsign '.' (by decide)]

/-- A replacement makes no web token. -/
theorem hasJwt_maskValues (s : Chars) : ∀ before w, hasJwt before (w ++ maskValues s) = true →
    hasJwt before (w ++ s) = true := by
  induction s using blocks_induction with
  | free s h =>
    intro before w hjwt
    rwa [maskValues_of_notMem h] at hjwt
  | block block rest h ih =>
    intro before w hjwt
    rw [maskValues_append h] at hjwt
    split_ifs at hjwt
    · -- The brackets part what is masked from what follows.
      have hmasked : hasJwt none (redacted ++ maskValues (rest.dropWhile inValue)) =
          hasJwt none (maskValues (rest.dropWhile inValue)) := by
        have hsplit := hasJwt_append (b := ']') (by decide) none "[REDACTED".toList
          (maskValues (rest.dropWhile inValue))
        have hword : hasJwt none "[REDACTED".toList = false := by decide
        rw [hword, Bool.false_or] at hsplit
        exact hsplit
      rw [← List.append_assoc, hasJwt_append (by decide), hmasked, Bool.or_eq_true] at hjwt
      rw [← List.append_assoc, hasJwt_append (by decide), Bool.or_eq_true]
      refine hjwt.imp id fun hrest => ?_
      have hleft := ih _ (List.dropWhile_suffix inValue) none [] hrest
      rw [List.nil_append] at hleft
      rw [← List.takeWhile_append_dropWhile (p := inValue) (l := rest)]
      have hhead := head?_dropWhile_inValue rest
      cases hr : rest.dropWhile inValue with
      | nil =>
        rw [hr] at hleft
        exact absurd hleft (by decide)
      | cons c r =>
        rw [hr] at hleft hhead
        have hbreaks := breaks_of_inValue (hhead c rfl)
        have hbehind := hasJwt_append hbreaks none [] r
        rw [List.nil_append, hleft] at hbehind
        rw [hasJwt_append hbreaks, Bool.or_eq_true]
        right
        simpa [hasJwt] using hbehind.symm
    · rw [← List.append_assoc, hasJwt_append (by decide), Bool.or_eq_true] at hjwt
      rw [← List.append_assoc, hasJwt_append (by decide), Bool.or_eq_true]
      refine hjwt.imp id fun hrest => ?_
      simpa using ih rest List.suffix_rfl none [] (by simpa using hrest)

/-! ## What makes no secret -/

/-- A text with a sign in it that is neither a digit, white space nor a hyphen is no Aadhaar
number. -/
theorem isAadhaar_of_mem {s : Chars} {c : Char} (hc : c ∈ s) (hdigit : c.isDigit = false)
    (hspace : isWhitespace c = false) (hhyphen : c ≠ '-') : isAadhaar s = false := by
  have hmem : c ∈ s.filter fun c => !(isWhitespace c || c == '-') := by
    simp [List.mem_filter, hc, hspace, hhyphen]
  rw [isAadhaar, Bool.and_eq_false_iff]
  right
  rw [List.all_eq_false]
  exact ⟨c, hmem, by simp [hdigit]⟩

/-- What is dropped at the start ends before a character that stays. -/
theorem dropWhile_append_cons {p : Char → Bool} {o : Char} (ho : p o = false) (x y : Chars) :
    (x ++ o :: y).dropWhile p = x.dropWhile p ++ o :: y := by
  rw [List.dropWhile_append]
  split_ifs with hempty
  · rw [List.isEmpty_iff.mp hempty, List.dropWhile_cons_of_neg (by simp [ho]), List.nil_append]
  · rfl

/-- Trimming leaves what stands around a sign that is no white space together. -/
theorem trimList_append {o : Char} (ho : isWhitespace o = false) (x y : Chars) :
    trimList (x ++ o :: y) = x.dropWhile isWhitespace ++ o :: y.rdropWhile isWhitespace := by
  rw [trimList, dropWhile_append_cons ho, List.rdropWhile, List.reverse_append,
    List.reverse_cons, List.append_assoc, List.singleton_append, dropWhile_append_cons ho,
    List.reverse_append, List.reverse_cons, List.reverse_reverse, List.append_assoc,
    List.singleton_append, List.rdropWhile]

/-- Trimming takes no character but white space away. -/
theorem mem_trimList {s : Chars} {c : Char} (hc : c ∈ s) (hspace : isWhitespace c = false) :
    c ∈ trimList s := by
  obtain ⟨x, y, rfl⟩ := List.append_of_mem hc
  rw [trimList_append hspace]
  simp

/-- A text with a sign in it that is neither a letter, a digit nor white space is no PAN. -/
theorem isPan_of_mem {s : Chars} {c : Char} (hc : c ∈ s) (hletter : c.isAlphanum = false)
    (hspace : isWhitespace c = false) : isPan s = false := by
  have hmem := mem_trimList hc hspace
  obtain ⟨halpha, hdigit⟩ : c.isAlpha = false ∧ c.isDigit = false := by
    simpa [Char.isAlphanum] using hletter
  rw [Bool.eq_false_iff]
  intro hpan
  simp only [isPan, Bool.and_eq_true, List.all_eq_true, beq_iff_eq] at hpan
  obtain ⟨⟨⟨-, hfirst⟩, hmiddle⟩, hlast⟩ := hpan
  have hparts : trimList s = (trimList s).take 5 ++ (((trimList s).drop 5).take 4 ++
      (trimList s).drop 9) := by
    rw [← List.drop_drop (i := 4) (j := 5), List.take_append_drop, List.take_append_drop]
  rw [hparts, List.mem_append, List.mem_append] at hmem
  rcases hmem with h | h | h
  · exact absurd (hfirst c h) (by simp [halpha])
  · exact absurd (hmiddle c h) (by simp [hdigit])
  · exact absurd (hlast c h) (by simp [halpha])

/-- A name is opened by `?` or `&`. -/
theorem exists_open_of_opensSecret {block : Chars} (h : opensSecret block = true) :
    ∃ p o x, (o = '?' ∨ o = '&') ∧ block = p ++ o :: x := by
  have hsplit := List.takeWhile_append_dropWhile (p := fun c => c != '?' && c != '&') (l := block)
  have hhead := List.head?_dropWhile_not (fun c => c != '?' && c != '&') block
  unfold opensSecret at h
  cases hdrop : block.dropWhile fun c => c != '?' && c != '&' with
  | nil =>
    rw [hdrop] at h
    exact absurd h (by decide)
  | cons o x =>
    rw [hdrop] at hhead hsplit
    exact ⟨_, o, x, by simpa [imp_iff_not_or] using hhead, hsplit.symm⟩

/-- A replacement keeps a text up to its first `?` or `&`. -/
theorem maskValues_prefix (s : Chars) : maskValues s = s ∨ ∃ p o x y, (o = '?' ∨ o = '&') ∧
    s = p ++ o :: x ∧ maskValues s = p ++ o :: y := by
  induction s using blocks_induction with
  | free s h => exact .inl (maskValues_of_notMem h)
  | block block rest h ih =>
    rw [maskValues_append h]
    split_ifs with hcond
    · have hopens : opensSecret block = true := by
        simp only [Bool.and_eq_true] at hcond
        exact hcond.1
      obtain ⟨p, o, x, ho, rfl⟩ := exists_open_of_opensSecret hopens
      exact .inr ⟨p, o, x ++ '=' :: rest, _, ho, by simp, by simp [List.append_assoc]; rfl⟩
    · rcases ih rest List.suffix_rfl with heq | ⟨p, o, x, y, ho, hrest, hmask⟩
      · exact .inl (by rw [heq])
      · refine .inr ⟨block ++ '=' :: p, o, x, y, ho, ?_, ?_⟩
        · rw [hrest, List.append_assoc, List.cons_append]
        · rw [hmask, List.append_assoc, List.cons_append]

/-- The pattern of a bearer header does not look behind a sign that is in no word. -/
theorem startsWithWord_append {word q : Chars} {o : Char} (ho : ∀ w ∈ word, o.toLower ≠ w)
    (x y : Chars) : startsWithWord word (q ++ o :: x) = startsWithWord word (q ++ o :: y) := by
  induction q generalizing word with
  | nil =>
    cases word with
    | nil => rfl
    | cons w word =>
      have hne : (o.toLower == w) = false := beq_eq_false_iff_ne.mpr (ho w List.mem_cons_self)
      simp [startsWithWord, hne]
  | cons c q ih =>
    cases word with
    | nil => rfl
    | cons w word =>
      rw [List.cons_append, List.cons_append, startsWithWord, startsWithWord,
        ih fun w' hw' => ho w' (List.mem_cons_of_mem w hw')]

/-- A bearer header starts with its first letter. -/
theorem isBearer_cons {c : Char} (hspace : isWhitespace c = false) (hletter : c.toLower ≠ 'b')
    (s : Chars) : isBearer (c :: s) = false := by
  have htrim := trimList_append hspace [] s
  have hne : (c.toLower == 'b') = false := beq_eq_false_iff_ne.mpr hletter
  have hword : "bearer".toList = 'b' :: "earer".toList := rfl
  rw [List.nil_append, List.dropWhile_nil, List.nil_append] at htrim
  rw [isBearer, htrim, hword, startsWithWord, hne, Bool.false_and]

/-- A replacement makes no bearer header. -/
theorem isBearer_maskValues (s : Chars) : isBearer (maskValues s) = isBearer s := by
  rcases maskValues_prefix s with heq | ⟨p, o, x, y, ho, hs, hmask⟩
  · rw [heq]
  · have hspace : isWhitespace o = false := by rcases ho with rfl | rfl <;> decide
    have hletters : "bearer".toList.all (fun w => o.toLower != w) = true := by
      rcases ho with rfl | rfl <;> decide
    have hword : ∀ w ∈ "bearer".toList, o.toLower ≠ w := by
      simpa only [List.all_eq_true, bne_iff_ne] using hletters
    rw [hmask, hs, isBearer, isBearer, trimList_append hspace, trimList_append hspace]
    exact startsWithWord_append hword _ _

/-- A replacement makes no secret. -/
theorem isSecretText_maskValues {s : Chars} (h : isSecretText s = false) :
    isSecretText (maskValues s) = false := by
  rcases maskValues_eq_or_mem s with heq | hmem
  · rwa [heq]
  · simp only [isSecretText, Bool.or_eq_false_iff] at h ⊢
    obtain ⟨⟨⟨hjwt, hbearer⟩, -⟩, -⟩ := h
    refine ⟨⟨⟨?_, ?_⟩, ?_⟩, ?_⟩
    · rw [Bool.eq_false_iff]
      intro hmask
      rw [Bool.eq_false_iff] at hjwt
      exact hjwt (hasJwt_maskValues s none [] hmask)
    · rw [isBearer_maskValues, hbearer]
    · exact isAadhaar_of_mem hmem (by decide) (by decide) (by decide)
    · exact isPan_of_mem hmem (by decide) (by decide)

end Docketra.Redaction
