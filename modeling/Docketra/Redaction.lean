import Docketra.Lib.UrlEncoded
import Docketra.SecretShapes
import Mathlib.Data.List.Forall2

/-!
# The redaction of logs, audits and diagnostics

`sanitizeRecursive` walks through a JSON value. Under a key of its patterns every value but `null` is
redacted, at any depth. A text elsewhere is redacted whole when it has the shape of a secret, and is
given to `sanitizeUrl` when it mentions `http://` or `https://` and a sensitive word. There the URL
library reads it, the parameters of sensitive names are set to `[REDACTED]`, and the URL is written
again; a text that is no URL with such a parameter is masked by a pattern.

A sensitive name that is written with an escape, or a URL without the two slashes, passes the test
and is not looked at. What is written again can be a secret by its shape, or no URL, where it was
none before; then a second redaction changes it. `leaksNothing_iff` tells exactly when no
parameter leaks and the second redaction changes nothing.

The URL library is a parameter, of which the documented behaviour is `Documented`. In a tree of JSON
no object occurs twice, so that the guard against cycles never answers.
-/

namespace Docketra.Redaction

/-! ## The URL library -/

/-- What the code reads of a `URL`: the query is without its `?`. -/
structure Url where
  protocol : Chars
  origin : Chars
  pathname : Chars
  query : Chars
deriving DecidableEq

/-- The library: `new URL(text)`, which throws where the text is no URL, and the decoder of UTF-8,
which replaces what is none. -/
structure Platform where
  newURL : Chars → Option Url
  utf8Decode : List UInt8 → Chars

/-- `url.searchParams`: names with their values, in order. -/
abbrev Params := List (Chars × Chars)

/-- `url.searchParams`, as it is read. -/
def Platform.searchParams (P : Platform) (url : Url) : Params :=
  UrlEncoded.parse P.utf8Decode url.query

/-- `searchParams.set(name, value)`: the first of the name is set, and the others are removed. -/
def setParam (name value : Chars) : Params → Params
  | [] => [(name, value)]
  | p :: params =>
    if p.1 = name then (name, value) :: params.filter (·.1 ≠ name)
    else p :: setParam name value params

/-- `SENSITIVE_URL_PARAM_PATTERN.test(key)`. -/
def isSensitiveParam (key : Chars) : Bool := mentions sensitiveUrlParamPattern key

/-! ## The code -/

/-- The loop over `searchParams.entries()`, which is at the place `i` of the list as it stands. Each
turn goes one place on, and the list grows in none: its length is fuel enough. -/
def redactParams : ℕ → ℕ → Params → Bool → Params × Bool
  | 0, _, params, touched => (params, touched)
  | fuel + 1, i, params, touched =>
    match params[i]? with
    | none => (params, touched)
    | some (key, _) =>
      -- `set` removes entries behind this one only, so that none is passed over.
      if isSensitiveParam key then redactParams fuel (i + 1) (setParam key redacted params) true
      else redactParams fuel (i + 1) params touched

/-- The part of `sanitizeUrl` behind its `try`. -/
def sanitizeByPattern (value : Chars) : Chars :=
  if mentionsSecretUrl value then maskValues value else value

def sanitizeUrl (P : Platform) (value : Chars) : Chars :=
  match P.newURL value with
  | none => sanitizeByPattern value
  | some parsed =>
    let params := P.searchParams parsed
    let (params, touched) := redactParams params.length 0 params false
    -- The fragment and the credentials are lost, and every parameter is written anew.
    if touched then parsed.origin ++ parsed.pathname ++ '?' :: UrlEncoded.serialize params
    else sanitizeByPattern value

/-- A JSON value. A number is its numeral, and an object its own fields in their order. -/
inductive Json
  | null
  | bool (b : Bool)
  | num (numeral : Chars)
  | str (value : Chars)
  | arr (items : List Json)
  | obj (fields : List (Chars × Json))

inductive Mode
  | log
  | audit
  | publicDiagnostics
deriving DecidableEq

/-- `String(key || '').toLowerCase()`. Beyond ASCII only the Kelvin sign matters: a dotted capital I
becomes an `i` with a combining dot behind it, and no alternative ends in `i`. -/
def lowerKey (key : Chars) : Chars :=
  key.map fun c => if c = Char.ofNat 0x212A then 'k' else c.toLower

/-- A key of the secret or of the identity pattern. -/
def isSecretKey (key : Chars) : Bool :=
  mentions secretKeyPattern (lowerKey key) || mentions identityKeyPattern (lowerKey key)

/-- A key whose values are redacted. -/
def isHiddenKey (mode : Mode) (key : Chars) : Bool :=
  isSecretKey key ||
    (mode == .publicDiagnostics && mentions publicDiagnosticSensitivePattern (lowerKey key))

/-- What `sanitizeScalar` does with a text under a key that hides nothing. -/
def sanitizeText (P : Platform) (value : Chars) : Chars :=
  if isSecretText value then redacted
  else if mentionsSecretUrl value then sanitizeUrl P value
  else value

/-- `sanitizeScalar`, and `none` where it returns an array or an object as it is. -/
def sanitizeScalar (P : Platform) (mode : Mode) (key : Chars) : Json → Option Json
  | .null => some .null
  | value =>
    if isHiddenKey mode key then some (.str redacted)
    else
      match value with
      | .str s => some (.str (sanitizeText P s))
      | .arr _ => none
      | .obj _ => none
      | scalar => some scalar

/-- `__proto__`: an assignment to it stores no field. -/
def protoKey : Chars := "__proto__".toList

mutual

def sanitizeRecursive (P : Platform) (mode : Mode) (key : Chars) : Json → Json
  | .arr items =>
    (sanitizeScalar P mode key (.arr items)).getD (.arr (sanitizeItems P mode items))
  | .obj fields =>
    (sanitizeScalar P mode key (.obj fields)).getD (.obj (sanitizeFields P mode fields))
  | value => (sanitizeScalar P mode key value).getD value

/-- `value.map(...)`, whose items have the empty key. -/
def sanitizeItems (P : Platform) (mode : Mode) : List Json → List Json
  | [] => []
  | item :: items => sanitizeRecursive P mode [] item :: sanitizeItems P mode items

/-- The fields of `output`. -/
def sanitizeFields (P : Platform) (mode : Mode) : List (Chars × Json) → List (Chars × Json)
  | [] => []
  | (childKey, childValue) :: fields =>
    if childKey = protoKey then sanitizeFields P mode fields
    else (childKey, sanitizeRecursive P mode childKey childValue) :: sanitizeFields P mode fields

end

def sanitizeForLogs (P : Platform) (value : Json) : Json := sanitizeRecursive P .log [] value

def sanitizeForAudit (P : Platform) (value : Json) : Json := sanitizeRecursive P .audit [] value

def sanitizeForPublicDiagnostics (P : Platform) (value : Json) : Json :=
  sanitizeRecursive P .publicDiagnostics [] value

/-- The three functions of the module. -/
def sanitizeFor (P : Platform) : Mode → Json → Json
  | .log => sanitizeForLogs P
  | .audit => sanitizeForAudit P
  | .publicDiagnostics => sanitizeForPublicDiagnostics P

/-! ## What redaction is for -/

mutual

/-- The fields of a value, at any depth. -/
def allFields : Json → List (Chars × Json)
  | .arr items => allFieldsOfItems items
  | .obj fields => allFieldsOfFields fields
  | _ => []

def allFieldsOfItems : List Json → List (Chars × Json)
  | [] => []
  | item :: items => allFields item ++ allFieldsOfItems items

def allFieldsOfFields : List (Chars × Json) → List (Chars × Json)
  | [] => []
  | (key, value) :: fields => (key, value) :: (allFields value ++ allFieldsOfFields fields)

end

mutual

/-- The texts of a value that stand under no hidden key, from left to right. -/
def exposed (mode : Mode) (key : Chars) : Json → List Chars
  | .str s => if isHiddenKey mode key then [] else [s]
  | .arr items => if isHiddenKey mode key then [] else exposedItems mode items
  | .obj fields => if isHiddenKey mode key then [] else exposedFields mode fields
  | _ => []

def exposedItems (mode : Mode) : List Json → List Chars
  | [] => []
  | item :: items => exposed mode [] item ++ exposedItems mode items

def exposedFields (mode : Mode) : List (Chars × Json) → List Chars
  | [] => []
  | (key, value) :: fields =>
    if key = protoKey then exposedFields mode fields
    else exposed mode key value ++ exposedFields mode fields

end

/-- Under a secret key stands nothing but `null` and `[REDACTED]`. -/
def KeysHidden (value : Json) : Prop :=
  ∀ field ∈ allFields value, isSecretKey field.1 = true →
    field.2 = .null ∨ field.2 = .str redacted

def Url.isHttp (url : Url) : Prop :=
  url.protocol = "http:".toList ∨ url.protocol = "https:".toList

/-- `t` is redacted, or `s` is no http(s) URL with a sensitive parameter, or `t` is a URL in which
every such parameter has the redacted value and no other one. -/
def ParamsReplaced (P : Platform) (s t : Chars) : Prop :=
  t = redacted ∨ ∀ url, P.newURL s = some url → url.isHttp → ∀ p ∈ P.searchParams url,
    isSensitiveParam p.1 = true → ∃ url', P.newURL t = some url' ∧
      (p.1, redacted) ∈ P.searchParams url' ∧
        ∀ q ∈ P.searchParams url', q.1 = p.1 → q.2 = redacted

/-- No value under a secret key survives, no sensitive parameter of a URL survives, and a second
redaction changes nothing. -/
structure LeaksNothing (P : Platform) (mode : Mode) (value : Json) : Prop where
  keys : KeysHidden (sanitizeFor P mode value)
  params : List.Forall₂ (ParamsReplaced P) (exposed mode [] value)
    (exposed mode [] (sanitizeFor P mode value))
  again : sanitizeFor P mode (sanitizeFor P mode value) = sanitizeFor P mode value

/-! ## When it does what it is for -/

/-- The URL with a sensitive parameter that a text is. -/
def Platform.sensitiveUrl (P : Platform) (value : Chars) : Option Url :=
  (P.newURL value).filter fun url => (P.searchParams url).any (isSensitiveParam ·.1)

/-- The origin and the path. -/
def Url.head (url : Url) : Chars := url.origin ++ url.pathname

/-- No web token stands in the origin and the path, in the name of a parameter, or in the value of
one that is kept, in the form in which they are written. -/
structure WrittenPlainly (P : Platform) (url : Url) : Prop where
  head : hasJwt none url.head = false
  names : ∀ p ∈ P.searchParams url, hasJwt none (UrlEncoded.encode p.1) = false
  values : ∀ p ∈ P.searchParams url, isSensitiveParam p.1 = false →
    hasJwt none (UrlEncoded.encode p.2) = false

/-- The library reads the origin and the path as themselves. -/
def Platform.ReadsBack (P : Platform) (url : Url) : Prop :=
  ∃ url', P.newURL (url.head ++ ['?']) = some url' ∧ url'.head = url.head

/-- What a text has to meet. -/
structure Redactable (P : Platform) (s : Chars) : Prop where
  /-- A text that the code does not look at is no URL with a sensitive parameter. -/
  unnoticed : mentionsSecretUrl s = false → ∀ url, P.sensitiveUrl s = some url → url.isHttp →
    ∀ p ∈ P.searchParams url, isSensitiveParam p.1 = true → p.2 = redacted
  /-- A URL with a sensitive parameter is written again without a web token, and is read again when
  the code looks at it again. -/
  rewritten : mentionsSecretUrl s = true → ∀ url, P.sensitiveUrl s = some url →
    WrittenPlainly P url ∧ (mentionsHttp url.head = true → P.ReadsBack url)
  /-- Another text that the code looks at is, with its values masked, no URL with a sensitive
  parameter that the code looks at. -/
  masked : mentionsSecretUrl s = true → P.sensitiveUrl s = none →
    mentionsSecretUrl (maskValues s) = true → P.sensitiveUrl (maskValues s) = none

/-- What the URL standard says of the library. -/
structure Documented (P : Platform) : Prop where
  /-- UTF-8 is read back. -/
  decode : ∀ s : Chars, P.utf8Decode (s.flatMap String.utf8EncodeChar) = s
  /-- A URL starts with a scheme, and so not with a bracket. -/
  scheme : P.newURL redacted = none
  /-- What stands before the query is read alike whatever the query is, and a query in the form of
  a serialized list is kept. -/
  query : ∀ head params, '?' ∉ head → '#' ∉ head →
    P.newURL (head ++ '?' :: UrlEncoded.serialize params) =
      (P.newURL (head ++ ['?'])).map fun url => { url with query := UrlEncoded.serialize params }
  /-- The origin and the path hold no `?` and no `#`. -/
  head : ∀ s url, P.newURL s = some url → '?' ∉ url.head ∧ '#' ∉ url.head
  /-- The origin is `null`, or starts with a scheme that has origins. -/
  origin : ∀ s url, P.newURL s = some url → url.origin = "null".toList ∨
    ∃ scheme ∈ ["http", "https", "ws", "wss", "ftp"], scheme.toList <+: url.origin
  /-- The origin and the path of an http(s) URL are read as themselves. -/
  readsBack : ∀ s url, P.newURL s = some url → url.isHttp →
    ∃ url', P.newURL (url.head ++ ['?']) = some url' ∧ url'.head = url.head

/-! ## The parameters -/

/-- What the loop makes of the parameters that are left, where `seen` are the sensitive names before:
the first of a sensitive name is redacted, and the others are dropped. -/
def redactedFrom (seen : List Chars) : Params → Params
  | [] => []
  | p :: params =>
    if isSensitiveParam p.1 then
      if p.1 ∈ seen then redactedFrom seen params
      else (p.1, redacted) :: redactedFrom (p.1 :: seen) params
    else p :: redactedFrom seen params

theorem redactedFrom_cons (seen : List Chars) (p : Chars × Chars) (params : Params) :
    redactedFrom seen (p :: params) =
      if isSensitiveParam p.1 then
        if p.1 ∈ seen then redactedFrom seen params
        else (p.1, redacted) :: redactedFrom (p.1 :: seen) params
      else p :: redactedFrom seen params := rfl

theorem setParam_append (value : Chars) {name : Chars} {x : Params} (hx : ∀ p ∈ x, p.1 ≠ name)
    (v : Chars) (y : Params) : setParam name value (x ++ (name, v) :: y) =
      x ++ (name, value) :: y.filter (·.1 ≠ name) := by
  induction x with
  | nil => simp [setParam]
  | cons p x ih =>
    have htail := ih fun q hq => hx q (List.mem_cons_of_mem p hq)
    rw [List.cons_append, setParam, if_neg (hx p List.mem_cons_self), htail, List.cons_append]

/-- A turn of the loop at a sensitive parameter whose name is not among those before. -/
theorem redactParams_sensitive {x : Params} {p : Chars × Chars} (hp : isSensitiveParam p.1 = true)
    (hx : ∀ q ∈ x, q.1 ≠ p.1) (fuel : ℕ) (y : Params) (touched : Bool) :
    redactParams (fuel + 1) x.length (x ++ p :: y) touched =
      redactParams fuel (x ++ [(p.1, redacted)]).length
        (x ++ [(p.1, redacted)] ++ y.filter (·.1 ≠ p.1)) true := by
  have hplace : (x ++ p :: y)[x.length]? = some p := by simp
  have hset := setParam_append redacted hx p.2 y
  rw [redactParams, hplace]
  simp only [hp, if_true, hset]
  rw [List.length_append, List.length_singleton, List.append_assoc, List.singleton_append]

/-- A turn of the loop at another parameter. -/
theorem redactParams_plain {p : Chars × Chars} (hp : isSensitiveParam p.1 ≠ true) (fuel : ℕ)
    (x y : Params) (touched : Bool) : redactParams (fuel + 1) x.length (x ++ p :: y) touched =
      redactParams fuel (x ++ [p]).length (x ++ [p] ++ y) touched := by
  have hplace : (x ++ p :: y)[x.length]? = some p := by simp
  rw [redactParams, hplace]
  simp only [hp]
  rw [List.length_append, List.length_singleton, List.append_assoc, List.singleton_append]
  simp

/-- The loop has gone through `x`, and stands before what is left of `rest` without the names that it
has seen. -/
theorem redactParams_append (rest : Params) : ∀ (seen : List Chars) (x : Params) (fuel : ℕ)
    (touched : Bool), rest.length ≤ fuel →
    (∀ p ∈ x, isSensitiveParam p.1 = true → p.1 ∈ seen) →
    (∀ name ∈ seen, isSensitiveParam name = true) →
    redactParams fuel x.length (x ++ rest.filter (·.1 ∉ seen)) touched =
      (x ++ redactedFrom seen rest,
        touched || (rest.filter (·.1 ∉ seen)).any (isSensitiveParam ·.1)) := by
  induction rest with
  | nil =>
    intro seen x fuel touched _ _ _
    cases fuel <;> simp [redactParams, redactedFrom]
  | cons p rest ih =>
    intro seen x fuel touched hfuel hx hseen
    rw [List.length_cons] at hfuel
    by_cases hmem : p.1 ∈ seen
    · -- The parameter is gone: its name was set before.
      have hskip : (p :: rest).filter (·.1 ∉ seen) = rest.filter (·.1 ∉ seen) := by
        simp [hmem]
      rw [redactedFrom_cons, if_pos (hseen p.1 hmem), if_pos hmem, hskip]
      exact ih seen x fuel touched (by omega) hx hseen
    · have hkeep : (p :: rest).filter (·.1 ∉ seen) = p :: rest.filter (·.1 ∉ seen) := by
        simp [hmem]
      obtain ⟨fuel, rfl⟩ : ∃ n, fuel = n + 1 := ⟨fuel - 1, by omega⟩
      have hfuel : rest.length ≤ fuel := by omega
      rw [hkeep]
      by_cases hp : isSensitiveParam p.1 = true
      · have hfresh : ∀ q ∈ x, q.1 ≠ p.1 := fun q hq heq => hmem (heq ▸ hx q hq (heq ▸ hp))
        have hfilter : (rest.filter (·.1 ∉ seen)).filter (·.1 ≠ p.1) =
            rest.filter (·.1 ∉ p.1 :: seen) := by
          rw [List.filter_filter]
          congr 1
          funext q
          simp
        have hx' : ∀ q ∈ x ++ [(p.1, redacted)], isSensitiveParam q.1 = true →
            q.1 ∈ p.1 :: seen := by
          intro q hq hq'
          rcases List.mem_append.mp hq with hq | hq
          · exact List.mem_cons_of_mem _ (hx q hq hq')
          · rw [List.mem_singleton.mp hq]
            exact List.mem_cons_self
        have hseen' : ∀ name ∈ p.1 :: seen, isSensitiveParam name = true :=
          List.forall_mem_cons.mpr ⟨hp, hseen⟩
        rw [redactParams_sensitive hp hfresh, hfilter, ih _ _ fuel true hfuel hx' hseen']
        simp [redactedFrom_cons, hp, hmem]
      · have hx' : ∀ q ∈ x ++ [p], isSensitiveParam q.1 = true → q.1 ∈ seen := by
          intro q hq hq'
          rcases List.mem_append.mp hq with hq | hq
          · exact hx q hq hq'
          · rw [List.mem_singleton.mp hq] at hq'
            exact absurd hq' hp
        rw [redactParams_plain hp, ih _ _ fuel touched hfuel hx' hseen]
        simp [redactedFrom_cons, hp]

/-- What the loop makes of the parameters, and whether one of them is sensitive. -/
theorem redactParams_eq (params : Params) : redactParams params.length 0 params false =
    (redactedFrom [] params, params.any (isSensitiveParam ·.1)) := by
  have := redactParams_append params [] [] params.length false le_rfl (by simp) (by simp)
  simpa using this

/-- A sensitive parameter has the redacted value. -/
theorem eq_redacted_of_mem {seen : List Chars} {params : Params} {q : Chars × Chars}
    (hq : q ∈ redactedFrom seen params) (hsensitive : isSensitiveParam q.1 = true) :
    q.2 = redacted := by
  induction params generalizing seen with
  | nil => exact absurd hq List.not_mem_nil
  | cons p params ih =>
    rw [redactedFrom_cons] at hq
    split_ifs at hq with hp hmem
    · exact ih hq
    · rcases List.mem_cons.mp hq with rfl | hq
      · rfl
      · exact ih hq
    · rcases List.mem_cons.mp hq with rfl | hq
      · exact absurd hsensitive hp
      · exact ih hq

/-- A sensitive name is kept, with the redacted value. -/
theorem mem_redactedFrom {seen : List Chars} {params : Params} {p : Chars × Chars}
    (hp : p ∈ params) (hsensitive : isSensitiveParam p.1 = true) (hseen : p.1 ∉ seen) :
    (p.1, redacted) ∈ redactedFrom seen params := by
  induction params generalizing seen with
  | nil => exact absurd hp List.not_mem_nil
  | cons q params ih =>
    rw [redactedFrom_cons]
    rcases List.mem_cons.mp hp with rfl | hp
    · rw [if_pos hsensitive, if_neg hseen]
      exact List.mem_cons_self
    · split_ifs with hq hmem
      · exact ih hp hseen
      · by_cases heq : p.1 = q.1
        · rw [heq]
          exact List.mem_cons_self
        · exact List.mem_cons_of_mem _ (ih hp (by simp [heq, hseen]))
      · exact List.mem_cons_of_mem _ (ih hp hseen)

/-- Every other parameter is kept as it is. -/
theorem mem_redactedFrom_iff {seen : List Chars} {params : Params} {q : Chars × Chars}
    (hplain : isSensitiveParam q.1 = false) : q ∈ redactedFrom seen params ↔ q ∈ params := by
  induction params generalizing seen with
  | nil => rfl
  | cons p params ih =>
    have hne (hp : isSensitiveParam p.1 = true) (r : Chars × Chars) (hr : r.1 = p.1) : q ≠ r := by
      rintro rfl
      rw [hr, hp] at hplain
      exact absurd hplain (by decide)
    rw [redactedFrom_cons]
    split_ifs with hp hmem
    · rw [ih, List.mem_cons]
      simp [hne hp p rfl]
    · rw [List.mem_cons, List.mem_cons, ih]
      simp [hne hp p rfl, hne hp (p.1, redacted) rfl]
    · rw [List.mem_cons, List.mem_cons, ih]

/-- Every name was there before. -/
theorem exists_mem_of_mem {seen : List Chars} {params : Params} {q : Chars × Chars}
    (hq : q ∈ redactedFrom seen params) : ∃ p ∈ params, p.1 = q.1 := by
  induction params generalizing seen with
  | nil => exact absurd hq List.not_mem_nil
  | cons p params ih =>
    have hbehind {seen : List Chars} (hq : q ∈ redactedFrom seen params) :
        ∃ r ∈ p :: params, r.1 = q.1 := by
      obtain ⟨r, hr, heq⟩ := ih hq
      exact ⟨r, List.mem_cons_of_mem p hr, heq⟩
    rw [redactedFrom_cons] at hq
    split_ifs at hq with hp hmem
    · exact hbehind hq
    · rcases List.mem_cons.mp hq with rfl | hq
      · exact ⟨p, List.mem_cons_self, rfl⟩
      · exact hbehind hq
    · rcases List.mem_cons.mp hq with rfl | hq
      · exact ⟨q, List.mem_cons_self, rfl⟩
      · exact hbehind hq

/-- Redacting the parameters twice is redacting them. -/
theorem redactedFrom_redactedFrom (seen : List Chars) (params : Params) :
    redactedFrom seen (redactedFrom seen params) = redactedFrom seen params := by
  induction params generalizing seen with
  | nil => rfl
  | cons p params ih =>
    rw [redactedFrom_cons]
    split_ifs with hp hmem
    · exact ih seen
    · rw [redactedFrom_cons, if_pos hp, if_neg hmem, ih]
    · rw [redactedFrom_cons, if_neg hp, ih]

/-- A sensitive parameter stays one. -/
theorem any_redactedFrom (params : Params) :
    (redactedFrom [] params).any (isSensitiveParam ·.1) = params.any (isSensitiveParam ·.1) := by
  rw [Bool.eq_iff_iff, List.any_eq_true, List.any_eq_true]
  constructor
  · rintro ⟨q, hq, hsensitive⟩
    obtain ⟨p, hp, heq⟩ := exists_mem_of_mem hq
    exact ⟨p, hp, by rw [heq, hsensitive]⟩
  · rintro ⟨p, hp, hsensitive⟩
    exact ⟨_, mem_redactedFrom hp hsensitive List.not_mem_nil, hsensitive⟩

/-! ## What is written -/

/-- The URL that `sanitizeUrl` writes again. -/
def Platform.rewrite (P : Platform) (url : Url) : Chars :=
  url.head ++ '?' :: UrlEncoded.serialize (redactedFrom [] (P.searchParams url))

theorem sensitiveUrl_eq_some {P : Platform} {value : Chars} {url : Url} :
    P.sensitiveUrl value = some url ↔
      P.newURL value = some url ∧ (P.searchParams url).any (isSensitiveParam ·.1) = true :=
  Option.filter_eq_some_iff

theorem sanitizeUrl_eq (P : Platform) (value : Chars) : sanitizeUrl P value =
    match P.sensitiveUrl value with
    | some url => P.rewrite url
    | none => sanitizeByPattern value := by
  unfold sanitizeUrl
  cases hurl : P.newURL value with
  | none => simp [Platform.sensitiveUrl, hurl]
  | some url =>
    simp only [redactParams_eq]
    by_cases hany : (P.searchParams url).any (isSensitiveParam ·.1) = true
    · rw [if_pos hany, sensitiveUrl_eq_some.mpr ⟨hurl, hany⟩]
      rfl
    · have hnone : P.sensitiveUrl value = none := by
        rw [Platform.sensitiveUrl, hurl, Option.filter_some, if_neg hany]
      rw [if_neg hany, hnone]

/-- A plain lower case is the lower case of a plain character. -/
theorem isPlain_of_toLower {c : Char} (h : UrlEncoded.isPlain c.toLower = true) :
    UrlEncoded.isPlain c = true := by
  by_cases hupper : 65 ≤ c.toNat ∧ c.toNat ≤ 90
  · have hletter := (UrlEncoded.isAlphanum_iff c).mpr (.inl hupper)
    simp [UrlEncoded.isPlain, hletter]
  · have hsame : c.toLower = c := by
      rw [← Char.toNat_inj, toNat_toLower, if_neg hupper]
    rwa [hsame] at h

theorem isPlain_of_mem_pattern {word : String} (hword : word ∈ sensitiveUrlParamPattern) {c : Char}
    (hc : c ∈ word.toList) : UrlEncoded.isPlain c = true := by
  have hall : (sensitiveUrlParamPattern.all fun word =>
      word.toList.all UrlEncoded.isPlain) = true := by decide
  exact List.all_eq_true.mp (List.all_eq_true.mp hall word hword) c hc

/-- A sensitive name is written with its sensitive word. -/
theorem mentions_encode {name : Chars} (h : isSensitiveParam name = true) :
    mentions sensitiveUrlParamPattern (UrlEncoded.encode name) = true := by
  obtain ⟨word, hword, x, y, hxy⟩ := mentions_iff.mp h
  obtain ⟨xw, y', hname, hxw, -⟩ := List.map_eq_append_iff.mp hxy.symm
  obtain ⟨x', w, rfl, -, hw⟩ := List.map_eq_append_iff.mp hxw
  -- The characters of the word are plain, so that they are written as they are.
  have hplain : ∀ c ∈ w, UrlEncoded.isPlain c = true := by
    intro c hc
    apply isPlain_of_toLower
    apply isPlain_of_mem_pattern hword
    rw [← hw]
    exact List.mem_map_of_mem hc
  refine mentions_iff.mpr ⟨word, hword, ?_⟩
  rw [hname, UrlEncoded.encode_append, UrlEncoded.encode_append, UrlEncoded.encode_eq_self hplain,
    ← hw]
  exact (List.infix_append _ w _).map Char.toLower

/-- A parameter stands in the serialized list behind `?` or `&`. -/
theorem exists_of_mem_serialize {params : Params} {p : Chars × Chars} (hp : p ∈ params) {o : Char}
    (ho : o = '?' ∨ o = '&') : ∃ x o' y, (o' = '?' ∨ o' = '&') ∧
      o :: UrlEncoded.serialize params = x ++ o' :: (UrlEncoded.pair p ++ y) := by
  induction params generalizing o with
  | nil => exact absurd hp List.not_mem_nil
  | cons q params ih =>
    rcases List.mem_cons.mp hp with rfl | hp
    · cases params with
      | nil => exact ⟨[], o, [], ho, by simp⟩
      | cons r params => exact ⟨[], o, _, ho, by rw [UrlEncoded.serialize_cons_cons]; rfl⟩
    · cases params with
      | nil => exact absurd hp List.not_mem_nil
      | cons r params =>
        obtain ⟨x, o', y, ho', heq⟩ := ih hp (o := '&') (.inr rfl)
        refine ⟨o :: (UrlEncoded.pair q ++ x), o', y, ho', ?_⟩
        rw [UrlEncoded.serialize_cons_cons, heq, List.cons_append, List.append_assoc]

/-- A redacted parameter of a rewritten URL: its name mentions a sensitive word, and its value starts
with an escape. -/
theorem exists_rewrite_eq {P : Platform} {url : Url}
    (hany : (P.searchParams url).any (isSensitiveParam ·.1) = true) :
    ∃ x o name y, (o = '?' ∨ o = '&') ∧ mentions sensitiveUrlParamPattern name = true ∧
      '=' ∉ name ∧ P.rewrite url = x ++ o :: (name ++ '=' :: '%' :: y) := by
  obtain ⟨p, hp, hsensitive⟩ := List.any_eq_true.mp hany
  have hmem := mem_redactedFrom hp hsensitive (List.not_mem_nil (a := p.1))
  obtain ⟨x, o, y, ho, heq⟩ := exists_of_mem_serialize hmem (o := '?') (.inl rfl)
  have hvalue : UrlEncoded.encode redacted = '%' :: (UrlEncoded.encode redacted).tail := by
    decide
  refine ⟨url.head ++ x, o, UrlEncoded.encode p.1, (UrlEncoded.encode redacted).tail ++ y, ho,
    mentions_encode hsensitive, UrlEncoded.notMem_encode (by decide) p.1, ?_⟩
  rw [Platform.rewrite, heq, UrlEncoded.pair, hvalue]
  simp

theorem percent_mem_rewrite {P : Platform} {url : Url}
    (hany : (P.searchParams url).any (isSensitiveParam ·.1) = true) : '%' ∈ P.rewrite url := by
  obtain ⟨x, o, name, y, -, -, -, heq⟩ := exists_rewrite_eq hany
  simp [heq]

/-- Masking does not leave a rewritten URL as it is. -/
theorem maskValues_rewrite {P : Platform} {url : Url}
    (hany : (P.searchParams url).any (isSensitiveParam ·.1) = true) :
    maskValues (P.rewrite url) ≠ P.rewrite url := by
  obtain ⟨x, o, name, y, ho, hname, hfree, heq⟩ := exists_rewrite_eq hany
  rw [heq]
  exact maskValues_ne ho hname hfree (by decide) (by decide)

theorem hasJwt_serialize {params : Params} : hasJwt none (UrlEncoded.serialize params) = true ↔
    ∃ p ∈ params, hasJwt none (UrlEncoded.encode p.1) = true ∨
      hasJwt none (UrlEncoded.encode p.2) = true := by
  have hpair (p : Chars × Chars) : hasJwt none (UrlEncoded.pair p) = true ↔
      hasJwt none (UrlEncoded.encode p.1) = true ∨ hasJwt none (UrlEncoded.encode p.2) = true := by
    rw [UrlEncoded.pair, hasJwt_append (by decide), Bool.or_eq_true]
  induction params with
  | nil => simp [UrlEncoded.serialize, hasJwt]
  | cons p params ih =>
    cases params with
    | nil => simp [hpair]
    | cons q params =>
      rw [UrlEncoded.serialize_cons_cons, hasJwt_append (by decide), Bool.or_eq_true,
        or_congr (hpair p) ih]
      simp

/-- A rewritten URL has a web token exactly when it is not written plainly. -/
theorem hasJwt_rewrite (P : Platform) (url : Url) :
    hasJwt none (P.rewrite url) = false ↔ WrittenPlainly P url := by
  have hredacted : hasJwt none (UrlEncoded.encode redacted) = false := by decide
  rw [Platform.rewrite, hasJwt_append (by decide), Bool.or_eq_false_iff, Bool.eq_false_iff,
    Bool.eq_false_iff, ne_eq, ne_eq, hasJwt_serialize]
  constructor
  · rintro ⟨hhead, hparams⟩
    simp only [not_exists, not_and, not_or, Bool.not_eq_true] at hparams
    refine ⟨Bool.eq_false_iff.mpr hhead, ?_, ?_⟩
    · intro p hp
      by_cases hsensitive : isSensitiveParam p.1 = true
      · exact (hparams _ (mem_redactedFrom hp hsensitive List.not_mem_nil)).1
      · exact (hparams p ((mem_redactedFrom_iff (Bool.eq_false_iff.mpr hsensitive)).mpr hp)).1
    · intro p hp hplain
      exact (hparams p ((mem_redactedFrom_iff hplain).mpr hp)).2
  · rintro ⟨hhead, hnames, hvalues⟩
    refine ⟨Bool.eq_false_iff.mp hhead, ?_⟩
    rintro ⟨q, hq, hname | hvalue⟩
    · obtain ⟨p, hp, heq⟩ := exists_mem_of_mem hq
      rw [← heq, hnames p hp] at hname
      exact absurd hname (by decide)
    · by_cases hsensitive : isSensitiveParam q.1 = true
      · rw [eq_redacted_of_mem hq hsensitive, hredacted] at hvalue
        exact absurd hvalue (by decide)
      · have hplain := Bool.eq_false_iff.mpr hsensitive
        rw [hvalues q ((mem_redactedFrom_iff hplain).mp hq) hplain] at hvalue
        exact absurd hvalue (by decide)

/-- A word that lacks the separator of two texts is in one of them. -/
theorem infix_append_cons {α : Type*} {a : α} {w x y : List α} (ha : a ∉ w) :
    w <:+: x ++ a :: y ↔ w <:+: x ∨ w <:+: y := by
  constructor
  · rintro ⟨s, t, heq⟩
    rw [List.append_assoc] at heq
    rcases List.append_eq_append_iff.mp heq with ⟨l, hx, hwt⟩ | ⟨l, hs, hy⟩
    · left
      obtain ⟨l', ht⟩ := exists_append_of_notMem ha hwt.symm
      rw [← ht, ← List.append_assoc, List.append_cancel_right_eq] at hwt
      exact ⟨s, l', by rw [hx, ← hwt, List.append_assoc]⟩
    · cases l with
      | nil =>
        cases w with
        | nil => exact .inl List.nil_infix
        | cons b w =>
          obtain ⟨rfl, -⟩ := List.cons.inj hy
          exact absurd List.mem_cons_self ha
      | cons b l =>
        obtain ⟨-, hy⟩ := List.cons.inj hy
        exact .inr ⟨l, t, by rw [List.append_assoc]; exact hy.symm⟩
  · rintro (h | h)
    · exact h.trans (List.prefix_append _ _).isInfix
    · exact h.trans ((List.suffix_cons a y).trans (List.suffix_append _ _)).isInfix

theorem mem_http : ∀ word ∈ ["http://", "https://"], '?' ∉ word.toList ∧ ':' ∈ word.toList := by
  decide

/-- A rewritten URL is looked at again exactly when its origin and path mention a scheme. -/
theorem mentionsSecretUrl_rewrite {P : Platform} {url : Url}
    (hany : (P.searchParams url).any (isSensitiveParam ·.1) = true) :
    mentionsSecretUrl (P.rewrite url) = mentionsHttp url.head := by
  have hword : mentions sensitiveUrlParamPattern (P.rewrite url) = true := by
    obtain ⟨x, o, name, y, -, hname, -, heq⟩ := exists_rewrite_eq hany
    rw [heq]
    exact mentions_mono ⟨x ++ [o], '=' :: '%' :: y, by simp⟩ hname
  rw [mentionsSecretUrl, hword, Bool.and_true, Bool.eq_iff_iff, mentionsHttp, mentionsHttp,
    mentions_iff, mentions_iff]
  refine exists_congr fun word => and_congr_right fun hmem => ?_
  obtain ⟨hquestion, hcolon⟩ := mem_http word hmem
  have hquery : ¬word.toList <:+: (UrlEncoded.serialize
      (redactedFrom [] (P.searchParams url))).map Char.toLower := by
    intro hin
    obtain ⟨c, hc, hlower⟩ := List.mem_map.mp (hin.subset hcolon)
    have : c = ':' := by
      have := congrArg Char.toNat hlower
      rw [toNat_toLower] at this
      rw [← Char.toNat_inj]
      split_ifs at this with hupper
      · have hcode : ':'.toNat = 58 := rfl
        omega
      · exact this
    rw [this] at hc
    exact UrlEncoded.notMem_serialize (by decide) _ hc
  rw [Platform.rewrite, List.map_append, List.map_cons, show Char.toLower '?' = '?' from rfl,
    infix_append_cons hquestion, or_iff_left hquery]

/-- No URL starts as a bearer header does. -/
theorem exists_head {P : Platform} (hP : Documented P) {s : Chars} {url : Url}
    (hurl : P.newURL s = some url) : ∃ c l, url.head = c :: l ∧ isWhitespace c = false ∧
      c.toLower ≠ 'b' := by
  rcases hP.origin s url hurl with hnull | ⟨scheme, hscheme, rest, horigin⟩
  · exact ⟨'n', "ull".toList ++ url.pathname, by rw [Url.head, hnull]; rfl, by decide, by decide⟩
  · have hfirst : ∀ scheme ∈ ["http", "https", "ws", "wss", "ftp"],
        scheme.toList.head?.any (fun c => !isWhitespace c && c.toLower != 'b') = true := by decide
    obtain ⟨c, hc, hplain⟩ := (Option.any_eq_true _ _).mp (hfirst scheme hscheme)
    simp only [Bool.and_eq_true, Bool.not_eq_true', bne_iff_ne] at hplain
    obtain ⟨l, hl⟩ := List.head?_eq_some_iff.mp hc
    refine ⟨c, l ++ (rest ++ url.pathname), ?_, hplain.1, hplain.2⟩
    rw [Url.head, ← horigin, hl, List.append_assoc, List.cons_append]

/-- The only shape of a secret that a rewritten URL can have is a web token. -/
theorem isSecretText_rewrite {P : Platform} (hP : Documented P) {s : Chars} {url : Url}
    (hurl : P.sensitiveUrl s = some url) :
    isSecretText (P.rewrite url) = hasJwt none (P.rewrite url) := by
  obtain ⟨hs, hany⟩ := sensitiveUrl_eq_some.mp hurl
  have hmem := percent_mem_rewrite hany
  have hbearer : isBearer (P.rewrite url) = false := by
    obtain ⟨c, l, hhead, hspace, hletter⟩ := exists_head hP hs
    rw [Platform.rewrite, hhead, List.cons_append]
    exact isBearer_cons hspace hletter _
  rw [isSecretText, hbearer, isAadhaar_of_mem hmem (by decide) (by decide) (by decide),
    isPan_of_mem hmem (by decide) (by decide), Bool.or_false, Bool.or_false, Bool.or_false]

section
variable {P : Platform} {s : Chars} {url : Url}

theorem searchParams_query (hP : Documented P) (url : Url) (params : Params) :
    P.searchParams { url with query := UrlEncoded.serialize params } = params :=
  UrlEncoded.parse_serialize hP.decode params

/-- What is written for a URL that is read back holds the parameters as they were set. -/
theorem sensitiveUrl_rewrite (hP : Documented P) (hurl : P.sensitiveUrl s = some url) :
    P.sensitiveUrl (P.rewrite url) = (P.newURL (url.head ++ ['?'])).map fun url' =>
      { url' with query := UrlEncoded.serialize (redactedFrom [] (P.searchParams url)) } := by
  obtain ⟨hs, hany⟩ := sensitiveUrl_eq_some.mp hurl
  obtain ⟨hquestion, hhash⟩ := hP.head s url hs
  have hread := hP.query url.head (redactedFrom [] (P.searchParams url)) hquestion hhash
  rw [Platform.sensitiveUrl, Platform.rewrite, hread]
  cases hnew : P.newURL (url.head ++ ['?']) with
  | none => rfl
  | some url' =>
    rw [Option.map_some, Option.filter_some, if_pos]
    rw [searchParams_query hP, any_redactedFrom, hany]

/-- A rewritten URL that is looked at again stays exactly when it is read back. -/
theorem sanitizeUrl_rewrite (hP : Documented P) (hurl : P.sensitiveUrl s = some url)
    (hhttp : mentionsHttp url.head = true) :
    sanitizeUrl P (P.rewrite url) = P.rewrite url ↔ P.ReadsBack url := by
  obtain ⟨hs, hany⟩ := sensitiveUrl_eq_some.mp hurl
  rw [sanitizeUrl_eq, sensitiveUrl_rewrite hP hurl, Platform.ReadsBack]
  cases hnew : P.newURL (url.head ++ ['?']) with
  | none =>
    -- The rewritten text is masked, and masking changes it.
    have hlook : mentionsSecretUrl (P.rewrite url) = true := by
      rw [mentionsSecretUrl_rewrite hany, hhttp]
    simp only [Option.map_none, sanitizeByPattern, hlook, if_true]
    refine ⟨fun heq => absurd heq (maskValues_rewrite hany), ?_⟩
    rintro ⟨url', hsome, -⟩
    exact absurd hsome (by simp)
  | some url' =>
    simp only [Option.map_some, Option.some.injEq, exists_eq_left']
    have hagain : P.rewrite
        { url' with query := UrlEncoded.serialize (redactedFrom [] (P.searchParams url)) } =
        url'.head ++ '?' :: UrlEncoded.serialize (redactedFrom [] (P.searchParams url)) := by
      rw [Platform.rewrite, searchParams_query hP, redactedFrom_redactedFrom]
      rfl
    rw [hagain, Platform.rewrite, List.append_cancel_right_eq]

/-! ## A text -/

theorem sanitizeText_redacted (P : Platform) : sanitizeText P redacted = redacted := by
  have hsecret : isSecretText redacted = false := by decide
  have hlook : mentionsSecretUrl redacted = false := by decide
  rw [sanitizeText, hsecret, hlook]
  rfl

/-- A text that the code looks at and that is a URL with a sensitive parameter. -/
theorem sanitizeText_of_url (hsecret : isSecretText s = false) (hlook : mentionsSecretUrl s = true)
    (hurl : P.sensitiveUrl s = some url) : sanitizeText P s = P.rewrite url := by
  rw [sanitizeText, hsecret, hlook, sanitizeUrl_eq, hurl]
  rfl

/-- Another text that the code looks at. -/
theorem sanitizeText_of_none (hsecret : isSecretText s = false) (hlook : mentionsSecretUrl s = true)
    (hurl : P.sensitiveUrl s = none) : sanitizeText P s = maskValues s := by
  rw [sanitizeText, hsecret, hlook, sanitizeUrl_eq, hurl]
  simp only [sanitizeByPattern, hlook, if_true]
  rfl

/-- A text that the code does not look at. -/
theorem sanitizeText_of_not (hsecret : isSecretText s = false)
    (hlook : mentionsSecretUrl s = false) : sanitizeText P s = s := by
  rw [sanitizeText, hsecret, hlook]
  rfl

/-- A text that stays as it is has its parameters redacted before. -/
theorem paramsReplaced_self (hP : Documented P) : ParamsReplaced P s s ↔
    ∀ url, P.sensitiveUrl s = some url → url.isHttp → ∀ p ∈ P.searchParams url,
      isSensitiveParam p.1 = true → p.2 = redacted := by
  constructor
  · rintro (rfl | hreplaced) url hurl hhttp p hp hsensitive
    · have := (sensitiveUrl_eq_some.mp hurl).1
      rw [hP.scheme] at this
      exact absurd this (by simp)
    · have hs := (sensitiveUrl_eq_some.mp hurl).1
      obtain ⟨url', hs', -, hall⟩ := hreplaced url hs hhttp p hp hsensitive
      obtain rfl := Option.some.inj (hs.symm.trans hs')
      exact hall p hp rfl
  · intro h
    refine .inr fun url hs hhttp p hp hsensitive => ?_
    have hurl := sensitiveUrl_eq_some.mpr ⟨hs, List.any_eq_true.mpr ⟨p, hp, hsensitive⟩⟩
    have hall := h url hurl hhttp
    refine ⟨url, hs, ?_, fun q hq heq => hall q hq (heq ▸ hsensitive)⟩
    rw [← hall p hp hsensitive]
    exact hp

/-- A rewritten http(s) URL has its sensitive parameters redacted. -/
theorem paramsReplaced_rewrite (hP : Documented P) (hurl : P.sensitiveUrl s = some url) :
    ParamsReplaced P s (P.rewrite url) := by
  obtain ⟨hs, hany⟩ := sensitiveUrl_eq_some.mp hurl
  refine .inr fun url' hs' hhttp p hp hsensitive => ?_
  obtain rfl := Option.some.inj (hs.symm.trans hs')
  obtain ⟨again, hread, hhead⟩ := hP.readsBack s url hs hhttp
  have hagain := sensitiveUrl_rewrite hP hurl
  rw [hread, Option.map_some] at hagain
  refine ⟨_, (sensitiveUrl_eq_some.mp hagain).1, ?_, ?_⟩
  · rw [searchParams_query hP]
    exact mem_redactedFrom hp hsensitive List.not_mem_nil
  · intro q hq heq
    rw [searchParams_query hP] at hq
    exact eq_redacted_of_mem hq (heq ▸ hsensitive)

/-- A rewritten URL stays exactly when it is written plainly, and read back where it is looked at
again. -/
theorem sanitizeText_rewrite (hP : Documented P) (hurl : P.sensitiveUrl s = some url) :
    sanitizeText P (P.rewrite url) = P.rewrite url ↔
      WrittenPlainly P url ∧ (mentionsHttp url.head = true → P.ReadsBack url) := by
  obtain ⟨hs, hany⟩ := sensitiveUrl_eq_some.mp hurl
  rw [← hasJwt_rewrite, sanitizeText, isSecretText_rewrite hP hurl,
    mentionsSecretUrl_rewrite hany]
  by_cases hjwt : hasJwt none (P.rewrite url) = true
  · rw [if_pos hjwt]
    have hne : redacted ≠ P.rewrite url := by
      intro heq
      have hmem := percent_mem_rewrite hany
      rw [← heq] at hmem
      exact absurd hmem (by decide)
    simp [hjwt, hne]
  · rw [if_neg hjwt]
    by_cases hhttp : mentionsHttp url.head = true
    · rw [if_pos hhttp, sanitizeUrl_rewrite hP hurl hhttp]
      simp [hjwt, hhttp]
    · simp [hjwt, hhttp]

/-- A masked text stays exactly when it is no URL with a sensitive parameter that is looked at. -/
theorem sanitizeText_maskValues (hsecret : isSecretText s = false) :
    sanitizeText P (maskValues s) = maskValues s ↔
      (mentionsSecretUrl (maskValues s) = true → P.sensitiveUrl (maskValues s) = none) := by
  have hsecret' := isSecretText_maskValues hsecret
  cases hlook : mentionsSecretUrl (maskValues s) with
  | false => simp [sanitizeText_of_not hsecret' hlook]
  | true =>
    cases hurl : P.sensitiveUrl (maskValues s) with
    | none => simp [sanitizeText_of_none hsecret' hlook hurl, maskValues_maskValues]
    | some url =>
      have hany := (sensitiveUrl_eq_some.mp hurl).2
      rw [sanitizeText_of_url hsecret' hlook hurl]
      simp only [forall_const, reduceCtorEq, iff_false]
      intro heq
      have hmask := maskValues_rewrite hany
      rw [heq, maskValues_maskValues] at hmask
      exact hmask rfl

theorem redactable_of_not (hlook : mentionsSecretUrl s = false) : Redactable P s ↔
    ∀ url, P.sensitiveUrl s = some url → url.isHttp → ∀ p ∈ P.searchParams url,
      isSensitiveParam p.1 = true → p.2 = redacted :=
  ⟨fun h => h.unnoticed hlook, fun h => ⟨fun _ => h, by simp [hlook], by simp [hlook]⟩⟩

theorem redactable_of_url (hlook : mentionsSecretUrl s = true)
    (hurl : P.sensitiveUrl s = some url) : Redactable P s ↔
      WrittenPlainly P url ∧ (mentionsHttp url.head = true → P.ReadsBack url) := by
  constructor
  · intro h
    exact h.rewritten hlook url hurl
  · intro h
    refine ⟨by simp [hlook], fun _ url' hurl' => ?_, by simp [hurl]⟩
    obtain rfl := Option.some.inj (hurl.symm.trans hurl')
    exact h

theorem redactable_of_none (hlook : mentionsSecretUrl s = true) (hurl : P.sensitiveUrl s = none) :
    Redactable P s ↔
      (mentionsSecretUrl (maskValues s) = true → P.sensitiveUrl (maskValues s) = none) :=
  ⟨fun h => h.masked hlook hurl, fun h => ⟨by simp [hlook], by simp [hurl], fun _ _ => h⟩⟩

/-- What a text has to meet is that its parameters are replaced and that it stays. -/
theorem redactable_iff (hP : Documented P) (s : Chars) :
    (ParamsReplaced P s (sanitizeText P s) ∧
      sanitizeText P (sanitizeText P s) = sanitizeText P s) ↔
    (isSecretText s = false → Redactable P s) := by
  cases hsecret : isSecretText s with
  | true =>
    have htext : sanitizeText P s = redacted := by
      rw [sanitizeText, hsecret]
      rfl
    simp [htext, sanitizeText_redacted, ParamsReplaced]
  | false =>
    rw [imp_iff_right rfl]
    cases hlook : mentionsSecretUrl s with
    | false =>
      have htext := sanitizeText_of_not (P := P) hsecret hlook
      rw [htext, htext, paramsReplaced_self hP, and_iff_left rfl, redactable_of_not hlook]
    | true =>
      cases hurl : P.sensitiveUrl s with
      | some url =>
        rw [sanitizeText_of_url hsecret hlook hurl, sanitizeText_rewrite hP hurl,
          and_iff_right (paramsReplaced_rewrite hP hurl), redactable_of_url hlook hurl]
      | none =>
        have hreplaced : ParamsReplaced P s (maskValues s) := by
          refine .inr fun url hs hhttp p hp hsensitive => ?_
          have := sensitiveUrl_eq_some.mpr ⟨hs, List.any_eq_true.mpr ⟨p, hp, hsensitive⟩⟩
          rw [hurl] at this
          exact absurd this (by simp)
        rw [sanitizeText_of_none hsecret hlook hurl, sanitizeText_maskValues hsecret,
          and_iff_right hreplaced, redactable_of_none hlook hurl]

end

/-! ## A value -/

/-- A value that is neither a text nor made of values. -/
def Json.isPlain : Json → Bool
  | .null => true
  | .bool _ => true
  | .num _ => true
  | _ => false

/-- The induction over a JSON value and the key that it stands under: below a hidden key there is
nothing to look at. -/
theorem Json.induction (mode : Mode) {motive : Chars → Json → Prop}
    (hidden : ∀ key value, isHiddenKey mode key = true → motive key value)
    (plain : ∀ key value, isHiddenKey mode key = false → value.isPlain = true →
      motive key value)
    (str : ∀ key s, isHiddenKey mode key = false → motive key (.str s))
    (arr : ∀ key (items : List Json), isHiddenKey mode key = false →
      (∀ item ∈ items, motive [] item) → motive key (.arr items))
    (obj : ∀ key (fields : List (Chars × Json)), isHiddenKey mode key = false →
      (∀ field ∈ fields, motive field.1 field.2) → motive key (.obj fields))
    (key : Chars) (value : Json) : motive key value := by
  cases hkey : isHiddenKey mode key with
  | true => exact hidden key value hkey
  | false =>
    match value with
    | .null => exact plain key .null hkey rfl
    | .bool b => exact plain key (.bool b) hkey rfl
    | .num n => exact plain key (.num n) hkey rfl
    | .str s => exact str key s hkey
    | .arr items =>
      exact arr key items hkey fun item _ =>
        Json.induction mode hidden plain str arr obj [] item
    | .obj fields =>
      exact obj key fields hkey fun field _ =>
        Json.induction mode hidden plain str arr obj field.1 field.2
termination_by sizeOf value
decreasing_by
  · have := List.sizeOf_lt_of_mem ‹item ∈ items›
    simp only [Json.arr.sizeOf_spec]
    omega
  · have := List.sizeOf_lt_of_mem ‹field ∈ fields›
    have hpair : sizeOf field = 1 + sizeOf field.1 + sizeOf field.2 := rfl
    simp only [Json.obj.sizeOf_spec]
    omega

section
variable (P : Platform) (mode : Mode)

theorem sanitizeRecursive_eq (key : Chars) (value : Json) : sanitizeRecursive P mode key value =
    (sanitizeScalar P mode key value).getD
      (match value with
      | .arr items => .arr (sanitizeItems P mode items)
      | .obj fields => .obj (sanitizeFields P mode fields)
      | value => value) := by
  cases value <;> rfl

theorem sanitizeItems_eq (items : List Json) :
    sanitizeItems P mode items = items.map (sanitizeRecursive P mode []) := by
  induction items with
  | nil => rfl
  | cons item items ih =>
    have hcons : sanitizeItems P mode (item :: items) =
        sanitizeRecursive P mode [] item :: sanitizeItems P mode items := rfl
    rw [hcons, ih, List.map_cons]

/-- The fields of an output. -/
def sanitizeField (field : Chars × Json) : Chars × Json :=
  (field.1, sanitizeRecursive P mode field.1 field.2)

theorem sanitizeFields_eq (fields : List (Chars × Json)) : sanitizeFields P mode fields =
    (fields.filter (·.1 ≠ protoKey)).map (sanitizeField P mode) := by
  induction fields with
  | nil => rfl
  | cons field fields ih =>
    have hcons : sanitizeFields P mode (field :: fields) =
        if field.1 = protoKey then sanitizeFields P mode fields
        else sanitizeField P mode field :: sanitizeFields P mode fields := rfl
    rw [hcons, ih, List.filter_cons]
    by_cases hproto : field.1 = protoKey <;> simp [hproto]

theorem exposedItems_eq (items : List Json) :
    exposedItems mode items = items.flatMap (exposed mode []) := by
  induction items with
  | nil => rfl
  | cons item items ih =>
    have hcons : exposedItems mode (item :: items) =
        exposed mode [] item ++ exposedItems mode items := rfl
    rw [hcons, ih, List.flatMap_cons]

theorem exposedFields_eq (fields : List (Chars × Json)) : exposedFields mode fields =
    (fields.filter (·.1 ≠ protoKey)).flatMap fun field => exposed mode field.1 field.2 := by
  induction fields with
  | nil => rfl
  | cons field fields ih =>
    have hcons : exposedFields mode (field :: fields) =
        if field.1 = protoKey then exposedFields mode fields
        else exposed mode field.1 field.2 ++ exposedFields mode fields := rfl
    rw [hcons, ih, List.filter_cons]
    by_cases hproto : field.1 = protoKey <;> simp [hproto]

theorem allFieldsOfItems_eq (items : List Json) :
    allFieldsOfItems items = items.flatMap allFields := by
  induction items with
  | nil => rfl
  | cons item items ih =>
    have hcons : allFieldsOfItems (item :: items) = allFields item ++ allFieldsOfItems items := rfl
    rw [hcons, ih, List.flatMap_cons]

theorem allFieldsOfFields_eq (fields : List (Chars × Json)) : allFieldsOfFields fields =
    fields.flatMap fun field => field :: allFields field.2 := by
  induction fields with
  | nil => rfl
  | cons field fields ih =>
    have hcons : allFieldsOfFields (field :: fields) =
        field :: (allFields field.2 ++ allFieldsOfFields fields) := rfl
    rw [hcons, ih, List.flatMap_cons, List.cons_append]

/-- Under a hidden key is left nothing but `null` and `[REDACTED]`. -/
theorem sanitizeRecursive_of_hidden {key : Chars} (hkey : isHiddenKey mode key = true)
    (value : Json) : sanitizeRecursive P mode key value = .null ∨
      sanitizeRecursive P mode key value = .str redacted := by
  rw [sanitizeRecursive_eq]
  cases value <;> simp [sanitizeScalar, hkey]

/-- What becomes of a value under another key. -/
theorem sanitizeRecursive_visible {key : Chars} (hkey : isHiddenKey mode key = false)
    (value : Json) : sanitizeRecursive P mode key value =
      match value with
      | .str s => .str (sanitizeText P s)
      | .arr items => .arr (items.map (sanitizeRecursive P mode []))
      | .obj fields => .obj ((fields.filter (·.1 ≠ protoKey)).map (sanitizeField P mode))
      | value => value := by
  rw [sanitizeRecursive_eq]
  cases value <;> simp [sanitizeScalar, hkey, sanitizeItems_eq, sanitizeFields_eq]

theorem exposed_of_hidden {key : Chars} (hkey : isHiddenKey mode key = true) (value : Json) :
    exposed mode key value = [] := by
  cases value <;> first | rfl | exact if_pos hkey

theorem exposed_visible {key : Chars} (hkey : isHiddenKey mode key = false) (value : Json) :
    exposed mode key value =
      match value with
      | .str s => [s]
      | .arr items => items.flatMap (exposed mode [])
      | .obj fields => (fields.filter (·.1 ≠ protoKey)).flatMap fun field =>
          exposed mode field.1 field.2
      | _ => [] := by
  have hvisible (texts : List Chars) :
      (if isHiddenKey mode key then [] else texts) = texts := by
    rw [hkey]
    rfl
  cases value with
  | str s => exact hvisible [s]
  | arr items => exact (hvisible _).trans (exposedItems_eq mode items)
  | obj fields => exact (hvisible _).trans (exposedFields_eq mode fields)
  | _ => rfl

theorem allFields_eq (value : Json) : allFields value =
    match value with
    | .arr items => items.flatMap allFields
    | .obj fields => fields.flatMap fun field => field :: allFields field.2
    | _ => [] := by
  cases value with
  | arr items => exact allFieldsOfItems_eq items
  | obj fields => exact allFieldsOfFields_eq fields
  | _ => rfl

/-- A plain value stays as it is, and holds neither a text nor a field. -/
theorem plain_visible {key : Chars} (hkey : isHiddenKey mode key = false) {value : Json}
    (hplain : value.isPlain = true) : sanitizeRecursive P mode key value = value ∧
      exposed mode key value = [] ∧ allFields value = [] := by
  rw [sanitizeRecursive_visible P mode hkey, exposed_visible mode hkey, allFields_eq]
  cases value <;> first | exact ⟨rfl, rfl, rfl⟩ | cases hplain

/-- Every secret key of an output has its value hidden. -/
theorem keysHidden_sanitizeRecursive (key : Chars) (value : Json) :
    KeysHidden (sanitizeRecursive P mode key value) := by
  have hscalar (value : Json) (h : allFields value = []) : KeysHidden value := by
    intro field hfield
    rw [h] at hfield
    exact absurd hfield List.not_mem_nil
  induction key, value using Json.induction mode with
  | hidden key value hkey =>
    rcases sanitizeRecursive_of_hidden P mode hkey value with heq | heq <;>
      exact hscalar _ (by rw [heq]; rfl)
  | plain key value hkey hplain =>
    obtain ⟨hsame, -, hfields⟩ := plain_visible P mode hkey hplain
    rw [hsame]
    exact hscalar value hfields
  | str key s hkey =>
    rw [sanitizeRecursive_visible P mode hkey]
    exact hscalar _ rfl
  | arr key items hkey ih =>
    intro field hfield
    rw [sanitizeRecursive_visible P mode hkey, allFields_eq] at hfield
    obtain ⟨out, hout, hfield⟩ := List.mem_flatMap.mp hfield
    obtain ⟨item, hitem, rfl⟩ := List.mem_map.mp hout
    exact ih item hitem field hfield
  | obj key fields hkey ih =>
    intro field hfield hsecret
    rw [sanitizeRecursive_visible P mode hkey, allFields_eq] at hfield
    obtain ⟨out, hout, hfield⟩ := List.mem_flatMap.mp hfield
    obtain ⟨child, hchild, rfl⟩ := List.mem_map.mp hout
    rcases List.mem_cons.mp hfield with rfl | hfield
    · -- The field itself: its key hides the value in every mode.
      refine sanitizeRecursive_of_hidden P mode ?_ child.2
      have hkey' : isSecretKey child.1 = true := hsecret
      rw [isHiddenKey, hkey', Bool.true_or]
    · exact ih child (List.mem_filter.mp hchild).1 field hfield hsecret

/-- An output stores no field of the key `__proto__`. -/
theorem filter_sanitizeField (fields : List (Chars × Json)) :
    ((fields.filter (·.1 ≠ protoKey)).map (sanitizeField P mode)).filter (·.1 ≠ protoKey) =
      (fields.filter (·.1 ≠ protoKey)).map (sanitizeField P mode) := by
  rw [List.filter_eq_self]
  intro out hout
  obtain ⟨field, hfield, rfl⟩ := List.mem_map.mp hout
  exact (List.mem_filter.mp hfield).2

/-- The texts under no hidden key are sanitized, each by itself. -/
theorem exposed_sanitizeRecursive (key : Chars) (value : Json) :
    exposed mode key (sanitizeRecursive P mode key value) =
      (exposed mode key value).map (sanitizeText P) := by
  induction key, value using Json.induction mode with
  | hidden key value hkey =>
    rw [exposed_of_hidden mode hkey, exposed_of_hidden mode hkey, List.map_nil]
  | plain key value hkey hplain =>
    obtain ⟨hsame, hnone, -⟩ := plain_visible P mode hkey hplain
    rw [hsame, hnone, List.map_nil]
  | str key s hkey =>
    rw [sanitizeRecursive_visible P mode hkey, exposed_visible mode hkey, exposed_visible mode hkey,
      List.map_singleton]
  | arr key items hkey ih =>
    rw [sanitizeRecursive_visible P mode hkey, exposed_visible mode hkey, exposed_visible mode hkey]
    simp only [List.flatMap_map, List.map_flatMap]
    exact List.flatMap_congr ih
  | obj key fields hkey ih =>
    rw [sanitizeRecursive_visible P mode hkey, exposed_visible mode hkey, exposed_visible mode hkey]
    simp only [filter_sanitizeField, List.flatMap_map, List.map_flatMap]
    exact List.flatMap_congr fun field hfield => ih field (List.mem_filter.mp hfield).1

/-- A second redaction changes nothing exactly when it changes no text. -/
theorem sanitizeRecursive_sanitizeRecursive_iff (key : Chars) (value : Json) :
    sanitizeRecursive P mode key (sanitizeRecursive P mode key value) =
        sanitizeRecursive P mode key value ↔
      ∀ s ∈ exposed mode key value, sanitizeText P (sanitizeText P s) = sanitizeText P s := by
  induction key, value using Json.induction mode with
  | hidden key value hkey =>
    rw [exposed_of_hidden mode hkey]
    rcases sanitizeRecursive_of_hidden P mode hkey value with heq | heq <;>
      simp [heq, sanitizeRecursive, sanitizeScalar, hkey]
  | plain key value hkey hplain =>
    obtain ⟨hsame, hnone, -⟩ := plain_visible P mode hkey hplain
    simp [hsame, hnone]
  | str key s hkey => simp [sanitizeRecursive_visible P mode hkey, exposed_visible mode hkey]
  | arr key items hkey ih =>
    rw [sanitizeRecursive_visible P mode hkey (.arr items),
      sanitizeRecursive_visible P mode hkey (.arr _), exposed_visible mode hkey, Json.arr.injEq,
      List.map_map, List.map_inj_left, List.forall_mem_flatMap]
    exact forall₂_congr ih
  | obj key fields hkey ih =>
    rw [sanitizeRecursive_visible P mode hkey (.obj fields),
      sanitizeRecursive_visible P mode hkey (.obj _), exposed_visible mode hkey]
    simp only [Json.obj.injEq, filter_sanitizeField, List.map_map, List.map_inj_left,
      List.forall_mem_flatMap]
    refine forall₂_congr fun field hfield => ?_
    rw [← ih field (List.mem_filter.mp hfield).1]
    simp [sanitizeField]

theorem sanitizeFor_eq (value : Json) :
    sanitizeFor P mode value = sanitizeRecursive P mode [] value := by
  cases mode <;> rfl

end

/-- Redaction leaks nothing exactly when every text under no hidden key that has no shape of a secret
is redactable. -/
theorem leaksNothing_iff {P : Platform} (hP : Documented P) (mode : Mode) (value : Json) :
    LeaksNothing P mode value ↔
      ∀ s ∈ exposed mode [] value, isSecretText s = false → Redactable P s := by
  have hparams : List.Forall₂ (ParamsReplaced P) (exposed mode [] value)
      (exposed mode [] (sanitizeFor P mode value)) ↔
      ∀ s ∈ exposed mode [] value, ParamsReplaced P s (sanitizeText P s) := by
    rw [sanitizeFor_eq, exposed_sanitizeRecursive, List.forall₂_map_right_iff, List.forall₂_same]
  have hagain : sanitizeFor P mode (sanitizeFor P mode value) = sanitizeFor P mode value ↔
      ∀ s ∈ exposed mode [] value, sanitizeText P (sanitizeText P s) = sanitizeText P s := by
    rw [sanitizeFor_eq, sanitizeFor_eq, sanitizeRecursive_sanitizeRecursive_iff]
  constructor
  · rintro ⟨-, h₁, h₂⟩ s hs
    exact (redactable_iff hP s).mp ⟨hparams.mp h₁ s hs, hagain.mp h₂ s hs⟩
  · intro h
    refine ⟨?_, hparams.mpr fun s hs => ?_, hagain.mpr fun s hs => ?_⟩
    · rw [sanitizeFor_eq]
      exact keysHidden_sanitizeRecursive P mode [] value
    · exact ((redactable_iff hP s).mpr (h s hs)).1
    · exact ((redactable_iff hP s).mpr (h s hs)).2

/-! ## A library that reads one site -/

/-- UTF-8, and nothing of what is none. -/
def readUtf8 (bytes : List UInt8) : Chars :=
  ((bytes.toByteArray.utf8Decode?).map Array.toList).getD []

theorem readUtf8_flatMap (s : Chars) : readUtf8 (s.flatMap String.utf8EncodeChar) = s := by
  have hdecode := List.utf8Decode?_utf8Encode (l := s)
  rw [List.utf8Encode] at hdecode
  rw [readUtf8, hdecode, Option.map_some, Option.getD_some]

/-- Reads the URLs `https://a/?…`. -/
def oneSite : Platform where
  newURL text :=
    if "https://a/?".toList <+: text then
      some ⟨"https:".toList, "https://a".toList, ['/'], text.drop 11⟩
    else none
  utf8Decode := readUtf8

theorem oneSite_eq_some {s : Chars} {url : Url} : oneSite.newURL s = some url ↔
    ∃ query, s = "https://a/".toList ++ '?' :: query ∧
      url = ⟨"https:".toList, "https://a".toList, ['/'], query⟩ := by
  constructor
  · intro h
    simp only [oneSite] at h
    split_ifs at h with hfirst
    obtain ⟨query, rfl⟩ := hfirst
    exact ⟨query, rfl, (Option.some.inj h).symm⟩
  · rintro ⟨query, rfl, rfl⟩
    have hfirst : "https://a/?".toList <+: "https://a/".toList ++ '?' :: query := ⟨query, rfl⟩
    simp only [oneSite]
    rw [if_pos hfirst]
    rfl

theorem oneSite_documented : Documented oneSite where
  decode := readUtf8_flatMap
  scheme := by decide +kernel
  query head params hquestion hhash := by
    by_cases hhead : head = "https://a/".toList
    · subst hhead
      rw [oneSite_eq_some.mpr ⟨_, rfl, rfl⟩, oneSite_eq_some.mpr ⟨_, rfl, rfl⟩]
      rfl
    · have hnone (query : Chars) : oneSite.newURL (head ++ '?' :: query) = none := by
        rw [Option.eq_none_iff_forall_ne_some]
        intro url hurl
        obtain ⟨query', heq, -⟩ := oneSite_eq_some.mp hurl
        exact hhead (append_cons_inj_left hquestion (by decide) heq).1
      rw [hnone, hnone]
      rfl
  head s url hurl := by
    obtain ⟨query, -, rfl⟩ := oneSite_eq_some.mp hurl
    have hhead : '?' ∉ "https://a/".toList ∧ '#' ∉ "https://a/".toList := by decide
    exact hhead
  origin s url hurl := by
    obtain ⟨query, -, rfl⟩ := oneSite_eq_some.mp hurl
    exact .inr ⟨"https", by decide, "://a".toList, rfl⟩
  readsBack s url hurl _ := by
    obtain ⟨query, -, rfl⟩ := oneSite_eq_some.mp hurl
    exact ⟨_, oneSite_eq_some.mpr ⟨[], rfl, rfl⟩, rfl⟩

/-- A parameter whose sensitive name is written with an escape is not replaced. -/
theorem leaksNothing_fails : Documented oneSite ∧
    ¬LeaksNothing oneSite .log (.str "https://a/?%74oken=x".toList) := by
  refine ⟨oneSite_documented, ?_⟩
  rintro ⟨-, hparams, -⟩
  have hexposed : exposed .log [] (.str "https://a/?%74oken=x".toList) =
      ["https://a/?%74oken=x".toList] := by decide +kernel
  have hsame : sanitizeText oneSite "https://a/?%74oken=x".toList =
      "https://a/?%74oken=x".toList := by decide
  have hurl : oneSite.sensitiveUrl "https://a/?%74oken=x".toList =
      some ⟨"https:".toList, "https://a".toList, ['/'], "%74oken=x".toList⟩ := by decide +kernel
  rw [sanitizeFor_eq, exposed_sanitizeRecursive, hexposed, List.map_singleton, hsame] at hparams
  have hreplaced := (List.forall₂_cons.mp hparams).1
  have hleft := (paramsReplaced_self oneSite_documented).mp hreplaced _ hurl (.inr rfl)
    ("token".toList, "x".toList) (by decide +kernel) (by decide +kernel)
  exact absurd hleft (by decide)

/-- A key, a URL with two parameters of a sensitive name, and a text that mentions none. -/
theorem leaksNothing_site : LeaksNothing oneSite .audit (.obj [("password".toList, .num "1".toList),
    ("links".toList, .arr [.str "https://a/?token=x&b=1&token=y".toList, .str "ok".toList])]) := by
  rw [leaksNothing_iff oneSite_documented]
  have hexposed : exposed .audit [] (.obj [("password".toList, .num "1".toList),
      ("links".toList, .arr [.str "https://a/?token=x&b=1&token=y".toList, .str "ok".toList])]) =
      ["https://a/?token=x&b=1&token=y".toList, "ok".toList] := by decide
  have hurl : oneSite.sensitiveUrl "https://a/?token=x&b=1&token=y".toList =
      some ⟨"https:".toList, "https://a".toList, ['/'], "token=x&b=1&token=y".toList⟩ := by
    decide +kernel
  have hlook : mentionsSecretUrl "https://a/?token=x&b=1&token=y".toList = true := by
    decide +kernel
  have hquiet : mentionsSecretUrl "ok".toList = false := by decide
  have hnone : oneSite.sensitiveUrl "ok".toList = none := by decide
  rw [hexposed]
  intro s hs _
  simp only [List.mem_cons, List.not_mem_nil, or_false] at hs
  rcases hs with rfl | rfl
  · refine (redactable_of_url hlook hurl).mpr ⟨⟨?_, ?_, ?_⟩, fun _ => ?_⟩
    · decide
    · decide +kernel
    · decide +kernel
    · exact oneSite_documented.readsBack _ _ (sensitiveUrl_eq_some.mp hurl).1 (.inr rfl)
  · refine (redactable_of_not hquiet).mpr fun url hurl => ?_
    rw [hnone] at hurl
    exact absurd hurl (by simp)

end Docketra.Redaction
