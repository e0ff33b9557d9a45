import Docketra.Lib.JsonText
import Mathlib.Data.List.Infix
import Mathlib.Data.List.Perm.Subperm
import Mathlib.Data.List.Sort

/-!
# The changes of an audit entry

`diffFields` of `services/docketAudit.service.js` lists the fields in which two documents differ. It
compares what `sanitizeValue` leaves of the two values, by the text that `stableStringify` writes
for it. That text tells all sanitized values apart (`valuesEqual_iff`), so that a difference goes
unnoticed exactly when sanitizing removes it: `alike` says when it does (`told`), and the changes of
an update are complete when it does so for no field that differs (`changes_complete_iff`).
-/

namespace Docketra.AuditDiff

open JsonText

/-! ## Values -/

/-- The units of the texts that `Number.prototype.toString` writes for a finite number. -/
def isNumeral (text : Utf16) : Bool := text ≠ [] && text.all (· ∈ utf16 "0123456789+-.e")

/-- The units and the lengths of the texts of `Date.prototype.toISOString`. -/
def isIsoText (text : Utf16) : Bool :=
  (text.length = 24 || text.length = 27) && text.all (· ∈ utf16 "0123456789+-:.TZ")

/-- A finite number, by its text. -/
structure Numeral where
  text : Utf16
  numeral : isNumeral text = true

/-- A date, by its text. -/
structure IsoDate where
  text : Utf16
  iso : isIsoText text = true

inductive Number where
  | finite (n : Numeral) | nan | infinity (negative : Bool)

/-- A value of a document. The fields of an object are in the order of `Object.keys`. -/
inductive Value where
  | undefined | null
  | bool (b : Bool)
  | number (n : Number)
  | string (s : Utf16)
  | date (d : IsoDate)
  | array (items : List Value)
  | object (fields : List (Utf16 × Value))

mutual

/-- No object in a value has a key twice. -/
def keysDistinct : Value → Bool
  | .array items => itemsDistinct items
  | .object fields => (fields.map (·.1)).Nodup && fieldsDistinct fields
  | _ => true

def itemsDistinct : List Value → Bool
  | [] => true
  | v :: items => keysDistinct v && itemsDistinct items

def fieldsDistinct : List (Utf16 × Value) → Bool
  | [] => true
  | (_, v) :: fields => keysDistinct v && fieldsDistinct fields

end

/-- A document. -/
structure Document where
  fields : List (Utf16 × Value)
  distinct : keysDistinct (.object fields) = true

/-- `document?.[field]`. -/
def Document.get (document : Document) (field : Utf16) : Value :=
  ((document.fields.find? (·.1 = field)).map (·.2)).getD .undefined

/-- `Object.keys`. -/
def Document.keys (document : Document) : List Utf16 := document.fields.map (·.1)

/-! ## The source's functions -/

def MAX_VALUE_LENGTH : ℕ := 300

def SENSITIVE_FIELD_FRAGMENTS : List Utf16 :=
  ["password", "token", "secret", "auth", "cookie", "payload", "pan", "gst", "cin"].map utf16

section sanitizing

-- `String.prototype.toLowerCase`
variable (lowerCase : Utf16 → Utf16)

/-- `isSensitiveField`. -/
def isSensitiveField (field : Utf16) : Bool :=
  SENSITIVE_FIELD_FRAGMENTS.any fun fragment => fragment <:+: lowerCase field

/-- The string that is left of a string. -/
def sanitizeText (s : Utf16) : Utf16 :=
  if MAX_VALUE_LENGTH < s.length then s.take MAX_VALUE_LENGTH ++ utf16 "…" else s

/-- The path of a field of the object at `field`. -/
def subfield (field key : Utf16) : Utf16 := field ++ utf16 "." ++ key

mutual

/-- `sanitizeValue`. -/
def sanitizeValue (field : Utf16) (value : Value) : Value :=
  if isSensitiveField lowerCase field then .string (utf16 "[REDACTED]")
  else
    match value with
    | .undefined | .null => .null
    | .date d => .string d.text
    | .number n => .number n
    | .bool b => .bool b
    | .string s => .string (sanitizeText s)
    | .array items => .array (sanitizeItems field 20 items)
    | .object fields => .object (sanitizeFields field 30 fields)

/-- `value.slice(0, count).map(...)`. -/
def sanitizeItems (field : Utf16) (count : ℕ) : List Value → List Value
  | [] => []
  | v :: items =>
    match count with
    | 0 => []
    | count + 1 => sanitizeValue field v :: sanitizeItems field count items

/-- The fields of the result for the first `count` keys. -/
def sanitizeFields (field : Utf16) (count : ℕ) : List (Utf16 × Value) → List (Utf16 × Value)
  | [] => []
  | (key, v) :: fields =>
    match count with
    | 0 => []
    | count + 1 =>
      (key, sanitizeValue (subfield field key) v) :: sanitizeFields field count fields

end

end sanitizing

/-- The order of entries by their keys, in which `sort` compares code units. -/
def KeyLe {α : Type*} (p q : Utf16 × α) : Prop := p.1 ≤ q.1

instance {α : Type*} : DecidableRel (@KeyLe α) :=
  fun p q => inferInstanceAs (Decidable (p.1 ≤ q.1))

mutual

/-- `stableStringify`. -/
def stableStringify : Value → Utf16
  | .undefined => utf16 "undefined"
  | .null => utf16 "null"
  | .date d => d.text
  | .bool b => if b then utf16 "true" else utf16 "false"
  | .number (.finite n) => n.text
  | .number _ => utf16 "null"
  | .string s => quote s
  | .array items => bracketed 0x5B 0x5D (stringifyItems items)
  | .object fields =>
    bracketed 0x7B 0x7D
      (((stringifyFields fields).insertionSort KeyLe).map fun p => printField p.1 p.2)

def stringifyItems : List Value → List Utf16
  | [] => []
  | v :: items => stableStringify v :: stringifyItems items

def stringifyFields : List (Utf16 × Value) → List (Utf16 × Utf16)
  | [] => []
  | (key, v) :: fields => (key, stableStringify v) :: stringifyFields fields

end

/-- `valuesEqual`. -/
def valuesEqual (left right : Value) : Bool := stableStringify left = stableStringify right

/-- A change of a field. -/
structure Change where
  field : Utf16
  fromValue : Value
  toValue : Value

/-- The fields that `diffFields` compares: those that it is given, or those of either document. -/
def comparedFields (before after : Document) (fields : Option (List Utf16)) : List Utf16 :=
  match fields with
  | some (field :: fields) => field :: fields
  | _ => (before.keys ++ after.keys).eraseDups

section diffing

variable (lowerCase : Utf16 → Utf16)

/-- `diffFields`. -/
def diffFields (before after : Document) (fields : Option (List Utf16)) : List Change :=
  (comparedFields before after fields).filterMap fun field =>
    let fromValue := sanitizeValue lowerCase field (before.get field)
    let toValue := sanitizeValue lowerCase field (after.get field)
    if valuesEqual fromValue toValue then none else some { field, fromValue, toValue }

/-- The arguments of `createLog` that `logUpdate` gives. -/
structure LogCall where
  firmId : Utf16
  docketId : Utf16
  action : Utf16
  fromState : Value
  toState : Value
  performedBy : Utf16
  performedByRole : Option Utf16
  comment : Option Utf16
  changes : List Change
  metadata : List (Utf16 × Value)

/-- The arguments of `logUpdate`. -/
structure UpdateCall where
  firmId : Utf16
  docketId : Utf16
  performedBy : Utf16
  performedByRole : Option Utf16 := none
  before : Document
  after : Document
  fields : Option (List Utf16) := none
  action : Utf16 := utf16 "UPDATED"
  metadata : List (Utf16 × Value) := []
  comment : Option Utf16 := none

/-- `value || null`. -/
def orNull : Value → Value
  | .undefined | .null | .bool false | .number .nan | .string [] => .null
  | .number (.finite n) => if n.text = utf16 "0" then .null else .number (.finite n)
  | v => v

/-- `logUpdate`. It returns the call of `createLog` that it makes, if it makes one. -/
def logUpdate (call : UpdateCall) : Option LogCall :=
  let changes := diffFields lowerCase call.before call.after call.fields
  if changes.length = 0 then none
  else
    some
      { firmId := call.firmId
        docketId := call.docketId
        action := call.action
        fromState := orNull (call.before.get (utf16 "status"))
        toState := orNull (call.after.get (utf16 "status"))
        performedBy := call.performedBy
        performedByRole := call.performedByRole
        comment := call.comment
        changes
        metadata := call.metadata }

/-! ## What sanitizing removes -/

/-- A value that is neither an array nor an object, as far as it is told apart. -/
inductive Leaf where
  | nothing
  | bool (b : Bool)
  | number (n : Numeral)
  | text (s : Utf16)

/-- Numbers that are not finite are taken for nothing, and dates for their texts. -/
def leaf : Value → Option Leaf
  | .undefined | .null | .number .nan | .number (.infinity _) => some .nothing
  | .bool b => some (.bool b)
  | .number (.finite n) => some (.number n)
  | .string s => some (.text s)
  | .date d => some (.text d.text)
  | .array _ | .object _ => none

/-- Texts are told apart by what they start with, and by being too long. -/
def alikeLeaf : Leaf → Leaf → Bool
  | .nothing, .nothing => true
  | .bool b, .bool b' => b = b'
  | .number n, .number n' => n.text = n'.text
  | .text s, .text t =>
    s.take MAX_VALUE_LENGTH = t.take MAX_VALUE_LENGTH &&
      decide (MAX_VALUE_LENGTH < s.length) == decide (MAX_VALUE_LENGTH < t.length)
  | _, _ => false

/-- An array or an object is told from every leaf. -/
def alikeLeaves : Option Leaf → Option Leaf → Bool
  | some a, some b => alikeLeaf a b
  | _, _ => false

mutual

/-- The two values of a field are not told apart. -/
def alike (field : Utf16) (v w : Value) : Bool :=
  isSensitiveField lowerCase field ||
    match v, w with
    | .array items, .array items' => alikeItems field 20 items items'
    | .object fields, .object fields' =>
      (fields.take 30).length = (fields'.take 30).length &&
        alikeFields field 30 fields (fields'.take 30)
    | v, w => alikeLeaves (leaf v) (leaf w)

/-- The first `count` items of two arrays are not told apart. -/
def alikeItems (field : Utf16) (count : ℕ) : List Value → List Value → Bool
  | [], items' => (items'.take count).isEmpty
  | v :: items, items' =>
    match count, items' with
    | 0, _ => true
    | _ + 1, [] => false
    | count + 1, w :: items' => alike field v w && alikeItems field count items items'

/-- Each of the first `count` fields has its like among the others. -/
def alikeFields (field : Utf16) (count : ℕ) : List (Utf16 × Value) → List (Utf16 × Value) → Bool
  | [], _ => true
  | (key, v) :: fields, others =>
    match count with
    | 0 => true
    | count + 1 =>
      others.any (fun p => p.1 = key && alike (subfield field key) v p.2) &&
        alikeFields field count fields others

end

end diffing

/-! ## The compared text -/

def undefinedWord : Word := ⟨utf16 "undefined", by decide, List.all_eq_true.1 (by decide)⟩
def nullWord : Word := ⟨utf16 "null", by decide, List.all_eq_true.1 (by decide)⟩
def trueWord : Word := ⟨utf16 "true", by decide, List.all_eq_true.1 (by decide)⟩
def falseWord : Word := ⟨utf16 "false", by decide, List.all_eq_true.1 (by decide)⟩

/-- The word of a Boolean. -/
def boolWord (b : Bool) : Word := if b then trueWord else falseWord

/-- The word of a number. -/
def Numeral.word (n : Numeral) : Word where
  text := n.text
  nonempty := by
    have h := n.numeral
    unfold isNumeral at h
    simp only [Bool.and_eq_true, decide_eq_true_eq] at h
    exact h.1
  plain := by
    have hplain : ∀ u ∈ utf16 "0123456789+-.e", isPlain u = true := List.all_eq_true.1 (by decide)
    have h := n.numeral
    unfold isNumeral at h
    simp only [Bool.and_eq_true, List.all_eq_true, decide_eq_true_eq] at h
    exact fun u hu => hplain u (h.2 u hu)

/-- The word of a date. -/
def IsoDate.word (d : IsoDate) : Word where
  text := d.text
  nonempty := by
    have h := d.iso
    rintro heq
    rw [heq] at h
    revert h
    decide
  plain := by
    have hplain : ∀ u ∈ utf16 "0123456789+-:.TZ", isPlain u = true :=
      List.all_eq_true.1 (by decide)
    have h := d.iso
    unfold isIsoText at h
    simp only [Bool.and_eq_true, List.all_eq_true, decide_eq_true_eq] at h
    exact fun u hu => hplain u (h.2 u hu)

mutual

/-- The value whose text `stableStringify` writes, with the fields of each object in order. -/
def canonical : Value → Json
  | .undefined => .word undefinedWord
  | .null => .word nullWord
  | .date d => .word d.word
  | .bool b => .word (boolWord b)
  | .number (.finite n) => .word n.word
  | .number _ => .word nullWord
  | .string s => .string s
  | .array items => .array (canonicalItems items)
  | .object fields => .object ((canonicalFields fields).insertionSort KeyLe)

def canonicalItems : List Value → List Json
  | [] => []
  | v :: items => canonical v :: canonicalItems items

def canonicalFields : List (Utf16 × Value) → List (Utf16 × Json)
  | [] => []
  | (key, v) :: fields => (key, canonical v) :: canonicalFields fields

end

theorem sort_map {α β : Type*} (g : α → β) (fields : List (Utf16 × α)) :
    (fields.map fun p => (p.1, g p.2)).insertionSort KeyLe =
      (fields.insertionSort KeyLe).map fun p => (p.1, g p.2) :=
  (List.map_insertionSort KeyLe KeyLe (fun p : Utf16 × α => (p.1, g p.2)) fields
    fun _ _ _ _ => Iff.rfl).symm

mutual

theorem stableStringify_eq_print (v : Value) : stableStringify v = print (canonical v) := by
  match v with
  | .undefined | .null | .date _ | .number (.finite _) | .number .nan | .number (.infinity _)
  | .string _ => rfl
  | .bool b => cases b <;> rfl
  | .array items => rw [stableStringify, stringifyItems_eq items, canonical, print]
  | .object fields =>
    rw [stableStringify, stringifyFields_eq fields, sort_map, canonical, print, printFields_eq_map,
      List.map_map]
    rfl

theorem stringifyItems_eq (items : List Value) :
    stringifyItems items = printItems (canonicalItems items) := by
  match items with
  | [] => rfl
  | v :: items =>
    rw [stringifyItems, stableStringify_eq_print v, stringifyItems_eq items, canonicalItems,
      printItems]

theorem stringifyFields_eq (fields : List (Utf16 × Value)) :
    stringifyFields fields = (canonicalFields fields).map fun p => (p.1, print p.2) := by
  match fields with
  | [] => rfl
  | (key, v) :: fields =>
    rw [stringifyFields, stableStringify_eq_print v, stringifyFields_eq fields, canonicalFields,
      List.map_cons]

end

/-- The comparison is one of canonical values. -/
theorem valuesEqual_iff (v w : Value) : valuesEqual v w = true ↔ canonical v = canonical w := by
  unfold valuesEqual
  rw [stableStringify_eq_print, stableStringify_eq_print, decide_eq_true_eq]
  exact print_injective.eq_iff

/-! ## The comparison and what sanitizing removes -/

instance {α : Type*} : Std.Total (@KeyLe α) := ⟨fun p q => List.le_total p.1 q.1⟩

instance {α : Type*} : IsTrans (Utf16 × α) KeyLe := ⟨fun _ _ _ h h' => List.le_trans h h'⟩

/-- Entries with different keys come out in one order. -/
theorem sort_eq_iff_perm {α : Type*} {ps qs : List (Utf16 × α)} (hps : (ps.map (·.1)).Nodup) :
    ps.insertionSort KeyLe = qs.insertionSort KeyLe ↔ ps.Perm qs := by
  constructor
  · intro h
    exact (List.perm_insertionSort KeyLe ps).symm.trans (h ▸ List.perm_insertionSort KeyLe qs)
  · intro h
    have hsorted := (List.perm_insertionSort KeyLe ps).trans
      (h.trans (List.perm_insertionSort KeyLe qs).symm)
    refine hsorted.eq_of_pairwise ?_ (List.pairwise_insertionSort KeyLe ps)
      (List.pairwise_insertionSort KeyLe qs)
    intro p q hp hq hle hle'
    have hp : p ∈ ps := (List.mem_insertionSort KeyLe).1 hp
    have hq : q ∈ ps := h.symm.subset ((List.mem_insertionSort KeyLe).1 hq)
    exact List.inj_on_of_nodup_map hps hp hq (List.le_antisymm hle hle')

theorem perm_iff_subset {α : Type*} {l l' : List α} (hl : l.Nodup) :
    l.Perm l' ↔ l.length = l'.length ∧ l ⊆ l' := by
  constructor
  · intro h
    exact ⟨h.length_eq, h.subset⟩
  · rintro ⟨hlength, hsub⟩
    exact (List.subperm_of_subset hl hsub).perm_of_length_le hlength.ge

theorem itemsDistinct_iff (items : List Value) :
    itemsDistinct items = true ↔ ∀ v ∈ items, keysDistinct v = true := by
  induction items with
  | nil => simp [itemsDistinct]
  | cons v items ih => simp [itemsDistinct, ih]

theorem fieldsDistinct_iff (fields : List (Utf16 × Value)) :
    fieldsDistinct fields = true ↔ ∀ p ∈ fields, keysDistinct p.2 = true := by
  induction fields with
  | nil => simp [fieldsDistinct]
  | cons p fields ih => simp [fieldsDistinct, ih]

section diffing

variable {lowerCase : Utf16 → Utf16}

theorem canonicalItems_sanitizeItems (field : Utf16) (count : ℕ) (items : List Value) :
    canonicalItems (sanitizeItems lowerCase field count items) =
      (items.take count).map fun v => canonical (sanitizeValue lowerCase field v) := by
  induction items generalizing count with
  | nil => simp [sanitizeItems, canonicalItems]
  | cons v items ih =>
    cases count with
    | zero => simp [sanitizeItems, canonicalItems]
    | succ count => simp [sanitizeItems, canonicalItems, ih]

/-- The entry of a field of the object at `field`. -/
def entryOf (lowerCase : Utf16 → Utf16) (field : Utf16) (p : Utf16 × Value) : Utf16 × Json :=
  (p.1, canonical (sanitizeValue lowerCase (subfield field p.1) p.2))

theorem canonicalFields_sanitizeFields (field : Utf16) (count : ℕ) (fields : List (Utf16 × Value)) :
    canonicalFields (sanitizeFields lowerCase field count fields) =
      (fields.take count).map (entryOf lowerCase field) := by
  induction fields generalizing count with
  | nil => simp [sanitizeFields, canonicalFields]
  | cons p fields ih =>
    cases count with
    | zero => simp [sanitizeFields, canonicalFields]
    | succ count => simp [sanitizeFields, canonicalFields, ih, entryOf]

/-- The value whose text is compared for a leaf. -/
def leafJson : Leaf → Json
  | .nothing => .word nullWord
  | .bool b => .word (boolWord b)
  | .number n => .word n.word
  | .text s => .string (sanitizeText s)

/-- A string is told from another by its first units and by being too long. -/
theorem sanitizeText_eq_iff (s t : Utf16) :
    sanitizeText s = sanitizeText t ↔
      s.take MAX_VALUE_LENGTH = t.take MAX_VALUE_LENGTH ∧
        (MAX_VALUE_LENGTH < s.length ↔ MAX_VALUE_LENGTH < t.length) := by
  have hmark : (utf16 "…").length = 1 := by decide
  unfold sanitizeText
  by_cases hs : MAX_VALUE_LENGTH < s.length <;> by_cases ht : MAX_VALUE_LENGTH < t.length
  · simp [hs, ht]
  · rw [if_pos hs, if_neg ht]
    refine iff_of_false (fun h => ht ?_) (by simp [hs, ht])
    have hlength := congrArg List.length h
    rw [List.length_append, List.length_take, hmark] at hlength
    omega
  · rw [if_neg hs, if_pos ht]
    refine iff_of_false (fun h => hs ?_) (by simp [hs, ht])
    have hlength := congrArg List.length h
    rw [List.length_append, List.length_take, hmark] at hlength
    omega
  · rw [if_neg hs, if_neg ht, List.take_of_length_le (by omega), List.take_of_length_le (by omega)]
    simp [hs, ht]

/-- A short text is left as it is. -/
theorem sanitizeText_iso (d : IsoDate) : sanitizeText d.text = d.text := by
  have h := d.iso
  unfold isIsoText at h
  simp only [Bool.and_eq_true, Bool.or_eq_true, decide_eq_true_eq] at h
  unfold sanitizeText MAX_VALUE_LENGTH
  rw [if_neg (by omega)]

theorem numeral_ne {n : Numeral} {w : Word} (hw : isNumeral w.text = false) : n.word ≠ w := by
  rintro rfl
  have hn : isNumeral n.word.text = true := n.numeral
  rw [hw] at hn
  cases hn

theorem boolWord_inj {b b' : Bool} : boolWord b = boolWord b' ↔ b = b' := by
  have hne : trueWord ≠ falseWord := fun h => absurd (congrArg Word.text h) (by decide)
  cases b <;> cases b' <;> simp [boolWord, hne, hne.symm]

theorem boolWord_ne_null (b : Bool) : boolWord b ≠ nullWord := by
  intro h
  have htext := congrArg Word.text h
  revert htext
  cases b <;> decide

theorem isNumeral_boolWord (b : Bool) : isNumeral (boolWord b).text = false := by
  cases b <;> decide

theorem word_inj {n n' : Numeral} : n.word = n'.word ↔ n.text = n'.text := by
  constructor
  · exact fun h => congrArg Word.text h
  · intro h
    cases n
    cases n'
    cases h
    rfl

theorem leafJson_eq_iff (a b : Leaf) : leafJson a = leafJson b ↔ alikeLeaf a b = true := by
  have hnull (n : Numeral) : n.word ≠ nullWord := numeral_ne (by decide)
  have hbool (n : Numeral) (b : Bool) : n.word ≠ boolWord b := numeral_ne (isNumeral_boolWord b)
  cases a <;> cases b <;>
    simp [leafJson, alikeLeaf, hnull, hbool, (hnull _).symm, (hbool _ _).symm, boolWord_inj,
      word_inj, boolWord_ne_null, (boolWord_ne_null _).symm, sanitizeText_eq_iff]

/-- `alike` tells how the comparison of two sanitized values turns out. -/
def Told (lowerCase : Utf16 → Utf16) (v : Value) : Prop :=
  keysDistinct v = true → ∀ field w, keysDistinct w = true →
    (canonical (sanitizeValue lowerCase field v) = canonical (sanitizeValue lowerCase field w) ↔
      alike lowerCase field v w = true)

theorem sanitizeValue_sensitive {field : Utf16} (h : isSensitiveField lowerCase field = true)
    (v : Value) : sanitizeValue lowerCase field v = .string (utf16 "[REDACTED]") := by
  cases v <;> rw [sanitizeValue, if_pos h]

theorem canonical_sanitize_leaf {field : Utf16} (hfield : isSensitiveField lowerCase field = false)
    {v : Value} {a : Leaf} (hleaf : leaf v = some a) :
    canonical (sanitizeValue lowerCase field v) = leafJson a := by
  have hfield : ¬isSensitiveField lowerCase field = true := by simp [hfield]
  cases v with
  | array | object => cases hleaf
  | number n => cases n <;> cases hleaf <;> rw [sanitizeValue, if_neg hfield] <;> rfl
  | date d =>
    cases hleaf
    rw [sanitizeValue, if_neg hfield, leafJson, sanitizeText_iso]
    rfl
  | undefined | null | bool | string => cases hleaf; rw [sanitizeValue, if_neg hfield]; rfl

theorem alike_leaf {field : Utf16} (hfield : isSensitiveField lowerCase field = false) {v w : Value}
    {a : Leaf} (hleaf : leaf v = some a) :
    alike lowerCase field v w = alikeLeaves (some a) (leaf w) := by
  cases v with
  | array | object => cases hleaf
  | _ => cases w <;> simp only [alike, hfield, hleaf, Bool.false_or]

theorem told_sensitive {field : Utf16} (h : isSensitiveField lowerCase field = true) (v w : Value) :
    canonical (sanitizeValue lowerCase field v) = canonical (sanitizeValue lowerCase field w) ↔
      alike lowerCase field v w = true := by
  rw [sanitizeValue_sensitive h, sanitizeValue_sensitive h]
  unfold alike
  simp [h]

theorem told_leaf {v : Value} {a : Leaf} (hleaf : leaf v = some a) : Told lowerCase v := by
  intro _ field w _
  cases hfield : isSensitiveField lowerCase field with
  | true => exact told_sensitive hfield v w
  | false =>
    rw [canonical_sanitize_leaf hfield hleaf, alike_leaf hfield hleaf]
    cases hw : leaf w with
    | some b => rw [canonical_sanitize_leaf hfield hw, leafJson_eq_iff, alikeLeaves]
    | none =>
      have hne : leafJson a ≠ canonical (sanitizeValue lowerCase field w) := by
        cases w with
        | array | object =>
          rw [sanitizeValue, if_neg (by simp [hfield])]
          cases a <;> simp [leafJson, canonical]
        | number n => cases n <;> cases hw
        | _ => cases hw
      simp [hne, alikeLeaves]

theorem alikeItems_iff {field : Utf16} {items : List Value} (htold : ∀ v ∈ items, Told lowerCase v)
    (hitems : ∀ v ∈ items, keysDistinct v = true) {items' : List Value}
    (hitems' : ∀ v ∈ items', keysDistinct v = true) (count : ℕ) :
    alikeItems lowerCase field count items items' = true ↔
      canonicalItems (sanitizeItems lowerCase field count items) =
        canonicalItems (sanitizeItems lowerCase field count items') := by
  rw [canonicalItems_sanitizeItems, canonicalItems_sanitizeItems]
  induction items generalizing items' count with
  | nil =>
    rw [alikeItems, List.isEmpty_iff, List.take_nil, List.map_nil, eq_comm (a := []),
      List.map_eq_nil_iff]
  | cons v items ih =>
    cases count with
    | zero => simp [alikeItems]
    | succ count =>
      cases items' with
      | nil => simp [alikeItems]
      | cons w items' =>
        have hv := htold v (by simp) (hitems v (by simp)) field w (hitems' w (by simp))
        have hrest := ih (fun u hu => htold u (List.mem_cons_of_mem _ hu))
          (fun u hu => hitems u (List.mem_cons_of_mem _ hu))
          (fun u hu => hitems' u (List.mem_cons_of_mem _ hu)) count
        simp [alikeItems, hv, hrest]

theorem alikeFields_iff {field : Utf16} (count : ℕ) (fields others : List (Utf16 × Value)) :
    alikeFields lowerCase field count fields others = true ↔
      ∀ p ∈ fields.take count, ∃ q ∈ others,
        q.1 = p.1 ∧ alike lowerCase (subfield field p.1) p.2 q.2 = true := by
  induction fields generalizing count with
  | nil => simp [alikeFields]
  | cons p fields ih =>
    cases count with
    | zero => simp [alikeFields]
    | succ count => simp [alikeFields, ih]

/-- The first fields of two objects are told apart key by key. -/
theorem told_fields {field : Utf16} {fields fields' : List (Utf16 × Value)}
    (htold : ∀ p ∈ fields, Told lowerCase p.2) (hfields : keysDistinct (.object fields) = true)
    (hfields' : keysDistinct (.object fields') = true) :
    (canonicalFields (sanitizeFields lowerCase field 30 fields)).insertionSort KeyLe =
        (canonicalFields (sanitizeFields lowerCase field 30 fields')).insertionSort KeyLe ↔
      (fields.take 30).length = (fields'.take 30).length ∧
        alikeFields lowerCase field 30 fields (fields'.take 30) = true := by
  simp only [keysDistinct, Bool.and_eq_true, decide_eq_true_eq, fieldsDistinct_iff]
    at hfields hfields'
  have hkeys : (((fields.take 30).map (entryOf lowerCase field)).map (·.1)).Nodup := by
    rw [List.map_map]
    exact hfields.1.sublist ((List.take_sublist 30 fields).map _)
  rw [canonicalFields_sanitizeFields, canonicalFields_sanitizeFields, sort_eq_iff_perm hkeys,
    perm_iff_subset (List.Nodup.of_map _ hkeys), List.length_map, List.length_map, alikeFields_iff]
  refine and_congr_right fun _ => ?_
  rw [List.subset_def, List.forall_mem_map]
  simp only [List.mem_map]
  refine forall₂_congr fun p hp => exists_congr fun q => and_congr_right fun hq => ?_
  have hp : p ∈ fields := List.mem_of_mem_take hp
  have hq : q ∈ fields' := List.mem_of_mem_take hq
  have hvalues := htold p hp (hfields.2 p hp) (subfield field p.1) q.2 (hfields'.2 q hq)
  unfold entryOf
  rw [Prod.mk.injEq]
  refine and_congr_right fun hkey => ?_
  rw [hkey, ← hvalues, eq_comm]

theorem told_array {items : List Value} (htold : ∀ v ∈ items, Told lowerCase v) :
    Told lowerCase (.array items) := by
  intro hv field w hw
  cases hfield : isSensitiveField lowerCase field with
  | true => exact told_sensitive hfield _ w
  | false =>
    rw [keysDistinct, itemsDistinct_iff] at hv
    rw [sanitizeValue, if_neg (by simp [hfield]), canonical]
    cases w with
    | array items' =>
      rw [keysDistinct, itemsDistinct_iff] at hw
      rw [sanitizeValue, if_neg (by simp [hfield]), canonical, Json.array.injEq, alike, hfield,
        Bool.false_or]
      exact (alikeItems_iff htold hv hw 20).symm
    | number n => cases n <;> simp [sanitizeValue, hfield, canonical, alike, alikeLeaves, leaf]
    | _ => simp [sanitizeValue, hfield, canonical, alike, alikeLeaves, leaf]

theorem told_object {fields : List (Utf16 × Value)} (htold : ∀ p ∈ fields, Told lowerCase p.2) :
    Told lowerCase (.object fields) := by
  intro hv field w hw
  cases hfield : isSensitiveField lowerCase field with
  | true => exact told_sensitive hfield _ w
  | false =>
    rw [sanitizeValue, if_neg (by simp [hfield]), canonical]
    cases w with
    | object fields' =>
      rw [sanitizeValue, if_neg (by simp [hfield]), canonical, Json.object.injEq, alike, hfield,
        Bool.false_or, Bool.and_eq_true, decide_eq_true_eq]
      exact told_fields htold hv hw
    | number n => cases n <;> simp [sanitizeValue, hfield, canonical, alike, alikeLeaves, leaf]
    | _ => simp [sanitizeValue, hfield, canonical, alike, alikeLeaves, leaf]

mutual

/-- `alike` is right about every value. -/
theorem told (v : Value) : Told lowerCase v := by
  match v with
  | .undefined | .null | .bool _ | .string _ | .date _ | .number (.finite _) | .number .nan
  | .number (.infinity _) => exact told_leaf rfl
  | .array items => exact told_array (told_items items)
  | .object fields => exact told_object (told_objects fields)

theorem told_items (items : List Value) : ∀ v ∈ items, Told lowerCase v := by
  match items with
  | [] => simp
  | v :: items => exact List.forall_mem_cons.2 ⟨told v, told_items items⟩

theorem told_objects (fields : List (Utf16 × Value)) : ∀ p ∈ fields, Told lowerCase p.2 := by
  match fields with
  | [] => simp
  | (key, v) :: fields => exact List.forall_mem_cons.2 ⟨told v, told_objects fields⟩

end

theorem keysDistinct_get (document : Document) (field : Utf16) :
    keysDistinct (document.get field) = true := by
  have h := document.distinct
  simp only [keysDistinct, Bool.and_eq_true, fieldsDistinct_iff] at h
  unfold Document.get
  cases hfind : document.fields.find? (·.1 = field) with
  | none => rfl
  | some p => exact h.2 p (List.mem_of_find?_eq_some hfind)

/-- A field is listed when it is compared and its values are told apart. -/
theorem mem_diffFields_iff (before after : Document) (fields : Option (List Utf16)) (field : Utf16) :
    field ∈ (diffFields lowerCase before after fields).map (·.field) ↔
      field ∈ comparedFields before after fields ∧
        alike lowerCase field (before.get field) (after.get field) = false := by
  have htold (key : Utf16) : valuesEqual (sanitizeValue lowerCase key (before.get key))
      (sanitizeValue lowerCase key (after.get key)) = alike lowerCase key (before.get key)
        (after.get key) := by
    rw [Bool.eq_iff_iff, valuesEqual_iff]
    exact told _ (keysDistinct_get before key) key _ (keysDistinct_get after key)
  unfold diffFields
  simp only [htold, List.mem_map, List.mem_filterMap, Option.ite_none_left_eq_some,
    Option.some.injEq, Bool.not_eq_true]
  constructor
  · rintro ⟨change, ⟨key, hkey, halike, rfl⟩, rfl⟩
    exact ⟨hkey, halike⟩
  · rintro ⟨hkey, halike⟩
    exact ⟨_, ⟨field, hkey, halike, rfl⟩, rfl⟩

/-! ## Completeness -/

/-- Two values are the same, up to the order of the fields of objects. -/
inductive Same : Value → Value → Prop where
  | refl (v : Value) : Same v v
  | array {items items' : List Value} (hlength : items.length = items'.length)
      (hsame : ∀ p ∈ items.zip items', Same p.1 p.2) : Same (.array items) (.array items')
  | object {fields order fields' : List (Utf16 × Value)} (hperm : fields.Perm order)
      (hkeys : order.map (·.1) = fields'.map (·.1))
      (hsame : ∀ p ∈ (order.map (·.2)).zip (fields'.map (·.2)), Same p.1 p.2) :
      Same (.object fields) (.object fields')

/-- The value of a field differs between the documents of an update. -/
def Differs (call : UpdateCall) (field : Utf16) : Prop :=
  ¬Same (call.before.get field) (call.after.get field)

/-- An update's changes are complete. -/
structure Complete (lowerCase : Utf16 → Utf16) (call : UpdateCall) : Prop where
  /-- Every field that differs is listed. -/
  listed : ∀ field, Differs call field →
    field ∈ (diffFields lowerCase call.before call.after call.fields).map (·.field)
  /-- An update that changes something is logged. -/
  logged : ∀ field, Differs call field → (logUpdate lowerCase call).isSome

/-- The caller of `logUpdate` names the field, or no fields. -/
def asksFor (fields : Option (List Utf16)) (field : Utf16) : Bool :=
  match fields with
  | some (first :: rest) => field ∈ first :: rest
  | _ => true

theorem get_of_not_mem_keys {document : Document} {field : Utf16} (h : field ∉ document.keys) :
    document.get field = .undefined := by
  have hfind : document.fields.find? (·.1 = field) = none := by
    refine List.find?_eq_none.2 fun p hp hkey => h ?_
    have hkey : p.1 = field := by simpa using hkey
    exact hkey ▸ List.mem_map_of_mem hp
  unfold Document.get
  rw [hfind]
  rfl

/-- A field that differs is compared when the caller asks for it. -/
theorem mem_comparedFields_iff {call : UpdateCall} {field : Utf16}
    (hdiffers : Differs call field) :
    field ∈ comparedFields call.before call.after call.fields ↔
      asksFor call.fields field = true := by
  have hkeys : field ∈ (call.before.keys ++ call.after.keys).eraseDups := by
    rw [List.mem_eraseDups, List.mem_append]
    by_contra hkeys
    rw [not_or] at hkeys
    refine hdiffers ?_
    rw [get_of_not_mem_keys hkeys.1, get_of_not_mem_keys hkeys.2]
    exact .refl _
  unfold comparedFields asksFor
  cases call.fields with
  | none => simpa using hkeys
  | some fields =>
    cases fields with
    | nil => simpa using hkeys
    | cons first rest => simp

theorem logUpdate_isSome_iff (call : UpdateCall) :
    (logUpdate lowerCase call).isSome ↔
      diffFields lowerCase call.before call.after call.fields ≠ [] := by
  unfold logUpdate
  cases diffFields lowerCase call.before call.after call.fields <;> simp

/-- The changes of an update are complete exactly when the caller asks for each field that differs
and sanitizing does not make its values alike. -/
theorem changes_complete_iff (lowerCase : Utf16 → Utf16) (call : UpdateCall) :
    Complete lowerCase call ↔
      ∀ field, Differs call field →
        asksFor call.fields field = true ∧
          alike lowerCase field (call.before.get field) (call.after.get field) = false := by
  constructor
  · intro h field hdiffers
    have hlisted := (mem_diffFields_iff _ _ _ field).1 (h.listed field hdiffers)
    exact ⟨(mem_comparedFields_iff hdiffers).1 hlisted.1, hlisted.2⟩
  · intro h
    have hlisted (field : Utf16) (hdiffers : Differs call field) :
        field ∈ (diffFields lowerCase call.before call.after call.fields).map (·.field) := by
      obtain ⟨hasks, halike⟩ := h field hdiffers
      exact (mem_diffFields_iff _ _ _ field).2 ⟨(mem_comparedFields_iff hdiffers).2 hasks, halike⟩
    refine ⟨hlisted, fun field hdiffers => (logUpdate_isSome_iff call).2 fun hnil => ?_⟩
    have hmem := hlisted field hdiffers
    rw [hnil] at hmem
    cases hmem

/-- An update of one field. -/
def fieldUpdate (field before after : Utf16) : UpdateCall where
  firmId := utf16 "FIRM001"
  docketId := utf16 "CASE-20260101-00001"
  performedBy := utf16 "X000001"
  before := ⟨[(field, .string before)], by simp [keysDistinct, fieldsDistinct]⟩
  after := ⟨[(field, .string after)], by simp [keysDistinct, fieldsDistinct]⟩

theorem fieldUpdate_not_complete {field before after : Utf16} (hne : before ≠ after)
    (halike : alike lowerCase field (.string before) (.string after) = true) :
    ¬Complete lowerCase (fieldUpdate field before after) := by
  intro h
  have hbefore : (fieldUpdate field before after).before.get field = .string before := by
    simp [Document.get, fieldUpdate]
  have hafter : (fieldUpdate field before after).after.get field = .string after := by
    simp [Document.get, fieldUpdate]
  have hdiffers : Differs (fieldUpdate field before after) field := by
    unfold Differs
    rw [hbefore, hafter]
    intro hsame
    cases hsame
    exact hne rfl
  have hlisted := ((mem_diffFields_iff _ _ _ field).1 (h.listed field hdiffers)).2
  rw [hbefore, hafter, halike] at hlisted
  cases hlisted

/-- What follows the first 300 units of a string does not tell it apart. -/
theorem alike_append (field : Utf16) {s t t' : Utf16} (hs : s.length = MAX_VALUE_LENGTH)
    (ht : t ≠ []) (ht' : t' ≠ []) :
    alike lowerCase field (.string (s ++ t)) (.string (s ++ t')) = true := by
  have hleaf : alikeLeaf (.text (s ++ t)) (.text (s ++ t')) = true := by
    simp [alikeLeaf, ← hs, List.length_pos_iff.2 ht, List.length_pos_iff.2 ht']
  simp [alike, alikeLeaves, leaf, hleaf]

/-- A description of 301 letters. -/
def longDescription (last : UInt16) : Utf16 := List.replicate 300 0x61 ++ [last]

/-- Neither a new tax number nor a change behind the first 300 units of a description is logged. -/
theorem changes_complete_fails :
    ¬Complete id (fieldUpdate (utf16 "gstin") (utf16 "27AAPFU0939F1ZV") (utf16 "29AAPFU0939F1ZV")) ∧
      ¬Complete id
        (fieldUpdate (utf16 "description") (longDescription 0x62) (longDescription 0x63)) := by
  constructor
  · exact fieldUpdate_not_complete (by decide) (by decide)
  · have hne : longDescription 0x62 ≠ longDescription 0x63 := fun h => by
      cases List.append_cancel_left h
    exact fieldUpdate_not_complete hne
      (alike_append _ List.length_replicate (List.cons_ne_nil _ _) (List.cons_ne_nil _ _))

end diffing

end Docketra.AuditDiff
