import Mathlib.Data.List.Basic

/-!
# The text of JSON values

Texts are sequences of UTF-16 code units, which may hold halves of surrogate pairs. `quote` writes a
text as a JSON string: a half that stands alone is escaped, so that the form of a code unit depends
on its neighbours, and `readString` reads every form back (`readString_quoteFrom`). A value is a word
(a numeral, `null`, a date), a string, an array or an object with its fields in a given order.
Different values are printed differently (`print_injective`), also with more text behind them
(`print_readsBack`).
-/

namespace Docketra.JsonText

/-- A sequence of UTF-16 code units. -/
abbrev Utf16 := List UInt16

/-- The code units of a character. -/
def unitsOf (c : Char) : Utf16 :=
  if c.val < 0x10000 then [c.val.toUInt16]
  else [(0xD800 + (c.val - 0x10000) / 0x400).toUInt16, (0xDC00 + c.val % 0x400).toUInt16]

/-- The code units of a string. -/
def utf16 (s : String) : Utf16 := s.toList.flatMap unitsOf

/-! ## Strings -/

def quoteMark : UInt16 := 0x22
def backslash : UInt16 := 0x5C
def comma : UInt16 := 0x2C
def colon : UInt16 := 0x3A
def letterU : UInt16 := 0x75

/-- The first half of a surrogate pair. -/
def isHigh (u : UInt16) : Bool := 0xD800 ≤ u && u ≤ 0xDBFF

/-- The second half of a surrogate pair. -/
def isLow (u : UInt16) : Bool := 0xDC00 ≤ u && u ≤ 0xDFFF

/-- The text goes on with the second half of a pair. -/
def startsLow : Utf16 → Bool
  | [] => false
  | u :: _ => isLow u

/-- A hexadecimal digit, in lower case. -/
def hexDigit (d : UInt16) : UInt16 := if d < 10 then 0x30 + d else 0x57 + d

/-- The value of a hexadecimal digit. -/
def digitValue (u : UInt16) : UInt16 := if u < 0x40 then u - 0x30 else u - 0x57

/-- A code unit in four hexadecimal digits. -/
def hex4 (u : UInt16) : Utf16 :=
  [hexDigit (u / 0x1000), hexDigit (u / 0x100 % 16), hexDigit (u / 16 % 16), hexDigit (u % 16)]

/-- The code unit of four hexadecimal digits. -/
def ofHex4 (a b c d : UInt16) : UInt16 :=
  digitValue a * 0x1000 + digitValue b * 0x100 + digitValue c * 16 + digitValue d

/-- The escapes of one letter, each with the code unit that it stands for. -/
def shortEscapes : List (UInt16 × UInt16) :=
  [(0x22, 0x22), (0x5C, 0x5C), (0x62, 8), (0x66, 12), (0x6E, 10), (0x72, 13), (0x74, 9)]

/-- A code unit that is no half of a pair, within a JSON string. -/
def escape (u : UInt16) : Utf16 :=
  match shortEscapes.find? (·.2 = u) with
  | some (letter, _) => [backslash, letter]
  | none => if u < 0x20 || isHigh u || isLow u then backslash :: letterU :: hex4 u else [u]

/-- The inside of a JSON string. `paired` tells that the text starts with the second half of a pair
whose first half is written. -/
def quoteFrom (paired : Bool) : Utf16 → Utf16
  | [] => []
  | u :: rest =>
    let opensPair := isHigh u && startsLow rest
    (if paired || opensPair then [u] else escape u) ++ quoteFrom opensPair rest

/-- `JSON.stringify` of a string. -/
def quote (s : Utf16) : Utf16 := quoteMark :: quoteFrom false s ++ [quoteMark]

/-- Reads the inside of a JSON string up to its quotation mark, and returns what follows. -/
def readString : Utf16 → Option (Utf16 × Utf16)
  | [] => none
  | u :: rest =>
    if u = quoteMark then some ([], rest)
    else if u = backslash then
      match rest with
      | [] => none
      | letter :: rest =>
        match shortEscapes.find? (·.1 = letter) with
        | some (_, v) => (readString rest).map fun (s, r) => (v :: s, r)
        | none =>
          match rest with
          | a :: b :: c :: d :: rest =>
            (readString rest).map fun (s, r) => (ofHex4 a b c d :: s, r)
          | _ => none
    else (readString rest).map fun (s, r) => (u :: s, r)

theorem digitValue_hexDigit {d : UInt16} (h : d < 16) : digitValue (hexDigit d) = d := by
  unfold digitValue hexDigit
  grind

theorem ofHex4_hex4 (u : UInt16) :
    ofHex4 (hexDigit (u / 0x1000)) (hexDigit (u / 0x100 % 16)) (hexDigit (u / 16 % 16))
      (hexDigit (u % 16)) = u := by
  have hu : u.toNat < 65536 := u.toNat_lt
  have hlt {v : UInt16} (h : v.toNat < 16) : v < 16 := by
    rw [UInt16.lt_iff_toNat_lt]
    simpa using h
  unfold ofHex4
  rw [digitValue_hexDigit (hlt (by simp; omega)), digitValue_hexDigit (hlt (by simp; omega)),
    digitValue_hexDigit (hlt (by simp; omega)), digitValue_hexDigit (hlt (by simp; omega))]
  apply UInt16.toNat_inj.1
  simp
  omega

theorem find_letter : ∀ p ∈ shortEscapes, shortEscapes.find? (·.1 = p.1) = some p := by
  have hall : shortEscapes.all (fun p => shortEscapes.find? (·.1 = p.1) = some p) = true := by
    decide
  simpa only [List.all_eq_true, decide_eq_true_eq] using hall

/-- A code unit that stands for itself is read. -/
theorem readString_raw {u : UInt16} (hquote : u ≠ quoteMark) (hback : u ≠ backslash) (text : Utf16) :
    readString (u :: text) = (readString text).map fun (s, r) => (u :: s, r) := by
  rw [readString.eq_def]
  simp [hquote, hback]

/-- Every form of a code unit is read back. -/
theorem readString_escape (u : UInt16) (text : Utf16) :
    readString (escape u ++ text) = (readString text).map fun (s, r) => (u :: s, r) := by
  unfold escape
  cases hfind : shortEscapes.find? (·.2 = u) with
  | some p =>
    have hmem := List.mem_of_find?_eq_some hfind
    have hu : p.2 = u := by simpa using List.find?_some hfind
    rw [readString.eq_def]
    simp [find_letter p hmem, hu, show backslash ≠ quoteMark by decide]
  | none =>
    by_cases hescaped : (u < 0x20 || isHigh u || isLow u) = true
    · have hletter : shortEscapes.find? (·.1 = letterU) = none := by decide
      rw [readString.eq_def]
      simp [hescaped, hletter, hex4, ofHex4_hex4, show backslash ≠ quoteMark by decide]
    · have hnone (p) (hp : p ∈ shortEscapes) : p.2 ≠ u := by
        simpa using List.find?_eq_none.1 hfind p hp
      simpa [hescaped] using readString_raw (hnone (0x22, 0x22) (by decide)).symm
        (hnone (0x5C, 0x5C) (by decide)).symm text

theorem ne_of_half {u v : UInt16} (h : (isHigh u || isLow u) = true)
    (hv : (isHigh v || isLow v) = false) : u ≠ v := by
  intro heq
  rw [heq, hv] at h
  cases h

/-- The inside of a JSON string is read back. -/
theorem readString_quoteFrom (s : Utf16) {paired : Bool} (hpaired : paired = true → startsLow s)
    (rest : Utf16) : readString (quoteFrom paired s ++ quoteMark :: rest) = some (s, rest) := by
  induction s generalizing paired with
  | nil =>
    rw [readString.eq_def]
    simp [quoteFrom]
  | cons u s ih =>
    have hrest := @ih (isHigh u && startsLow s) (by simp)
    unfold quoteFrom
    by_cases hraw : (paired || isHigh u && startsLow s) = true
    · have hhalf : (isHigh u || isLow u) = true := by
        rcases Bool.or_eq_true_iff.1 hraw with h | h
        · simp [show isLow u from hpaired h]
        · simp [(Bool.and_eq_true_iff.1 h).1]
      simp only [hraw, if_true, List.cons_append, List.nil_append]
      rw [readString_raw (ne_of_half hhalf (by decide)) (ne_of_half hhalf (by decide)), hrest]
      rfl
    · simp only [hraw, if_false, List.append_assoc, Bool.false_eq_true]
      rw [readString_escape, hrest]
      rfl

/-! ## Values -/

/-- A code unit may stand in a word: it is no mark of a string, an array or an object. -/
def isPlain (u : UInt16) : Bool := u ∉ ([0x22, 0x2C, 0x5B, 0x5D, 0x7B, 0x7D] : Utf16)

/-- A text that is written as it is. -/
structure Word where
  text : Utf16
  nonempty : text ≠ []
  plain : ∀ u ∈ text, isPlain u = true

/-- A value. The fields of an object are in the order in which they are printed. -/
inductive Json where
  | word (w : Word)
  | string (s : Utf16)
  | array (items : List Json)
  | object (fields : List (Utf16 × Json))

/-- `join(',')` between two brackets. -/
def bracketed (opening closing : UInt16) (items : List Utf16) : Utf16 :=
  opening :: [comma].intercalate items ++ [closing]

/-- A field of an object. -/
def printField (key value : Utf16) : Utf16 := quote key ++ colon :: value

mutual

/-- The text of a value. -/
def print : Json → Utf16
  | .word w => w.text
  | .string s => quote s
  | .array items => bracketed 0x5B 0x5D (printItems items)
  | .object fields => bracketed 0x7B 0x7D (printFields fields)

def printItems : List Json → List Utf16
  | [] => []
  | v :: items => print v :: printItems items

def printFields : List (Utf16 × Json) → List Utf16
  | [] => []
  | (key, v) :: fields => printField key (print v) :: printFields fields

end

theorem printItems_eq_map (items : List Json) : printItems items = items.map print := by
  induction items with
  | nil => rfl
  | cons v items ih => rw [printItems, ih, List.map_cons]

theorem printFields_eq_map (fields : List (Utf16 × Json)) :
    printFields fields = fields.map fun p => printField p.1 (print p.2) := by
  induction fields with
  | nil => rfl
  | cons p fields ih => rw [printFields, ih, List.map_cons]

/-- A text that may follow a value: it is empty, or starts with a comma or a closing bracket. -/
def Ends (rest : Utf16) : Prop := ∀ u ∈ rest.head?, u = comma ∨ u = 0x5D ∨ u = 0x7D

/-- `p` can be read back from `print p`, whatever follows. -/
def ReadsBack {α : Type*} (print : α → Utf16) (a : α) : Prop :=
  ∀ b rest rest', Ends rest → Ends rest' → print a ++ rest = print b ++ rest' → a = b ∧ rest = rest'

theorem quote_readsBack (s : Utf16) : ReadsBack quote s := by
  intro t rest rest' _ _ h
  have h : quoteFrom false s ++ quoteMark :: rest = quoteFrom false t ++ quoteMark :: rest' := by
    simpa [quote] using h
  have hread := congrArg readString h
  rw [readString_quoteFrom s (by simp), readString_quoteFrom t (by simp)] at hread
  simpa using hread

theorem takeWhile_plain {rest : Utf16} (hends : Ends rest) : rest.takeWhile isPlain = [] := by
  cases rest with
  | nil => rfl
  | cons u rest =>
    have hplain : isPlain u = false := by
      rcases hends u (by simp) with rfl | rfl | rfl <;> decide
    rw [List.takeWhile_cons_of_neg (by simp [hplain])]

theorem word_readsBack (w : Word) : ReadsBack Word.text w := by
  intro w' rest rest' hends hends' h
  have htake := congrArg (List.takeWhile isPlain) h
  rw [List.takeWhile_append_of_pos w.plain, List.takeWhile_append_of_pos w'.plain,
    takeWhile_plain hends, takeWhile_plain hends'] at htake
  have htext : w.text = w'.text := by simpa using htake
  rw [htext] at h
  refine ⟨?_, List.append_cancel_left h⟩
  cases w
  cases w'
  cases htext
  rfl

/-- A field is read back when its value is. -/
theorem field_readsBack {p : Utf16 × Json} (h : ReadsBack print p.2) :
    ReadsBack (fun p : Utf16 × Json => printField p.1 (print p.2)) p := by
  intro q rest rest' hends hends' heq
  have hfrom : quoteFrom false p.1 ++ quoteMark :: (colon :: print p.2 ++ rest) =
      quoteFrom false q.1 ++ quoteMark :: (colon :: print q.2 ++ rest') := by
    simpa [printField, quote] using heq
  have hread := congrArg readString hfrom
  rw [readString_quoteFrom _ (by simp), readString_quoteFrom _ (by simp)] at hread
  have hread : p.1 = q.1 ∧ print p.2 ++ rest = print q.2 ++ rest' := by simpa using hread
  obtain ⟨hvalue, hrest⟩ := h q.2 rest rest' hends hends' hread.2
  exact ⟨Prod.ext hread.1 hvalue, hrest⟩

/-- What follows an item, of which `items` are the next. -/
def afterItem (items : List Utf16) (closed : Utf16) : Utf16 :=
  if items = [] then closed else comma :: ([comma].intercalate items ++ closed)

theorem intercalate_append (item : Utf16) (items : List Utf16) (closed : Utf16) :
    [comma].intercalate (item :: items) ++ closed = item ++ afterItem items closed := by
  unfold afterItem
  cases items with
  | nil => simp
  | cons next items => simp [List.intercalate_cons_cons]

theorem ends_afterItem (items : List Utf16) {closing : UInt16}
    (hclosing : closing = 0x5D ∨ closing = 0x7D) (rest : Utf16) :
    Ends (afterItem items (closing :: rest)) := by
  intro u hu
  unfold afterItem at hu
  split_ifs at hu
  · have hu : closing = u := by simpa using hu
    exact .inr (hu ▸ hclosing)
  · exact .inl (by simpa using hu.symm)

/-- Items are read back up to a closing bracket, with which none of them starts. -/
theorem intercalate_inj {α : Type*} {print : α → Utf16} {closing : UInt16}
    (hclosing : closing = 0x5D ∨ closing = 0x7D)
    (hstart : ∀ a, ∃ u text, print a = u :: text ∧ u ≠ closing) {items : List α}
    (h : ∀ a ∈ items, ReadsBack print a) {others : List α} {rest rest' : Utf16}
    (heq : [comma].intercalate (items.map print) ++ closing :: rest =
      [comma].intercalate (others.map print) ++ closing :: rest') :
    items = others ∧ rest = rest' := by
  have hcomma : closing ≠ comma := by
    rcases hclosing with rfl | rfl <;> decide
  induction items generalizing others with
  | nil =>
    cases others with
    | nil => simpa using heq
    | cons b others =>
      obtain ⟨u, text, hb, hu⟩ := hstart b
      rw [List.map_cons, intercalate_append, hb] at heq
      exact absurd (List.cons.inj heq).1.symm hu
  | cons a items ih =>
    cases others with
    | nil =>
      obtain ⟨u, text, ha, hu⟩ := hstart a
      rw [List.map_cons, intercalate_append, ha] at heq
      exact absurd (List.cons.inj heq).1 hu
    | cons b others =>
      rw [List.map_cons, List.map_cons, intercalate_append, intercalate_append] at heq
      obtain ⟨hab, hafter⟩ := h a (by simp) b _ _ (ends_afterItem _ hclosing _)
        (ends_afterItem _ hclosing _) heq
      have hitems : [comma].intercalate (items.map print) ++ closing :: rest =
          [comma].intercalate (others.map print) ++ closing :: rest' := by
        unfold afterItem at hafter
        split_ifs at hafter with hnil hnil' hnil'
        · simpa [hnil, hnil'] using hafter
        · exact absurd (List.cons.inj hafter).1 hcomma
        · exact absurd (List.cons.inj hafter).1.symm hcomma
        · exact (List.cons.inj hafter).2
      obtain ⟨heq', hrest⟩ := ih (fun c hc => h c (by simp [hc])) hitems
      exact ⟨by rw [hab, heq'], hrest⟩

theorem bracketed_readsBack {α : Type*} {print : α → Utf16} {opening closing : UInt16}
    (hclosing : closing = 0x5D ∨ closing = 0x7D)
    (hstart : ∀ a, ∃ u text, print a = u :: text ∧ u ≠ closing) {items : List α}
    (h : ∀ a ∈ items, ReadsBack print a) :
    ReadsBack (fun items => bracketed opening closing (items.map print)) items := by
  intro others rest rest' _ _ heq
  exact intercalate_inj hclosing hstart h (by simpa [bracketed] using heq)

/-- The kinds of values are told apart by the first code unit. -/
def StartsAs : Json → UInt16 → Prop
  | .word _, u => isPlain u = true
  | .string _, u => u = 0x22
  | .array _, u => u = 0x5B
  | .object _, u => u = 0x7B

theorem print_starts (v : Json) : ∃ u text, print v = u :: text ∧ StartsAs v u := by
  cases v with
  | word w =>
    obtain ⟨u, text, hw⟩ := List.exists_cons_of_ne_nil w.nonempty
    exact ⟨u, text, hw, w.plain u (by simp [hw])⟩
  | string s => exact ⟨_, _, rfl, rfl⟩
  | array items => exact ⟨_, _, rfl, rfl⟩
  | object fields => exact ⟨_, _, rfl, rfl⟩

theorem startsAs_ne_closing {v : Json} {u : UInt16} (h : StartsAs v u) : u ≠ 0x5D := by
  rintro rfl
  cases v <;> revert h <;> simp [StartsAs, isPlain]

mutual

/-- A value is read back from its text. -/
theorem print_readsBack (v : Json) : ReadsBack print v := by
  intro v' rest rest' hends hends' h
  obtain ⟨u, text, hv, hu⟩ := print_starts v
  obtain ⟨u', text', hv', hu'⟩ := print_starts v'
  have hsame : u = u' := by
    rw [hv, hv'] at h
    exact (List.cons.inj h).1
  rw [← hsame] at hu'
  match v, v', hu, hu' with
  | .word w, .word w', _, _ =>
    obtain ⟨hw, hrest⟩ := word_readsBack w w' rest rest' hends hends' h
    exact ⟨congrArg _ hw, hrest⟩
  | .string s, .string s', _, _ =>
    obtain ⟨hs, hrest⟩ := quote_readsBack s s' rest rest' hends hends' h
    exact ⟨congrArg _ hs, hrest⟩
  | .array items, .array items', _, _ =>
    simp only [print, printItems_eq_map] at h
    obtain ⟨hitems, hrest⟩ := bracketed_readsBack (.inl rfl)
      (fun a => (print_starts a).imp fun u => .imp fun text ha => ⟨ha.1, startsAs_ne_closing ha.2⟩)
      (items_readBack items) items' rest rest' hends hends' h
    exact ⟨congrArg _ hitems, hrest⟩
  | .object fields, .object fields', _, _ =>
    simp only [print, printFields_eq_map] at h
    obtain ⟨hfields, hrest⟩ := bracketed_readsBack (.inr rfl)
      (fun p => ⟨quoteMark, _, rfl, by decide⟩) (fields_readBack fields) fields' rest rest' hends
      hends' h
    exact ⟨congrArg _ hfields, hrest⟩

theorem items_readBack (items : List Json) : ∀ v ∈ items, ReadsBack print v := by
  match items with
  | [] => simp
  | v :: items =>
    exact List.forall_mem_cons.2 ⟨print_readsBack v, items_readBack items⟩

theorem fields_readBack (fields : List (Utf16 × Json)) :
    ∀ p ∈ fields, ReadsBack (fun p : Utf16 × Json => printField p.1 (print p.2)) p := by
  match fields with
  | [] => simp
  | (key, v) :: fields =>
    exact List.forall_mem_cons.2 ⟨field_readsBack (print_readsBack v), fields_readBack fields⟩

end

/-- Different values have different texts. -/
theorem print_injective : Function.Injective print := by
  intro v v' h
  have hends : Ends [] := by simp [Ends]
  exact (print_readsBack v v' [] [] hends hends (by simpa using h)).1

end Docketra.JsonText
