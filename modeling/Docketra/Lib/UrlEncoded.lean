import Mathlib.Data.List.Basic
import Mathlib.Data.List.Infix

/-!
# Query strings

The `application/x-www-form-urlencoded` form of a list of names with values. `encode` writes a text
as its UTF-8 bytes: letters, digits and `*-._` stand for themselves, a space is `+`, and every other
byte is `%` with two hexadecimal digits. `serialize` joins the pairs `name=value` by `&`, and
`parse` reads a query: what it reads back of a serialized list is the list (`parse_serialize`). The
decoding of bytes to text, which has to answer also for bytes that are no UTF-8, is a parameter.
-/

namespace Docketra.UrlEncoded

/-- Letters, digits, and the four signs that stand for themselves. -/
def isPlain (c : Char) : Bool :=
  c.isAlphanum || c == '*' || c == '-' || c == '.' || c == '_'

/-- A hexadecimal digit, in upper case. -/
def hexDigit (n : ℕ) : Char := Char.ofNat (if n < 10 then 0x30 + n else 0x37 + n)

/-- The value of a hexadecimal digit, in either case. -/
def hexValue (c : Char) : Option ℕ :=
  if 0x30 ≤ c.toNat ∧ c.toNat ≤ 0x39 then some (c.toNat - 0x30)
  else if 0x41 ≤ c.toNat ∧ c.toNat ≤ 0x46 then some (c.toNat - 0x37)
  else if 0x61 ≤ c.toNat ∧ c.toNat ≤ 0x66 then some (c.toNat - 0x57)
  else none

/-- A byte, in the form. -/
def encodeByte (b : UInt8) : List Char :=
  let c := Char.ofNat b.toNat
  if b < 0x80 && isPlain c then [c]
  else if b = 0x20 then ['+']
  else ['%', hexDigit (b.toNat / 16), hexDigit (b.toNat % 16)]

/-- A text, in the form. -/
def encode (s : List Char) : List Char := (s.flatMap String.utf8EncodeChar).flatMap encodeByte

/-- The bytes that a text in the form stands for. A `%` without two digits stands for itself. -/
def decodeBytes : List Char → List UInt8
  | [] => []
  | c :: rest =>
    if c = '%' then
      match rest with
      | a :: b :: rest' =>
        match hexValue a, hexValue b with
        | some x, some y => UInt8.ofNat (16 * x + y) :: decodeBytes rest'
        | _, _ => 0x25 :: decodeBytes (a :: b :: rest')
      | rest => 0x25 :: decodeBytes rest
    else if c = '+' then 0x20 :: decodeBytes rest
    else String.utf8EncodeChar c ++ decodeBytes rest

/-- `name=value`. -/
def pair (p : List Char × List Char) : List Char := encode p.1 ++ '=' :: encode p.2

/-- The pairs, joined by `&`. -/
def serialize (params : List (List Char × List Char)) : List Char :=
  ['&'].intercalate (params.map pair)

/-- What stands before the first `=` of a piece, and what stands behind it, decoded. -/
def readPair (decode : List UInt8 → List Char) (piece : List Char) : List Char × List Char :=
  (decode (decodeBytes (piece.takeWhile (· ≠ '='))),
    decode (decodeBytes ((piece.dropWhile (· ≠ '=')).drop 1)))

/-- Reads a query. -/
def parse (decode : List UInt8 → List Char) (query : List Char) : List (List Char × List Char) :=
  ((query.splitOn '&').filter (· ≠ [])).map (readPair decode)

/-! ## One byte -/

theorem ofNat_toNat (b : UInt8) : UInt8.ofNat b.toNat = b := by simp

/-- A byte that stands for itself is a character of one byte, and neither `%` nor `+`. -/
theorem plain_byte : ∀ n < 128, isPlain (Char.ofNat n) = true →
    Char.ofNat n ≠ '%' ∧ Char.ofNat n ≠ '+' ∧
      String.utf8EncodeChar (Char.ofNat n) = [UInt8.ofNat n] := by
  decide

theorem hexValue_hexDigit : ∀ n < 16, hexValue (hexDigit n) = some n := by
  decide

/-- A character outside an escape is read as its bytes. -/
theorem decodeBytes_plain {c : Char} (hpercent : c ≠ '%') (hplus : c ≠ '+') (rest : List Char) :
    decodeBytes (c :: rest) = String.utf8EncodeChar c ++ decodeBytes rest := by
  rw [decodeBytes.eq_def]
  simp [hpercent, hplus]

theorem decodeBytes_plus (rest : List Char) :
    decodeBytes ('+' :: rest) = 0x20 :: decodeBytes rest := by
  rw [decodeBytes.eq_def]
  simp

theorem decodeBytes_escape {a b : Char} {x y : ℕ} (ha : hexValue a = some x)
    (hb : hexValue b = some y) (rest : List Char) :
    decodeBytes ('%' :: a :: b :: rest) = UInt8.ofNat (16 * x + y) :: decodeBytes rest := by
  rw [decodeBytes.eq_def]
  simp [ha, hb]

/-- What is written for a byte is read as the byte. -/
theorem decodeBytes_encodeByte (b : UInt8) (rest : List Char) :
    decodeBytes (encodeByte b ++ rest) = b :: decodeBytes rest := by
  have hb : b.toNat < 256 := b.toNat_lt
  simp only [encodeByte]
  split_ifs with hplain hspace
  · obtain ⟨hlt, hplain⟩ : b < 0x80 ∧ isPlain (Char.ofNat b.toNat) = true := by
      simpa using hplain
    have hlt : b.toNat < 128 := by simpa [UInt8.lt_iff_toNat_lt] using hlt
    obtain ⟨hpercent, hplus, hbytes⟩ := plain_byte b.toNat hlt hplain
    rw [List.singleton_append, decodeBytes_plain hpercent hplus, hbytes, ofNat_toNat,
      List.singleton_append]
  · rw [List.singleton_append, decodeBytes_plus, hspace]
  · have hhigh := hexValue_hexDigit (b.toNat / 16) (by omega)
    have hlow := hexValue_hexDigit (b.toNat % 16) (by omega)
    have hvalue : 16 * (b.toNat / 16) + b.toNat % 16 = b.toNat := by omega
    rw [List.cons_append, List.cons_append, List.singleton_append,
      decodeBytes_escape hhigh hlow, hvalue, ofNat_toNat]

theorem isEncoded_table : ((List.range 256).all fun n => (encodeByte (UInt8.ofNat n)).all fun c =>
    isPlain c || c == '+' || c == '%') = true := by
  decide +kernel

/-! ## A text -/

@[simp] theorem encode_append (s t : List Char) : encode (s ++ t) = encode s ++ encode t := by
  simp [encode]

/-- A text in the form consists of plain characters, `+` and `%`. -/
theorem isEncoded_of_mem {s : List Char} {c : Char} (h : c ∈ encode s) :
    isPlain c = true ∨ c = '+' ∨ c = '%' := by
  obtain ⟨b, -, hc⟩ := List.mem_flatMap.mp h
  have hbyte := List.all_eq_true.mp isEncoded_table b.toNat (List.mem_range.mpr b.toNat_lt)
  rw [ofNat_toNat] at hbyte
  simpa [or_assoc] using List.all_eq_true.mp hbyte c hc

/-- What is written for bytes is read as the bytes. -/
theorem decodeBytes_flatMap (bytes : List UInt8) :
    decodeBytes (bytes.flatMap encodeByte) = bytes := by
  induction bytes with
  | nil => rfl
  | cons b bytes ih => rw [List.flatMap_cons, decodeBytes_encodeByte, ih]

/-- The code points of letters and digits. -/
theorem isAlphanum_iff (c : Char) : c.isAlphanum = true ↔ 65 ≤ c.toNat ∧ c.toNat ≤ 90 ∨
    97 ≤ c.toNat ∧ c.toNat ≤ 122 ∨ 48 ≤ c.toNat ∧ c.toNat ≤ 57 := by
  have hdef : c.isAlphanum = ((decide (65 ≤ c.val ∧ c.val ≤ 90) ||
      (decide (97 ≤ c.val) && decide (c.val ≤ 122))) ||
      (decide (48 ≤ c.val) && decide (c.val ≤ 57))) := rfl
  have hval : c.val.toNat = c.toNat := rfl
  rw [hdef]
  simp only [Bool.or_eq_true, Bool.and_eq_true, decide_eq_true_eq, UInt32.le_iff_toNat_le, hval,
    or_assoc]
  exact Iff.rfl

/-- A plain character has one byte. -/
theorem toNat_lt_of_isPlain {c : Char} (h : isPlain c = true) : c.toNat < 128 := by
  simp only [isPlain, Bool.or_eq_true, beq_iff_eq, isAlphanum_iff] at h
  rcases h with (((h | rfl) | rfl) | rfl) | rfl
  · omega
  all_goals decide

/-- A plain character is written as itself. -/
theorem encode_plain {c : Char} (h : isPlain c = true) : encode [c] = [c] := by
  have hlt := toNat_lt_of_isPlain h
  have hc : Char.ofNat c.toNat = c := Char.ofNat_toNat c
  obtain ⟨-, -, hbytes⟩ := plain_byte c.toNat hlt (by rwa [hc])
  rw [hc] at hbytes
  have hbyte : (UInt8.ofNat c.toNat).toNat = c.toNat := by
    simp; omega
  simp [encode, hbytes, encodeByte, hbyte, hc, h, UInt8.lt_iff_toNat_lt, hlt]

/-- A text of plain characters is written as itself. -/
theorem encode_eq_self {s : List Char} (h : ∀ c ∈ s, isPlain c = true) : encode s = s := by
  induction s with
  | nil => rfl
  | cons c s ih =>
    have hc := encode_plain (h c List.mem_cons_self)
    have hs := ih fun d hd => h d (List.mem_cons_of_mem c hd)
    rw [← List.singleton_append, encode_append, hc, hs]

/-! ## Lists of pairs -/

@[simp] theorem serialize_singleton (p : List Char × List Char) : serialize [p] = pair p := by
  simp [serialize]

@[simp] theorem serialize_cons_cons (p q : List Char × List Char)
    (params : List (List Char × List Char)) :
    serialize (p :: q :: params) = pair p ++ '&' :: serialize (q :: params) := by
  simp [serialize, List.intercalate_cons_cons]

/-- No text in the form holds a character that is neither plain, `+` nor `%`. -/
theorem notMem_encode {c : Char} (h : (isPlain c || c == '+' || c == '%') = false)
    (s : List Char) : c ∉ encode s := by
  intro hc
  simp only [Bool.or_eq_false_iff, beq_eq_false_iff_ne, ne_eq] at h
  rcases isEncoded_of_mem hc with hplain | hplus | hpercent
  · rw [hplain] at h
    exact absurd h.1.1 (by decide)
  · exact h.1.2 hplus
  · exact h.2 hpercent

/-- No serialized list holds a character that is neither plain, `+` nor `%`, nor a separator. -/
theorem notMem_serialize {c : Char}
    (h : (isPlain c || c == '+' || c == '%' || c == '=' || c == '&') = false)
    (params : List (List Char × List Char)) : c ∉ serialize params := by
  simp only [Bool.or_eq_false_iff, beq_eq_false_iff_ne, ne_eq] at h
  have hencode := notMem_encode (c := c) (by simp [h])
  have hpair (p) : c ∉ pair p := by simp [pair, hencode, h]
  induction params with
  | nil => simp [serialize]
  | cons p params ih =>
    cases params with
    | nil => simpa using hpair p
    | cons q params => simp [hpair, h, ih]

section
variable {decode : List UInt8 → List Char}

/-- A pair is read back. -/
theorem readPair_pair (hdecode : ∀ s : List Char, decode (s.flatMap String.utf8EncodeChar) = s)
    (p : List Char × List Char) : readPair decode (pair p) = p := by
  have hname : ∀ c ∈ encode p.1, (c ≠ '=') := fun c hc heq =>
    notMem_encode (by decide) p.1 (heq ▸ hc)
  have htake : (pair p).takeWhile (· ≠ '=') = encode p.1 := by
    rw [pair, List.takeWhile_append_of_pos (by simpa using hname)]
    simp
  have hdrop : ((pair p).dropWhile (· ≠ '=')).drop 1 = encode p.2 := by
    rw [pair, List.dropWhile_append_of_pos (by simpa using hname)]
    simp
  rw [readPair, htake, hdrop, encode, encode, decodeBytes_flatMap, decodeBytes_flatMap, hdecode,
    hdecode]

/-- A serialized list is read back. -/
theorem parse_serialize (hdecode : ∀ s : List Char, decode (s.flatMap String.utf8EncodeChar) = s)
    (params : List (List Char × List Char)) : parse decode (serialize params) = params := by
  have hpair : ∀ piece ∈ params.map pair, '&' ∉ piece := by
    intro piece hpiece
    obtain ⟨p, -, rfl⟩ := List.mem_map.mp hpiece
    simp [pair, notMem_encode (c := '&') (by decide)]
  have hne : ∀ piece ∈ params.map pair, piece ≠ [] := by
    intro piece hpiece
    obtain ⟨p, -, rfl⟩ := List.mem_map.mp hpiece
    simp [pair]
  cases params with
  | nil => simp [parse, serialize]
  | cons p params =>
    rw [parse, serialize, List.splitOn_intercalate '&' hpair (by simp),
      List.filter_eq_self.mpr (by simpa using hne), List.map_map]
    have hread : readPair decode ∘ pair = id := funext (readPair_pair hdecode)
    rw [hread, List.map_id]

end

end Docketra.UrlEncoded
