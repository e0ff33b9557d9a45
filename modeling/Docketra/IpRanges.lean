import Docketra.Lib.Hexadecimal
import Docketra.Lib.Separated
import Mathlib.Data.Fin.Basic
import Mathlib.Data.List.GetD

/-!
# The range of an address

`getIpRange` in `utils/ipRange.js` cuts the range out of the text of an address: the first three
numbers of a dotted quad, and the first four groups that are written between the colons of an IPv6
text. A leading `::ffff:` is dropped, "so the same client collapses to one range".
`isNewIpRangeDetected` in `services/securityTelemetry.service.js` compares two ranges.

An address has many texts. `Form` holds those of IPv4 and of IPv6, with `::`, leading zeros, either
case, and an IPv4 address in the last two groups. The network of an address is its /24 in IPv4, an
IPv4-mapped address included, and its /64 in IPv6. The groups that `::` stands for are not written,
so that the groups after it are cut into the range instead, and what is written is compared letter by
letter. The range tells the networks apart exactly for the texts that write the network out
(`ranges_agree_iff`).
-/

namespace Docketra.IpRanges

open Hexadecimal Separated

/-- A text, as the list of its characters. -/
abbrev Text := List Char

/-! ## `getIpRange` -/

/-- `'unknown'`. -/
def unknown : Text := "unknown".toList

/-- `replace(/^::ffff:/, '')`. -/
def dropMapped (text : Text) : Text :=
  if "::ffff:".toList <+: text then text.drop 7 else text

/-- `getIpRange`, of the normalized text. -/
def cutRange (normalizedIp : Text) : Text :=
  if ':' ∈ normalizedIp then
    let range := join ':' ((fields ':' normalizedIp).take 4)
    if range ≠ [] then range else normalizedIp
  else
    let octets := normalizedIp.splitOn '.'
    if octets.length = 4 then join '.' (octets.take 3) else normalizedIp

/-- `getIpRange`. -/
def getIpRange (ipAddress : Option Text) : Text :=
  match ipAddress with
  | none => unknown
  | some ipAddress =>
    if ipAddress = [] || ipAddress = unknown then unknown
    else cutRange (dropMapped ipAddress)

/-- `isNewIpRangeDetected`. -/
def isNewIpRangeDetected (lastLoginIp : Option Text) (previousIpRange currentIpRange : Text) :
    Bool :=
  lastLoginIp.getD [] ≠ [] && previousIpRange ≠ unknown && currentIpRange ≠ unknown &&
    previousIpRange ≠ currentIpRange

/-! ## The texts of addresses -/

/-- The four numbers of an IPv4 address. -/
structure Quad where
  a : Fin 256
  b : Fin 256
  c : Fin 256
  d : Fin 256
  deriving DecidableEq, Repr

/-- The decimal numeral of a number. -/
def decimal (n : ℕ) : Text := Nat.toDigits 10 n

/-- The hexadecimal numeral of a number, in lower case and without leading zeros. -/
def hexadecimal (n : ℕ) : Text := Nat.toDigits 16 n

/-- The dotted text. -/
def Quad.text (q : Quad) : Text :=
  join '.' [decimal q.a.val, decimal q.b.val, decimal q.c.val, decimal q.d.val]

/-- The two groups that a dotted text stands for in IPv6. -/
def Quad.groups (q : Quad) : List ℕ := [256 * q.a.val + q.b.val, 256 * q.c.val + q.d.val]

/-- A group as it is written: up to four hexadecimal digits. -/
structure Group where
  digits : Text
  nonempty : digits ≠ []
  short : digits.length ≤ 4
  isHex : ∀ c ∈ digits, isHexDigit c = true
  deriving DecidableEq

/-- The number that a group is read as. -/
def Group.value (g : Group) : ℕ := Hexadecimal.value g.digits

/-- The number of groups that an IPv6 text writes. -/
def groupCount (front : List Group) (back : Option (List Group)) (tail : Option Quad) : ℕ :=
  front.length + (back.getD []).length + 2 * tail.toList.length

/-- A text of an IPv6 address: the groups in front, those after the `::` where there is one, and the
dotted text at the end where there is one. The `::` stands for one group or more. -/
structure Ipv6 where
  front : List Group
  back : Option (List Group) := none
  tail : Option Quad := none
  size : if back.isSome then groupCount front back tail < 8 else groupCount front back tail = 8
  deriving DecidableEq

/-- The parts that are written, from the first one to the last one. -/
def Ipv6.written (t : Ipv6) : List Text :=
  t.front.map Group.digits ++ ((t.back.getD []).map Group.digits ++ t.tail.toList.map Quad.text)

/-- The text. -/
def Ipv6.text (t : Ipv6) : Text :=
  if t.back.isSome then
    join ':' (t.front.map Group.digits) ++
      ':' :: ':' :: join ':' ((t.back.getD []).map Group.digits ++ t.tail.toList.map Quad.text)
  else join ':' t.written

/-- The eight groups of the address. -/
def Ipv6.groups (t : Ipv6) : List ℕ :=
  t.front.map Group.value ++ List.replicate (8 - groupCount t.front t.back t.tail) 0 ++
    (t.back.getD []).map Group.value ++ t.tail.toList.flatMap Quad.groups

/-- A text of an address. -/
inductive Form where
  | v4 (q : Quad)
  | v6 (t : Ipv6)
  deriving DecidableEq

/-- The text, as it is written. -/
def Form.text : Form → Text
  | .v4 q => q.text
  | .v6 t => t.text

/-- A network: a /24 of IPv4, or a /64 of IPv6. -/
inductive Network where
  | v4 (octets : List ℕ)
  | v6 (groups : List ℕ)
  deriving DecidableEq, Repr

/-- An IPv4-mapped address: `::ffff:0:0/96`. -/
def isMapped (groups : List ℕ) : Prop := groups.take 6 = [0, 0, 0, 0, 0, 0xffff]

instance (groups : List ℕ) : Decidable (isMapped groups) :=
  inferInstanceAs (Decidable (groups.take 6 = [0, 0, 0, 0, 0, 0xffff]))

/-- The network of an IPv6 address, by its groups. -/
def networkOf (groups : List ℕ) : Network :=
  if isMapped groups then
    .v4 [groups.getD 6 0 / 256, groups.getD 6 0 % 256, groups.getD 7 0 / 256]
  else .v6 (groups.take 4)

/-- The network of an address. -/
def Form.network : Form → Network
  | .v4 q => .v4 [q.a.val, q.b.val, q.c.val]
  | .v6 t => networkOf t.groups

/-- What is asked of two texts: their ranges are the same when their networks are, and a change of
range is found when there is a change of network. -/
structure Agrees (t u : Form) : Prop where
  range : getIpRange (some t.text) = getIpRange (some u.text) ↔ t.network = u.network
  fires : isNewIpRangeDetected (some t.text) (getIpRange (some t.text)) (getIpRange (some u.text))
    = true ↔ t.network ≠ u.network

/-! ## The texts that write their network out -/

/-- The dotted text of an IPv4-mapped address, after `::ffff:`. -/
def Ipv6.IsMappedQuad (t : Ipv6) : Prop :=
  t.front = [] ∧ t.back.isSome = true ∧ t.tail.isSome = true ∧
    (t.back.getD []).map Group.digits = ["ffff".toList]

/-- The parts that are written, but for an `ffff` that stands after a leading `::` and before other
parts. -/
def Ipv6.shown (t : Ipv6) : List Text :=
  if t.front = [] ∧ t.back.isSome = true ∧ t.written.head? = some "ffff".toList ∧
      t.written.tail ≠ [] then t.written.tail
  else t.written

/-- A text that writes its network out: an IPv4 address dotted, bare or after `::ffff:`, and an IPv6
address with its first four groups for the first four parts, in lower case and without leading
zeros. -/
def Form.Plain : Form → Prop
  | .v4 _ => True
  | .v6 t => t.IsMappedQuad ∨
      ¬ isMapped t.groups ∧ t.shown.take 4 = (t.groups.take 4).map hexadecimal

/-! ## Parts -/

theorem not_mem_of_isHex {c : Char} {digits : Text} (h : ∀ d ∈ digits, isHexDigit d = true)
    (hc : isHexDigit c = false) : c ∉ digits := by
  intro hmem
  rw [h c hmem] at hc
  cases hc

theorem isHex_decimal {n : ℕ} {c : Char} (h : c ∈ decimal n) : isHexDigit c = true := by
  have hdigit := Nat.isDigit_of_mem_toDigits (by decide) (by decide) h
  have hrange := Char.isDigit_iff_toNat.mp hdigit
  simp only [isHexDigit, Bool.or_eq_true, Bool.and_eq_true, decide_eq_true_eq]
  exact .inl (.inl hrange)

theorem parts_decimal (sep : Char) (hsep : isHexDigit sep = false) (numbers : List ℕ) :
    Parts sep (numbers.map decimal) := by
  intro part hpart
  obtain ⟨n, -, rfl⟩ := List.mem_map.mp hpart
  exact ⟨Nat.toDigits_ne_nil, not_mem_of_isHex (fun _ => isHex_decimal) hsep⟩

theorem parts_hexadecimal (numbers : List ℕ) : Parts ':' (numbers.map hexadecimal) := by
  intro part hpart
  obtain ⟨n, -, rfl⟩ := List.mem_map.mp hpart
  exact ⟨Nat.toDigits_ne_nil, not_mem_of_isHex (fun _ => isHexDigit_of_mem_toDigits) rfl⟩

theorem parts_groups (groups : List Group) : Parts ':' (groups.map Group.digits) := by
  intro part hpart
  obtain ⟨g, -, rfl⟩ := List.mem_map.mp hpart
  exact ⟨g.nonempty, not_mem_of_isHex g.isHex rfl⟩

theorem decimal_injective {m n : ℕ} (h : decimal m = decimal n) : m = n :=
  calc m = Nat.ofDigitChars 10 (decimal m) 0 := Nat.ofDigitChars_ten_toDigits.symm
    _ = Nat.ofDigitChars 10 (decimal n) 0 := by rw [h]
    _ = n := Nat.ofDigitChars_ten_toDigits

theorem splitOn_quad (q : Quad) :
    q.text.splitOn '.' = [decimal q.a.val, decimal q.b.val, decimal q.c.val, decimal q.d.val] := by
  have hparts := parts_decimal '.' rfl [q.a.val, q.b.val, q.c.val, q.d.val]
  exact List.splitOn_intercalate '.' (fun part hpart => (hparts part hpart).2)
    (List.cons_ne_nil _ _)

/-- A list of numbers in decimal holds no colon, dotted or not. -/
theorem colon_not_mem_dotted (numbers : List ℕ) : ':' ∉ join '.' (numbers.map decimal) := by
  rw [mem_join_iff]
  rintro (⟨part, hpart, hmem⟩ | ⟨h, -⟩)
  · exact (parts_decimal ':' rfl numbers part hpart).2 hmem
  · exact absurd h (by decide)

theorem colon_not_mem_quad (q : Quad) : ':' ∉ q.text :=
  colon_not_mem_dotted [q.a.val, q.b.val, q.c.val, q.d.val]

theorem dot_mem_quad (q : Quad) : '.' ∈ q.text := by
  have hparts := parts_decimal '.' rfl [q.a.val, q.b.val, q.c.val, q.d.val]
  exact (sep_mem_join_iff hparts).mpr (by decide : 2 ≤ 4)

theorem parts_written (t : Ipv6) : Parts ':' t.written := by
  refine (parts_groups _).append ((parts_groups _).append ?_)
  intro part hpart
  obtain ⟨q, -, rfl⟩ := List.mem_map.mp hpart
  exact ⟨List.ne_nil_of_mem (dot_mem_quad q), colon_not_mem_quad q⟩

/-- What is written is groups, and the dotted text. -/
theorem mem_written {t : Ipv6} {part : Text} (h : part ∈ t.written) :
    (∃ g : Group, part = g.digits) ∨ ∃ q, t.tail = some q ∧ part = q.text := by
  simp only [Ipv6.written, List.mem_append, List.mem_map, Option.mem_toList] at h
  rcases h with ⟨g, -, rfl⟩ | ⟨g, -, rfl⟩ | ⟨q, hq, rfl⟩
  · exact .inl ⟨g, rfl⟩
  · exact .inl ⟨g, rfl⟩
  · exact .inr ⟨q, hq, rfl⟩

/-! ## The text of an IPv6 address -/

/-- Without a `::` there are groups in front: seven parts or more are written. -/
theorem seven_le_of_no_back {t : Ipv6} (h : t.back = none) :
    t.front ≠ [] ∧ 7 ≤ t.written.length := by
  have hsize := t.size
  rw [h, Option.isSome_none, if_neg Bool.false_ne_true, groupCount, Option.getD_none] at hsize
  have htail : t.tail.toList.length ≤ 1 := by
    cases t.tail with
    | none => exact Nat.zero_le 1
    | some q => exact Nat.le_refl 1
  have hlength : t.written.length = t.front.length + t.tail.toList.length := by
    simp [Ipv6.written, h]
  rw [List.length_nil] at hsize
  exact ⟨List.ne_nil_of_length_pos (by omega), by omega⟩

theorem text_of_back {t : Ipv6} (h : t.back.isSome = true) :
    t.text = join ':' (t.front.map Group.digits) ++ ':' :: ':' ::
      join ':' ((t.back.getD []).map Group.digits ++ t.tail.toList.map Quad.text) := if_pos h

theorem text_of_no_back {t : Ipv6} (h : t.back = none) : t.text = join ':' t.written := by
  rw [Ipv6.text, h]
  rfl

theorem colon_mem_text (t : Ipv6) : ':' ∈ t.text := by
  cases hback : t.back with
  | none =>
    rw [text_of_no_back hback, sep_mem_join_iff (parts_written t)]
    have hlength := (seven_le_of_no_back hback).2
    omega
  | some back =>
    rw [text_of_back (by rw [hback]; rfl)]
    exact List.mem_append_right _ List.mem_cons_self

/-- The fields of the text are what is written. -/
theorem fields_text (t : Ipv6) : fields ':' t.text = t.written := by
  cases hback : t.back with
  | none => rw [text_of_no_back hback, fields_join (parts_written t)]
  | some back =>
    generalize hparts : (t.back.getD []).map Group.digits ++ t.tail.toList.map Quad.text = parts
    have hafter : Parts ':' parts :=
      (parts_written t).of_subset (by rw [← hparts]; exact List.subset_append_right _ _)
    -- Nothing stands between the two colons.
    have hempty : fields ':' (':' :: join ':' parts) = parts := by
      have hsplit : fields ':' ([] ++ ':' :: join ':' parts) = fields ':' [] ++ _ :=
        fields_append_cons [] (join ':' parts)
      rwa [fields_nil, List.nil_append, List.nil_append, fields_join hafter] at hsplit
    rw [text_of_back (by rw [hback]; rfl), hparts, fields_append_cons, hempty,
      fields_join (parts_groups _), Ipv6.written, hparts]

/-! ## What is left after the mapped part -/

theorem text_of_front_nil {t : Ipv6} (hfront : t.front = []) (hback : t.back.isSome = true) :
    t.text = ':' :: ':' :: join ':' t.written := by
  rw [text_of_back hback, Ipv6.written, hfront]
  rfl

theorem digits_isPrefix {t : Ipv6} {g : Group} {gs : List Group} (h : t.front = g :: gs) :
    g.digits <+: t.text := by
  cases hback : t.back with
  | none =>
    rw [text_of_no_back hback, Ipv6.written, h, List.map_cons, List.cons_append]
    exact part_isPrefix_join _ _
  | some back =>
    rw [text_of_back (by rw [hback]; rfl), h, List.map_cons]
    exact (part_isPrefix_join _ _).trans (List.prefix_append _ _)

/-- The text that starts with the mapped part, with the other parts after it. -/
theorem mapped_isPrefix_iff (t : Ipv6) : "::ffff:".toList <+: t.text ↔
    t.front = [] ∧ t.back.isSome = true ∧ ∃ rest, rest ≠ [] ∧ t.written = "ffff".toList :: rest := by
  constructor
  · intro hfirst
    have hfront : t.front = [] := by
      -- A group in front starts the text with a digit.
      by_contra hne
      obtain ⟨g, gs, hg⟩ := List.exists_cons_of_ne_nil hne
      obtain ⟨c, cs, hc⟩ := List.exists_cons_of_ne_nil g.nonempty
      obtain ⟨after, hafter⟩ := hfirst
      obtain ⟨after', hafter'⟩ := digits_isPrefix hg
      rw [hc, List.cons_append, ← hafter] at hafter'
      have hcolon : c = ':' := (List.cons.inj hafter').1
      have hhex := g.isHex c (by rw [hc]; exact List.mem_cons_self)
      rw [hcolon] at hhex
      cases hhex
    have hback : t.back.isSome = true := by
      cases hback : t.back with
      | none => exact absurd hfront (seven_le_of_no_back hback).1
      | some back => rfl
    refine ⟨hfront, hback, ?_⟩
    rw [text_of_front_nil hfront hback] at hfirst
    have hrest := (List.cons_prefix_cons.mp (List.cons_prefix_cons.mp hfirst).2).2
    exact (append_sep_isPrefix_join_iff (parts_written t) (by decide)).mp hrest
  · rintro ⟨hfront, hback, hrest⟩
    rw [text_of_front_nil hfront hback]
    refine List.cons_prefix_cons.mpr ⟨rfl, List.cons_prefix_cons.mpr ⟨rfl, ?_⟩⟩
    exact (append_sep_isPrefix_join_iff (parts_written t) (by decide)).mpr hrest

theorem dropMapped_of_not {t : Ipv6} (h : ¬ "::ffff:".toList <+: t.text) :
    dropMapped t.text = t.text := if_neg h

theorem dropMapped_of_mapped {t : Ipv6} {rest : List Text} (hfront : t.front = [])
    (hback : t.back.isSome = true) (hne : rest ≠ []) (hrest : t.written = "ffff".toList :: rest) :
    dropMapped t.text = join ':' rest := by
  rw [dropMapped, if_pos ((mapped_isPrefix_iff t).mpr ⟨hfront, hback, rest, hne, hrest⟩),
    text_of_front_nil hfront hback, hrest, join_cons hne]
  rfl

/-- The parts that are shown are those after the mapped part, or all. -/
theorem shown_of_mapped {t : Ipv6} {rest : List Text} (hfront : t.front = [])
    (hback : t.back.isSome = true) (hne : rest ≠ []) (hrest : t.written = "ffff".toList :: rest) :
    t.shown = rest := by
  rw [Ipv6.shown, if_pos ⟨hfront, hback, by rw [hrest]; rfl, by rw [hrest]; exact hne⟩, hrest]
  rfl

theorem shown_of_not {t : Ipv6} (h : ¬ "::ffff:".toList <+: t.text) : t.shown = t.written := by
  refine if_neg ?_
  rintro ⟨hfront, hback, hhead, htail⟩
  obtain ⟨rest, hrest⟩ := List.head?_eq_some_iff.mp hhead
  rw [hrest] at htail
  exact h ((mapped_isPrefix_iff t).mpr ⟨hfront, hback, rest, htail, hrest⟩)

theorem shown_subset (t : Ipv6) : t.shown ⊆ t.written := by
  unfold Ipv6.shown
  split_ifs
  · exact (List.tail_sublist _).subset
  · exact List.Subset.refl _

/-- Nothing is shown only where nothing is written. -/
theorem shown_eq_nil {t : Ipv6} (h : t.shown = []) : t.written = [] := by
  unfold Ipv6.shown at h
  split_ifs at h with hmapped
  · exact absurd h hmapped.2.2.2
  · exact h

/-! ## The range of a text -/

theorem getIpRange_text {text : Text} (hne : text ≠ []) (hunknown : text ≠ unknown) :
    getIpRange (some text) = cutRange (dropMapped text) := by
  rw [getIpRange, if_neg]
  simp only [hne, hunknown, decide_false, Bool.or_self, Bool.false_eq_true, not_false_eq_true]

theorem getIpRange_v6 (t : Ipv6) : getIpRange (some t.text) = cutRange (dropMapped t.text) := by
  have hcolon := colon_mem_text t
  refine getIpRange_text (List.ne_nil_of_mem hcolon) ?_
  intro h
  rw [h] at hcolon
  exact absurd hcolon (by decide)

theorem cutRange_quad (q : Quad) :
    cutRange q.text = join '.' ([q.a.val, q.b.val, q.c.val].map decimal) := by
  rw [cutRange, if_neg (colon_not_mem_quad q), splitOn_quad]
  rfl

theorem getIpRange_quad (q : Quad) :
    getIpRange (some q.text) = join '.' ([q.a.val, q.b.val, q.c.val].map decimal) := by
  have hdot := dot_mem_quad q
  have hmapped : dropMapped q.text = q.text := by
    refine if_neg ?_
    intro hfirst
    exact colon_not_mem_quad q (hfirst.subset (by decide))
  rw [getIpRange_text (List.ne_nil_of_mem hdot), hmapped, cutRange_quad]
  intro h
  rw [h] at hdot
  exact absurd hdot (by decide)

/-- Parts with a colon between them are cut to four. -/
theorem cutRange_join {parts : List Text} (hparts : Parts ':' parts) (hlength : 2 ≤ parts.length) :
    cutRange (join ':' parts) = join ':' (parts.take 4) := by
  rw [cutRange, if_pos ((sep_mem_join_iff hparts).mpr hlength), fields_join hparts]
  have htake : Parts ':' (parts.take 4) := hparts.of_subset (List.take_subset 4 parts)
  have hcolon : ':' ∈ join ':' (parts.take 4) := by
    rw [sep_mem_join_iff htake, List.length_take]
    omega
  exact if_pos (List.ne_nil_of_mem hcolon)

theorem cutRange_group (g : Group) : cutRange g.digits = g.digits := by
  have hcolon : ':' ∉ g.digits := not_mem_of_isHex g.isHex rfl
  have hdot : '.' ∉ g.digits := not_mem_of_isHex g.isHex rfl
  rw [cutRange, if_neg hcolon, List.splitOn_eq_singleton hdot]
  rfl

/-- The text is cut to its first four parts, unless there are none. -/
theorem cutRange_text (t : Ipv6) :
    cutRange t.text = if t.written = [] then t.text else join ':' (t.written.take 4) := by
  rw [cutRange, if_pos (colon_mem_text t), fields_text]
  cases hwritten : t.written with
  | nil => rfl
  | cons part parts =>
    have hpart := (parts_written t part (by rw [hwritten]; exact List.mem_cons_self)).1
    have hjoin : join ':' ((part :: parts).take 4) ≠ [] := by
      have hfirst : part <+: join ':' (part :: parts.take 3) := part_isPrefix_join part _
      obtain ⟨after, hafter⟩ := hfirst
      rw [List.take_succ_cons, ← hafter]
      exact List.append_ne_nil_of_left_ne_nil hpart after
    rw [if_neg (List.cons_ne_nil part parts)]
    exact if_pos hjoin

/-- The mapped dotted text is cut as the dotted text is. -/
theorem getIpRange_of_isMappedQuad {t : Ipv6} (h : t.IsMappedQuad) :
    ∃ q, t.tail = some q ∧ getIpRange (some t.text) = getIpRange (some q.text) := by
  obtain ⟨hfront, hback, htail, hdigits⟩ := h
  obtain ⟨q, hq⟩ := Option.isSome_iff_exists.mp htail
  have hwritten : t.written = "ffff".toList :: [q.text] := by
    rw [Ipv6.written, hfront, hdigits, hq]
    rfl
  refine ⟨q, hq, ?_⟩
  rw [getIpRange_v6, dropMapped_of_mapped hfront hback (List.cons_ne_nil _ _) hwritten,
    join_singleton, cutRange_quad, getIpRange_quad]

/-- Every other IPv6 text is cut to the first four of the parts that it shows. -/
theorem getIpRange_of_not_isMappedQuad {t : Ipv6} (h : ¬ t.IsMappedQuad) :
    getIpRange (some t.text) = if t.shown = [] then t.text else join ':' (t.shown.take 4) := by
  rw [getIpRange_v6]
  by_cases hmapped : "::ffff:".toList <+: t.text
  · obtain ⟨hfront, hback, rest, hne, hrest⟩ := (mapped_isPrefix_iff t).mp hmapped
    have hparts : Parts ':' rest :=
      (parts_written t).of_subset (by rw [hrest]; exact List.subset_cons_self _ _)
    rw [dropMapped_of_mapped hfront hback hne hrest, shown_of_mapped hfront hback hne hrest,
      if_neg hne]
    rcases Nat.lt_or_ge 1 rest.length with hlength | hlength
    · exact cutRange_join hparts hlength
    · -- One part is left: a group, since the dotted text would make the text a mapped one.
      obtain ⟨part, hpart⟩ : ∃ part, rest = [part] := by
        have hpos := List.length_pos_of_ne_nil hne
        exact List.length_eq_one_iff.mp (by omega)
      rw [hpart] at hrest ⊢
      rw [join_singleton]
      rcases mem_written (hrest ▸ List.mem_cons_of_mem _ (List.mem_singleton_self part)) with
        ⟨g, rfl⟩ | ⟨q, hq, rfl⟩
      · rw [cutRange_group]
        exact (join_singleton _).symm
      · refine absurd ⟨hfront, hback, by rw [hq]; rfl, ?_⟩ h
        rw [Ipv6.written, hfront, hq] at hrest
        exact (List.append_inj' hrest rfl).1
  · rw [dropMapped_of_not hmapped, shown_of_not hmapped, cutRange_text]

/-! ## The text of a network -/

/-- The network, written out. -/
def Network.text : Network → Text
  | .v4 octets => join '.' (octets.map decimal)
  | .v6 groups => join ':' (groups.map hexadecimal)

theorem length_groups (t : Ipv6) : t.groups.length = 8 := by
  have hcount : t.front.length + (t.back.getD []).length + 2 * t.tail.toList.length ≤ 8 := by
    have hsize := t.size
    split_ifs at hsize <;> rw [groupCount] at hsize <;> omega
  have htail : (t.tail.toList.flatMap Quad.groups).length = 2 * t.tail.toList.length := by
    cases t.tail with
    | none => rfl
    | some q => rfl
  simp only [Ipv6.groups, List.length_append, List.length_map, List.length_replicate, htail,
    groupCount]
  omega

theorem value_lt_size (g : Group) : g.value < 65536 := by
  have hlt := value_lt g.isHex
  have hpow : 16 ^ g.digits.length ≤ 16 ^ 4 := Nat.pow_le_pow_right (by decide) g.short
  exact hlt.trans_le hpow

theorem lt_of_mem_groups {t : Ipv6} {n : ℕ} (h : n ∈ t.groups) : n < 65536 := by
  simp only [Ipv6.groups, List.mem_append, List.mem_map, List.mem_replicate, List.mem_flatMap] at h
  rcases h with ((⟨g, -, rfl⟩ | ⟨-, rfl⟩) | ⟨g, -, rfl⟩) | ⟨q, -, hq⟩
  · exact value_lt_size g
  · decide
  · exact value_lt_size g
  · have ha := q.a.isLt
    have hb := q.b.isLt
    have hc := q.c.isLt
    have hd := q.d.isLt
    rcases List.mem_pair.mp hq with rfl | rfl <;> omega

/-- The networks that there are: three octets, or four groups. -/
def Network.Valid : Network → Prop
  | .v4 octets => octets.length = 3 ∧ ∀ n ∈ octets, n < 256
  | .v6 groups => groups.length = 4 ∧ ∀ n ∈ groups, n < 65536

theorem valid_network (t : Form) : t.network.Valid := by
  cases t with
  | v4 q =>
    refine ⟨rfl, ?_⟩
    intro n hn
    simp only [List.mem_cons, List.not_mem_nil, or_false] at hn
    rcases hn with rfl | rfl | rfl
    · exact q.a.isLt
    · exact q.b.isLt
    · exact q.c.isLt
  | v6 t =>
    have hlength := length_groups t
    have hget : ∀ i, t.groups.getD i 0 < 65536 := by
      intro i
      rcases Nat.lt_or_ge i t.groups.length with hi | hi
      · rw [List.getD_eq_getElem _ 0 hi]
        exact lt_of_mem_groups (List.getElem_mem hi)
      · rw [List.getD_eq_default _ _ hi]
        decide
    simp only [Form.network, networkOf]
    split_ifs with hmapped
    · refine ⟨rfl, ?_⟩
      intro n hn
      have hsix := hget 6
      have hseven := hget 7
      simp only [List.mem_cons, List.not_mem_nil, or_false] at hn
      rcases hn with rfl | rfl | rfl <;> omega
    · refine ⟨by rw [List.length_take, hlength]; rfl, ?_⟩
      exact fun n hn => lt_of_mem_groups (List.mem_of_mem_take hn)

/-- Different networks are written differently. -/
theorem text_injective {m n : Network} (hm : m.Valid) (hn : n.Valid) (h : m.text = n.text) :
    m = n := by
  have hcolon : ∀ groups : List ℕ, groups.length = 4 →
      ':' ∈ join ':' (groups.map hexadecimal) := by
    intro groups hlength
    rw [sep_mem_join_iff (parts_hexadecimal groups), List.length_map, hlength]
    decide
  cases m with
  | v4 octets =>
    cases n with
    | v4 octets' =>
      have hmap := join_injective (parts_decimal '.' rfl octets) (parts_decimal '.' rfl octets') h
      rw [List.map_injective_iff.mpr (fun _ _ => decimal_injective) hmap]
    | v6 groups' =>
      have hmem := hcolon groups' hn.1
      rw [show join ':' (groups'.map hexadecimal) = _ from h.symm] at hmem
      exact absurd hmem (colon_not_mem_dotted octets)
  | v6 groups =>
    cases n with
    | v4 octets' =>
      have hmem := hcolon groups hm.1
      rw [show join ':' (groups.map hexadecimal) = _ from h] at hmem
      exact absurd hmem (colon_not_mem_dotted octets')
    | v6 groups' =>
      have hmap := join_injective (parts_hexadecimal groups) (parts_hexadecimal groups') h
      rw [List.map_injective_iff.mpr (fun _ _ => toDigits_injective) hmap]

/-- The IPv4-mapped address of a dotted text. -/
theorem network_of_isMappedQuad {t : Ipv6} {q : Quad} (h : t.IsMappedQuad) (hq : t.tail = some q) :
    (Form.v6 t).network = (Form.v4 q).network := by
  obtain ⟨hfront, -, -, hdigits⟩ := h
  have hback : (t.back.getD []).map Group.value = [0xffff] := by
    have hmap := congrArg (List.map Hexadecimal.value) hdigits
    rw [List.map_map] at hmap
    exact hmap
  have hlength : (t.back.getD []).length = 1 := by
    rw [← List.length_map Group.digits, hdigits]
    rfl
  have hgroups : t.groups =
      [0, 0, 0, 0, 0, 0xffff, 256 * q.a.val + q.b.val, 256 * q.c.val + q.d.val] := by
    rw [Ipv6.groups, groupCount, hback, hlength, hfront, hq]
    rfl
  have ha := q.a.isLt
  have hb := q.b.isLt
  have hc := q.c.isLt
  have hd := q.d.isLt
  rw [Form.network, Form.network, hgroups, networkOf, if_pos (by rfl)]
  simp only [List.getD_cons_succ, List.getD_cons_zero]
  rw [show (256 * q.a.val + q.b.val) / 256 = q.a.val by omega,
    show (256 * q.a.val + q.b.val) % 256 = q.b.val by omega,
    show (256 * q.c.val + q.d.val) / 256 = q.c.val by omega]

/-! ## When the range is the network -/

/-- Of a mapped address the range of another text is not the network: it has colons, or is one part,
which has no dots or three of them. -/
theorem range_ne_dotted {t : Ipv6} (h : ¬ t.IsMappedQuad) (a b c : ℕ) :
    getIpRange (some t.text) ≠ join '.' ([a, b, c].map decimal) := by
  intro hrange
  rw [getIpRange_of_not_isMappedQuad h] at hrange
  have hparts : Parts ':' (t.shown.take 4) :=
    (parts_written t).of_subset (List.Subset.trans (List.take_subset 4 _) (shown_subset t))
  have hno := colon_not_mem_dotted [a, b, c]
  rw [← hrange] at hno
  split_ifs at hrange hno with hnil
  · exact hno (colon_mem_text t)
  · rw [sep_mem_join_iff hparts] at hno
    have hpos : 0 < t.shown.length := List.length_pos_of_ne_nil hnil
    obtain ⟨part, hpart⟩ : ∃ part, t.shown.take 4 = [part] := by
      have hlength := List.length_take (i := 4) (l := t.shown)
      exact List.length_eq_one_iff.mp (by omega)
    have hmem : part ∈ t.shown :=
      List.mem_of_mem_take (i := 4) (by rw [hpart]; exact List.mem_singleton_self part)
    have hdecimals := parts_decimal '.' rfl [a, b, c]
    have hsplit : part.splitOn '.' = [a, b, c].map decimal := by
      rw [hpart, join_singleton] at hrange
      rw [hrange]
      exact List.splitOn_intercalate '.' (fun part hpart => (hdecimals part hpart).2)
        (List.cons_ne_nil _ _)
    have hthree := congrArg List.length hsplit
    rw [List.length_map] at hthree
    rcases mem_written (shown_subset t hmem) with ⟨g, rfl⟩ | ⟨q, -, rfl⟩
    · rw [List.splitOn_eq_singleton (not_mem_of_isHex g.isHex rfl)] at hthree
      exact absurd hthree (by decide : 1 ≠ 3)
    · rw [splitOn_quad] at hthree
      exact absurd hthree (by decide : 4 ≠ 3)

/-- Of another address it is when the parts that are shown are the groups of the network. -/
theorem range_eq_groups_iff {t : Ipv6} (h : ¬ t.IsMappedQuad) :
    getIpRange (some t.text) = join ':' ((t.groups.take 4).map hexadecimal) ↔
      t.shown.take 4 = (t.groups.take 4).map hexadecimal := by
  have hlength : ((t.groups.take 4).map hexadecimal).length = 4 := by
    rw [List.length_map, List.length_take, length_groups]
    rfl
  have hparts : Parts ':' (t.shown.take 4) :=
    (parts_written t).of_subset (List.Subset.trans (List.take_subset 4 _) (shown_subset t))
  rw [getIpRange_of_not_isMappedQuad h]
  constructor
  · intro hrange
    have hfields := congrArg (fields ':') hrange
    rw [fields_join (parts_hexadecimal _)] at hfields
    split_ifs at hfields with hnil
    · -- The text has no parts: it is `::`.
      rw [fields_text, shown_eq_nil hnil] at hfields
      rw [← hfields] at hlength
      cases hlength
    · rw [← hfields, fields_join hparts]
  · intro hshown
    have hne : t.shown ≠ [] := by
      intro hnil
      rw [hnil] at hshown
      rw [← hshown] at hlength
      cases hlength
    rw [if_neg hne, hshown]

/-- The range of a text is its network, written out, exactly when the text writes it out. -/
theorem getIpRange_eq_text_iff (t : Form) :
    getIpRange (some t.text) = t.network.text ↔ t.Plain := by
  cases t with
  | v4 q => exact iff_of_true (getIpRange_quad q) trivial
  | v6 t =>
    by_cases hquad : t.IsMappedQuad
    · obtain ⟨q, hq, hrange⟩ := getIpRange_of_isMappedQuad hquad
      refine iff_of_true ?_ (.inl hquad)
      rw [network_of_isMappedQuad hquad hq]
      exact hrange.trans (getIpRange_quad q)
    · simp only [Form.Plain, Form.network, networkOf, hquad, false_or]
      split_ifs with hmapped
      · exact iff_of_false (range_ne_dotted hquad _ _ _) fun h => h.1 hmapped
      · rw [and_iff_right hmapped]
        exact range_eq_groups_iff hquad

/-! ## Every network has a text that writes it out -/

/-- A group, as its number is written. -/
def Group.ofNat (n : ℕ) (h : n < 65536) : Group where
  digits := hexadecimal n
  nonempty := Nat.toDigits_ne_nil
  short := (Nat.length_toDigits_le_iff (by decide) (by decide)).mpr h
  isHex := fun _ => isHexDigit_of_mem_toDigits

theorem value_ofNat (n : ℕ) (h : n < 65536) : (Group.ofNat n h).value = n := value_toDigits n

/-- The text of a host of a network, with its eight groups. -/
def host (a b c d : Group) : Ipv6 where
  front := [a, b, c, d, .ofNat 0 (by decide), .ofNat 0 (by decide), .ofNat 0 (by decide),
    .ofNat 1 (by decide)]
  back := none
  tail := none
  size := rfl

theorem exists_plain {n : Network} (hn : n.Valid) : ∃ u : Form, u.network = n ∧ u.Plain := by
  cases n with
  | v4 octets =>
    obtain ⟨hlength, hlt⟩ := hn
    obtain ⟨a, b, c, rfl⟩ := List.length_eq_three.mp hlength
    simp only [List.forall_mem_cons] at hlt
    exact ⟨.v4 ⟨⟨a, hlt.1⟩, ⟨b, hlt.2.1⟩, ⟨c, hlt.2.2.1⟩, 0⟩, rfl, trivial⟩
  | v6 groups =>
    obtain ⟨hlength, hlt⟩ := hn
    obtain ⟨a, b, c, d, rfl⟩ : ∃ a b c d, groups = [a, b, c, d] := by
      match groups, hlength with
      | [a, b, c, d], _ => exact ⟨a, b, c, d, rfl⟩
    simp only [List.forall_mem_cons] at hlt
    let t := host (.ofNat a hlt.1) (.ofNat b hlt.2.1) (.ofNat c hlt.2.2.1) (.ofNat d hlt.2.2.2.1)
    have hgroups : t.groups = [a, b, c, d, 0, 0, 0, 1] := by
      simp only [t, host, Ipv6.groups, List.map_cons, List.map_nil, value_ofNat]
      rfl
    have hmapped : ¬ isMapped t.groups := by
      rw [hgroups]
      simp [isMapped]
    refine ⟨.v6 t, ?_, .inr ⟨hmapped, ?_⟩⟩
    · rw [Form.network, networkOf, if_neg hmapped, hgroups]
      rfl
    · rw [hgroups]
      rfl

/-! ## The ranges of two texts -/

theorem u_not_mem_quad (q : Quad) : 'u' ∉ q.text := by
  rw [Quad.text, mem_join_iff]
  rintro (⟨part, hpart, hmem⟩ | ⟨h, -⟩)
  · have hparts := parts_decimal 'u' rfl [q.a.val, q.b.val, q.c.val, q.d.val]
    exact (hparts part hpart).2 hmem
  · exact absurd h (by decide)

/-- The range of an address is never `unknown`. -/
theorem getIpRange_ne_unknown (t : Form) : getIpRange (some t.text) ≠ unknown := by
  have hquad : ∀ q : Quad, getIpRange (some q.text) ≠ unknown := by
    intro q h
    have hdot := (sep_mem_join_iff (parts_decimal '.' rfl [q.a.val, q.b.val, q.c.val])).mpr
      (by decide : 2 ≤ 3)
    rw [← getIpRange_quad, h] at hdot
    exact absurd hdot (by decide)
  cases t with
  | v4 q => exact hquad q
  | v6 t =>
    by_cases h : t.IsMappedQuad
    · obtain ⟨q, -, hrange⟩ := getIpRange_of_isMappedQuad h
      exact fun heq => hquad q (hrange.symm.trans heq)
    · intro hrange
      have hu : 'u' ∈ unknown := by decide
      rw [← hrange, Form.text, getIpRange_of_not_isMappedQuad h] at hu
      split_ifs at hu with hnil
      · have hcolon := colon_mem_text t
        rw [Form.text, getIpRange_of_not_isMappedQuad h, if_pos hnil] at hrange
        rw [hrange] at hcolon
        exact absurd hcolon (by decide)
      · rcases mem_join_iff.mp hu with ⟨part, hpart, hmem⟩ | ⟨heq, -⟩
        · rcases mem_written (shown_subset t (List.mem_of_mem_take hpart)) with
            ⟨g, rfl⟩ | ⟨q, -, rfl⟩
          · exact not_mem_of_isHex g.isHex rfl hmem
          · exact u_not_mem_quad q hmem
        · exact absurd heq (by decide)

/-- A new range is found when the ranges differ. -/
theorem isNewIpRangeDetected_iff (t u : Form) :
    isNewIpRangeDetected (some t.text) (getIpRange (some t.text)) (getIpRange (some u.text)) = true ↔
      getIpRange (some t.text) ≠ getIpRange (some u.text) := by
  have hne : t.text ≠ [] := by
    cases t with
    | v4 q => exact List.ne_nil_of_mem (dot_mem_quad q)
    | v6 t => exact List.ne_nil_of_mem (colon_mem_text t)
  simp [isNewIpRangeDetected, hne, getIpRange_ne_unknown]

theorem agrees_of_range {t u : Form}
    (h : getIpRange (some t.text) = getIpRange (some u.text) ↔ t.network = u.network) :
    Agrees t u where
  range := h
  fires := (isNewIpRangeDetected_iff t u).trans (not_congr h)

/-- A text agrees with all those that write their network out exactly when it does so itself. -/
theorem ranges_agree_iff (t : Form) : (∀ u : Form, u.Plain → Agrees t u) ↔ t.Plain := by
  constructor
  · intro h
    obtain ⟨u, hnetwork, hplain⟩ := exists_plain (valid_network t)
    have hrange := (h u hplain).range.mpr hnetwork.symm
    rw [(getIpRange_eq_text_iff u).mpr hplain, hnetwork] at hrange
    exact (getIpRange_eq_text_iff t).mp hrange
  · intro ht u hu
    refine agrees_of_range ?_
    rw [(getIpRange_eq_text_iff t).mpr ht, (getIpRange_eq_text_iff u).mpr hu]
    exact ⟨text_injective (valid_network t) (valid_network u), congrArg Network.text⟩

/-- `2001:db8::` and one group more. -/
def documentation (last : Group) : Ipv6 where
  front := [.ofNat 0x2001 (by decide), .ofNat 0xdb8 (by decide)]
  back := some [last]
  tail := none
  size := (by decide : 3 < 8)

/-- `2001:db8::1` and `2001:db8::2` are of one network, and their ranges are `2001:db8:1` and
`2001:db8:2`. -/
theorem agrees_fails : ¬ ∀ t u : Form, Agrees t u := by
  intro h
  have hrange := (h (.v6 (documentation (.ofNat 1 (by decide))))
    (.v6 (documentation (.ofNat 2 (by decide))))).range
  exact absurd (hrange.mpr (by decide)) (by decide)

end Docketra.IpRanges
