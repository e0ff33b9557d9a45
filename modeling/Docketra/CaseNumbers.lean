import Docketra.IdentifierAgreement
import Docketra.Lib.Calendar
import Docketra.Lib.Numerals

/-!
# Generated case ids and names

`services/caseIdGenerator.js` and `services/caseNameGenerator.js` make an identifier of the day and a
counter of that day, which `services/counter.service.js` keeps for a firm. The counter is padded to
five digits, and the validators and the dates that are read back take it to have five. So what a
firm's calls generate is different, valid, and dated exactly when no day has more than 99999
identifiers of a kind, and every year has four digits (`generated_recognised_iff`).

A day is the local one of the server, and `new Date(year, month, day)` is read on the same calendar.
-/

namespace Docketra.CaseNumbers

open Calendar Identifiers Numerals

/-! ## The generators -/

/-- `YYYYMMDD`. -/
def datePrefix (now : Day) : List Char :=
  (toString now.year).toList ++ padded 2 (monthOf now.month + 1).toNat ++ padded 2 now.day

/-- The two generators. -/
inductive Kind where
  | generateCaseId | generateCaseName
  deriving DecidableEq

/-- A call of a generator for a firm, on a day. -/
structure Call where
  kind : Kind
  now : Day
  deriving DecidableEq

/-- The counters of a firm, by their names. -/
abbrev Counters := List Char → ℕ

/-- `getNextSequence`: the numbers are 1, 2, 3, … for each counter. -/
def getNextSequence (name : List Char) (counters : Counters) : ℕ × Counters :=
  (counters name + 1, fun other => if other = name then counters name + 1 else counters other)

def counterName (call : Call) : List Char :=
  match call.kind with
  | .generateCaseId => "case-".toList ++ datePrefix call.now
  | .generateCaseName => "docketName-".toList ++ datePrefix call.now

/-- The identifier that a call makes of a number. -/
def identifierOf (call : Call) (sequenceNumber : ℕ) : String :=
  match call.kind with
  | .generateCaseId =>
    String.ofList ("CASE-".toList ++ datePrefix call.now ++ "-".toList ++ padded 5 sequenceNumber)
  | .generateCaseName =>
    String.ofList ("Docket#".toList ++ datePrefix call.now ++ padded 5 sequenceNumber)

/-- The calls, in order, with what they return. -/
def generateAll : List Call → Counters → List (Call × String)
  | [], _ => []
  | call :: calls, counters =>
    let (sequenceNumber, counters) := getNextSequence (counterName call) counters
    (call, identifierOf call sequenceNumber) :: generateAll calls counters

/-! ## The readers -/

/-- `isValidCaseNameFormat`: `/^Docket#\d{8}\d{5}$/`. -/
def isValidCaseNameFormat (caseName : String) : Bool :=
  caseName.toList.take 7 == "Docket#".toList && (caseName.toList.drop 7).length == 13 &&
    (caseName.toList.drop 7).all Char.isDigit

/-- `new Date(year, month, day)`, of the digits of a date. -/
def readDate (dateStr : List Char) : Day :=
  let year := Nat.ofDigitChars 10 (dateStr.take 4) 0
  let month : ℤ := Nat.ofDigitChars 10 ((dateStr.drop 4).take 2) 0 - 1
  let day := Nat.ofDigitChars 10 ((dateStr.drop 6).take 2) 0
  dateUTC year month day

def extractDateFromCaseId (caseId : String) : Option Day :=
  if isValidCaseIdFormat caseId then some (readDate ((caseId.toList.drop 5).take 8)) else none

def extractDateFromCaseName (caseName : String) : Option Day :=
  if isValidCaseNameFormat caseName then some (readDate ((caseName.toList.drop 7).take 8)) else none

/-! ## What is asked -/

/-- The readers of a kind take an identifier to be one of a day. -/
def Recognised (call : Call) (identifier : String) : Prop :=
  match call.kind with
  | .generateCaseId => isValidCaseIdFormat identifier = true ∧
    isValidCaseNumberFormat identifier = true ∧ extractDateFromCaseId identifier = some call.now
  | .generateCaseName => isValidCaseNameFormat identifier = true ∧
    extractDateFromCaseName identifier = some call.now

/-- What some calls return is different for each kind, and recognised. -/
structure AllRecognised (calls : List Call) : Prop where
  distinct : ∀ kind, (((generateAll calls fun _ => 0).filter fun r => r.1.kind = kind).map
    (·.2)).Nodup
  recognised : ∀ r ∈ generateAll calls fun _ => 0, Recognised r.1 r.2

/-- The year of a day has four digits. -/
def FourDigitYear (now : Day) : Prop := 1000 ≤ now.year ∧ now.year ≤ 9999

/-! ## The date -/

theorem toNat_monthOf_lt (month : ℤ) : (monthOf month + 1).toNat < 10 ^ 2 := by
  unfold monthOf
  omega

theorem day_lt (now : Day) : now.day < 10 ^ 2 := by
  have hle := now.day_le
  unfold daysInMonth at hle
  split_ifs at hle <;> omega

theorem length_month (now : Day) : (padded 2 (monthOf now.month + 1).toNat).length = 2 :=
  (length_padded_eq_iff (by decide)).mpr (toNat_monthOf_lt now.month)

theorem length_day (now : Day) : (padded 2 now.day).length = 2 :=
  (length_padded_eq_iff (by decide)).mpr (day_lt now)

theorem length_datePrefix (now : Day) :
    (datePrefix now).length = (toString now.year).toList.length + 4 := by
  unfold datePrefix
  rw [List.length_append, List.length_append, length_month, length_day]

/-- The year of a four-digit year is four digits, and no other year is. -/
theorem year_digits_iff (year : ℤ) :
    (toString year).toList.length = 4 ∧ (∀ c ∈ (toString year).toList, c.isDigit = true) ↔
      1000 ≤ year ∧ year ≤ 9999 := by
  cases year with
  | ofNat n =>
    have htext : (toString (Int.ofNat n)).toList = Nat.toDigits 10 n := toList_toString_nat n
    have hfour := Nat.length_toDigits_le_iff (n := n) (b := 10) (k := 4) (by decide) (by decide)
    have hthree := Nat.length_toDigits_le_iff (n := n) (b := 10) (k := 3) (by decide) (by decide)
    have hdigits : ∀ c ∈ Nat.toDigits 10 n, c.isDigit = true :=
      fun c hc => Nat.isDigit_of_mem_toDigits (by decide) (by decide) hc
    rw [htext, and_iff_left hdigits]
    have hcast : Int.ofNat n = (n : ℤ) := rfl
    rw [hcast]
    omega
  | negSucc n =>
    have hsign : '-' ∈ (toString (Int.negSucc n)).toList := by
      rw [toString_negSucc, String.toList_append]
      exact List.mem_append_left _ (by decide)
    refine iff_of_false (fun h => absurd (h.2 _ hsign) (by decide)) fun h => ?_
    omega

/-- A date is eight digits exactly when its year is four. -/
theorem datePrefix_iff (now : Day) :
    (datePrefix now).length = 8 ∧ (∀ c ∈ datePrefix now, c.isDigit = true) ↔
      FourDigitYear now := by
  unfold FourDigitYear
  rw [← year_digits_iff, length_datePrefix]
  have hdigits : (∀ c ∈ datePrefix now, c.isDigit = true) ↔
      ∀ c ∈ (toString now.year).toList, c.isDigit = true := by
    unfold datePrefix
    rw [List.forall_mem_append, List.forall_mem_append]
    constructor
    · exact fun h => h.1.1
    · exact fun h => ⟨⟨h, fun c hc => isDigit_of_mem_padded hc⟩,
        fun c hc => isDigit_of_mem_padded hc⟩
  rw [hdigits]
  refine and_congr_left fun _ => ?_
  omega

/-- Days after the first one of a month. -/
theorem add_firstOf (month : ℤ) (n : ℕ) (h : n + 1 ≤ daysInMonth month) :
    (firstOf month).add n = ⟨month, n + 1, by omega, h⟩ := by
  induction n with
  | zero => rfl
  | succ n ih =>
    have hnext : (firstOf month).add (n + 1 : ℕ) = ((firstOf month).add n).next :=
      Function.iterate_succ_apply' Day.next n (firstOf month)
    rw [hnext, ih (by omega), Day.next]
    exact dif_pos h

/-- A day is the one of its date. -/
theorem dateUTC_self {now : Day} (h : FourDigitYear now) :
    dateUTC now.year (monthOf now.month : ℤ) (now.day : ℕ) = now := by
  have hyear : fullYear now.year = now.year := by
    unfold FourDigitYear at h
    unfold fullYear
    exact if_neg (by omega)
  have hmonth : 12 * now.year + monthOf now.month = now.month := by
    unfold Day.year yearOf monthOf
    omega
  have hday : truncate ((now.day : ℕ) : ℚ) = now.day := by
    have hcast : (((now.day : ℕ) : ℤ) : ℚ) = ((now.day : ℕ) : ℚ) := by push_cast; rfl
    rw [← hcast, truncate_intCast]
  have hone := now.one_le_day
  have hsub : ((now.day : ℤ) - 1) = ((now.day - 1 : ℕ) : ℤ) := by omega
  unfold dateUTC
  rw [hyear, truncate_intCast, hmonth, hday, hsub,
    add_firstOf now.month (now.day - 1) (by rw [Nat.sub_add_cancel hone]; exact now.day_le)]
  ext
  · rfl
  · exact Nat.sub_add_cancel hone

/-- The date is read back. -/
theorem readDate_datePrefix {now : Day} (h : FourDigitYear now) :
    readDate (datePrefix now) = now := by
  obtain ⟨hlength, hdigits⟩ := (year_digits_iff now.year).mpr h
  have hyear : (Nat.ofDigitChars 10 (toString now.year).toList 0 : ℤ) = now.year := by
    obtain ⟨n, hn⟩ : ∃ n : ℕ, now.year = n := ⟨now.year.toNat, by unfold FourDigitYear at h; omega⟩
    have htext : (toString ((n : ℕ) : ℤ)).toList = Nat.toDigits 10 n := toList_toString_nat n
    rw [hn, htext, Nat.ofDigitChars_ten_toDigits]
  have hmonth : ((Nat.ofDigitChars 10 (padded 2 (monthOf now.month + 1).toNat) 0 : ℕ) : ℤ) - 1 =
      monthOf now.month := by
    rw [value_padded]
    unfold monthOf
    omega
  have htake : (datePrefix now).take 4 = (toString now.year).toList := by
    unfold datePrefix
    rw [List.append_assoc, ← hlength, List.take_left]
  have hrest : (datePrefix now).drop 4 =
      padded 2 (monthOf now.month + 1).toNat ++ padded 2 now.day := by
    unfold datePrefix
    rw [List.append_assoc, ← hlength, List.drop_left]
  have hmonthChars : ((datePrefix now).drop 4).take 2 = padded 2 (monthOf now.month + 1).toNat := by
    rw [hrest]
    exact List.take_left' (length_month now)
  have hdayChars : ((datePrefix now).drop 6).take 2 = padded 2 now.day := by
    have hdrop : (datePrefix now).drop 6 = ((datePrefix now).drop 4).drop 2 := by
      rw [List.drop_drop]
    rw [hdrop, hrest]
    have hleft : (padded 2 (monthOf now.month + 1).toNat ++ padded 2 now.day).drop 2 =
        padded 2 now.day :=
      List.drop_left' (length_month now)
    rw [hleft, List.take_of_length_le (length_day now).le]
  unfold readDate
  dsimp only
  rw [htake, hmonthChars, hdayChars, hyear, hmonth, value_padded]
  exact dateUTC_self h

/-! ## What is valid -/

theorem all_isDigit_padded (width n : ℕ) : (padded width n).all Char.isDigit = true :=
  List.all_eq_true.mpr fun _ => isDigit_of_mem_padded

/-- The hyphen of a bare number is after the date. -/
theorem eq_eight_of_hyphen {bare : String} {k : ℕ} (h : isBareNumber bare = true)
    (hk : bare.toList[k]? = some '-') : k = 8 := by
  simp only [isBareNumber, Bool.and_eq_true, List.all_eq_true, beq_iff_eq] at h
  obtain ⟨⟨⟨-, hdate⟩, -⟩, hsequence⟩ := h
  by_contra hne
  have hdigit : ('-' : Char).isDigit = true := by
    rcases Nat.lt_or_gt_of_ne hne with hlt | hgt
    · refine hdate _ (List.mem_of_getElem? (i := k) ?_)
      rw [List.getElem?_take_of_lt hlt, hk]
    · refine hsequence _ (List.mem_of_getElem? (i := k - 9) ?_)
      have hplace : 9 + (k - 9) = k := by omega
      rw [List.getElem?_drop, hplace, hk]
  exact absurd hdigit (by decide)

/-- A date and a number are a bare number when the date has eight digits and the number five. -/
theorem isBareNumber_iff {date digits : List Char} (h : digits.all Char.isDigit = true) :
    isBareNumber (String.ofList (date ++ '-' :: digits)) = true ↔
      (date.length = 8 ∧ ∀ c ∈ date, c.isDigit = true) ∧ digits.length = 5 := by
  have hhyphen : (date ++ '-' :: digits)[date.length]? = some '-' := by
    rw [List.getElem?_append_right le_rfl, Nat.sub_self, List.getElem?_cons_zero]
  have hlength : (date ++ '-' :: digits).length = date.length + (digits.length + 1) := by
    rw [List.length_append, List.length_cons]
  constructor
  · intro hbare
    have height : date.length = 8 := by
      refine eq_eight_of_hyphen hbare ?_
      rw [String.toList_ofList, hhyphen]
    have htotal := length_of_isBareNumber hbare
    rw [String.toList_ofList, hlength] at htotal
    simp only [isBareNumber, String.toList_ofList, Bool.and_eq_true, List.all_eq_true] at hbare
    refine ⟨⟨height, ?_⟩, by omega⟩
    have hdate := hbare.1.1.2
    rw [← height, List.take_left] at hdate
    exact hdate
  · rintro ⟨⟨height, hdate⟩, hfive⟩
    rw [height] at hhyphen
    have hdrop : (date ++ '-' :: digits).drop 9 = digits := by
      rw [List.append_cons]
      exact List.drop_left' (by rw [List.length_append, height]; rfl)
    rw [isBareNumber, String.toList_ofList, List.take_left' height, hdrop, hhyphen, h, hlength,
      height, hfive, List.all_eq_true.mpr hdate]
    rfl

theorem length_caseWord : "CASE-".toList.length = 5 := by decide

theorem length_docketWord : "Docket#".toList.length = 7 := by decide

/-- The text of a case id is a date and a number after its word. -/
theorem toList_caseId (now : Day) (sequenceNumber : ℕ) :
    (identifierOf ⟨.generateCaseId, now⟩ sequenceNumber).toList =
      "CASE-".toList ++ (datePrefix now ++ '-' :: padded 5 sequenceNumber) := by
  unfold identifierOf
  dsimp only
  rw [String.toList_ofList, List.append_assoc, List.append_assoc]
  rfl

theorem toList_caseName (now : Day) (sequenceNumber : ℕ) :
    (identifierOf ⟨.generateCaseName, now⟩ sequenceNumber).toList =
      "Docket#".toList ++ (datePrefix now ++ padded 5 sequenceNumber) := by
  unfold identifierOf
  dsimp only
  rw [String.toList_ofList, List.append_assoc]

theorem isValidCaseIdFormat_iff (now : Day) (sequenceNumber : ℕ) :
    isValidCaseIdFormat (identifierOf ⟨.generateCaseId, now⟩ sequenceNumber) = true ↔
      FourDigitYear now ∧ sequenceNumber < 10 ^ 5 := by
  rw [isValidCaseIdFormat, toList_caseId, List.take_left' length_caseWord,
    List.drop_left' length_caseWord, beq_self_eq_true, Bool.true_and,
    isBareNumber_iff (all_isDigit_padded 5 sequenceNumber), datePrefix_iff,
    length_padded_eq_iff (by decide)]

theorem isValidCaseNameFormat_iff (now : Day) (sequenceNumber : ℕ) :
    isValidCaseNameFormat (identifierOf ⟨.generateCaseName, now⟩ sequenceNumber) = true ↔
      (datePrefix now).length + (padded 5 sequenceNumber).length = 13 ∧
        ∀ c ∈ datePrefix now, c.isDigit = true := by
  rw [isValidCaseNameFormat, toList_caseName, List.take_left' length_docketWord,
    List.drop_left' length_docketWord, beq_self_eq_true, Bool.true_and, List.length_append,
    List.all_append, all_isDigit_padded,
    Bool.and_true, Bool.and_eq_true, beq_iff_eq, List.all_eq_true]

/-- With a year of four digits, an identifier is recognised when its number has five. -/
theorem recognised_iff {call : Call} (h : FourDigitYear call.now) (sequenceNumber : ℕ) :
    Recognised call (identifierOf call sequenceNumber) ↔ sequenceNumber < 10 ^ 5 := by
  obtain ⟨kind, now⟩ := call
  obtain ⟨height, hdigits⟩ := (datePrefix_iff now).mpr h
  cases kind with
  | generateCaseId =>
    have hvalid := isValidCaseIdFormat_iff now sequenceNumber
    refine ⟨fun hr => (hvalid.mp hr.1).2, fun hlt => ?_⟩
    have hid := hvalid.mpr ⟨h, hlt⟩
    obtain ⟨bare, hbare, hjoin⟩ := eq_join_of_isValidCaseIdFormat hid
    refine ⟨hid, isValidCaseNumberFormat_iff.mpr ⟨bare, names_of_mem_forms hbare ?_⟩, ?_⟩
    · rw [hjoin]
      exact List.mem_cons_of_mem _ List.mem_cons_self
    · rw [extractDateFromCaseId, if_pos hid, toList_caseId, List.drop_left' length_caseWord,
        List.take_left' height, readDate_datePrefix h]
  | generateCaseName =>
    have hvalid := isValidCaseNameFormat_iff now sequenceNumber
    have hfive : (padded 5 sequenceNumber).length = 5 ↔ sequenceNumber < 10 ^ 5 :=
      length_padded_eq_iff (by decide)
    refine ⟨fun hr => hfive.mp ?_, fun hlt => ?_⟩
    · have htotal := (hvalid.mp hr.1).1
      omega
    · have hname := hvalid.mpr ⟨by rw [height, hfive.mpr hlt], hdigits⟩
      refine ⟨hname, ?_⟩
      rw [extractDateFromCaseName, if_pos hname, toList_caseName, List.drop_left' length_docketWord,
        List.take_left' height, readDate_datePrefix h]

/-- The first identifier of a day is recognised only with a year of four digits. -/
theorem fourDigitYear_of_recognised {call : Call} (h : Recognised call (identifierOf call 1)) :
    FourDigitYear call.now := by
  obtain ⟨kind, now⟩ := call
  cases kind with
  | generateCaseId => exact ((isValidCaseIdFormat_iff now 1).mp h.1).1
  | generateCaseName =>
    obtain ⟨htotal, hdigits⟩ := (isValidCaseNameFormat_iff now 1).mp h.1
    have hfive : (padded 5 1).length = 5 := by decide
    exact (datePrefix_iff now).mp ⟨by omega, hdigits⟩

/-! ## The numbers of a firm's calls -/

/-- The calls, in order, with the numbers that they get. -/
def numbered : List Call → Counters → List (Call × ℕ)
  | [], _ => []
  | call :: calls, counters =>
    (call, counters (counterName call) + 1) ::
      numbered calls (getNextSequence (counterName call) counters).2

theorem generateAll_eq (calls : List Call) (counters : Counters) :
    generateAll calls counters =
      (numbered calls counters).map fun r => (r.1, identifierOf r.1 r.2) := by
  induction calls generalizing counters with
  | nil => rfl
  | cons call calls ih =>
    rw [generateAll, numbered, List.map_cons]
    exact congrArg _ (ih _)

/-- How many of the calls count with a name. -/
def callsOf (name : List Char) (calls : List Call) : ℕ := calls.countP fun c => name = counterName c

theorem getNextSequence_snd (name other : List Char) (counters : Counters) :
    (getNextSequence name counters).2 other =
      counters other + if other = name then 1 else 0 := by
  unfold getNextSequence
  dsimp only
  split_ifs with h
  · rw [h]
  · rfl

theorem callsOf_cons (name : List Char) (call : Call) (calls : List Call) :
    callsOf name (call :: calls) =
      callsOf name calls + if name = counterName call then 1 else 0 := by
  rw [callsOf, callsOf, List.countP_cons]
  simp only [decide_eq_true_eq]

/-- A number is past those that were given before, and within those that are given. -/
theorem bounds_of_mem_numbered {calls : List Call} {counters : Counters} {r : Call × ℕ}
    (h : r ∈ numbered calls counters) : r.1 ∈ calls ∧ counters (counterName r.1) < r.2 ∧
      r.2 ≤ counters (counterName r.1) + callsOf (counterName r.1) calls := by
  induction calls generalizing counters with
  | nil => cases h
  | cons call calls ih =>
    rw [callsOf_cons]
    rcases List.mem_cons.mp h with rfl | h
    · refine ⟨List.mem_cons_self, ?_⟩
      rw [if_pos rfl]
      dsimp only
      omega
    · obtain ⟨hmem, hlt, hle⟩ := ih h
      rw [getNextSequence_snd] at hlt hle
      exact ⟨List.mem_cons_of_mem _ hmem, by omega, by omega⟩

/-- Every number within those that are given is given. -/
theorem exists_numbered (calls : List Call) (counters : Counters) (name : List Char) (n : ℕ)
    (hlt : counters name < n) (hle : n ≤ counters name + callsOf name calls) :
    ∃ call, counterName call = name ∧ (call, n) ∈ numbered calls counters := by
  induction calls generalizing counters with
  | nil =>
    have hzero : callsOf name [] = 0 := rfl
    omega
  | cons call calls ih =>
    rw [callsOf_cons] at hle
    by_cases hfirst : counterName call = name ∧ n = counters name + 1
    · obtain ⟨hname, hn⟩ := hfirst
      refine ⟨call, hname, ?_⟩
      rw [hn, ← hname]
      exact List.mem_cons_self
    · have hnext := getNextSequence_snd (counterName call) name counters
      have hlt' : (getNextSequence (counterName call) counters).2 name < n := by
        rw [hnext]
        split_ifs with hname
        · have hne : n ≠ counters name + 1 := fun hn => hfirst ⟨hname.symm, hn⟩
          omega
        · exact hlt
      obtain ⟨other, hname, hmem⟩ := ih _ hlt' (by omega)
      exact ⟨other, hname, List.mem_cons_of_mem _ hmem⟩

/-- No two calls get one number of one counter. -/
theorem nodup_numbered (calls : List Call) (counters : Counters) :
    ((numbered calls counters).map fun r => (counterName r.1, r.2)).Nodup := by
  induction calls generalizing counters with
  | nil => exact List.nodup_nil
  | cons call calls ih =>
    rw [numbered, List.map_cons, List.nodup_cons]
    refine ⟨fun hmem => ?_, ih _⟩
    obtain ⟨r, hr, heq⟩ := List.mem_map.mp hmem
    obtain ⟨hname, hnumber⟩ := Prod.mk.inj heq
    have hlt := (bounds_of_mem_numbered hr).2.1
    rw [getNextSequence_snd, if_pos hname, hname] at hlt
    dsimp only at hlt hnumber
    omega

/-! ## All are recognised -/

theorem datePrefix_of_counterName {a b : Call} (h : counterName a = counterName b) :
    a.kind = b.kind ∧ datePrefix a.now = datePrefix b.now := by
  unfold counterName at h
  cases hak : a.kind <;> cases hbk : b.kind <;> simp [hak, hbk] at h ⊢
  all_goals exact h

theorem counterName_injective {a b : Call} (ha : FourDigitYear a.now) (hb : FourDigitYear b.now)
    (h : counterName a = counterName b) : a = b := by
  obtain ⟨hkind, hdate⟩ := datePrefix_of_counterName h
  have hnow : a.now = b.now :=
    calc a.now = readDate (datePrefix a.now) := (readDate_datePrefix ha).symm
      _ = readDate (datePrefix b.now) := by rw [hdate]
      _ = b.now := readDate_datePrefix hb
  cases a
  cases b
  cases hkind
  cases hnow
  rfl

/-- The identifiers of the numbers of a day are the identifiers of the day. -/
theorem mem_generateAll {calls : List Call} {r : Call × String} :
    r ∈ generateAll calls (fun _ => 0) ↔
      ∃ n, (r.1, n) ∈ numbered calls (fun _ => 0) ∧ identifierOf r.1 n = r.2 := by
  rw [generateAll_eq, List.mem_map]
  constructor
  · rintro ⟨⟨call, n⟩, hmem, rfl⟩
    exact ⟨n, hmem, rfl⟩
  · rintro ⟨n, hmem, heq⟩
    exact ⟨(r.1, n), hmem, by rw [heq]⟩

/-- A number that is given is recognised, when all are. -/
theorem AllRecognised.of_numbered {calls : List Call} (h : AllRecognised calls) {call : Call} {n : ℕ}
    (hmem : (call, n) ∈ numbered calls fun _ => 0) : Recognised call (identifierOf call n) := by
  have hgenerated : (call, identifierOf call n) ∈ generateAll calls fun _ => 0 :=
    mem_generateAll.mpr ⟨n, hmem, rfl⟩
  exact h.recognised (call, identifierOf call n) hgenerated

/-- When all are recognised, the years have four digits. -/
theorem AllRecognised.fourDigitYear {calls : List Call} (h : AllRecognised calls) {call : Call}
    (hcall : call ∈ calls) : FourDigitYear call.now := by
  have hpos : 0 < callsOf (counterName call) calls :=
    List.countP_pos_iff.mpr ⟨call, hcall, decide_eq_true rfl⟩
  -- the first call of the day gets the number 1
  obtain ⟨first, hname, hmem⟩ := exists_numbered calls (fun _ => 0) (counterName call) 1
    Nat.one_pos (by omega)
  have hfirst : FourDigitYear first.now := fourDigitYear_of_recognised (h.of_numbered hmem)
  have hdate := (datePrefix_of_counterName hname).2
  rw [← datePrefix_iff, hdate, datePrefix_iff] at hfirst
  exact hfirst

/-- With years of four digits, a counter counts the calls of a kind on a day. -/
theorem callsOf_eq_count {calls : List Call} (h : ∀ c ∈ calls, FourDigitYear c.now) {call : Call}
    (hcall : call ∈ calls) : callsOf (counterName call) calls = calls.count call := by
  unfold callsOf List.count
  refine List.countP_congr fun c hc => ?_
  rw [decide_eq_true_eq, beq_iff_eq]
  constructor
  · exact fun heq => (counterName_injective (h call hcall) (h c hc) heq).symm
  · exact fun heq => by rw [heq]

theorem identifierOf_injective {a b : Call} (ha : FourDigitYear a.now) (hb : FourDigitYear b.now)
    (hkind : a.kind = b.kind) {m n : ℕ} (h : identifierOf a m = identifierOf b n) :
    a = b ∧ m = n := by
  obtain ⟨kind, now⟩ := a
  obtain ⟨kind', now'⟩ := b
  cases hkind
  obtain ⟨height, -⟩ := (datePrefix_iff now).mpr ha
  obtain ⟨height', -⟩ := (datePrefix_iff now').mpr hb
  have hlengths : (datePrefix now).length = (datePrefix now').length := by rw [height, height']
  rw [← String.toList_inj] at h
  have hparts : datePrefix now = datePrefix now' ∧ padded 5 m = padded 5 n := by
    cases kind with
    | generateCaseId =>
      rw [toList_caseId, toList_caseId] at h
      obtain ⟨hdate, hdigits⟩ := List.append_inj (List.append_cancel_left h) hlengths
      exact ⟨hdate, (List.cons.inj hdigits).2⟩
    | generateCaseName =>
      rw [toList_caseName, toList_caseName] at h
      exact List.append_inj (List.append_cancel_left h) hlengths
  have hnow : now = now' :=
    calc now = readDate (datePrefix now) := (readDate_datePrefix ha).symm
      _ = readDate (datePrefix now') := by rw [hparts.1]
      _ = now' := readDate_datePrefix hb
  exact ⟨by rw [hnow], padded_injective hparts.2⟩

/-- With years of four digits, the identifiers of a kind are different. -/
theorem distinct_generateAll {calls : List Call} (h : ∀ c ∈ calls, FourDigitYear c.now)
    (kind : Kind) : (((generateAll calls fun _ => 0).filter fun r => r.1.kind = kind).map
      (·.2)).Nodup := by
  have hnumbers : (numbered calls fun _ => 0).Nodup := (nodup_numbered calls _).of_map _
  rw [generateAll_eq, List.filter_map, List.map_map]
  refine List.Nodup.map_on ?_ (hnumbers.filter _)
  intro r hr q hq heq
  obtain ⟨hrmem, hrkind⟩ := List.mem_filter.mp hr
  obtain ⟨hqmem, hqkind⟩ := List.mem_filter.mp hq
  have hkinds : r.1.kind = q.1.kind :=
    (of_decide_eq_true hrkind).trans (of_decide_eq_true hqkind).symm
  obtain ⟨hcall, hnumber⟩ := identifierOf_injective (h _ (bounds_of_mem_numbered hrmem).1)
    (h _ (bounds_of_mem_numbered hqmem).1) hkinds heq
  exact Prod.ext hcall hnumber

/-- When all are recognised, no day has more identifiers of a kind than five digits count. -/
theorem AllRecognised.count_le {calls : List Call} (h : AllRecognised calls) {call : Call}
    (hcall : call ∈ calls) : calls.count call ≤ 99999 := by
  have hyears : ∀ c ∈ calls, FourDigitYear c.now := fun _ => h.fourDigitYear
  by_contra hmany
  have hcount := callsOf_eq_count hyears hcall
  -- the 100000th call of the day gets a number of six digits
  obtain ⟨late, hname, hmem⟩ := exists_numbered calls (fun _ => 0) (counterName call)
    (10 ^ 5) (by positivity) (by omega)
  have hlate := (bounds_of_mem_numbered hmem).1
  exact absurd ((recognised_iff (hyears late hlate) _).mp (h.of_numbered hmem)) (lt_irrefl _)

/-- **The identifiers of a firm are different, valid, resolvable and dated exactly when every year
has four digits, and no day has more than 99999 identifiers of a kind.** -/
theorem generated_recognised_iff (calls : List Call) :
    AllRecognised calls ↔
      ∀ call ∈ calls, FourDigitYear call.now ∧ calls.count call ≤ 99999 := by
  constructor
  · exact fun h call hcall => ⟨h.fourDigitYear hcall, h.count_le hcall⟩
  · intro h
    have hyears : ∀ c ∈ calls, FourDigitYear c.now := fun c hc => (h c hc).1
    refine ⟨distinct_generateAll hyears, fun r hr => ?_⟩
    obtain ⟨n, hmem, heq⟩ := mem_generateAll.mp hr
    obtain ⟨hcall, -, hle⟩ := bounds_of_mem_numbered hmem
    have hcount := (h r.1 hcall).2
    rw [callsOf_eq_count hyears hcall] at hle
    rw [← heq, recognised_iff (hyears r.1 hcall)]
    dsimp only at hle
    omega

/-- The 10th of January 2026. -/
def januaryTenth : Day := ⟨24312, 10, by decide, by decide⟩

/-- With a hundred thousand case ids on a day, they are not all recognised. -/
theorem generated_recognised_fails :
    ¬ AllRecognised (List.replicate 100000 ⟨.generateCaseId, januaryTenth⟩) := by
  intro h
  have hcall : (⟨.generateCaseId, januaryTenth⟩ : Call) ∈
      List.replicate 100000 ⟨.generateCaseId, januaryTenth⟩ :=
    List.mem_replicate.mpr ⟨by omega, rfl⟩
  have hcount := h.count_le hcall
  rw [List.count_replicate_self] at hcount
  omega

end Docketra.CaseNumbers
