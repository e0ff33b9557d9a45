import Docketra.Decimal
import Docketra.DueDates

/-!
# Configurations of a calendar

`normalizeConfig` takes any configuration, and is to return a calendar that deadlines can be counted
by: its hours are in order, its working days are days of the week, and it is its own normal form.

It checks the parts one by one, and four slip through. An end that is not after the start becomes
18:00, whatever the start is. The working days are checked to be from 1 to 7, and not to be whole. A
duration of less than a minute becomes 0, which is falsy, and is 8 hours the next time. And a date
whose year has not four digits gets a key that is read the next time as an instant of UTC, and that
may be on another day in the zone. The calendar is right exactly when the configuration has none of
them (`normalizes_iff`).
-/

namespace Docketra.SlaCalendar

open Calendar Numerals

/-! ## Lists without repetitions -/

section EraseDups

variable {α : Type} [DecidableEq α]

/-- By induction on the length: the entries that are equal to the first one are dropped. -/
theorem eraseDups_spec : ∀ (n : ℕ) (l : List α), l.length ≤ n →
    l.eraseDups.Sublist l ∧ l.eraseDups.Nodup ∧ (l.Nodup → l.eraseDups = l) := by
  intro n
  induction n with
  | zero =>
    intro l hl
    obtain rfl := List.eq_nil_of_length_eq_zero (Nat.le_zero.mp hl)
    exact ⟨List.Sublist.refl _, List.nodup_nil, fun _ => rfl⟩
  | succ n ih =>
    intro l hl
    cases l with
    | nil => exact ⟨List.Sublist.refl _, List.nodup_nil, fun _ => rfl⟩
    | cons a l =>
      have hlength := List.length_filter_le (fun b => !b == a) l
      rw [List.length_cons] at hl
      obtain ⟨hsub, hnodup, hself⟩ := ih (l.filter fun b => !b == a) (by omega)
      rw [List.eraseDups_cons]
      refine ⟨(hsub.trans List.filter_sublist).cons_cons a,
        List.nodup_cons.mpr ⟨fun hmem => ?_, hnodup⟩, fun h => ?_⟩
      · rw [List.mem_eraseDups, List.mem_filter, beq_self_eq_true] at hmem
        exact Bool.noConfusion hmem.2
      · obtain ⟨ha, hl⟩ := List.nodup_cons.mp h
        have hall : l.filter (fun b => !b == a) = l := List.filter_eq_self.mpr fun b hb => by
          rw [Bool.not_eq_true', beq_eq_false_iff_ne]
          exact fun heq => ha (heq ▸ hb)
        rw [hall] at hself ⊢
        rw [hself hl]

theorem eraseDups_sublist (l : List α) : l.eraseDups.Sublist l := (eraseDups_spec _ l le_rfl).1

theorem nodup_eraseDups (l : List α) : l.eraseDups.Nodup := (eraseDups_spec _ l le_rfl).2.1

theorem eraseDups_eq_self {l : List α} (h : l.Nodup) : l.eraseDups = l :=
  (eraseDups_spec _ l le_rfl).2.2 h

/-- A list without repetitions is mapped, filtered and left without repetitions to itself when every
entry is kept as it is, and only then. -/
theorem eraseDups_map_eq_iff {l : List α} (hnodup : l.Nodup) {p : α → Bool}
    (hp : ∀ a ∈ l, p a = true) (f : α → α) :
    ((l.map f).filter p).eraseDups = l ↔ ∀ a ∈ l, f a = a := by
  constructor
  · intro h
    have hsub := (eraseDups_sublist ((l.map f).filter p)).trans List.filter_sublist
    rw [h] at hsub
    have hmap : l = l.map f := hsub.eq_of_length (List.length_map f).symm
    intro a ha
    have hid : l.map id = l.map f := by rwa [List.map_id]
    exact (List.map_inj_left.mp hid a ha).symm
  · intro h
    have hmap : l.map f = l := by
      rw [List.map_congr_left h, List.map_id']
    rw [hmap, List.filter_eq_self.mpr hp, eraseDups_eq_self hnodup]

end EraseDups

/-! ## Texts of times and dates -/

theorem padded_two {n : ℕ} (h : n < 100) :
    ∃ a b, padded 2 n = [a, b] ∧ a.isDigit = true ∧ b.isDigit = true ∧ twoDigits a b = n := by
  obtain ⟨a, b, hab⟩ := List.length_eq_two.mp ((length_padded_eq_iff (n := n) (by decide)).mpr h)
  have hvalue := value_padded 2 n
  have hdigit {c : Char} (hc : c ∈ [a, b]) : c.isDigit = true := by
    rw [← hab] at hc
    exact isDigit_of_mem_padded hc
  rw [hab] at hvalue
  exact ⟨a, b, hab, hdigit (by simp), hdigit (by simp), hvalue⟩

/-- A time is read back from its text. -/
theorem readTime_text (time : Time) : readTime time.text = some time := by
  have hhour := time.hour_le
  have hminute := time.minute_le
  obtain ⟨a, b, hab, ha, hb, hh⟩ := padded_two (n := time.hour) (by omega)
  obtain ⟨c, d, hcd, hc, hd, hm⟩ := padded_two (n := time.minute) (by omega)
  have hlist : time.text.toList = [a, b, ':', c, d] := by
    rw [Time.text, String.toList_ofList, hab, hcd]
    rfl
  have hdigits : [a, b, c, d].all Char.isDigit = true := by
    simp only [List.all_cons, List.all_nil, ha, hb, hc, hd, Bool.and_self]
  have hrange : twoDigits a b ≤ 23 ∧ twoDigits c d ≤ 59 := by omega
  unfold readTime
  rw [hlist]
  simp only [hdigits, if_true, dif_pos hrange]
  congr

theorem isWhitespace_of_isDigit {c : Char} (h : c.isDigit = true) : isWhitespace c = false :=
  not_isWhitespace_of_isNumeric (isNumeric_of_isDigit h)

/-- A text whose characters are no spaces is trimmed to itself. -/
theorem trim_eq_self {s : String} (h : ∀ c ∈ s.toList, isWhitespace c = false) : trim s = s := by
  have htrim : trimList s.toList = s.toList :=
    trimList_eq_self (fun c hc => h c (List.mem_of_head? hc))
      (fun c hc => h c (List.mem_of_getLast? hc))
  rw [trim, htrim, String.ofList_toList]

theorem toList_isoDate (day : ℤ) : (isoDate day).toList =
    isoYear (dateOf day).year ++ '-' ::
      (padded 2 (monthOf (dateOf day).month + 1).toNat ++ '-' :: padded 2 (dateOf day).day) :=
  String.toList_ofList

theorem day_lt (date : Day) : date.day < 100 := by
  have hday := date.day_le
  have hmonth : daysInMonth date.month ≤ 31 := by
    unfold daysInMonth
    split_ifs <;> omega
  omega

theorem month_lt (month : ℤ) : (monthOf month + 1).toNat < 100 := by
  unfold monthOf
  omega

theorem isWhitespace_isoDate {day : ℤ} {c : Char} (hc : c ∈ (isoDate day).toList) :
    isWhitespace c = false := by
  rw [toList_isoDate, List.mem_append, List.mem_cons, List.mem_append, List.mem_cons] at hc
  rcases hc with hyear | rfl | hmonth | rfl | hday
  · unfold isoYear at hyear
    split at hyear
    · exact isWhitespace_of_isDigit (isDigit_of_mem_padded hyear)
    · rcases List.mem_cons.mp hyear with rfl | hdigit
      · split <;> decide
      · exact isWhitespace_of_isDigit (isDigit_of_mem_padded hdigit)
  · decide
  · exact isWhitespace_of_isDigit (isDigit_of_mem_padded hmonth)
  · decide
  · exact isWhitespace_of_isDigit (isDigit_of_mem_padded hday)

theorem trim_isoDate (day : ℤ) : trim (isoDate day) = isoDate day :=
  trim_eq_self fun _ hc => isWhitespace_isoDate hc

theorem isoDate_ne_empty (day : ℤ) : isoDate day ≠ "" := by
  intro h
  have hlist := congrArg String.toList h
  rw [toList_isoDate] at hlist
  exact List.append_ne_nil_of_right_ne_nil _ (List.cons_ne_nil _ _) hlist

theorem padded_four {n : ℕ} (h : n < 10000) : ∃ a b c d, padded 4 n = [a, b, c, d] ∧
    [a, b, c, d].all Char.isDigit = true := by
  have hlength : (padded 4 n).length = 4 := (length_padded_eq_iff (by decide)).mpr h
  have hdigits : (padded 4 n).all Char.isDigit = true :=
    List.all_eq_true.mpr fun c hc => isDigit_of_mem_padded hc
  match hpad : padded 4 n, hlength with
  | [a, b, c, d], _ =>
    rw [hpad] at hdigits
    exact ⟨a, b, c, d, rfl, hdigits⟩

/-- The date of a day has the short form when its year has four digits, and only then. -/
theorem isDateKey_isoDate (day : ℤ) : isDateKey (isoDate day) = isShortYear (dateOf day).year := by
  cases hshort : isShortYear (dateOf day).year with
  | true =>
    have hrange : 0 ≤ (dateOf day).year ∧ (dateOf day).year ≤ 9999 := of_decide_eq_true hshort
    obtain ⟨a, b, c, d, hyear, hdigits⟩ := padded_four (n := (dateOf day).year.natAbs) (by omega)
    obtain ⟨e, f, hmonth, he, hf, -⟩ := padded_two (month_lt (dateOf day).month)
    obtain ⟨g, h, hday, hg, hh, -⟩ := padded_two (day_lt (dateOf day))
    have hlist : (isoDate day).toList = [a, b, c, d, '-', e, f, '-', g, h] := by
      rw [toList_isoDate, isoYear, if_pos hshort, hyear, hmonth, hday]
      rfl
    rw [isDateKey, hlist]
    simp only [List.all_cons, List.all_nil, Bool.and_true, Bool.and_eq_true] at hdigits
    simp only [List.all_cons, List.all_nil, hdigits, he, hf, hg, hh, Bool.and_self]
  | false =>
    obtain ⟨sign, rest, hlist, hsign⟩ : ∃ sign rest, (isoDate day).toList = sign :: rest ∧
        sign.isDigit = false := by
      rw [toList_isoDate, isoYear, if_neg (by rw [hshort]; exact Bool.false_ne_true)]
      refine ⟨_, _, rfl, ?_⟩
      split <;> decide
    unfold isDateKey
    rw [hlist]
    split
    · next heq =>
      rw [List.cons.injEq] at heq
      rw [List.all_cons, ← heq.1, hsign, Bool.false_and]
    · rfl

/-! ## What a calendar is to be -/

/-- The calendars that deadlines can be counted by. -/
structure Usable (config : Config) : Prop where
  opens : config.businessStart.minutes < config.businessEnd.minutes
  days_nonempty : config.workingDays ≠ []
  weekdays : ∀ day ∈ config.workingDays, ∃ n : ℕ, day = n ∧ 1 ≤ n ∧ n ≤ 7

/-- No day of the zone has its business hours cut short by a change of the offset. -/
def KeepsHours (zone : Zone) (config : Config) : Prop :=
  ∀ t, atBusinessStart zone config t + minutesPerDay config * msPerMinute ≤
    atBusinessEnd zone config (atBusinessStart zone config t)

/-- A configuration is normalized to a usable calendar, which is its own normal form, and by which
the whole of a duration is consumed. -/
structure Normalizes (P : Platform) (input : ConfigInput) : Prop where
  usable : Usable (normalizeConfig P input)
  idempotent : normalizeConfig P (normalizeConfig P input).input = normalizeConfig P input
  consumes : KeepsHours ((normalizeConfig P input).zone P) (normalizeConfig P input) →
    ∀ start n, (consume ((normalizeConfig P input).zone P) (normalizeConfig P input) start n).2 = 0

/-- The zone of a configuration. -/
def ConfigInput.zone (P : Platform) (input : ConfigInput) : Zone :=
  P.zoneOf (normalizeTimezone P input.timezone)

/-- The local day of an entry that is no date of the short form. -/
def DateEntry.day? (P : Platform) (zone : Zone) : DateEntry → Option ℤ
  | .text s => if isDateKey (trim s) then none else ((DateEntry.text s).instant? P).map zone.day
  | value => (value.instant? P).map zone.day

/-- The days of the dates of a configuration that are no dates of the short form. -/
def ConfigInput.HasDay (P : Platform) (input : ConfigInput) (day : ℤ) : Prop :=
  ∃ entry ∈ input.holidays.getD [] ++ input.workingDateOverrides.getD [],
    entry.day? P (input.zone P) = some day

/-- The last day of `Date`, and the first one before the epoch. -/
def maxDay : ℤ := 100000000

/-- `new Date` reads the dates of years that have not four digits as their midnights of UTC, as far
as there are dates. -/
def Platform.ReadsDay (P : Platform) (day : ℤ) : Prop :=
  P.parseDate (isoDate day) = if -maxDay ≤ day ∧ day ≤ maxDay then some (day * dayMs) else none

/-- The date of a day lasts: its year has four digits, or its midnight of UTC is of the same date in
the zone. -/
def Lasts (zone : Zone) (day : ℤ) : Prop :=
  isShortYear (dateOf day).year = true ∨
    (-maxDay ≤ day ∧ day ≤ maxDay) ∧ isoDate (zone.day (day * dayMs)) = isoDate day

/-- The condition on a configuration. -/
structure ConfigInput.Sound (P : Platform) (input : ConfigInput) : Prop where
  /-- The end is after the start, or the start is before the end that it gets. -/
  hours : input.start.minutes < input.finish.minutes ∨ input.start.minutes < defaultEnd.minutes
  /-- The days from 1 to 7 are whole. -/
  days : ∀ day : ℚ, some day ∈ input.workingDays.getD [] → 1 ≤ day → day ≤ 7 → ∃ n : ℕ, day = n
  /-- The duration is falsy, or at least a minute. -/
  duration : ∀ value ∈ input.tatDurationMinutes, ∃ q : ℚ, value = some q ∧ 1 ≤ q
  dates : ∀ day, input.HasDay P day → Lasts (input.zone P) day

/-! ## Parts of a calendar -/

section Parts

variable {P : Platform} {zone : Zone} {input : ConfigInput}

theorem normalizeTimezone_of_isSome {name : String} (h : (P.zone name).isSome = true) :
    normalizeTimezone P (some name) = name := by
  rw [normalizeTimezone, Option.filter_some, if_pos h, Option.getD_some]

theorem normalizeTimezone_normalizeTimezone (timezone : Option String) :
    normalizeTimezone P (some (normalizeTimezone P timezone)) = normalizeTimezone P timezone := by
  cases hname : timezone.filter fun name => (P.zone name).isSome with
  | none =>
    have hdefault : normalizeTimezone P timezone = "UTC" := by
      rw [normalizeTimezone, hname, Option.getD_none]
    rw [hdefault, normalizeTimezone, Option.filter_some]
    split <;> rfl
  | some name =>
    have hkept : normalizeTimezone P timezone = name := by
      rw [normalizeTimezone, hname, Option.getD_some]
    rw [hkept]
    exact normalizeTimezone_of_isSome (Option.filter_eq_some_iff.mp hname).2

/-- A time that is written out is parsed to itself. -/
theorem parseTime_text (time fallback : Time) : parseTime (some time.text) fallback = time := by
  rw [parseTime, Option.bind_some, readTime_text, Option.getD_some]

/-! ### Working days -/

theorem mem_daysInRange {days : List (Option ℚ)} {day : ℚ} :
    day ∈ daysInRange days ↔ some day ∈ days ∧ 1 ≤ day ∧ day ≤ 7 := by
  rw [daysInRange, List.mem_eraseDups, List.mem_filter, List.mem_filterMap, decide_eq_true_eq]
  refine and_congr_left' ⟨?_, fun h => ⟨some day, h, rfl⟩⟩
  rintro ⟨entry, hmem, hentry⟩
  exact hentry ▸ hmem

theorem normalizeWorkingDays_ne_nil (days : Option (List (Option ℚ))) :
    normalizeWorkingDays days ≠ [] := by
  unfold normalizeWorkingDays
  split
  · exact List.cons_ne_nil _ _
  · next h => exact h

theorem normalizeWorkingDays_range (days : Option (List (Option ℚ))) :
    (normalizeWorkingDays days).Nodup ∧ ∀ day ∈ normalizeWorkingDays days, 1 ≤ day ∧ day ≤ 7 := by
  unfold normalizeWorkingDays
  split
  · exact ⟨by decide, by decide⟩
  · exact ⟨nodup_eraseDups _, fun day hday => (mem_daysInRange.mp hday).2⟩

theorem normalizeWorkingDays_normalizeWorkingDays (days : Option (List (Option ℚ))) :
    normalizeWorkingDays (some ((normalizeWorkingDays days).map some)) =
      normalizeWorkingDays days := by
  obtain ⟨hnodup, hrange⟩ := normalizeWorkingDays_range days
  have hself : daysInRange ((normalizeWorkingDays days).map some) = normalizeWorkingDays days := by
    rw [daysInRange, List.filterMap_map]
    change (List.filter _ (List.filterMap some _)).eraseDups = _
    have hfilter := List.filter_eq_self.mpr fun day hday => decide_eq_true (hrange day hday)
    rw [List.filterMap_some, hfilter, eraseDups_eq_self hnodup]
  rw [normalizeWorkingDays, Option.getD_some, hself, if_neg (normalizeWorkingDays_ne_nil days)]

/-- The working days are days of the week when the entries in the range are whole. -/
theorem weekdays_iff (days : Option (List (Option ℚ))) :
    (∀ day ∈ normalizeWorkingDays days, ∃ n : ℕ, day = n ∧ 1 ≤ n ∧ n ≤ 7) ↔
      ∀ day : ℚ, some day ∈ days.getD [] → 1 ≤ day → day ≤ 7 → ∃ n : ℕ, day = n := by
  constructor
  · intro h day hmem hlow hhigh
    have hday : day ∈ daysInRange (days.getD []) := mem_daysInRange.mpr ⟨hmem, hlow, hhigh⟩
    have hkept : normalizeWorkingDays days = daysInRange (days.getD []) :=
      if_neg (List.ne_nil_of_mem hday)
    obtain ⟨n, hn, -⟩ := h day (by rwa [hkept])
    exact ⟨n, hn⟩
  · intro h day hday
    have hrange := (normalizeWorkingDays_range days).2 day hday
    have hwhole : ∃ n : ℕ, day = n := by
      unfold normalizeWorkingDays at hday
      split at hday
      · have hdefault : defaultWorkingDays = [1, 2, 3, 4, 5].map fun n : ℕ => (n : ℚ) := rfl
        rw [hdefault, List.mem_map] at hday
        obtain ⟨n, -, hn⟩ := hday
        exact ⟨n, hn.symm⟩
      · have hmem := (mem_daysInRange.mp hday).1
        exact h day hmem hrange.1 hrange.2
    obtain ⟨n, rfl⟩ := hwhole
    exact ⟨n, rfl, by exact_mod_cast hrange.1, by exact_mod_cast hrange.2⟩

/-! ### The duration -/

theorem clampMinutes_ne_zero {value : Option ℚ} :
    clampMinutes value ≠ 0 ↔ ∃ q, value = some q ∧ 1 ≤ q := by
  cases value with
  | none => exact ⟨fun h => absurd rfl h, fun ⟨_, h, _⟩ => nomatch h⟩
  | some q =>
    have hfloor : 1 ≤ ⌊q⌋ ↔ 1 ≤ q := by exact_mod_cast Int.le_floor (z := 1) (a := q)
    have hclamp : clampMinutes (some q) = ⌊q⌋.toNat := rfl
    rw [hclamp]
    constructor
    · exact fun h => ⟨q, rfl, hfloor.mp (by omega)⟩
    · rintro ⟨_, heq, hle⟩
      have hone := hfloor.mpr (Option.some.inj heq ▸ hle)
      omega

/-- The duration is normalized to itself when it is not 0. -/
theorem duration_iff (duration : Option (Option ℚ)) :
    clampMinutes ((if clampMinutes (duration.getD (some 480)) = 0 then none
        else some (some (clampMinutes (duration.getD (some 480)) : ℚ))).getD (some 480)) =
      clampMinutes (duration.getD (some 480)) ↔
    ∀ value ∈ duration, ∃ q : ℚ, value = some q ∧ 1 ≤ q := by
  have hdefault : clampMinutes (some 480) = 480 := clampMinutes_natCast 480
  have hnonzero : clampMinutes (duration.getD (some 480)) ≠ 0 ↔
      ∀ value ∈ duration, ∃ q : ℚ, value = some q ∧ 1 ≤ q := by
    cases duration with
    | none =>
      refine ⟨fun _ _ h => (nomatch h), fun _ => ?_⟩
      rw [Option.getD_none, hdefault]
      decide
    | some value =>
      rw [Option.getD_some, clampMinutes_ne_zero]
      exact ⟨fun h _ hmem => Option.some.inj hmem ▸ h, fun h => h value rfl⟩
  rw [← hnonzero]
  by_cases hzero : clampMinutes (duration.getD (some 480)) = 0
  · rw [if_pos hzero, Option.getD_none, hdefault, hzero]
    exact ⟨fun h => absurd h (by decide), fun h => absurd rfl h⟩
  · rw [if_neg hzero, Option.getD_some, clampMinutes_natCast]
    exact ⟨fun _ => hzero, fun _ => rfl⟩

/-! ### Dates -/

/-- A key of the short form is its own key. -/
theorem entryKey_of_isDateKey {key : String} (hkey : isDateKey key = true) (htrim : trim key = key) :
    entryKey P zone (.text key) = key := by
  rw [entryKey, htrim, if_pos hkey]

/-- The date of a day is its own key when it lasts. -/
theorem entryKey_isoDate_iff {day : ℤ}
    (hread : isShortYear (dateOf day).year = false → P.ReadsDay day) :
    entryKey P zone (.text (isoDate day)) = isoDate day ↔ Lasts zone day := by
  unfold Lasts
  cases hshort : isShortYear (dateOf day).year with
  | true =>
    rw [entryKey_of_isDateKey (by rw [isDateKey_isoDate, hshort]) (trim_isoDate day)]
    exact ⟨fun _ => Or.inl rfl, fun _ => rfl⟩
  | false =>
    have hnot : ¬isDateKey (isoDate day) = true := by
      rw [isDateKey_isoDate, hshort]
      exact Bool.false_ne_true
    have hparse := hread hshort
    rw [Platform.ReadsDay] at hparse
    rw [entryKey, trim_isoDate, if_neg hnot, toDateKey, DateEntry.instant?,
      if_neg (isoDate_ne_empty day), hparse]
    simp only [Bool.false_eq_true, false_or]
    split
    · next hrange =>
      rw [Option.map_some, Option.getD_some]
      exact ⟨fun h => ⟨hrange, h⟩, fun h => h.2⟩
    · next hrange =>
      rw [Option.map_none, Option.getD_none]
      exact ⟨fun h => absurd h.symm (isoDate_ne_empty day), fun h => absurd h.1 hrange⟩

/-- The key of an entry with a day is the date of the day. -/
theorem entryKey_of_day {entry : DateEntry} {day : ℤ} (h : entry.day? P zone = some day) :
    entryKey P zone entry = isoDate day := by
  have hdate {value : DateEntry} (hvalue : (value.instant? P).map zone.day = some day) :
      toDateKey P zone value = isoDate day := by
    obtain ⟨t, ht, rfl⟩ := Option.map_eq_some_iff.mp hvalue
    rw [toDateKey, ht]
    rfl
  cases entry with
  | text s =>
    rw [DateEntry.day?] at h
    split at h
    · exact absurd h.symm (Option.some_ne_none day)
    · next hkey => rw [entryKey, if_neg hkey, hdate h]
  | instant t => exact hdate h
  | other => exact absurd h.symm (Option.some_ne_none day)

/-- The key of an entry without a day has the short form. -/
theorem entryKey_of_no_day {entry : DateEntry} (h : entry.day? P zone = none)
    (hne : entryKey P zone entry ≠ "") : isDateKey (entryKey P zone entry) = true ∧
      trim (entryKey P zone entry) = entryKey P zone entry := by
  have hdate {value : DateEntry} (hvalue : (value.instant? P).map zone.day = none) :
      toDateKey P zone value = "" := by
    rw [toDateKey, Option.map_eq_none_iff.mp hvalue]
    rfl
  cases entry with
  | text s =>
    rw [DateEntry.day?] at h
    split at h
    · next hkey =>
      rw [entryKey, if_pos hkey, trim_trim]
      exact ⟨hkey, rfl⟩
    · next hkey =>
      rw [entryKey, if_neg hkey, hdate h] at hne
      exact absurd rfl hne
  | instant t => exact absurd h (Option.some_ne_none (zone.day t))
  | other => exact absurd rfl hne

/-- The keys of a list are normalized to themselves when the dates of its days last. -/
theorem normalizeDateKeyList_iff (zone : Zone) (dates : Option (List DateEntry))
    (hread : ∀ entry ∈ dates.getD [], ∀ day, entry.day? P zone = some day →
      isShortYear (dateOf day).year = false → P.ReadsDay day) :
    normalizeDateKeyList P zone (some ((normalizeDateKeyList P zone dates).map .text)) =
        normalizeDateKeyList P zone dates ↔
      ∀ entry ∈ dates.getD [], ∀ day, entry.day? P zone = some day → Lasts zone day := by
  have hmem {key : String} : key ∈ normalizeDateKeyList P zone dates ↔
      (∃ entry ∈ dates.getD [], entryKey P zone entry = key) ∧ key ≠ "" := by
    rw [normalizeDateKeyList, List.mem_eraseDups, List.mem_filter, List.mem_map, decide_eq_true_eq]
  have hagain (keys : List DateEntry) : normalizeDateKeyList P zone (some keys) =
      ((keys.map (entryKey P zone)).filter fun key => decide (key ≠ "")).eraseDups := rfl
  have hiff : normalizeDateKeyList P zone (some ((normalizeDateKeyList P zone dates).map .text)) =
        normalizeDateKeyList P zone dates ↔
      ∀ key ∈ normalizeDateKeyList P zone dates, entryKey P zone (.text key) = key := by
    have hnodup : (normalizeDateKeyList P zone dates).Nodup := nodup_eraseDups _
    have hne : ∀ key ∈ normalizeDateKeyList P zone dates, decide (key ≠ "") = true :=
      fun key hkey => decide_eq_true (hmem.mp hkey).2
    have hmap := eraseDups_map_eq_iff hnodup hne (entryKey P zone ∘ DateEntry.text)
    rw [← List.map_map, ← hagain] at hmap
    simp only [Function.comp_apply] at hmap
    exact hmap
  rw [hiff]
  constructor
  · intro h entry hentry day hday
    have hkey : entryKey P zone entry = isoDate day := entryKey_of_day hday
    have hself := h _ (hmem.mpr ⟨⟨entry, hentry, hkey⟩, isoDate_ne_empty day⟩)
    exact (entryKey_isoDate_iff (hread entry hentry day hday)).mp hself
  · intro h key hkey
    obtain ⟨⟨entry, hentry, rfl⟩, hne⟩ := hmem.mp hkey
    cases hday : entry.day? P zone with
    | none =>
      obtain ⟨hshort, htrim⟩ := entryKey_of_no_day hday hne
      exact entryKey_of_isDateKey hshort htrim
    | some day =>
      rw [entryKey_of_day hday]
      exact (entryKey_isoDate_iff (hread entry hentry day hday)).mpr (h entry hentry day hday)

/-! ### Hours -/

theorem opens_iff : input.start.minutes < input.safeEnd.minutes ↔
    input.start.minutes < input.finish.minutes ∨ input.start.minutes < defaultEnd.minutes := by
  unfold ConfigInput.safeEnd
  split
  · next h => exact ⟨Or.inl, fun _ => h⟩
  · next h => exact ⟨Or.inr, fun hor => hor.resolve_left h⟩

/-- The start and the end of a calendar are normalized to themselves. -/
theorem hours_input (P : Platform) (input : ConfigInput) :
    (normalizeConfig P input).input.start = input.start ∧
      (normalizeConfig P input).input.safeEnd = input.safeEnd := by
  have hstart : (normalizeConfig P input).input.start = input.start := parseTime_text _ _
  have hfinish : (normalizeConfig P input).input.finish = input.safeEnd := parseTime_text _ _
  refine ⟨hstart, ?_⟩
  rw [ConfigInput.safeEnd, hstart, hfinish]
  split
  · rfl
  · next h =>
    unfold ConfigInput.safeEnd at h ⊢
    split at h
    · next hlt => exact absurd hlt h
    · next hge => rw [if_neg hge]

end Parts

/-! ## Consuming a duration -/

section Consuming

variable (zone : Zone) (config : Config)

/-- The search for a working day ends at the start of some day. -/
theorem seekWorkingDay_start (n : ℕ) : ∀ t, ∃ s,
    seekWorkingDay zone config n (atBusinessStart zone config t) =
      atBusinessStart zone config s := by
  induction n with
  | zero => exact fun t => ⟨t, rfl⟩
  | succ n ih =>
    intro t
    unfold seekWorkingDay
    split
    · exact ⟨t, rfl⟩
    · exact ih _

theorem moveToNextWorkingDayStart_start (t : ℤ) : ∃ s,
    moveToNextWorkingDayStart zone config t = atBusinessStart zone config s :=
  seekWorkingDay_start zone config 370 _

/-- A round takes all of the minutes, or what is left of the day, and goes on from the start of
another one. -/
theorem consumeLoop_round (safety n : ℕ) (t : ℤ) :
    (consumeLoop zone config (safety + 1) t n).2 = 0 ∨
      ∃ s, consumeLoop zone config (safety + 1) t n =
        consumeLoop zone config safety (atBusinessStart zone config s)
          (n - available zone config t) := by
  rw [consumeLoop]
  split
  · next hzero => exact Or.inl hzero
  · split
    · next hempty =>
      obtain ⟨s, hs⟩ := moveToNextWorkingDayStart_start zone config t
      exact Or.inr ⟨s, by rw [hs, hempty, Nat.sub_zero]⟩
    · dsimp only
      split
      · next hleft =>
        obtain ⟨s, hs⟩ := moveToNextWorkingDayStart_start zone config
          (t + (min n (available zone config t) : ℕ) * msPerMinute)
        have hrest : n - min n (available zone config t) = n - available zone config t := by omega
        exact Or.inr ⟨s, by rw [hs, hrest]⟩
      · next hdone =>
        have hzero : n - min n (available zone config t) = 0 := by omega
        rw [hzero, consumeLoop_zero]
        exact Or.inl rfl

variable {zone config}

theorem minutesPerDay_le_available (hkeeps : KeepsHours zone config) (t : ℤ) :
    minutesPerDay config ≤ available zone config (atBusinessStart zone config t) := by
  have hdiv : (minutesPerDay config : ℤ) ≤ (atBusinessEnd zone config
      (atBusinessStart zone config t) - atBusinessStart zone config t) / msPerMinute := by
    rw [Int.le_ediv_iff_mul_le (by decide)]
    have hday := hkeeps t
    omega
  unfold available
  omega

/-- From the start of a day, each round takes a whole day, or the rest of the minutes. -/
theorem consumeLoop_start (hkeeps : KeepsHours zone config) (safety : ℕ) : ∀ (n : ℕ) (t : ℤ),
    n ≤ safety * minutesPerDay config →
    (consumeLoop zone config safety (atBusinessStart zone config t) n).2 = 0 := by
  induction safety with
  | zero =>
    intro n t hn
    rw [Nat.zero_mul] at hn
    exact Nat.le_zero.mp hn
  | succ safety ih =>
    intro n t hn
    rw [Nat.add_mul, Nat.one_mul] at hn
    have hday := minutesPerDay_le_available hkeeps t
    obtain hdone | ⟨s, hs⟩ := consumeLoop_round zone config safety n
      (atBusinessStart zone config t)
    · exact hdone
    · rw [hs]
      exact ih _ s (by omega)

/-- The whole of a duration is consumed, where the days keep their hours. -/
theorem consume_of_keepsHours (hkeeps : KeepsHours zone config) (start : ℤ) (n : ℕ) :
    (consume zone config start n).2 = 0 := by
  obtain ⟨rounds, hrounds, henough⟩ := safetyCounter_rounds config n
  unfold consume
  rw [hrounds]
  -- the first round begins anywhere in a day, and may take less than a day has
  obtain hdone | ⟨s, hs⟩ := consumeLoop_round zone config rounds n
    (alignToBusinessTime zone config start)
  · exact hdone
  · rw [hs]
    exact consumeLoop_start hkeeps rounds _ s (by omega)

/-- In a zone without offset changes the days keep their hours. -/
theorem keepsHours_of_isFixed (hopens : config.businessStart.minutes < config.businessEnd.minutes)
    (hfixed : zone.IsFixed) : KeepsHours zone config := by
  obtain ⟨offset, hoffset, hinstant⟩ := hfixed
  intro t
  have hclose := minutes_lt config.businessEnd
  have hday : zone.day (atBusinessStart zone config t) = zone.day t := by
    rw [atBusinessStart, atTime_eq hoffset hinstant, day_sub hoffset]
    unfold dayMs msPerMinute
    omega
  rw [atBusinessEnd, atTime_eq hoffset hinstant, hday, atBusinessStart, atTime_eq hoffset hinstant]
  unfold minutesPerDay msPerMinute
  omega

end Consuming

/-! ## Configurations that normalize -/

/-- Two configurations have one calendar when their parts are normalized to the same. -/
theorem normalizeConfig_eq_iff {P : Platform} {a b : ConfigInput} (hstart : a.start = b.start)
    (hend : a.safeEnd = b.safeEnd)
    (hdays : normalizeWorkingDays a.workingDays = normalizeWorkingDays b.workingDays)
    (htimezone : normalizeTimezone P a.timezone = normalizeTimezone P b.timezone) :
    normalizeConfig P a = normalizeConfig P b ↔
      clampMinutes (a.tatDurationMinutes.getD (some 480)) =
          clampMinutes (b.tatDurationMinutes.getD (some 480)) ∧
        normalizeDateKeyList P (b.zone P) a.holidays =
            normalizeDateKeyList P (b.zone P) b.holidays ∧
          normalizeDateKeyList P (b.zone P) a.workingDateOverrides =
            normalizeDateKeyList P (b.zone P) b.workingDateOverrides := by
  simp only [normalizeConfig, Config.mk.injEq, hstart, hend, hdays, htimezone, true_and, and_true]
  rfl

section Normalizes

variable {P : Platform} {input : ConfigInput}

theorem hasDay_iff {day : ℤ} : input.HasDay P day ↔
    (∃ entry ∈ input.holidays.getD [], entry.day? P (input.zone P) = some day) ∨
      ∃ entry ∈ input.workingDateOverrides.getD [], entry.day? P (input.zone P) = some day := by
  simp only [ConfigInput.HasDay, List.mem_append, or_and_right, exists_or]

/-- A calendar is its own normal form when the duration is not lost, and its dates last. -/
theorem idempotent_iff
    (hread : ∀ day, input.HasDay P day → isShortYear (dateOf day).year = false → P.ReadsDay day) :
    normalizeConfig P (normalizeConfig P input).input = normalizeConfig P input ↔
      (∀ value ∈ input.tatDurationMinutes, ∃ q : ℚ, value = some q ∧ 1 ≤ q) ∧
        ∀ day, input.HasDay P day → Lasts (input.zone P) day := by
  obtain ⟨hstart, hend⟩ := hours_input P input
  have hholidays := normalizeDateKeyList_iff (input.zone P) input.holidays
    fun entry hentry day hday => hread day (hasDay_iff.mpr (Or.inl ⟨entry, hentry, hday⟩))
  have hoverrides := normalizeDateKeyList_iff (input.zone P) input.workingDateOverrides
    fun entry hentry day hday => hread day (hasDay_iff.mpr (Or.inr ⟨entry, hentry, hday⟩))
  rw [normalizeConfig_eq_iff hstart hend
    (normalizeWorkingDays_normalizeWorkingDays input.workingDays)
    (normalizeTimezone_normalizeTimezone input.timezone)]
  refine and_congr (duration_iff input.tatDurationMinutes)
    ((and_congr hholidays hoverrides).trans ?_)
  constructor
  · rintro ⟨hholiday, hworked⟩ day hday
    obtain ⟨entry, hentry, heq⟩ | ⟨entry, hentry, heq⟩ := hasDay_iff.mp hday
    · exact hholiday entry hentry day heq
    · exact hworked entry hentry day heq
  · intro hlast
    exact ⟨fun entry hentry day heq => hlast day (hasDay_iff.mpr (Or.inl ⟨entry, hentry, heq⟩)),
      fun entry hentry day heq => hlast day (hasDay_iff.mpr (Or.inr ⟨entry, hentry, heq⟩))⟩

/-- A configuration is normalized to a usable calendar when it is sound, and only then. -/
theorem normalizes_iff
    (hread : ∀ day, input.HasDay P day → isShortYear (dateOf day).year = false → P.ReadsDay day) :
    Normalizes P input ↔ input.Sound P := by
  constructor
  · intro h
    obtain ⟨hduration, hlast⟩ := (idempotent_iff hread).mp h.idempotent
    exact ⟨opens_iff.mp h.usable.opens, (weekdays_iff input.workingDays).mp h.usable.weekdays,
      hduration, hlast⟩
  · intro h
    exact ⟨⟨opens_iff.mpr h.hours, normalizeWorkingDays_ne_nil _,
      (weekdays_iff input.workingDays).mpr h.days⟩, (idempotent_iff hread).mpr ⟨h.duration, h.dates⟩,
      consume_of_keepsHours⟩

end Normalizes

/-- A firm that is open from 8 to 12, and not on the first of May. -/
def morningHours : ConfigInput where
  businessStartTime := some "08:00"
  businessEndTime := some "12:00"
  holidayDates := some [.text "2026-05-01"]

theorem not_hasDay_morningHours (day : ℤ) : ¬morningHours.HasDay utcOnly day := by
  intro hday
  obtain ⟨entry, hentry, heq⟩ | ⟨entry, hentry, heq⟩ := hasDay_iff.mp hday
  · obtain rfl := List.mem_singleton.mp hentry
    have hkey : isDateKey (trim "2026-05-01") = true := by decide
    rw [DateEntry.day?, if_pos hkey] at heq
    exact nomatch heq
  · exact absurd hentry List.not_mem_nil

theorem normalizes_morningHours : Normalizes utcOnly morningHours :=
  (normalizes_iff fun day hday => absurd hday (not_hasDay_morningHours day)).mpr
    ⟨Or.inl (by decide), fun _ hday => absurd hday List.not_mem_nil,
      fun _ hvalue => (nomatch hvalue), fun day hday => absurd hday (not_hasDay_morningHours day)⟩

/-- Evening hours, with an end that is written without its zero: the calendar ends before it starts,
and of an hour nothing is consumed. -/
theorem normalizes_fails :
    ¬Normalizes utcOnly { businessStartTime := some "19:00", businessEndTime := some "9:00" } ∧
      (consume .utc (normalizeConfig utcOnly
        { businessStartTime := some "19:00", businessEndTime := some "9:00" }) 0 60).2 = 60 := by
  constructor
  · intro h
    exact absurd h.usable.opens (by decide)
  · decide +kernel

end Docketra.SlaCalendar
