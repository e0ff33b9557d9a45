import Docketra.Lib.Counts
import Docketra.Docket
import Mathlib.Data.Int.Order.Basic

/-!
# Three views of a deadline

Whether a docket is overdue is decided in three places: by `getSlaStatus` and by the queries of
`getWeeklySlaSummary` in `services/sla.service.js`, and by `isBreached` in
`services/caseSla.service.js`. They do not read the same due date, and do not take the same
statuses for terminal: the queries compare the stored words, so that `Filed` is none of theirs, and
`isBreached` knows `RESOLVED` only.

The views agree on the dockets of a firm exactly when none of them shows the difference
(`views_agree_iff`).
-/

namespace Docketra.SlaViews

open Counts

/-! ## The dockets -/

/-- What the three functions read of a Case document. `slaDueDate` is a field that the schema does
not name, and `getSlaStatus` reads where there is no `slaDueAt`. -/
structure Docket where
  firmId : String
  status : CaseStatus := .OPEN
  createdAt : Date := 0
  resolvedAt : Option Date := none
  slaDueAt : Option Date := none
  slaDueDate : Option Date := none
  deletedAt : Option Date := none
  deriving DecidableEq, Repr

/-- `normalizeIdentifier`. -/
def normalizeIdentifier (value : String) : Option String :=
  if trim value = "" then none else some (trim value)

/-- The milliseconds of a day. -/
def dayMs : Int := 24 * 60 * 60 * 1000

/-! ## `getSlaStatus` -/

/-- What `getSlaStatus` returns. -/
inductive SlaStatus where
  | GREEN | YELLOW | RED
  deriving DecidableEq, Repr

/-- `TERMINAL_STATUSES`. -/
def terminalStatuses : List CaseStatus := [.RESOLVED, .FILED, .CLOSED]

/-- The due date that `getSlaStatus` reads. -/
def dueAt (docket : Docket) : Option Date := docket.slaDueAt.or docket.slaDueDate

/-- The terminal dockets of `getSlaStatus`, which trims and upper-cases the status. -/
def isTerminal (docket : Docket) : Bool := docket.status.normalize ∈ terminalStatuses

/-- `getSlaStatus`. -/
def getSlaStatus (now : Date) (docket : Docket) : SlaStatus :=
  match dueAt docket with
  | none => .GREEN
  | some due =>
    -- A terminal docket is green, however late it was.
    if isTerminal docket then .GREEN
    else if due < now then .RED
    else if due - now < dayMs then .YELLOW
    else .GREEN

/-! ## `getWeeklySlaSummary` -/

/-- `getWeekWindow`: the last day of the week ends a millisecond before the next one. -/
def getWeekWindow (now : Date) : Date × Date :=
  (now / dayMs * dayMs - 6 * dayMs, now / dayMs * dayMs + dayMs - 1)

/-- The result of `getWeeklySlaSummary`. -/
structure WeeklySummary where
  period : Date × Date
  createdThisWeek : ℕ := 0
  currentlyOverdue : ℕ := 0
  dueSoon : ℕ := 0
  onTrack : ℕ := 0
  resolvedWithinSla : ℕ := 0
  resolvedAfterBreach : ℕ := 0
  deriving DecidableEq, Repr

/-- A stored date in a range. A field without a date is in none. -/
def inRange (date : Option Date) (inside : Date → Bool) : Bool := (date.map inside).getD false

/-- `activeQuery`, on the dockets of the firm. -/
def activeQuery (docket : Docket) : Bool := docket.status ∉ terminalStatuses

/-- `{ ...activeQuery, slaDueAt }`. -/
def activeDue (inside : Date → Bool) (docket : Docket) : Bool :=
  activeQuery docket && inRange docket.slaDueAt inside

/-- The dockets resolved in the week. -/
def resolvedIn (week : Date × Date) (docket : Docket) : Bool :=
  docket.status = .RESOLVED && inRange docket.resolvedAt fun at' => week.1 ≤ at' && at' ≤ week.2

/-- `{ $lte: ['$resolvedAt', '$slaDueAt'] }`. A missing date comes before every date. -/
def resolvedInTime (docket : Docket) : Bool :=
  match docket.resolvedAt, docket.slaDueAt with
  | none, _ => true
  | some _, none => false
  | some resolvedAt, some slaDueAt => resolvedAt ≤ slaDueAt

/-- The dockets of a firm, by its id as the summary reads it. The soft-delete plugin adds
`deletedAt: null` to every query. -/
def docketsOf (firmId : String) (store : List Docket) : List Docket :=
  store.filter fun docket =>
    some docket.firmId = normalizeIdentifier firmId && docket.deletedAt = none

/-- `getWeeklySlaSummary`. -/
def getWeeklySlaSummary (firmId : String) (now : Date) (store : List Docket) : WeeklySummary :=
  let week := getWeekWindow now
  if normalizeIdentifier firmId = none then { period := week }
  else
    let dockets := docketsOf firmId store
    { period := week
      createdThisWeek := dockets.countP fun docket =>
        week.1 ≤ docket.createdAt && docket.createdAt ≤ week.2
      -- The three queries ask for `slaDueAt` alone, and for no other due date.
      currentlyOverdue := dockets.countP (activeDue fun due => due < now)
      dueSoon := dockets.countP (activeDue fun due => now ≤ due && due < now + dayMs)
      onTrack := dockets.countP (activeDue fun due => now + dayMs ≤ due)
      resolvedWithinSla := dockets.countP fun docket =>
        resolvedIn week docket && resolvedInTime docket
      resolvedAfterBreach := dockets.countP fun docket =>
        resolvedIn week docket && !resolvedInTime docket }

/-! ## `isBreached` -/

/-- `isBreached`. -/
def isBreached (now : Date) (docket : Docket) : Bool :=
  match docket.slaDueAt with
  | none => false
  | some slaDueAt => normalizeStatus docket.status ≠ .RESOLVED && slaDueAt < now

/-! ## Agreement -/

/-- The dockets that a due date is a deadline for: those with a due date that are not terminal. -/
def hasDeadline (docket : Docket) : Bool := (dueAt docket).isSome && !isTerminal docket

/-- The dockets that `getSlaStatus` gives a status. -/
def classified (now : Date) (status : SlaStatus) (docket : Docket) : Bool :=
  getSlaStatus now docket = status

/-- The views agree on the dockets of a firm. -/
structure ViewsAgree (firmId : String) (now : Date) (store : List Docket) : Prop where
  overdue : (getWeeklySlaSummary firmId now store).currentlyOverdue =
    (docketsOf firmId store).countP (classified now .RED)
  dueSoon : (getWeeklySlaSummary firmId now store).dueSoon =
    (docketsOf firmId store).countP (classified now .YELLOW)
  onTrack : (getWeeklySlaSummary firmId now store).onTrack =
    (docketsOf firmId store).countP fun docket =>
      classified now .GREEN docket && hasDeadline docket
  /-- The three classes are those with a deadline, each in one class. -/
  partition : ∀ docket ∈ docketsOf firmId store, hasDeadline docket = true ↔
    classified now .RED docket = true ∨ classified now .YELLOW docket = true ∨
      classified now .GREEN docket = true ∧ hasDeadline docket = true
  breached : ∀ docket ∈ docketsOf firmId store,
    isBreached now docket = true ↔ getSlaStatus now docket = .RED

/-- A docket whose stored word `Filed` is terminal, and is none of the words of the queries. -/
def isLegacyFiled (docket : Docket) : Bool := docket.status = .FILED_LEGACY

/-- A docket that is not terminal, and has its due date where `getSlaStatus` alone looks for it. -/
def isDueElsewhere (docket : Docket) : Bool := docket.slaDueAt = none && !isTerminal docket

/-- The dockets that the queries alone count in a range of dates, and those that `getSlaStatus` alone
does, are as many. -/
def Balanced (inside : Date → Bool) (dockets : List Docket) : Prop :=
  dockets.countP (fun docket => isLegacyFiled docket && inRange docket.slaDueAt inside) =
    dockets.countP (fun docket => isDueElsewhere docket && inRange docket.slaDueDate inside)

/-- The condition for the views to agree. -/
structure NoneShows (now : Date) (dockets : List Docket) : Prop where
  /-- No docket that is filed or closed was due. -/
  closed : ∀ docket ∈ dockets, inRange docket.slaDueAt (fun due => due < now) = true →
    docket.status ∉ [CaseStatus.FILED, .FILED_LEGACY, .CLOSED]
  /-- No docket was due by a date that `getSlaStatus` alone looks for. -/
  elsewhere : ∀ docket ∈ dockets, isDueElsewhere docket = true →
    inRange docket.slaDueDate (fun due => due < now) = false
  dueSoon : Balanced (fun due => now ≤ due && due < now + dayMs) dockets
  onTrack : Balanced (fun due => now + dayMs ≤ due) dockets

section

variable {now : Date} {inside : Date → Bool}

/-- The status of a docket that is due and not terminal, by its due date. -/
theorem getSlaStatus_of_due {docket : Docket} {due : Date} (hdue : dueAt docket = some due)
    (hopen : isTerminal docket = false) :
    (getSlaStatus now docket = .RED ↔ due < now) ∧
      (getSlaStatus now docket = .YELLOW ↔ now ≤ due ∧ due < now + dayMs) ∧
      (getSlaStatus now docket = .GREEN ↔ now + dayMs ≤ due) := by
  simp only [getSlaStatus, hdue, hopen, Bool.false_eq_true, if_false]
  rcases Int.lt_or_le due now with hlt | hge
  · rw [if_pos hlt]
    have hno : ¬ now ≤ due := not_le.mpr hlt
    have hnot : ¬ now + dayMs ≤ due := by
      have hday : (0 : ℤ) ≤ dayMs := by decide
      exact fun h => hno (le_trans (Int.le_add_of_nonneg_right hday) h)
    simp [hlt, hno, hnot]
  · rw [if_neg (not_lt.mpr hge)]
    rcases Int.lt_or_le (due - now) dayMs with hsoon | hlater
    · rw [if_pos hsoon]
      have hin : due < now + dayMs := Int.lt_add_of_sub_left_lt hsoon
      simp [hge, not_lt.mpr hge, hin, not_le.mpr hin]
    · rw [if_neg (not_lt.mpr hlater)]
      have hout : now + dayMs ≤ due := Int.add_le_of_le_sub_left hlater
      simp [hge, not_lt.mpr hge, hout, not_lt.mpr hout]

/-- A docket without a deadline is green. -/
theorem getSlaStatus_of_no_deadline {docket : Docket} (h : hasDeadline docket = false) :
    getSlaStatus now docket = .GREEN := by
  unfold getSlaStatus
  cases hdue : dueAt docket with
  | none => rfl
  | some due =>
    have hclosed : isTerminal docket = true := by simpa [hasDeadline, hdue] using h
    simp only [hclosed, if_true]

/-- The dockets with a deadline in a range of dates. -/
def dueIn (inside : Date → Bool) (docket : Docket) : Bool :=
  !isTerminal docket && inRange (dueAt docket) inside

/-- The three classes, by the range of the due date. -/
theorem classified_eq (docket : Docket) :
    classified now .RED docket = dueIn (fun due => due < now) docket ∧
      classified now .YELLOW docket = dueIn (fun due => now ≤ due && due < now + dayMs) docket ∧
      (classified now .GREEN docket && hasDeadline docket) =
        dueIn (fun due => now + dayMs ≤ due) docket := by
  unfold classified dueIn
  cases hdeadline : hasDeadline docket with
  | false =>
    rw [getSlaStatus_of_no_deadline hdeadline]
    cases hdue : dueAt docket with
    | none => simp [inRange]
    | some due =>
      have hclosed : isTerminal docket = true := by simpa [hasDeadline, hdue] using hdeadline
      simp [hclosed]
  | true =>
    obtain ⟨hsome, hopen⟩ := Bool.and_eq_true_iff.mp hdeadline
    obtain ⟨due, hdue⟩ := Option.isSome_iff_exists.mp hsome
    rw [Bool.not_eq_true'] at hopen
    obtain ⟨hred, hyellow, hgreen⟩ := @getSlaStatus_of_due now docket due hdue hopen
    simp [hred, hyellow, hgreen, hopen, hdue, inRange]

/-- The dockets that the queries alone count in a range of dates. -/
theorem activeDue_and_not_dueIn (docket : Docket) :
    (activeDue inside docket && !dueIn inside docket) =
      (isLegacyFiled docket && inRange docket.slaDueAt inside) := by
  obtain ⟨_, status, _, _, slaDueAt, _, _⟩ := docket
  cases slaDueAt with
  | none => simp [activeDue, inRange]
  | some due =>
    -- Of the words, `FILED_LEGACY` alone is terminal and not one of the queries'.
    cases inside due <;> cases status <;>
      simp [activeDue, dueIn, inRange, activeQuery, isLegacyFiled, isTerminal, dueAt,
        terminalStatuses, CaseStatus.normalize, *]

/-- The dockets that `getSlaStatus` alone has in a range of dates. -/
theorem dueIn_and_not_activeDue (docket : Docket) :
    (dueIn inside docket && !activeDue inside docket) =
      (isDueElsewhere docket && inRange docket.slaDueDate inside) := by
  obtain ⟨_, status, _, _, slaDueAt, _, _⟩ := docket
  cases slaDueAt with
  | none => simp [activeDue, dueIn, isDueElsewhere, isTerminal, dueAt, inRange]
  | some due =>
    cases inside due <;> cases status <;>
      simp [activeDue, dueIn, inRange, activeQuery, isDueElsewhere, isTerminal, dueAt,
        terminalStatuses, CaseStatus.normalize, *]

/-- The queries count as many dockets as `getSlaStatus` does exactly when the range is balanced. -/
theorem countP_activeDue (dockets : List Docket) :
    dockets.countP (activeDue inside) = dockets.countP (dueIn inside) ↔
      Balanced inside dockets := by
  rw [countP_eq_iff, Balanced]
  simp only [activeDue_and_not_dueIn, dueIn_and_not_activeDue]

/-- A docket is breached exactly when it is red, unless it is filed or closed and was due, or is due
elsewhere. -/
theorem isBreached_iff (docket : Docket) :
    (isBreached now docket = true ↔ getSlaStatus now docket = .RED) ↔
      (inRange docket.slaDueAt (fun due => due < now) = true →
          docket.status ∉ [CaseStatus.FILED, .FILED_LEGACY, .CLOSED]) ∧
        (isDueElsewhere docket = true →
          inRange docket.slaDueDate (fun due => due < now) = false) := by
  have hred : getSlaStatus now docket = .RED ↔ dueIn (fun due => due < now) docket = true := by
    rw [← (classified_eq docket).1, classified, decide_eq_true_eq]
  rw [hred]
  obtain ⟨_, status, _, _, slaDueAt, slaDueDate, _⟩ := docket
  cases slaDueAt with
  | none =>
    simp [isBreached, dueIn, isDueElsewhere, isTerminal, dueAt, inRange]
  | some due =>
    -- Only a date that has passed tells the words apart.
    rcases Int.lt_or_le due now with hlt | hge
    · cases status <;>
        simp [isBreached, dueIn, isDueElsewhere, isTerminal, dueAt, inRange, terminalStatuses,
          normalizeStatus, CaseStatus.normalize, hlt]
    · simp [isBreached, dueIn, isDueElsewhere, dueAt, inRange, not_lt.mpr hge]

/-- The dockets with a deadline are those of the three classes. -/
theorem hasDeadline_iff (docket : Docket) :
    hasDeadline docket = true ↔
      classified now .RED docket = true ∨ classified now .YELLOW docket = true ∨
        classified now .GREEN docket = true ∧ hasDeadline docket = true := by
  cases hdeadline : hasDeadline docket with
  | false => simp [classified, getSlaStatus_of_no_deadline hdeadline]
  | true => cases hstatus : getSlaStatus now docket <;> simp [classified, hstatus]

/-- Where no docket is breached without being red, nor red without being breached, the queries count
as many overdue dockets as there are red ones. -/
theorem balanced_overdue {dockets : List Docket}
    (hclosed : ∀ docket ∈ dockets, inRange docket.slaDueAt (fun due => due < now) = true →
      docket.status ∉ [CaseStatus.FILED, .FILED_LEGACY, .CLOSED])
    (helsewhere : ∀ docket ∈ dockets, isDueElsewhere docket = true →
      inRange docket.slaDueDate (fun due => due < now) = false) :
    Balanced (fun due => due < now) dockets := by
  have hlegacy : dockets.countP (fun docket =>
      isLegacyFiled docket && inRange docket.slaDueAt fun due => due < now) = 0 := by
    rw [List.countP_eq_zero]
    intro docket hmem hboth
    obtain ⟨hfiled, hdue⟩ := Bool.and_eq_true_iff.mp hboth
    have hword : docket.status = .FILED_LEGACY := of_decide_eq_true hfiled
    exact hclosed docket hmem hdue (by rw [hword]; decide)
  have hother : dockets.countP (fun docket =>
      isDueElsewhere docket && inRange docket.slaDueDate fun due => due < now) = 0 := by
    rw [List.countP_eq_zero]
    intro docket hmem hboth
    obtain ⟨hwhere, hdue⟩ := Bool.and_eq_true_iff.mp hboth
    rw [helsewhere docket hmem hwhere] at hdue
    cases hdue
  rw [Balanced, hlegacy, hother]

end

/-! ## When the views agree -/

/-- What the summary counts, on the dockets of the firm. An empty firm id has none. -/
theorem summary_counts (firmId : String) (now : Date) (store : List Docket) :
    (getWeeklySlaSummary firmId now store).currentlyOverdue =
        (docketsOf firmId store).countP (activeDue fun due => due < now) ∧
      (getWeeklySlaSummary firmId now store).dueSoon =
        (docketsOf firmId store).countP
          (activeDue fun due => now ≤ due && due < now + dayMs) ∧
      (getWeeklySlaSummary firmId now store).onTrack =
        (docketsOf firmId store).countP (activeDue fun due => now + dayMs ≤ due) := by
  by_cases hfirm : normalizeIdentifier firmId = none
  · have hnone : docketsOf firmId store = [] := by simp [docketsOf, hfirm]
    simp [getWeeklySlaSummary, hfirm, hnone]
  · simp [getWeeklySlaSummary, hfirm]

/-- The views agree on the dockets of a firm exactly when none of them shows the difference. -/
theorem views_agree_iff (firmId : String) (now : Date) (store : List Docket) :
    ViewsAgree firmId now store ↔ NoneShows now (docketsOf firmId store) := by
  obtain ⟨hoverdue, hdueSoon, honTrack⟩ := summary_counts firmId now store
  have hred : classified now .RED = dueIn fun due => due < now :=
    funext fun docket => (classified_eq docket).1
  have hyellow : classified now .YELLOW = dueIn fun due => now ≤ due && due < now + dayMs :=
    funext fun docket => (classified_eq docket).2.1
  have hgreen : (fun docket => classified now .GREEN docket && hasDeadline docket) =
      dueIn fun due => now + dayMs ≤ due :=
    funext fun docket => (classified_eq docket).2.2
  constructor
  · intro h
    have hbreached := fun docket hmem => (isBreached_iff docket).mp (h.breached docket hmem)
    refine ⟨fun docket hmem => (hbreached docket hmem).1,
      fun docket hmem => (hbreached docket hmem).2, ?_, ?_⟩
    · rw [← countP_activeDue, ← hdueSoon, ← hyellow]
      exact h.dueSoon
    · rw [← countP_activeDue, ← honTrack, ← hgreen]
      exact h.onTrack
  · intro h
    refine ⟨?_, ?_, ?_, fun docket _ => hasDeadline_iff docket, fun docket hmem =>
      (isBreached_iff docket).mpr ⟨h.closed docket hmem, h.elsewhere docket hmem⟩⟩
    · rw [hoverdue, hred, countP_activeDue]
      exact balanced_overdue h.closed h.elsewhere
    · rw [hdueSoon, hyellow, countP_activeDue]
      exact h.dueSoon
    · rw [honTrack, hgreen, countP_activeDue]
      exact h.onTrack

/-- A filed docket whose deadline has passed is breached, and green. -/
theorem views_agree_fails :
    ¬ ViewsAgree "F" 1 [{ firmId := "F", status := .FILED, slaDueAt := some 0 }] := by
  intro h
  have hred := (h.breached { firmId := "F", status := .FILED, slaDueAt := some 0 }
    (by decide)).mp (by decide)
  revert hred
  decide

end Docketra.SlaViews
