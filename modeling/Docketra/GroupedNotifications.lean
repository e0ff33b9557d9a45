import Docketra.Lib.Interleaving
import Mathlib.Data.Nat.Basic
import Mathlib.Order.Basic

/-!
# Grouped notifications

`createNotification` of `services/notification.service.js` adds an update to the latest unread
notification of a recipient, type, and docket within the grouping window, and creates one where there
is none. An update reads the notification, and later writes the count that it has read, and one more.
So the counts sum up to the calls that returned a notification exactly in the runs in which every
update finds the count as it has read it (`notifications_counted_iff`).

The calls are those for one recipient, type, and docket, and no notification is read by its
recipient. A call returns `null` when the recipient is not found or the database fails. What follows
the write changes nothing and does not throw. Times are in milliseconds.
-/

namespace Docketra.GroupedNotifications

open Interleaving Runs

def GROUPING_WINDOW_MS : ℕ := 30 * 60 * 1000

/-- What a call gives for its notification, normalized. -/
structure Payload where
  title : String
  message : String
  createdAt : ℕ
  emailEnabled : Bool
  deriving DecidableEq, Repr

structure Notification where
  title : String
  message : String
  createdAt : ℕ
  emailEnabled : Bool
  groupCount : ℕ
  deriving DecidableEq, Repr

/-- The unread notifications, by the order of their creation, and how many calls have returned
one. -/
structure Store where
  created : ℕ
  notification : ℕ → Notification
  returned : ℕ

/-- The await that a call has come to. -/
inductive Phase where
  | received
  | creating (normalized : Payload)
  | grouping (normalized : Payload) (place : ℕ) (existing : Notification)
  | done (place : Option ℕ)

/-- The steps of `createNotification`. `findOne` gives any of the latest notifications, and every
step may fail. -/
inductive Action where
  | findOne (normalized : Payload) (place : ℕ)
  | create
  | save
  | fail

/-- The notification at a place is within the window of a call. -/
def Store.isInWindow (s : Store) (normalized : Payload) (place : ℕ) : Bool :=
  place < s.created &&
    normalized.createdAt ≤ (s.notification place).createdAt + GROUPING_WINDOW_MS

/-- The notification at a place is one of the latest. -/
def Store.isLatest (s : Store) (normalized : Payload) (place : ℕ) : Bool :=
  s.isInWindow normalized place && (List.range s.created).all fun other =>
    !s.isInWindow normalized other ||
      (s.notification other).createdAt ≤ (s.notification place).createdAt

def newNotification (normalized : Payload) : Notification where
  title := normalized.title
  message := normalized.message
  createdAt := normalized.createdAt
  emailEnabled := normalized.emailEnabled
  groupCount := 1

/-- `Number(existing.groupCount || 1) + 1`. -/
def nextCount (existing : Notification) : ℕ :=
  (if existing.groupCount = 0 then 1 else existing.groupCount) + 1

/-- The notification that an update saves. -/
def grouped (normalized : Payload) (existing : Notification) : Notification where
  title := normalized.title
  message :=
    if 1 < nextCount existing then
      normalized.message ++ " (" ++ toString (nextCount existing) ++ " updates)"
    else normalized.message
  createdAt := normalized.createdAt
  emailEnabled := normalized.emailEnabled
  -- The count is written, and not incremented in the database.
  groupCount := nextCount existing

/-- A notification is written, and returned. -/
def Store.write (s : Store) (place : ℕ) (notification : Notification) : Store :=
  { s with
    notification := Function.update s.notification place notification
    returned := s.returned + 1 }

/-- The steps of a call. -/
def act (_ : ℕ) : Action → Store → Phase → Option (Store × Phase)
  | .findOne normalized place, s, .received =>
    if s.isLatest normalized place then
      some (s, .grouping normalized place (s.notification place))
    -- The query gives none only when there is none.
    else if (List.range s.created).any (s.isInWindow normalized) then none
    else some (s, .creating normalized)
  | .create, s, .creating normalized =>
    some ({ s.write s.created (newNotification normalized) with created := s.created + 1 },
      .done (some s.created))
  | .save, s, .grouping normalized place existing =>
    some (s.write place (grouped normalized existing), .done (some place))
  | .fail, _, .done _ => none
  | .fail, s, _ => some (s, .done none)
  | _, _, _ => none

/-- Nothing else happens. -/
def program : Program Store Phase Action Empty where
  act := act
  other := nofun

/-- Before any call. -/
def initial : System Store Phase where
  stored := ⟨0, fun _ => newNotification ⟨"", "", 0, false⟩, 0⟩
  phase _ := .received

/-! ## What is asked -/

/-- The sum of the counts of the first so many notifications. -/
def totalCount (notification : ℕ → Notification) : ℕ → ℕ
  | 0 => 0
  | n + 1 => totalCount notification n + (notification n).groupCount

/-- The counts sum up to the calls that returned a notification. -/
def Counted (s : Store) : Prop := totalCount s.notification s.created = s.returned

/-- An update finds the count that it has read. -/
def Fresh : Event Action Empty → System Store Phase → Prop
  | .act r .save, s =>
    ∀ normalized place existing, s.phase r = .grouping normalized place existing →
      (s.stored.notification place).groupCount = existing.groupCount
  | _, _ => True

/-! ## Sums of counts -/

theorem totalCount_congr {f g : ℕ → Notification} {n : ℕ}
    (h : ∀ place, place < n → (f place).groupCount = (g place).groupCount) :
    totalCount f n = totalCount g n := by
  induction n with
  | zero => rfl
  | succ n ih =>
    have hprev := ih fun place hlt => h place (Nat.lt_succ_of_lt hlt)
    show totalCount f n + (f n).groupCount = totalCount g n + (g n).groupCount
    rw [hprev, h n (Nat.lt_succ_self n)]

theorem totalCount_update_of_le (f : ℕ → Notification) {n place : ℕ} (h : n ≤ place)
    (x : Notification) : totalCount (Function.update f place x) n = totalCount f n := by
  refine totalCount_congr fun place' hlt => ?_
  rw [Function.update_of_ne (by omega)]

/-- One count is replaced in the sum. -/
theorem totalCount_update (f : ℕ → Notification) {n place : ℕ} (h : place < n) (x : Notification) :
    totalCount (Function.update f place x) n + (f place).groupCount =
      totalCount f n + x.groupCount := by
  induction n with
  | zero => exact absurd h (Nat.not_lt_zero place)
  | succ n ih =>
    show totalCount (Function.update f place x) n + (Function.update f place x n).groupCount +
      (f place).groupCount = totalCount f n + (f n).groupCount + x.groupCount
    by_cases hp : place = n
    · -- The replaced count is the last one, which the sum before it does not see.
      subst hp
      rw [totalCount_update_of_le f le_rfl, Function.update_self]
      omega
    · have hprev := ih (by omega)
      rw [Function.update_of_ne (Ne.symm hp)]
      omega

/-! ## The invariant -/

structure StoreInv (s : Store) : Prop where
  counted : Counted s
  positive : ∀ place, place < s.created → 1 ≤ (s.notification place).groupCount

/-- What an update has read is a notification that is stored, with a count. -/
def PhaseInv (s : Store) : Phase → Prop
  | .grouping _ place existing => place < s.created ∧ 1 ≤ existing.groupCount
  | _ => True

def assertions : Assertions Store Phase where
  store := StoreInv
  own _ := PhaseInv
  both _ _ := True

theorem nextCount_of_pos {existing : Notification} (h : 1 ≤ existing.groupCount) :
    nextCount existing = existing.groupCount + 1 := by
  unfold nextCount
  rw [if_neg (by omega)]

theorem StoreInv.create {s : Store} (h : StoreInv s) (normalized : Payload) :
    StoreInv { s.write s.created (newNotification normalized) with created := s.created + 1 } := by
  have hself : Function.update s.notification s.created (newNotification normalized) s.created =
      newNotification normalized := Function.update_self _ _ _
  constructor
  · have hcounted : totalCount s.notification s.created = s.returned := h.counted
    show totalCount (Function.update s.notification s.created (newNotification normalized))
        s.created + (Function.update s.notification s.created (newNotification normalized)
        s.created).groupCount = s.returned + 1
    rw [totalCount_update_of_le _ le_rfl, hself, hcounted]
    rfl
  · intro place hplace
    have hlt : place < s.created + 1 := hplace
    by_cases hp : place = s.created
    · rw [hp]
      exact (congrArg Notification.groupCount hself).ge
    · have hother := Function.update_of_ne hp (newNotification normalized) s.notification
      exact (h.positive place (by omega)).trans_eq (congrArg Notification.groupCount hother).symm

/-- The sum after an update is right exactly when the count was as it had been read. -/
theorem counted_save {s : Store} (h : StoreInv s) {normalized : Payload} {place : ℕ}
    {existing : Notification} (hplace : place < s.created) (hread : 1 ≤ existing.groupCount) :
    Counted (s.write place (grouped normalized existing)) ↔
      (s.notification place).groupCount = existing.groupCount := by
  have hsum := totalCount_update s.notification hplace (grouped normalized existing)
  have hnext : (grouped normalized existing).groupCount = existing.groupCount + 1 :=
    nextCount_of_pos hread
  have hcounted : totalCount s.notification s.created = s.returned := h.counted
  rw [hnext, hcounted] at hsum
  show totalCount (Function.update s.notification place (grouped normalized existing)) s.created =
    s.returned + 1 ↔ _
  omega

theorem StoreInv.save {s : Store} (h : StoreInv s) {normalized : Payload} {place : ℕ}
    {existing : Notification} (hplace : place < s.created) (hread : 1 ≤ existing.groupCount)
    (hfresh : (s.notification place).groupCount = existing.groupCount) :
    StoreInv (s.write place (grouped normalized existing)) := by
  refine ⟨(counted_save h hplace hread).mpr hfresh, fun place' hplace' => ?_⟩
  by_cases hp : place' = place
  · have hself : (s.write place (grouped normalized existing)).notification place =
        grouped normalized existing := Function.update_self _ _ _
    rw [hp, hself]
    exact (Nat.le_add_left 1 _).trans_eq (nextCount_of_pos hread).symm
  · have hother := Function.update_of_ne hp (grouped normalized existing) s.notification
    exact (h.positive place' hplace').trans_eq (congrArg Notification.groupCount hother).symm

/-! ## Runs -/

theorem PhaseInv.imp {s s' : Store} {p : Phase} (h : PhaseInv s p)
    (hcreated : s.created ≤ s'.created) : PhaseInv s' p := by
  cases p with
  | grouping normalized place existing => exact ⟨h.1.trans_le hcreated, h.2⟩
  | _ => trivial

/-- A step changes nothing that is stored, creates a notification, or saves an update. -/
inductive Effect (s : Store) (p : Phase) : Action → Store → Phase → Prop where
  | moves {action : Action} {q : Phase} (hq : PhaseInv s q) (haction : action ≠ .save) :
    Effect s p action s q
  | creates {normalized : Payload} :
    Effect s p .create
      { s.write s.created (newNotification normalized) with created := s.created + 1 }
      (.done (some s.created))
  | saves {normalized : Payload} {place : ℕ} {existing : Notification}
    (hp : p = .grouping normalized place existing) :
    Effect s p .save (s.write place (grouped normalized existing)) (.done (some place))

theorem act_effect (request : ℕ) {action : Action} {s s' : Store} {p p' : Phase}
    (hs : StoreInv s) (h : act request action s p = some (s', p')) : Effect s p action s' p' := by
  unfold act at h
  split at h
  · next normalized place =>
    split_ifs at h with hlatest hany
    · cases h
      have hplace : place < s.created := by
        simp only [Store.isLatest, Store.isInWindow, Bool.and_eq_true, decide_eq_true_eq] at hlatest
        exact hlatest.1.1
      exact .moves ⟨hplace, hs.positive place hplace⟩ nofun
    · cases h
      exact .moves trivial nofun
  · cases h
    exact .creates
  · cases h
    exact .saves rfl
  · cases h
  · cases h
    exact .moves trivial nofun
  · cases h

/-- A step keeps the assertions when what it saves is fresh. -/
theorem holds_step (event : Event Action Empty) (s : System Store Phase) (h : Holds assertions s)
    (hok : Fresh event s) : Holds assertions (step program event s) := by
  cases event with
  | other event => exact event.elim
  | act request action =>
    refine h.act fun result hresult => ?_
    obtain ⟨s', p'⟩ := result
    have hphase := h.own request
    cases act_effect request h.store hresult with
    | moves hq => exact ⟨h.store, hq, fun r _ => h.own r, fun _ _ => ⟨trivial, trivial⟩⟩
    | creates =>
      exact ⟨h.store.create _, trivial, fun r _ => (h.own r).imp (Nat.le_succ _),
        fun _ _ => ⟨trivial, trivial⟩⟩
    | saves hp =>
      have hfresh := hok _ _ _ hp
      rw [hp] at hphase
      exact ⟨h.store.save hphase.1 hphase.2 hfresh, trivial, fun r _ => (h.own r).imp le_rfl,
        fun _ _ => ⟨trivial, trivial⟩⟩

/-- A step keeps the sum right exactly when what it saves is fresh. -/
theorem counted_step_iff (event : Event Action Empty) (s : System Store Phase)
    (h : Holds assertions s) : Counted (step program event s).stored ↔ Fresh event s := by
  by_cases hok : Fresh event s
  · exact iff_of_true (holds_step event s h hok).store.counted hok
  · -- Only an update that is saved can have gone wrong.
    refine iff_of_false (fun hcounted => hok ?_) hok
    cases event with
    | other event => exact event.elim
    | act request action =>
      cases action with
      | save =>
        intro normalized place existing hp
        have hphase := h.own request
        rw [hp] at hphase
        have hact : program.act request .save s.stored (s.phase request) =
            some (s.stored.write place (grouped normalized existing), .done (some place)) := by
          rw [hp]
          rfl
        rw [step_act hact] at hcounted
        exact (counted_save h.store hphase.1 hphase.2).mp hcounted
      | _ => trivial

theorem holds_initial : Holds assertions initial :=
  ⟨⟨rfl, fun place hplace => absurd hplace (Nat.not_lt_zero place)⟩, fun _ => trivial,
    fun _ _ _ => trivial⟩

/-- **The counts sum up to the calls that returned a notification in every state of a run exactly
when every update of the run finds the count that it has read.** -/
theorem notifications_counted_iff (events : List (Event Action Empty)) :
    (∀ t ∈ states (step program) events initial, Counted t.stored) ↔
      Admits (step program) Fresh events initial :=
  states_forall_iff holds_step counted_step_iff events initial holds_initial

/-! ## Two updates of one notification -/

def update : Payload := ⟨"Comment", "A comment was added", 0, false⟩

/-- Two calls read a notification before either writes, and one of them is not counted. -/
theorem notifications_counted_fails :
    ¬ Counted (run (step program)
      [.act 0 (.findOne update 0), .act 0 .create, .act 1 (.findOne update 0),
        .act 2 (.findOne update 0), .act 1 .save, .act 2 .save] initial).stored := by
  unfold Counted
  decide

end Docketra.GroupedNotifications
