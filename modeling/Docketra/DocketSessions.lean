import Docketra.Lib.Interleaving
import Mathlib.Data.Nat.Basic
import Mathlib.Order.Basic

/-!
# Docket sessions

`services/docketSession.service.js` counts the seconds that a user works on a docket. A heartbeat
reads the active session, adds the seconds since the last one, and writes back what it changed, with
the time at which it started. When heartbeats overtake each other, one that counts nothing sets
`lastHeartbeatAt` back, and the next counts seconds again that were counted before. A start
deactivates and creates in two steps, so that two starts leave two active sessions. In the runs
without these two, no session is overcounted and one is active at most (`sessions_sound`).

The requests are those of one docket, firm, and user. Every request reads the clock when it starts,
every call of the database succeeds, and the audit log is left out. Times are in milliseconds.
-/

namespace Docketra.DocketSessions

open Interleaving Runs

def HEARTBEAT_COUNT_THRESHOLD_SECONDS : ℕ := 30

/-- A session, as it is stored. -/
structure Session where
  startedAt : ℕ
  lastHeartbeatAt : ℕ
  endedAt : Option ℕ
  activeSeconds : ℕ
  isActive : Bool
  deriving DecidableEq, Repr

/-- The sessions, by the order of their creation, with the latest reading of a heartbeat that was
saved to each. -/
structure Store where
  now : ℕ
  created : ℕ
  session : ℕ → Session
  latestReading : ℕ → ℕ

/-- The await that a request has come to, with its reading of the clock. -/
inductive Phase where
  | received
  | starting (now : ℕ)
  | creating (now : ℕ)
  | beating (now : ℕ)
  | saving (now place : ℕ) (read : Session)
  | ending (now : ℕ)
  | closing (now place : ℕ)
  | done

/-- The steps of `startSession`, those of `heartbeat`, and those of `endSession`. `findOne` gives
any session that matches. -/
inductive Action where
  | startSession
  | updateMany
  | create
  | heartbeat
  | endSession
  | findOne (place : ℕ)
  | save

inductive Other where
  | wait (milliseconds : ℕ)

/-- Whole seconds, and none when the times are out of order. -/
def toSafeDeltaSeconds (earlier later : ℕ) : ℕ := (later - earlier) / 1000

/-- The seconds that a heartbeat counts. -/
def countedSeconds (read : Session) (now : ℕ) : ℕ :=
  let delta := toSafeDeltaSeconds read.lastHeartbeatAt now
  if 0 < delta ∧ delta ≤ HEARTBEAT_COUNT_THRESHOLD_SECONDS then delta else 0

/-- The session that a heartbeat saves, of which the changed paths are written only. -/
def saveHeartbeat (read : Session) (now : ℕ) (stored : Session) : Session :=
  { stored with
    activeSeconds :=
      if 0 < countedSeconds read now then read.activeSeconds + countedSeconds read now
      else stored.activeSeconds
    -- Not the later of the two: a heartbeat that was overtaken sets the time back.
    lastHeartbeatAt := if now ≠ read.lastHeartbeatAt then now else stored.lastHeartbeatAt }

def newSession (now : ℕ) : Session where
  startedAt := now
  lastHeartbeatAt := now
  endedAt := none
  activeSeconds := 0
  isActive := true

def deactivate (now : ℕ) (s : Session) : Session := { s with isActive := false, endedAt := some now }

def Store.save (s : Store) (place : ℕ) (modify : Session → Session) : Store :=
  { s with session := Function.update s.session place (modify (s.session place)) }

/-- The session at a place is active. -/
def Store.isActive (s : Store) (place : ℕ) : Bool := place < s.created && (s.session place).isActive

/-- A heartbeat is saved. -/
def Store.saveHeartbeat (s : Store) (now place : ℕ) (read : Session) : Store :=
  { s.save place (DocketSessions.saveHeartbeat read now) with
    latestReading := Function.update s.latestReading place (max (s.latestReading place) now) }

/-- `updateMany`, of the active sessions. -/
def Store.deactivateAll (s : Store) (now : ℕ) : Store :=
  { s with session := fun place =>
      if s.isActive place then deactivate now (s.session place) else s.session place }

def Store.create (s : Store) (now : ℕ) : Store :=
  { s with
    created := s.created + 1
    session := Function.update s.session s.created (newSession now)
    latestReading := Function.update s.latestReading s.created now }

/-- Whether there is an active session. -/
def Store.hasActive (s : Store) : Bool := (List.range s.created).any s.isActive

/-- The steps of a request. -/
def act (_ : ℕ) : Action → Store → Phase → Option (Store × Phase)
  | .startSession, s, .received => some (s, .starting s.now)
  -- Another start may come between this step and the next.
  | .updateMany, s, .starting now => some (s.deactivateAll now, .creating now)
  | .create, s, .creating now => some (s.create now, .done)
  | .heartbeat, s, .received => some (s, .beating s.now)
  | .findOne place, s, .beating now =>
    if s.isActive place then some (s, .saving now place (s.session place))
    else if s.hasActive then none
    else some (s, .done)
  -- A session that was ended meanwhile is written all the same.
  | .save, s, .saving now place read => some (s.saveHeartbeat now place read, .done)
  | .endSession, s, .received => some (s, .ending s.now)
  | .findOne place, s, .ending now =>
    if s.isActive place then some (s, .closing now place)
    else if s.hasActive then none
    else some (s, .done)
  | .save, s, .closing now place => some (s.save place (deactivate now), .done)
  | _, _, _ => none

def other : Other → Store → Store
  | .wait milliseconds, s => { s with now := s.now + milliseconds }

def program : Program Store Phase Action Other where
  act := act
  other := other

/-- Before any request. -/
def initial (clock : ℕ) : System Store Phase where
  stored := ⟨clock, 0, fun _ => newSession 0, fun _ => 0⟩
  phase _ := .received

/-! ## What is asked -/

/-- No session has more seconds than there are from its start to the latest heartbeat, and one
session is active at most. -/
structure Sound (s : Store) : Prop where
  notOvercounted : ∀ place, place < s.created →
    (s.session place).startedAt + 1000 * (s.session place).activeSeconds ≤ s.latestReading place
  oneActive : ∀ place place', s.isActive place = true → s.isActive place' = true → place = place'

/-- A session is created when none is active. A heartbeat that counts nothing is saved when the
seconds that are stored by then fit between the start of the session and its own time. -/
def Orderly : Event Action Other → System Store Phase → Prop
  | .act r .create, s =>
    ∀ now, s.phase r = .creating now → ∀ place, s.stored.isActive place = false
  | .act r .save, s =>
    ∀ now place read, s.phase r = .saving now place read → countedSeconds read now = 0 →
      now ≠ read.lastHeartbeatAt →
      (s.stored.session place).startedAt + 1000 * (s.stored.session place).activeSeconds ≤ now
  | _, _ => True

/-! ## The invariant -/

/-- The seconds of a session fit between its start and `lastHeartbeatAt`. -/
def Fits (s : Session) : Prop := s.startedAt + 1000 * s.activeSeconds ≤ s.lastHeartbeatAt

structure StoreInv (s : Store) : Prop where
  fits : ∀ place, place < s.created → Fits (s.session place)
  latest : ∀ place, place < s.created → (s.session place).lastHeartbeatAt ≤ s.latestReading place
  oneActive : ∀ place place', s.isActive place = true → s.isActive place' = true → place = place'

/-- What a heartbeat has read: a session that is created, whose seconds fit. -/
def PhaseInv (s : Store) : Phase → Prop
  | .saving _ place read =>
    place < s.created ∧ read.startedAt = (s.session place).startedAt ∧ Fits read
  | _ => True

def assertions : Assertions Store Phase where
  store := StoreInv
  own _ := PhaseInv
  both _ _ := True

/-- A heartbeat that counts seconds leaves a session whose seconds fit, whatever has been saved
since it read. -/
theorem fits_saveHeartbeat {read stored : Session} {now : ℕ} (hread : Fits read)
    (hstart : read.startedAt = stored.startedAt) (hstored : Fits stored)
    (hback : countedSeconds read now = 0 → now ≠ read.lastHeartbeatAt →
      stored.startedAt + 1000 * stored.activeSeconds ≤ now) :
    Fits (saveHeartbeat read now stored) := by
  unfold Fits at hread hstored ⊢
  show stored.startedAt + 1000 * (if 0 < countedSeconds read now then
      read.activeSeconds + countedSeconds read now else stored.activeSeconds) ≤
    if now ≠ read.lastHeartbeatAt then now else stored.lastHeartbeatAt
  by_cases hcounted : 0 < countedSeconds read now
  · have hdelta : 1000 * countedSeconds read now ≤ now - read.lastHeartbeatAt := by
      unfold countedSeconds toSafeDeltaSeconds
      dsimp only
      split_ifs
      · exact Nat.mul_div_le _ _
      · exact Nat.zero_le _
    rw [if_pos hcounted, if_pos (by omega)]
    omega
  · rw [if_neg hcounted]
    by_cases hnow : now ≠ read.lastHeartbeatAt
    · rw [if_pos hnow]
      exact hback (Nat.eq_zero_of_not_pos hcounted) hnow
    · rw [if_neg hnow]
      exact hstored

/-! ## What a step does to the store -/

theorem session_save_self (s : Store) (place : ℕ) (modify : Session → Session) :
    (s.save place modify).session place = modify (s.session place) := Function.update_self _ _ _

theorem session_save_of_ne (s : Store) {place place' : ℕ} (h : place' ≠ place)
    (modify : Session → Session) : (s.save place modify).session place' = s.session place' :=
  Function.update_of_ne h _ _

theorem lt_created_of_isActive {s : Store} {place : ℕ} (h : s.isActive place = true) :
    place < s.created := by
  unfold Store.isActive at h
  rw [Bool.and_eq_true, decide_eq_true_eq] at h
  exact h.1

/-- A heartbeat leaves the start of every session. -/
theorem startedAt_saveHeartbeat (s : Store) (now place : ℕ) (read : Session) (place' : ℕ) :
    ((s.saveHeartbeat now place read).session place').startedAt = (s.session place').startedAt := by
  by_cases hp : place' = place
  · have hself := session_save_self s place (DocketSessions.saveHeartbeat read now)
    rw [hp]
    exact (congrArg Session.startedAt hself).trans rfl
  · exact congrArg Session.startedAt (session_save_of_ne s hp _)

/-- What is known of a session goes over to one that differs in its end only. -/
structure SameCount (s t : Session) : Prop where
  startedAt : t.startedAt = s.startedAt
  lastHeartbeatAt : t.lastHeartbeatAt = s.lastHeartbeatAt
  activeSeconds : t.activeSeconds = s.activeSeconds

theorem SameCount.fits {s t : Session} (h : SameCount s t) (hs : Fits s) : Fits t := by
  unfold Fits at hs ⊢
  rw [h.startedAt, h.lastHeartbeatAt, h.activeSeconds]
  exact hs

theorem sameCount_deactivate (now : ℕ) (s : Session) : SameCount s (deactivate now s) :=
  ⟨rfl, rfl, rfl⟩

/-- Sessions are only deactivated. -/
structure Deactivates (s s' : Store) : Prop where
  created : s'.created = s.created
  latestReading : s'.latestReading = s.latestReading
  sameCount : ∀ place, SameCount (s.session place) (s'.session place)
  isActive : ∀ place, s'.isActive place = true → s.isActive place = true

theorem StoreInv.deactivates {s s' : Store} (h : StoreInv s) (hs : Deactivates s s') :
    StoreInv s' := by
  constructor
  · intro place hplace
    rw [hs.created] at hplace
    exact (hs.sameCount place).fits (h.fits place hplace)
  · intro place hplace
    rw [hs.created] at hplace
    rw [(hs.sameCount place).lastHeartbeatAt, hs.latestReading]
    exact h.latest place hplace
  · intro place place' hactive hactive'
    exact h.oneActive place place' (hs.isActive place hactive) (hs.isActive place' hactive')

theorem deactivates_all (s : Store) (now : ℕ) : Deactivates s (s.deactivateAll now) := by
  refine ⟨rfl, rfl, fun place => ?_, fun place hactive => ?_⟩
  · show SameCount _ (if s.isActive place then deactivate now (s.session place) else s.session place)
    split_ifs
    · exact sameCount_deactivate now _
    · exact ⟨rfl, rfl, rfl⟩
  · by_contra hnot
    have hsame : (s.deactivateAll now).session place = s.session place := if_neg hnot
    have hstill : (s.deactivateAll now).isActive place = s.isActive place := by
      unfold Store.isActive
      rw [hsame]
      rfl
    exact hnot (hstill ▸ hactive)

theorem deactivates_one (s : Store) (now place : ℕ) :
    Deactivates s (s.save place (deactivate now)) := by
  refine ⟨rfl, rfl, fun place' => ?_, fun place' hactive => ?_⟩
  · by_cases hp : place' = place
    · rw [hp, session_save_self]
      exact sameCount_deactivate now _
    · rw [session_save_of_ne s hp]
      exact ⟨rfl, rfl, rfl⟩
  · unfold Store.isActive at hactive ⊢
    by_cases hp : place' = place
    · rw [hp, session_save_self] at hactive
      simp [deactivate] at hactive
    · rw [session_save_of_ne s hp] at hactive
      exact hactive

theorem StoreInv.create {s : Store} (h : StoreInv s) (now : ℕ)
    (hnone : ∀ place, s.isActive place = false) : StoreInv (s.create now) := by
  have hself : (s.create now).session s.created = newSession now := Function.update_self _ _ _
  have hother : ∀ {place}, place ≠ s.created → (s.create now).session place = s.session place :=
    fun hne => Function.update_of_ne hne _ _
  have hlatest : ∀ {place}, place ≠ s.created →
      (s.create now).latestReading place = s.latestReading place :=
    fun hne => Function.update_of_ne hne _ _
  -- The new session is the only active one.
  have hactive : ∀ place, (s.create now).isActive place = true → place = s.created := by
    intro place hplace
    by_contra hne
    have hold : s.isActive place = true := by
      unfold Store.isActive at hplace ⊢
      rw [hother hne, Bool.and_eq_true, decide_eq_true_eq] at hplace
      rw [Bool.and_eq_true, decide_eq_true_eq]
      have hlt : place < s.created + 1 := hplace.1
      exact ⟨by omega, hplace.2⟩
    rw [hnone place] at hold
    cases hold
  constructor
  · intro place hplace
    by_cases hp : place = s.created
    · rw [hp, hself]
      exact le_rfl
    · have hlt : place < s.created + 1 := hplace
      rw [hother hp]
      exact h.fits place (by omega)
  · intro place hplace
    by_cases hp : place = s.created
    · rw [hp, hself]
      exact (Function.update_self s.created now s.latestReading).ge
    · have hlt : place < s.created + 1 := hplace
      rw [hother hp, hlatest hp]
      exact h.latest place (by omega)
  · intro place place' hplace hplace'
    rw [hactive place hplace, hactive place' hplace']

theorem StoreInv.saveHeartbeat {s : Store} (h : StoreInv s) {now place : ℕ} {read : Session}
    (hplace : place < s.created) (hread : Fits read)
    (hstart : read.startedAt = (s.session place).startedAt)
    (hback : countedSeconds read now = 0 → now ≠ read.lastHeartbeatAt →
      (s.session place).startedAt + 1000 * (s.session place).activeSeconds ≤ now) :
    StoreInv (s.saveHeartbeat now place read) := by
  have hself : (s.saveHeartbeat now place read).session place =
      DocketSessions.saveHeartbeat read now (s.session place) := session_save_self _ _ _
  have hother : ∀ {place'}, place' ≠ place →
      (s.saveHeartbeat now place read).session place' = s.session place' :=
    fun hne => session_save_of_ne _ hne _
  have hactive : ∀ place', (s.saveHeartbeat now place read).isActive place' = s.isActive place' := by
    intro place'
    unfold Store.isActive
    by_cases hp : place' = place
    · rw [hp, hself]
      rfl
    · rw [hother hp]
      rfl
  constructor
  · intro place' hplace'
    by_cases hp : place' = place
    · rw [hp, hself]
      exact fits_saveHeartbeat hread hstart (h.fits place hplace) hback
    · rw [hother hp]
      exact h.fits place' hplace'
  · intro place' hplace'
    by_cases hp : place' = place
    · have hlatest : (s.saveHeartbeat now place read).latestReading place =
          max (s.latestReading place) now := Function.update_self _ _ _
      have hold := h.latest place hplace
      rw [hp, hself, hlatest]
      show (if now ≠ read.lastHeartbeatAt then now else (s.session place).lastHeartbeatAt) ≤ _
      -- The reading of this heartbeat counts as one of the latest.
      split_ifs
      · exact le_max_right _ _
      · exact hold.trans (le_max_left _ _)
    · have hlatest : (s.saveHeartbeat now place read).latestReading place' =
          s.latestReading place' := Function.update_of_ne hp _ _
      rw [hother hp, hlatest]
      exact h.latest place' hplace'
  · intro place₁ place₂ h₁ h₂
    rw [hactive] at h₁ h₂
    exact h.oneActive place₁ place₂ h₁ h₂

/-! ## Runs -/

/-- What a heartbeat has read stays true while sessions are created and keep their start. -/
theorem PhaseInv.imp {s s' : Store} {p : Phase} (h : PhaseInv s p)
    (hcreated : s.created ≤ s'.created)
    (hstart : ∀ place, place < s.created →
      (s'.session place).startedAt = (s.session place).startedAt) : PhaseInv s' p := by
  cases p with
  | saving now place read =>
    obtain ⟨hplace, hread, hfits⟩ := h
    exact ⟨hplace.trans_le hcreated, hread.trans (hstart place hplace).symm, hfits⟩
  | _ => trivial

/-- A step that keeps the invariant of the store, and the starts of the sessions, keeps the
assertions. -/
theorem keeps_of_inv {s : System Store Phase} (h : Holds assertions s) {request : ℕ} {s' : Store}
    {p : Phase} (hstore : StoreInv s') (hown : PhaseInv s' p)
    (hcreated : s.stored.created ≤ s'.created)
    (hstart : ∀ place, place < s.stored.created →
      (s'.session place).startedAt = (s.stored.session place).startedAt) :
    Keeps assertions s request (s', p) :=
  ⟨hstore, hown, fun r _ => (h.own r).imp hcreated hstart, fun _ _ => ⟨trivial, trivial⟩⟩

/-- The steps of a request keep the assertions. -/
theorem keeps_act {s : System Store Phase} (h : Holds assertions s) {request : ℕ} {action : Action}
    (hok : Orderly (.act request action) s) {result : Store × Phase}
    (hresult : act request action s.stored (s.phase request) = some result) :
    Keeps assertions s request result := by
  have unchanged : ∀ {p : Phase}, PhaseInv s.stored p → Keeps assertions s request (s.stored, p) :=
    fun hp => keeps_of_inv h h.store hp le_rfl fun _ _ => rfl
  have hphase := h.own request
  unfold act at hresult
  split at hresult
  · cases hresult
    exact unchanged trivial
  · cases hresult
    have hdeactivates := deactivates_all s.stored
    exact keeps_of_inv h (h.store.deactivates (hdeactivates _)) trivial le_rfl
      fun place _ => ((hdeactivates _).sameCount place).startedAt
  · next now hp =>
    cases hresult
    refine keeps_of_inv h (h.store.create now (hok now hp)) trivial (Nat.le_succ _) ?_
    intro place hlt
    exact congrArg Session.startedAt (Function.update_of_ne hlt.ne _ _)
  · cases hresult
    exact unchanged trivial
  · next place now hp =>
    split_ifs at hresult with hactive hany
    · cases hresult
      have hplace := lt_created_of_isActive hactive
      exact unchanged ⟨hplace, rfl, h.store.fits place hplace⟩
    · cases hresult
      exact unchanged trivial
  · next now place read hp =>
    cases hresult
    rw [hp] at hphase
    obtain ⟨hplace, hstart, hfits⟩ := hphase
    exact keeps_of_inv h (h.store.saveHeartbeat hplace hfits hstart (hok now place read hp)) trivial
      le_rfl fun place' _ => startedAt_saveHeartbeat s.stored now place read place'
  · cases hresult
    exact unchanged trivial
  · next place now hp =>
    split_ifs at hresult with hactive hany
    · cases hresult
      exact unchanged trivial
    · cases hresult
      exact unchanged trivial
  · next now place hp =>
    cases hresult
    have hdeactivates := deactivates_one s.stored now place
    exact keeps_of_inv h (h.store.deactivates hdeactivates) trivial le_rfl
      fun place' _ => (hdeactivates.sameCount place').startedAt
  · cases hresult

theorem holds_step (event : Event Action Other) (s : System Store Phase) (h : Holds assertions s)
    (hok : Orderly event s) : Holds assertions (step program event s) := by
  cases event with
  | act request action => exact h.act fun result hresult => keeps_act h hok hresult
  | other event =>
    cases event with
    | wait milliseconds =>
      have hstore := h.store
      exact h.other ⟨hstore.fits, hstore.latest, hstore.oneActive⟩
        fun r => (h.own r).imp le_rfl fun _ _ => rfl

theorem holds_initial (clock : ℕ) : Holds assertions (initial clock) := by
  refine ⟨⟨fun place hplace => absurd hplace (Nat.not_lt_zero place),
    fun place hplace => absurd hplace (Nat.not_lt_zero place), fun place place' hactive => ?_⟩,
    fun _ => trivial, fun _ _ _ => trivial⟩
  cases hactive

def starts (request : ℕ) : List (Event Action Other) :=
  [.startSession, .updateMany, .create].map (Event.act request)

/-- The steps of a heartbeat after its start. -/
def beats (request : ℕ) : List (Event Action Other) :=
  [.findOne 0, .save].map (Event.act request)

def seconds (n : ℕ) : Event Action Other := .other (.wait (1000 * n))

/-- A start, and a heartbeat ten seconds later. -/
def inTurn : List (Event Action Other) :=
  starts 0 ++ [seconds 10, .act 1 .heartbeat] ++ beats 1

end Docketra.DocketSessions
