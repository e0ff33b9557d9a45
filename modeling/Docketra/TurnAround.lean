import Docketra.Lib.Runs
import Docketra.CaseAction

/-!
# The turn-around clock

`services/caseSla.service.js` counts the minutes that a docket is worked on. The clock of a docket
is four of its fields: the minutes of the stretches of work that are over, whether the clock is
paused, and when the stretch that is still running has started. `handleStatusTransition` pauses it
on the way to `PENDING` and to `RESOLVED`, and starts it again on the way to `OPEN` only.

A run of status changes is measured beside the code: the milliseconds that the docket has spent at
work, and how often it has returned to work. The clock shows that time, up to a minute for each
return, in every run whose changes are all `Handled`, and in no other (`conserved_iff`). The way out
of `PENDING` that the services take is not among them (`reopenTarget_not_handled`).
-/

namespace Docketra.TurnAround

open Runs
open StatusUpdate (handleStatusTransition computeElapsedMinutes)

/-! ## The clock of a docket -/

/-- `initializeCaseSla`: the clock of a docket that is created. -/
def initializeCaseSla (now : Date) (docket : Docket) : Docket :=
  { docket with
    tatPaused := false
    tatLastStartedAt := some now
    tatAccumulatedMinutes := 0
    tatTotalMinutes := 0 }

/-- `getEffectiveTatMinutes`. -/
def getEffectiveTatMinutes (docket : Docket) (now : Date) : ℕ :=
  if docket.tatPaused ∨ docket.tatLastStartedAt = none then docket.tatAccumulatedMinutes
  else docket.tatAccumulatedMinutes + computeElapsedMinutes docket.tatLastStartedAt now

/-- The docket after a status change at a time, with the patch of its clock stored. -/
def changeStatus (newStatus : CaseStatus) (now : Date) (docket : Docket) : Docket :=
  (handleStatusTransition docket newStatus now).set newStatus docket

/-- The status update stores this clock, when its caller patches none. -/
theorem updated_clock {ctx : StatusUpdate.StatusContext}
    (hacc : ctx.statusPatch.tatAccumulatedMinutes = none)
    (hpaused : ctx.statusPatch.tatPaused = none)
    (hstarted : ctx.statusPatch.tatLastStartedAt = none) (newStatus : CaseStatus)
    (docket : Docket) :
    let updated := StatusUpdate.updated newStatus ctx docket
    let changed := changeStatus newStatus ctx.now docket
    updated.tatAccumulatedMinutes = changed.tatAccumulatedMinutes ∧
      updated.tatPaused = changed.tatPaused ∧
      updated.tatLastStartedAt = changed.tatLastStartedAt := by
  have hread : handleStatusTransition (CaseRepository.decryptCaseDoc docket) newStatus ctx.now =
      handleStatusTransition docket newStatus ctx.now := rfl
  simp only [StatusUpdate.updated, StatusUpdate.StatusContext.mergedPatch, hread, hacc, hpaused,
    hstarted, Option.or_none, changeStatus, CaseRepository.StatusPatch.set,
    StatusUpdate.transitionUpdate, and_self]

/-! ## Time at work -/

/-- The statuses in which a docket is done. They are those of `TERMINAL_STATUS_MAP` of
`utils/docketStateMapper.js`. -/
def isTerminal (status : CaseStatus) : Bool :=
  normalizeStatus status = .RESOLVED || normalizeStatus status = .FILED

/-- The statuses in which a docket is worked on. -/
def isAtWork (status : CaseStatus) : Bool :=
  normalizeStatus status ≠ .PENDING && !isTerminal status

/-- A status change, by the milliseconds since the change before it. -/
structure Change where
  after : ℕ
  newStatus : CaseStatus
  deriving DecidableEq, Repr

/-- A docket in a timed run, and what is measured of the run. -/
structure Timed where
  docket : Docket
  now : ℤ
  /-- The milliseconds that the docket has spent at work. -/
  worked : ℕ := 0
  /-- How often the docket has returned to work: the number of the pauses that are over. -/
  returns : ℕ := 0
  deriving DecidableEq, Repr

namespace Timed

/-- The milliseconds at work, at a time after the last change. -/
def workedAt (s : Timed) (after : ℕ) : ℕ :=
  s.worked + if isAtWork s.docket.status then after else 0

/-- What the clock shows at a time after the last change. -/
def shows (s : Timed) (after : ℕ) : ℕ := getEffectiveTatMinutes s.docket (s.now + after)

end Timed

/-- A status change in a timed run. -/
def step (c : Change) (s : Timed) : Timed where
  docket := changeStatus c.newStatus (s.now + c.after) s.docket
  now := s.now + c.after
  worked := s.workedAt c.after
  returns :=
    s.returns + if !isAtWork s.docket.status && isAtWork c.newStatus then 1 else 0

/-- A docket as it is created, before any change. -/
def created (now : Date) (docket : Docket) : Timed where
  docket := initializeCaseSla now docket
  now := now

/-- The clock of a docket shows the minutes at work, at every later time. -/
structure Conserved (s : Timed) : Prop where
  /-- It never shows more than the time at work. -/
  le : ∀ after, s.shows after ≤ s.workedAt after / 60000
  /-- It loses at most a minute for each pause that is over. -/
  lost : ∀ after, s.workedAt after / 60000 ≤ s.shows after + s.returns
  /-- It never goes back. -/
  mono : ∀ t u, t ≤ u → s.shows t ≤ s.shows u
  /-- It stands still once the docket is done. -/
  stops : isTerminal s.docket.status = true → ∀ after, s.shows after = s.shows 0

/-- A change does not set the clock back. -/
def Keeps (c : Change) (s : Timed) : Prop := s.shows c.after ≤ (step c s).shows 0

/-- The changes that the clock follows. A docket goes to work from work, or by way of `OPEN`, and it
is not filed from work. -/
def Handled (c : Change) (s : Timed) : Prop :=
  (isAtWork c.newStatus = true →
    isAtWork s.docket.status = true ∨ normalizeStatus c.newStatus = .OPEN) ∧
  (normalizeStatus c.newStatus = .FILED → isAtWork s.docket.status = false)

/-! ## What the clock does -/

/-- What relates the clock of a docket to its time at work. The stretches of work that are over have
lost less than a minute each. -/
structure Clocked (s : Timed) : Prop where
  /-- At work, the clock runs since the last return, or since the creation. -/
  running : isAtWork s.docket.status = true → s.docket.tatPaused = false ∧
    ∃ start : ℤ, s.docket.tatLastStartedAt = some start ∧ start ≤ s.now ∧
      60000 * (s.docket.tatAccumulatedMinutes : ℤ) ≤ s.worked - (s.now - start) ∧
      s.worked - (s.now - start) ≤ 60000 * s.docket.tatAccumulatedMinutes + 59999 * s.returns
  /-- Elsewhere it is paused, and one more stretch is over. -/
  stopped : isAtWork s.docket.status = false → s.docket.tatPaused = true ∧
    60000 * s.docket.tatAccumulatedMinutes ≤ s.worked ∧
      s.worked ≤ 60000 * s.docket.tatAccumulatedMinutes + 59999 * (s.returns + 1)

/-- A docket that is created at work is clocked. -/
theorem created_clocked {docket : Docket} (h : isAtWork docket.status = true) (now : Date) :
    Clocked (created now docket) where
  running _ := by
    refine ⟨rfl, now, rfl, Int.le_refl _, ?_, ?_⟩
    · simp [created, initializeCaseSla]
    · simp [created, initializeCaseSla]
  stopped hstopped := by
    have hat : isAtWork docket.status = false := hstopped
    rw [h] at hat
    cases hat

/-! ## What a change does to the clock -/

@[simp] theorem changeStatus_status (newStatus : CaseStatus) (now : Date) (docket : Docket) :
    (changeStatus newStatus now docket).status = newStatus := rfl

/-- A running clock is paused on the way to `PENDING` and `RESOLVED`. -/
theorem changeStatus_pauses {newStatus : CaseStatus} {docket : Docket}
    (hnew : normalizeStatus newStatus = .PENDING ∨ normalizeStatus newStatus = .RESOLVED)
    (hpaused : docket.tatPaused = false) (now : Date) :
    (changeStatus newStatus now docket).tatPaused = true ∧
      (changeStatus newStatus now docket).tatAccumulatedMinutes =
        docket.tatAccumulatedMinutes + computeElapsedMinutes docket.tatLastStartedAt now := by
  unfold changeStatus handleStatusTransition
  rcases hnew with hnew | hnew <;> simp [hnew, hpaused, CaseRepository.StatusPatch.set]

/-- A paused clock is left paused on the way to a status that is not at work. -/
theorem changeStatus_paused {newStatus : CaseStatus} {docket : Docket}
    (hnew : isAtWork newStatus = false) (hpaused : docket.tatPaused = true) (now : Date) :
    (changeStatus newStatus now docket).tatPaused = true ∧
      (changeStatus newStatus now docket).tatAccumulatedMinutes =
        docket.tatAccumulatedMinutes := by
  have hcases : normalizeStatus newStatus = .PENDING ∨ normalizeStatus newStatus = .RESOLVED ∨
      normalizeStatus newStatus = .FILED := by
    simp only [isAtWork, isTerminal] at hnew
    grind
  unfold changeStatus handleStatusTransition
  rcases hcases with hnew | hnew | hnew <;> simp [hnew, hpaused, CaseRepository.StatusPatch.set]

/-- A paused clock starts again on the way to `OPEN`. -/
theorem changeStatus_resumes {newStatus : CaseStatus} {docket : Docket}
    (hnew : normalizeStatus newStatus = .OPEN) (hpaused : docket.tatPaused = true) (now : Date) :
    (changeStatus newStatus now docket).tatPaused = false ∧
      (changeStatus newStatus now docket).tatLastStartedAt = some now ∧
      (changeStatus newStatus now docket).tatAccumulatedMinutes =
        docket.tatAccumulatedMinutes := by
  unfold changeStatus handleStatusTransition
  simp [hnew, hpaused, CaseRepository.StatusPatch.set]

/-- Every other change leaves the clock as it is. -/
theorem changeStatus_leaves {newStatus : CaseStatus} (docket : Docket)
    (hpending : normalizeStatus newStatus ≠ .PENDING)
    (hresolved : normalizeStatus newStatus ≠ .RESOLVED)
    (hopen : normalizeStatus newStatus = .OPEN →
      normalizeStatus docket.status ≠ .PENDING ∧ docket.tatPaused = false) (now : Date) :
    (changeStatus newStatus now docket).tatPaused = docket.tatPaused ∧
      (changeStatus newStatus now docket).tatLastStartedAt = docket.tatLastStartedAt ∧
      (changeStatus newStatus now docket).tatAccumulatedMinutes =
        docket.tatAccumulatedMinutes := by
  unfold changeStatus handleStatusTransition
  by_cases h : normalizeStatus newStatus = .OPEN
  · obtain ⟨hstatus, hpaused⟩ := hopen h
    simp [h, hstatus, hpaused, CaseRepository.StatusPatch.set]
  · simp [h, hpending, hresolved, CaseRepository.StatusPatch.set]

/-- A status at work is neither of those that pause the clock. -/
theorem ne_of_isAtWork {status : CaseStatus} (h : isAtWork status = true) :
    normalizeStatus status ≠ .PENDING ∧ normalizeStatus status ≠ .RESOLVED ∧
      normalizeStatus status ≠ .FILED := by
  simp only [isAtWork, isTerminal] at h
  grind

/-- A change from work to work leaves the clock as it is. -/
theorem changeStatus_atWork {newStatus : CaseStatus} {docket : Docket}
    (hnew : isAtWork newStatus = true) (hat : isAtWork docket.status = true)
    (hpaused : docket.tatPaused = false) (now : Date) :
    (changeStatus newStatus now docket).tatPaused = docket.tatPaused ∧
      (changeStatus newStatus now docket).tatLastStartedAt = docket.tatLastStartedAt ∧
      (changeStatus newStatus now docket).tatAccumulatedMinutes =
        docket.tatAccumulatedMinutes := by
  obtain ⟨hpending, hresolved, -⟩ := ne_of_isAtWork hnew
  exact changeStatus_leaves docket hpending hresolved
    (fun _ => ⟨(ne_of_isAtWork hat).1, hpaused⟩) now

/-! ## The clock along a run -/

/-- What a paused clock shows. -/
theorem shows_of_paused {s : Timed} (h : s.docket.tatPaused = true) (after : ℕ) :
    s.shows after = s.docket.tatAccumulatedMinutes := by
  unfold Timed.shows getEffectiveTatMinutes
  rw [if_pos (Or.inl h)]

/-- What a running clock shows. -/
theorem shows_of_running {s : Timed} {start : ℤ} (h : s.docket.tatPaused = false)
    (hstart : s.docket.tatLastStartedAt = some start) (after : ℕ) :
    s.shows after =
      s.docket.tatAccumulatedMinutes + ((s.now + after - start) / 60000).toNat := by
  unfold Timed.shows getEffectiveTatMinutes computeElapsedMinutes
  rw [if_neg (by simp [h, hstart]), hstart]

/-- A docket that is done is not at work. -/
theorem isAtWork_of_isTerminal {status : CaseStatus} (h : isTerminal status = true) :
    isAtWork status = false := by
  simp [isAtWork, h]

/-- A clocked docket's clock shows its time at work. -/
theorem Clocked.conserved {s : Timed} (h : Clocked s) : Conserved s := by
  cases hat : isAtWork s.docket.status with
  | true =>
    obtain ⟨hpaused, start, hstart, hle, hlo, hhi⟩ := h.running hat
    have hshows := shows_of_running hpaused hstart
    have hworked : ∀ after, s.workedAt after = s.worked + after := by
      intro after
      simp [Timed.workedAt, hat]
    refine ⟨?_, ?_, ?_, ?_⟩
    · intro after
      rw [hshows, hworked]
      omega
    · intro after
      rw [hshows, hworked]
      omega
    · intro t u htu
      rw [hshows, hshows]
      omega
    · intro hterminal
      rw [isAtWork_of_isTerminal hterminal] at hat
      cases hat
  | false =>
    obtain ⟨hpaused, hlo, hhi⟩ := h.stopped hat
    have hshows := shows_of_paused hpaused
    have hworked : ∀ after, s.workedAt after = s.worked := by
      intro after
      simp [Timed.workedAt, hat]
    refine ⟨?_, ?_, ?_, ?_⟩
    · intro after
      rw [hshows, hworked]
      omega
    · intro after
      rw [hshows, hworked]
      omega
    · intro t u _
      rw [hshows, hshows]
    · intro _ after
      rw [hshows, hshows]

/-- A docket at work is clocked when its clock runs, and has counted the stretches before. -/
theorem clocked_of_running {s : Timed} {start : ℤ} (hat : isAtWork s.docket.status = true)
    (hpaused : s.docket.tatPaused = false) (hstart : s.docket.tatLastStartedAt = some start)
    (hle : start ≤ s.now)
    (hlo : 60000 * (s.docket.tatAccumulatedMinutes : ℤ) ≤ s.worked - (s.now - start))
    (hhi : s.worked - (s.now - start) ≤
      60000 * s.docket.tatAccumulatedMinutes + 59999 * s.returns) : Clocked s where
  running _ := ⟨hpaused, start, hstart, hle, hlo, hhi⟩
  stopped h := by
    rw [hat] at h
    cases h

/-- A docket that is not at work is clocked when its clock is paused, and has counted the stretches
before. -/
theorem clocked_of_stopped {s : Timed} (hat : isAtWork s.docket.status = false)
    (hpaused : s.docket.tatPaused = true)
    (hlo : 60000 * s.docket.tatAccumulatedMinutes ≤ s.worked)
    (hhi : s.worked ≤ 60000 * s.docket.tatAccumulatedMinutes + 59999 * (s.returns + 1)) :
    Clocked s where
  running h := by
    rw [hat] at h
    cases h
  stopped _ := ⟨hpaused, hlo, hhi⟩

section step

variable {c : Change} {s : Timed}

/-- A docket stays clocked when it goes on being worked on. -/
theorem Clocked.step_works (h : Clocked s) (hat : isAtWork s.docket.status = true)
    (hnew : isAtWork c.newStatus = true) : Clocked (step c s) := by
  obtain ⟨hpaused, start, hstart, hle, hlo, hhi⟩ := h.running hat
  obtain ⟨hp, hs, ha⟩ := changeStatus_atWork hnew hat hpaused (s.now + c.after)
  have hworked : s.workedAt c.after = s.worked + c.after := by simp [Timed.workedAt, hat]
  refine clocked_of_running hnew (hp.trans hpaused) (hs.trans hstart) ?_ ?_ ?_
  · simp only [step]
    omega
  · simp only [step, ha, hworked]
    omega
  · simp only [step, ha, hworked]
    omega

/-- A docket stays clocked when it is pended or resolved at work. -/
theorem Clocked.step_pauses (h : Clocked s) (hat : isAtWork s.docket.status = true)
    (hnew : normalizeStatus c.newStatus = .PENDING ∨ normalizeStatus c.newStatus = .RESOLVED) :
    Clocked (step c s) := by
  obtain ⟨hpaused, start, hstart, hle, hlo, hhi⟩ := h.running hat
  obtain ⟨hp, ha⟩ := changeStatus_pauses hnew hpaused (s.now + c.after)
  have hrests : isAtWork c.newStatus = false := by
    rcases hnew with hnew | hnew <;> simp [isAtWork, isTerminal, hnew]
  have hworked : s.workedAt c.after = s.worked + c.after := by simp [Timed.workedAt, hat]
  have helapsed : computeElapsedMinutes s.docket.tatLastStartedAt (s.now + c.after) =
      ((s.now + c.after - start) / 60000).toNat := by
    rw [hstart]
    rfl
  rw [helapsed] at ha
  refine clocked_of_stopped hrests hp ?_ ?_
  · simp only [step, ha, hworked]
    omega
  · simp only [step, ha, hworked]
    omega

/-- A docket stays clocked when it returns to work by way of `OPEN`. -/
theorem Clocked.step_resumes (h : Clocked s) (hat : isAtWork s.docket.status = false)
    (hnew : isAtWork c.newStatus = true) (hopen : normalizeStatus c.newStatus = .OPEN) :
    Clocked (step c s) := by
  obtain ⟨hpaused, hlo, hhi⟩ := h.stopped hat
  obtain ⟨hp, hs, ha⟩ := changeStatus_resumes hopen hpaused (s.now + c.after)
  have hworked : s.workedAt c.after = s.worked := by simp [Timed.workedAt, hat]
  refine clocked_of_running hnew hp hs (Int.le_refl _) ?_ ?_
  · simp only [step, ha, hworked]
    omega
  · simp only [step, ha, hworked, hat, hnew]
    simp only [Bool.not_false, Bool.and_self, if_true]
    omega

/-- A docket stays clocked while it is not worked on. -/
theorem Clocked.step_rests (h : Clocked s) (hat : isAtWork s.docket.status = false)
    (hnew : isAtWork c.newStatus = false) : Clocked (step c s) := by
  obtain ⟨hpaused, hlo, hhi⟩ := h.stopped hat
  obtain ⟨hp, ha⟩ := changeStatus_paused hnew hpaused (s.now + c.after)
  have hworked : s.workedAt c.after = s.worked := by simp [Timed.workedAt, hat]
  have hreturns : (step c s).returns = s.returns := by simp [step, hnew]
  refine clocked_of_stopped hnew hp ?_ ?_
  · simp only [step, ha, hworked]
    omega
  · rw [hreturns]
    simp only [step, ha, hworked]
    exact hhi

/-- A change that the clock follows keeps a docket clocked. -/
theorem Clocked.step (h : Clocked s) (hc : Handled c s) : Clocked (step c s) := by
  obtain ⟨hwork, hfiled⟩ := hc
  cases hat : isAtWork s.docket.status with
  | true =>
    cases hnew : isAtWork c.newStatus with
    | true => exact h.step_works hat hnew
    | false =>
      have hcloses : normalizeStatus c.newStatus = .PENDING ∨
          normalizeStatus c.newStatus = .RESOLVED := by
        simp only [isAtWork, isTerminal] at hnew
        grind
      exact h.step_pauses hat hcloses
  | false =>
    cases hnew : isAtWork c.newStatus with
    | true => exact h.step_resumes hat hnew ((hwork hnew).resolve_left (by simp [hat]))
    | false => exact h.step_rests hat hnew

/-- After a change that the clock does not follow, the clock does not show the time at work: it
stands still while the docket is worked on, or it runs on when the docket is filed. -/
theorem Clocked.not_conserved (h : Clocked s) (hc : ¬Handled c s) :
    ¬Conserved (TurnAround.step c s) := by
  intro hconserved
  apply hc
  constructor
  · intro hnew
    by_contra hnot
    obtain ⟨hat, hopen⟩ := not_or.mp hnot
    rw [Bool.not_eq_true] at hat
    obtain ⟨hpaused, -, -⟩ := h.stopped hat
    obtain ⟨hpending, hresolved, -⟩ := ne_of_isAtWork hnew
    obtain ⟨hp, -, ha⟩ := changeStatus_leaves s.docket hpending hresolved
      (fun h => absurd h hopen) (s.now + c.after)
    -- By then the docket has been at work for longer than the clock can account for.
    have hlost := hconserved.lost
      (60000 * (s.docket.tatAccumulatedMinutes + (TurnAround.step c s).returns + 1))
    rw [shows_of_paused (hp.trans hpaused)] at hlost
    simp only [Timed.workedAt, TurnAround.step, changeStatus_status, hnew, if_true, ha] at hlost
    omega
  · intro hfiled
    by_contra hat
    rw [Bool.not_eq_false] at hat
    obtain ⟨hpaused, start, hstart, hle, -, -⟩ := h.running hat
    have hpending : normalizeStatus c.newStatus ≠ .PENDING := by simp [hfiled]
    obtain ⟨hp, hs, ha⟩ := changeStatus_leaves s.docket hpending (by simp [hfiled])
      (by simp [hfiled]) (s.now + c.after)
    have hterminal : isTerminal c.newStatus = true := by simp [isTerminal, hfiled]
    have hstops := hconserved.stops hterminal 60000
    rw [shows_of_running (hp.trans hpaused) (hs.trans hstart),
      shows_of_running (hp.trans hpaused) (hs.trans hstart)] at hstops
    simp only [TurnAround.step] at hstops
    omega

/-- No change sets the clock of a clocked docket back. -/
theorem Clocked.keeps (h : Clocked s) (c : Change) : Keeps c s := by
  unfold Keeps
  cases hat : isAtWork s.docket.status with
  | true =>
    obtain ⟨hpaused, start, hstart, hle, -, -⟩ := h.running hat
    rw [shows_of_running hpaused hstart]
    by_cases hcloses : normalizeStatus c.newStatus = .PENDING ∨
        normalizeStatus c.newStatus = .RESOLVED
    · obtain ⟨hp, ha⟩ := changeStatus_pauses hcloses hpaused (s.now + c.after)
      rw [shows_of_paused hp, show (TurnAround.step c s).docket.tatAccumulatedMinutes = _ from ha,
        hstart]
      exact Nat.le_refl _
    · obtain ⟨hpending, hresolved⟩ := not_or.mp hcloses
      obtain ⟨hp, hs, ha⟩ := changeStatus_leaves s.docket hpending hresolved
        (fun _ => ⟨(ne_of_isAtWork hat).1, hpaused⟩) (s.now + c.after)
      rw [shows_of_running (hp.trans hpaused) (hs.trans hstart)]
      simp only [TurnAround.step, ha]
      omega
  | false =>
    obtain ⟨hpaused, -, -⟩ := h.stopped hat
    rw [shows_of_paused hpaused]
    cases hnew : isAtWork c.newStatus with
    | true =>
      obtain ⟨hpending, hresolved, -⟩ := ne_of_isAtWork hnew
      by_cases hopen : normalizeStatus c.newStatus = .OPEN
      · obtain ⟨hp, hs, ha⟩ := changeStatus_resumes hopen hpaused (s.now + c.after)
        rw [shows_of_running hp hs]
        simp only [TurnAround.step, ha]
        omega
      · obtain ⟨hp, -, ha⟩ := changeStatus_leaves s.docket hpending hresolved
          (fun h => absurd h hopen) (s.now + c.after)
        rw [shows_of_paused (hp.trans hpaused)]
        exact ha.ge
    | false =>
      obtain ⟨hp, ha⟩ := changeStatus_paused hnew hpaused (s.now + c.after)
      rw [shows_of_paused hp]
      exact ha.ge

end step

/-! ## Conservation -/

/-- The turn-around time is conserved along a run: in every state the clock shows the time at work,
and no change sets it back. -/
structure ConservedAlong (changes : List Change) (s : Timed) : Prop where
  clock : ∀ t ∈ s :: states step changes s, Conserved t
  forward : Admits step Keeps changes s

/-- A docket that is not created at work has a clock that runs from the start. -/
theorem isAtWork_of_conserved {now : ℤ} {docket : Docket}
    (h : Conserved (created now docket)) : isAtWork docket.status = true := by
  by_contra hat
  rw [Bool.not_eq_true] at hat
  have hworked : (created now docket).workedAt 60000 = 0 := by
    simp [Timed.workedAt, created, initializeCaseSla, hat]
  have hshows : (created now docket).shows 60000 = 1 := by
    have hminute : (now + 60000 - now) / 60000 = 1 := by omega
    simp only [Timed.shows, getEffectiveTatMinutes, created, initializeCaseSla, Bool.false_eq_true,
      reduceCtorEq, or_self, ↓reduceIte, computeElapsedMinutes, Int.cast_ofNat_Int, hminute,
      Int.toNat_one, Nat.zero_add]
  have hle := h.le 60000
  rw [hworked, hshows] at hle
  omega

/-- The turn-around time is conserved along a run exactly when the docket is created at work, and
the clock follows each change. -/
theorem conserved_iff (now : Date) (docket : Docket) (changes : List Change) :
    ConservedAlong changes (created now docket) ↔
      isAtWork docket.status = true ∧ Admits step Handled changes (created now docket) := by
  have hstep : ∀ c s, Clocked s → Handled c s → Clocked (step c s) := by
    intro c s h hc
    exact h.step hc
  have hprop : ∀ c s, Clocked s → (Conserved (step c s) ↔ Handled c s) := by
    intro c s h
    refine ⟨fun hconserved => ?_, fun hc => (h.step hc).conserved⟩
    by_contra hc
    exact h.not_conserved hc hconserved
  constructor
  · intro h
    have hat := isAtWork_of_conserved (h.clock _ (List.mem_cons_self ..))
    refine ⟨hat, (states_forall_iff hstep hprop changes _ (created_clocked hat now)).mp ?_⟩
    intro t ht
    exact h.clock t (List.mem_cons_of_mem _ ht)
  · rintro ⟨hat, hhandled⟩
    have hclocked := created_clocked hat now
    refine ⟨?_, hhandled.imp hstep (fun c _ h _ => h.keeps c) hclocked⟩
    intro t ht
    rcases List.mem_cons.mp ht with rfl | ht
    · exact hclocked.conserved
    · exact (states_forall_iff hstep hprop changes _ hclocked).mpr hhandled t ht

/-- The way out of `PENDING` that `unpendCase` and `performAutoReopen` take does not start the clock
again, whatever the docket. -/
theorem reopenTarget_not_handled {s : Timed} (h : normalizeStatus s.docket.status = .PENDING)
    (after : ℕ) : ¬Handled ⟨after, CaseAction.reopenTarget s.docket⟩ s := by
  rintro ⟨hwork, -⟩
  have hat : isAtWork s.docket.status = false := by simp [isAtWork, h]
  have htarget : isAtWork (CaseAction.reopenTarget s.docket) = true ∧
      normalizeStatus (CaseAction.reopenTarget s.docket) ≠ .OPEN := by
    unfold CaseAction.reopenTarget
    split_ifs <;> decide
  rcases hwork htarget.1 with hwork | hopen
  · rw [hat] at hwork
    cases hwork
  · exact htarget.2 hopen

/-- A docket that is created unassigned, pended, and reopened with a status. -/
def reopenedWith (status : CaseStatus) : List Change := [⟨0, .PENDING⟩, ⟨0, status⟩]

/-- The time after a reopening is not counted, to whichever status it leads, and the time after a
filing is. -/
theorem conserved_fails :
    ¬ConservedAlong (reopenedWith .ASSIGNED) (created 0 { status := .UNASSIGNED }) ∧
      ¬ConservedAlong (reopenedWith .ROUTED) (created 0 { status := .UNASSIGNED }) ∧
      ¬ConservedAlong (reopenedWith .UNASSIGNED) (created 0 { status := .UNASSIGNED }) ∧
      ¬ConservedAlong [⟨0, .FILED⟩] (created 0 { status := .UNASSIGNED }) := by
  refine ⟨?_, ?_, ?_, ?_⟩ <;> intro h
  · have hlost := (h.clock _ (List.mem_of_mem_getLast? rfl)).lost 120000
    revert hlost
    decide
  · have hlost := (h.clock _ (List.mem_of_mem_getLast? rfl)).lost 120000
    revert hlost
    decide
  · have hlost := (h.clock _ (List.mem_of_mem_getLast? rfl)).lost 120000
    revert hlost
    decide
  · have hstops := (h.clock _ (List.mem_of_mem_getLast? rfl)).stops rfl 60000
    revert hstops
    decide

end Docketra.TurnAround
