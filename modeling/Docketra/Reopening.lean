import Docketra.Lib.StaleWrites
import Docketra.CaseAction
import Docketra.Workflow

/-!
# The background jobs among other operations

The four jobs that move dockets on their own read a docket, do other things, and then write it by
its `_id`, whatever it holds by then. A job therefore overwrites a change made in between, unless
the docket already carries what the job writes (`jobs_leave_iff`).
-/

namespace Docketra.Reopening

open Workflow StaleWrites

/-- The jobs, with the time that they write, or the lookups that they make. -/
inductive Job where
  | reopenDuePending (now : Date)
  | reopenDocketFromClientEmail (now : Date)
  | processExpiredPendedDockets (now : Date)
  | handleUserDeactivation (env : Lookups) (userXID : String)

/-- The dockets that a job reads in order to write. -/
def Job.selects : Job → Docket → Bool
  | .reopenDuePending now, docket => reopenDuePendingSelects now docket
  | .reopenDocketFromClientEmail _, docket => docket.status = toPersistenceState .PENDING
  | .processExpiredPendedDockets _, docket => docket.status = toPersistenceState .PENDING
  | .handleUserDeactivation env userXID, docket =>
    handleUserDeactivationSelects userXID docket && (mappedWorkbasket env docket).isSome

/-- What a job goes by: the status, and the deactivation of a user the owner too. -/
def Job.key : Job → Docket → CaseStatus × Option String
  | .handleUserDeactivation _ _, docket => (docket.status, docket.assignedToXID)
  | _, docket => (docket.status, none)

/-- What a job writes. -/
def Job.write : Job → Docket → Docket → Docket
  | .reopenDuePending now, read, stored => reopenDuePendingWrite now read stored
  | .reopenDocketFromClientEmail now, read, stored =>
    reopenDocketFromClientEmailWrite now read stored
  | .processExpiredPendedDockets now, read, stored =>
    processExpiredPendedDocketsWrite now read stored
  | .handleUserDeactivation env _, read, stored =>
    match mappedWorkbasket env read with
    | some mappedWb => handleUserDeactivationWrite mappedWb stored
    | none => stored

/-- The jobs as readers and writers of one docket. -/
def jobs : Protocol Docket (CaseStatus × Option String) Job where
  selects := Job.selects
  key := Job.key
  write := Job.write

/-! ## The dockets that a write leaves as they are -/

/-- The docket carries what the reopening jobs set alike. -/
structure CarriesReopened (now : Date) (status : CaseStatus) (state : DocketState)
    (queueType : QueueType) (stored : Docket) : Prop where
  lifecycle : stored.lifecycle = .state .ACTIVE
  status : stored.status = status
  state : stored.state = some state
  queueType : stored.queueType = queueType
  reopenAt : stored.reopenAt = none
  pendingUntil : stored.pendingUntil = none
  lastActionAt : stored.lastActionAt = some now
  lastActionByXID : stored.lastActionByXID = some "SYSTEM"

/-- The state that a reopened docket goes to, by its ownership. -/
def reopenedState (read : Docket) : DocketState :=
  if hasText read.assignedToXID then .IN_PROGRESS else .IN_WB

/-- The queue that a reopened docket goes to, by its ownership. -/
def reopenedQueue (read : Docket) : QueueType :=
  if hasText read.assignedToXID then .PERSONAL else .GLOBAL

/-- The docket carries what the write of a job clears: the outcome of the quality check, and the
owner of a docket that was read without one. -/
structure CarriesCleared (read stored : Docket) : Prop where
  qcOutcome : stored.qcOutcome = none
  owner : hasText read.assignedToXID = false →
    stored.assignedToXID = none ∧ stored.assignedTo = none

/-- The docket carries what `handleUserDeactivation` sets. -/
structure CarriesDeactivated (mappedWb : Option ObjectId) (stored : Docket) : Prop where
  assignedToXID : stored.assignedToXID = none
  assignedTo : stored.assignedTo = none
  assignedBy : stored.assignedBy = none
  assignedAt : stored.assignedAt = none
  queueType : stored.queueType = .GLOBAL
  state : stored.state = some .IN_WB
  status : stored.status = .UNASSIGNED
  ownerTeamId : stored.ownerTeamId = mappedWb
  workbasketId : stored.workbasketId = mappedWb
  qcOutcome : stored.qcOutcome = none

/-- The docket carries what a job writes for the docket that it has read. -/
def Job.Carries : Job → Docket → Docket → Prop
  | .reopenDuePending now, read, stored =>
    CarriesReopened now (CaseAction.reopenTarget read) (reopenedState read) (reopenedQueue read)
      stored ∧ CarriesCleared read stored
  | .reopenDocketFromClientEmail now, read, stored =>
    CarriesReopened now (reopenedStatus read) (reopenedState read) (reopenedQueue read) stored ∧
      CarriesCleared read stored
  | .processExpiredPendedDockets now, read, stored =>
    CarriesReopened now (reopenedStatus read) (reopenedState read) (reopenedQueue read) stored
  | .handleUserDeactivation env _, read, stored =>
    CarriesDeactivated (mappedWorkbasket env read) stored

/-- What all the reopening jobs set changes nothing of a docket that carries it. -/
theorem reopenWrite_eq_self_iff {now : Date} {status : CaseStatus} {state : DocketState}
    {queueType : QueueType} {stored : Docket} :
    reopenWrite now status state queueType stored = stored ↔
      CarriesReopened now status state queueType stored := by
  constructor
  · intro h
    rw [← h]
    exact ⟨rfl, rfl, rfl, rfl, rfl, rfl, rfl, rfl⟩
  · rintro ⟨h₁, h₂, h₃, h₄, h₅, h₆, h₇, h₈⟩
    cases stored
    simp_all [reopenWrite]

/-- What a write of `processExpiredPendedDockets` sets, by ownership. -/
theorem processExpiredPendedDocketsWrite_eq (now : Date) (read stored : Docket) :
    processExpiredPendedDocketsWrite now read stored =
      reopenWrite now (reopenedStatus read) (reopenedState read) (reopenedQueue read) stored := by
  by_cases howner : hasText read.assignedToXID = true <;>
    simp [processExpiredPendedDocketsWrite, reopenedState, reopenedQueue, howner]

/-- The write of a job that also clears the outcome of the quality check, and the owner of a docket
that was read without one. -/
def clearingWrite (now : Date) (status : CaseStatus) (state : DocketState) (queueType : QueueType)
    (read stored : Docket) : Docket :=
  if hasText read.assignedToXID then
    { reopenWrite now status state queueType stored with qcOutcome := none }
  else
    { reopenWrite now status state queueType stored with
      qcOutcome := none
      assignedToXID := none
      assignedTo := none }

theorem reopenDuePendingWrite_eq (now : Date) (read stored : Docket) :
    reopenDuePendingWrite now read stored =
      clearingWrite now (CaseAction.reopenTarget read) (reopenedState read) (reopenedQueue read)
        read stored := by
  by_cases howner : hasText read.assignedToXID = true <;>
    simp [reopenDuePendingWrite, clearingWrite, CaseAction.reopenTarget, reopenedState,
      reopenedQueue, howner]

theorem reopenDocketFromClientEmailWrite_eq (now : Date) (read stored : Docket) :
    reopenDocketFromClientEmailWrite now read stored =
      clearingWrite now (reopenedStatus read) (reopenedState read) (reopenedQueue read) read
        stored := by
  simp only [reopenDocketFromClientEmailWrite, processExpiredPendedDocketsWrite_eq, clearingWrite]

/-- A write that clears what the jobs clear changes nothing of a docket that carries it all. -/
theorem clearingWrite_eq_self_iff {now : Date} {status : CaseStatus} {state : DocketState}
    {queueType : QueueType} {read stored : Docket} :
    clearingWrite now status state queueType read stored = stored ↔
      CarriesReopened now status state queueType stored ∧ CarriesCleared read stored := by
  unfold clearingWrite
  by_cases howner : hasText read.assignedToXID = true
  · simp only [howner, if_true]
    constructor
    · intro h
      rw [← h]
      exact ⟨⟨rfl, rfl, rfl, rfl, rfl, rfl, rfl, rfl⟩, rfl, fun hn => by simp [howner] at hn⟩
    · rintro ⟨hreopened, hcleared⟩
      rw [reopenWrite_eq_self_iff.mpr hreopened, ← hcleared.qcOutcome]
  · simp only [howner]
    constructor
    · intro h
      rw [← h]
      exact ⟨⟨rfl, rfl, rfl, rfl, rfl, rfl, rfl, rfl⟩, rfl, fun _ => ⟨rfl, rfl⟩⟩
    · rintro ⟨hreopened, hcleared⟩
      obtain ⟨hxid, hto⟩ := hcleared.owner (by simpa using howner)
      have hqc := hcleared.qcOutcome
      rw [reopenWrite_eq_self_iff.mpr hreopened]
      cases stored
      simp_all

theorem handleUserDeactivationWrite_eq_self_iff {mappedWb : ObjectId} {stored : Docket} :
    handleUserDeactivationWrite mappedWb stored = stored ↔
      CarriesDeactivated (some mappedWb) stored := by
  constructor
  · intro h
    rw [← h]
    exact ⟨rfl, rfl, rfl, rfl, rfl, rfl, rfl, rfl, rfl, rfl⟩
  · rintro ⟨h₁, h₂, h₃, h₄, h₅, h₆, h₇, h₈, h₉, h₁₀⟩
    cases stored
    simp_all [handleUserDeactivationWrite, toPersistenceState]

/-- A job's write leaves a docket exactly when the docket carries what the job writes. -/
theorem Job.write_eq_self_iff (job : Job) (read stored : Docket)
    (hread : job.selects read = true) : job.write read stored = stored ↔ job.Carries read stored := by
  cases job with
  | reopenDuePending now =>
    rw [Job.write, reopenDuePendingWrite_eq]
    exact clearingWrite_eq_self_iff
  | reopenDocketFromClientEmail now =>
    rw [Job.write, reopenDocketFromClientEmailWrite_eq]
    exact clearingWrite_eq_self_iff
  | processExpiredPendedDockets now =>
    rw [Job.write, processExpiredPendedDocketsWrite_eq]
    exact reopenWrite_eq_self_iff
  | handleUserDeactivation env userXID =>
    obtain ⟨mappedWb, hmapped⟩ : ∃ mappedWb, mappedWorkbasket env read = some mappedWb :=
      Option.isSome_iff_exists.mp (by simp_all [Job.selects])
    simp only [Job.write, Job.Carries, hmapped]
    exact handleUserDeactivationWrite_eq_self_iff

/-! ## Runs of jobs and other operations -/

/-- A run leaves every change that overtakes a job, exactly when at each write of an overtaken job
the docket carries already what the job writes. -/
theorem jobs_leave_iff (events : List (Event Docket Job)) (docket : Docket) :
    Runs.Admits (step jobs) (AtWrites (Leaves jobs)) events { stored := docket } ↔
      Runs.Admits (step jobs)
        (AtWrites fun e stored => e.overtaken = true → e.job.Carries e.read stored)
        events { stored := docket } :=
  leaves_iff Job.write_eq_self_iff events docket

/-- The statuses that the jobs move a docket to. -/
def reopens (status : CaseStatus) : Bool :=
  status = .ASSIGNED || status = .ROUTED || status = .UNASSIGNED || status = .IN_PROGRESS

/-- A docket that carries what a job writes has been put back to work. So a job that is overtaken by
a resolution or a filing undoes it. -/
theorem Job.Carries.reopens {job : Job} {read stored : Docket} (h : job.Carries read stored) :
    reopens stored.status = true := by
  cases job with
  | reopenDuePending now =>
    rw [h.1.status]
    unfold CaseAction.reopenTarget
    split_ifs <;> rfl
  | reopenDocketFromClientEmail now =>
    rw [h.1.status]
    unfold reopenedStatus
    split_ifs <;> rfl
  | processExpiredPendedDockets now =>
    rw [CarriesReopened.status h]
    unfold reopenedStatus
    split_ifs <;> rfl
  | handleUserDeactivation env userXID =>
    rw [CarriesDeactivated.status h]
    rfl

/-- A pending docket whose date has come. -/
def dueDocket : Docket where
  status := .PENDING
  state := some .PENDED
  lifecycle := .state .WAITING
  queueType := .PERSONAL
  assignedToXID := some "X000001"
  pendingReason := some "waiting_client"
  pendingUntil := some 10

/-- The owner's request to file the docket. -/
def fileRequest : CaseAction.ActionRequest where
  now := 11
  user := { xID := some "X000001" }
  comment := "Nothing more to do"

/-- Between the read of `reopenDuePending` and its write, the client answers, which reopens the
docket, and the owner files it. -/
def filedBetween : List (Event Docket Job) :=
  [.read (.reopenDuePending 11), .update (reopenDocketFromClientEmail 11),
    .update fun docket => Checked.settle (CaseAction.fileCase fileRequest docket) docket]

/-- The job puts the filed docket back into the worklist. -/
theorem jobs_overwrite :
    (Runs.run (step jobs) filedBetween { stored := dueDocket }).stored.status = .FILED ∧
      (Runs.run (step jobs) (filedBetween ++ [.write 0]) { stored := dueDocket }).stored.status =
        .ASSIGNED ∧
      ¬Runs.Admits (step jobs) (AtWrites (Leaves jobs)) (filedBetween ++ [.write 0])
        { stored := dueDocket } := by
  refine ⟨by decide, by decide, ?_⟩
  rintro ⟨-, -, -, hleaves, -⟩
  exact absurd (congrArg Docket.status (hleaves _ rfl rfl)) (by decide)

end Docketra.Reopening
