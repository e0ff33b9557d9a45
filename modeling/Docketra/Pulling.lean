import Docketra.Lib.Claiming
import Docketra.Assignment
import Docketra.WorkflowSpec

/-!
# Pulling a docket

The four ways to take a docket out of a workbasket are one conditional update each. Whichever
commits first leaves a status that none of the four filters accepts, so that a docket is pulled
once, however many requests there are for it and in whichever order they commit (`pull_atomic`).
-/

namespace Docketra

open Checked Workflow Assignment

/-- A request to pull a docket, or to assign one out of a workbasket. -/
inductive Pull where
  | pullFromWorkbench (req : PullRequest)
  | pullCaseFromWorkbasket (req : PullCaseRequest)
  | bulkAssignCasesToUser (req : BulkAssignRequest)
  | assignDocket (req : AssignDocketRequest)

namespace Pull

/-- The atomic update of a request: the new docket when the request is told that it has won. -/
def attempt : Pull → Docket → Option Docket
  | pullFromWorkbench req, docket => (Workflow.pullFromWorkbench req docket).toOption
  | pullCaseFromWorkbasket req, docket =>
    (Assignment.pullCaseFromWorkbasket req docket).toOption.join
  | bulkAssignCasesToUser req, docket =>
    (Assignment.bulkAssignCasesToUser req docket).toOption.join
  | assignDocket req, docket => (Assignment.assignDocket req docket).toOption.join

/-- The xID that a request is for, as its update stores it. -/
def owner : Pull → String
  | pullFromWorkbench req => castXID req.assigneeXID
  | pullCaseFromWorkbasket req => toUpperCase req.userId
  | bulkAssignCasesToUser req => toUpperCase req.xID
  | assignDocket req => castXID req.userXID

/-- The filter of a request, beside the docket's identifiers. -/
def filter : Pull → Docket → Bool
  | pullFromWorkbench _, docket => pullFilter docket
  | pullCaseFromWorkbasket _, docket => unownedFilter docket
  | bulkAssignCasesToUser _, docket => unownedFilter docket && !docket.lockStatus.isLocked
  | assignDocket _, docket => assignDocketFilter docket

/-- The statuses that a pull leaves a docket in. -/
def pulled (status : CaseStatus) : Bool := status = .ASSIGNED || status = .ROUTED_ASSIGNED

/-- An assignment leaves a docket in a status of pulled dockets. -/
theorem pulled_assignedStatus (docket : Docket) : pulled (assignedStatus docket) = true := by
  unfold assignedStatus
  split_ifs <;> rfl

/-- What a request that wins has done: its filter has accepted the docket, which now has the
request's owner, in a status of pulled dockets. -/
theorem attempt_eq_some {p : Pull} {docket t : Docket} (h : p.attempt docket = some t) :
    p.filter docket = true ∧ t.assignedToXID = some p.owner ∧ pulled t.status = true := by
  cases p with
  | pullFromWorkbench req =>
    obtain ⟨-, hfilter, rfl⟩ := pullFromWorkbench_eq_ok.mp (toOption_eq_some.mp h)
    exact ⟨hfilter, rfl, rfl⟩
  | pullCaseFromWorkbasket req =>
    obtain ⟨-, hfilter, rfl⟩ := pullCaseFromWorkbasket_eq_some.mp (toOption_join_eq_some.mp h)
    exact ⟨hfilter, rfl, pulled_assignedStatus docket⟩
  | bulkAssignCasesToUser req =>
    obtain ⟨-, hfilter, hlock, rfl⟩ :=
      bulkAssignCasesToUser_eq_some.mp (toOption_join_eq_some.mp h)
    exact ⟨by simp [filter, hfilter, hlock], rfl, pulled_assignedStatus docket⟩
  | assignDocket req =>
    obtain ⟨-, hfilter, rfl⟩ := assignDocket_eq_some.mp (toOption_join_eq_some.mp h)
    exact ⟨hfilter, rfl, pulled_assignedStatus docket⟩

/-- No filter accepts a docket that has been pulled, or one that has an owner. -/
theorem filter_eq_false {p : Pull} {docket : Docket}
    (h : pulled docket.status = true ∨ truthy docket.assignedToXID = true) :
    p.filter docket = false := by
  rcases h with hpulled | howner
  -- The filters accept `UNASSIGNED`, `ROUTED`, and `OPEN`, of which a pull leaves none.
  · rcases (by simpa [pulled] using hpulled :
        docket.status = .ASSIGNED ∨ docket.status = .ROUTED_ASSIGNED) with hstatus | hstatus <;>
      cases p <;>
      simp [filter, pullFilter, unownedFilter, assignDocketFilter, hstatus, toPersistenceState]
  · have hnone : docket.assignedToXID ≠ none := by
      rintro hnone
      simp [hnone] at howner
    cases p <;> simp [filter, pullFilter, unownedFilter, assignDocketFilter, hnone, howner]

/-- A docket that has been pulled, or that has an owner, refuses every request. -/
theorem refuses {docket : Docket}
    (h : pulled docket.status = true ∨ truthy docket.assignedToXID = true) :
    Claiming.Refuses attempt docket := by
  intro p
  cases hp : p.attempt docket with
  | none => rfl
  | some t =>
    have hfilter := (attempt_eq_some hp).1
    rw [filter_eq_false h] at hfilter
    cases hfilter

end Pull

/-- Of any number of requests for a docket, in any order of their updates, one wins at most, the
docket then has the winner's owner, and no further request changes a docket that has an owner. -/
theorem pull_atomic (docket : Docket) (requests : List Pull) :
    (Claiming.winners Pull.attempt requests docket).length ≤ 1 ∧
      (∀ p ∈ Claiming.winners Pull.attempt requests docket,
        (Claiming.run Pull.attempt requests docket).assignedToXID = some p.owner) ∧
      ∀ owned : Docket, truthy owned.assignedToXID = true →
        Claiming.winners Pull.attempt requests owned = [] ∧
          Claiming.run Pull.attempt requests owned = owned := by
  have hwon : ∀ p d t, Pull.attempt p d = some t → Claiming.Refuses Pull.attempt t :=
    fun p d t h => Pull.refuses (.inl (Pull.attempt_eq_some h).2.2)
  refine ⟨?_, ?_, fun owned howned => ?_⟩
  · rcases Claiming.winners_spec hwon requests docket with ⟨hwinners, -⟩ | ⟨p, -, hwinners, -⟩
    · simp [hwinners]
    · simp [hwinners]
  · intro p hp
    rcases Claiming.winners_spec hwon requests docket with ⟨hwinners, -⟩ | ⟨q, -, hwinners, hq⟩
    · simp [hwinners] at hp
    · obtain rfl : p = q := by simpa [hwinners] using hp
      exact (Pull.attempt_eq_some hq).2.1
  · have hrefuses := Pull.refuses (.inr howned)
    exact ⟨hrefuses.winners requests, hrefuses.run requests⟩

/-- Two users pull a docket from its workbasket, each through another service: the second is told
that it is taken. -/
theorem pull_atomic_two :
    (Claiming.run Pull.attempt
      [.pullCaseFromWorkbasket { now := 0, userId := "x000001" },
        .pullFromWorkbench { now := 1, userId := "x000002" }]
      { status := .UNASSIGNED }).assignedToXID = some "X000001" :=
  (pull_atomic { status := .UNASSIGNED }
    [.pullCaseFromWorkbasket { now := 0, userId := "x000001" },
      .pullFromWorkbench { now := 1, userId := "x000002" }]).2.1
    (.pullCaseFromWorkbasket { now := 0, userId := "x000001" }) List.mem_cons_self

end Docketra
