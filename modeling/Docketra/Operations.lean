import Docketra.Lib.Runs
import Docketra.Assignment
import Docketra.Routing
import Docketra.StatusUpdate
import Docketra.Workflow

/-!
# Operations on a docket

The operations of the services, each with its arguments, as steps of one docket: `apply` is the
document stored after the operation. An operation that fails, or whose query does not select the
docket, leaves it as it is. The lookups that an operation makes in other collections are among its
arguments, so a run may see them change.
-/

namespace Docketra

open Checked

/-- The operations of the workflow and of the assignment service. -/
inductive WorkflowOperation where
  | pullFromWorkbench (req : Workflow.PullRequest)
  | transition (env : Workflow.Lookups) (req : Workflow.TransitionRequest)
  | qcDecision (req : Workflow.QcDecisionRequest)
  | reassign (req : Workflow.ReassignRequest)
  | activateOnOpen (now : Date) (actor : Actor)
  | handleUserDeactivation (env : Workflow.Lookups) (userXID : String)
  | reopenDuePending (now : Date)
  | reopenDocketFromClientEmail (now : Date)
  | pullCaseFromWorkbasket (req : Assignment.PullCaseRequest)
  | bulkAssignCasesToUser (req : Assignment.BulkAssignRequest)
  | assignDocket (req : Assignment.AssignDocketRequest)
  | unassignDocket

/-- The document after a conditional update: the new one, or, when the filter does not match or the
call fails, the old one. -/
def updated (r : Except Failure (Option Docket)) (docket : Docket) : Docket :=
  settle (r.map (·.getD docket)) docket

/-- The document stored after an operation. -/
def WorkflowOperation.apply : WorkflowOperation → Docket → Docket
  | .pullFromWorkbench req, docket => settle (Workflow.pullFromWorkbench req docket) docket
  | .transition env req, docket => settle (Workflow.transition env req docket) docket
  | .qcDecision req, docket => settle (Workflow.qcDecision req docket) docket
  | .reassign req, docket => settle (Workflow.reassign req docket) docket
  | .activateOnOpen now actor, docket => settle (Workflow.activateOnOpen now actor docket) docket
  | .handleUserDeactivation env userXID, docket =>
    Workflow.handleUserDeactivation env userXID docket
  | .reopenDuePending now, docket => Workflow.reopenDuePending now docket
  | .reopenDocketFromClientEmail now, docket => Workflow.reopenDocketFromClientEmail now docket
  | .pullCaseFromWorkbasket req, docket =>
    updated (Assignment.pullCaseFromWorkbasket req docket) docket
  | .bulkAssignCasesToUser req, docket =>
    updated (Assignment.bulkAssignCasesToUser req docket) docket
  | .assignDocket req, docket => updated (Assignment.assignDocket req docket) docket
  | .unassignDocket, docket => (Assignment.unassignDocket docket).getD docket

/-- The operations of the routing service. -/
inductive RoutingOperation where
  | routeDocket (primaryTeam : ObjectId → Bool) (req : Routing.RouteRequest)
  | acceptRoutedDocket (actor : Actor)
  | returnRoutedDocket (req : Routing.ReturnRequest)
  | transitionRoutedTeamStatus (actor : Actor) (status : CaseStatus)
  | resolveDocketWithTeamRestriction (actor : Actor)
  | managerMoveDocket (teamUser : String → Option ObjectId → Bool) (actor : Actor)
      (target : Routing.MoveTarget)

/-- What an operation of the routing service returns. -/
def RoutingOperation.result : RoutingOperation → Docket → Except Failure Docket
  | .routeDocket primaryTeam req => Routing.routeDocket primaryTeam req
  | .acceptRoutedDocket actor => Routing.acceptRoutedDocket actor
  | .returnRoutedDocket req => Routing.returnRoutedDocket req
  | .transitionRoutedTeamStatus actor status => Routing.transitionRoutedTeamStatus actor status
  | .resolveDocketWithTeamRestriction actor => Routing.resolveDocketWithTeamRestriction actor
  | .managerMoveDocket teamUser actor target => Routing.managerMoveDocket teamUser actor target

/-- The document stored after an operation. -/
def RoutingOperation.apply (op : RoutingOperation) (docket : Docket) : Docket :=
  settle (op.result docket) docket

/-- The operations of the four services that move a docket. -/
inductive Operation where
  | workflow (op : WorkflowOperation)
  | routing (op : RoutingOperation)
  | reassignCase (now : Date) (newUserXID : String) (performedBy : Actor)
  | transitionDocket (opts : StatusUpdate.TransitionOptions)

/-- The document stored after an operation. -/
def Operation.apply : Operation → Docket → Docket
  | .workflow op, docket => op.apply docket
  | .routing op, docket => op.apply docket
  | .reassignCase now newUserXID performedBy, docket =>
    settle (Assignment.reassignCase now newUserXID performedBy docket) docket
  | .transitionDocket opts, docket => settle (StatusUpdate.transitionDocket opts docket) docket

/-- What holds of a docket, and of what a conditional update makes of it, holds after it. -/
theorem updated_induction {P : Docket → Prop} {r : Except Failure (Option Docket)}
    {docket : Docket} (hd : P docket) (hr : ∀ t, r = .ok (some t) → P t) :
    P (updated r docket) := by
  rcases r with e | _ | t
  · exact hd
  · exact hd
  · exact hr t rfl

/-- When a docket satisfies `P`, it does after a conditional update exactly when what the update
makes of it does. -/
theorem updated_iff {P : Docket → Prop} {r : Except Failure (Option Docket)} {docket : Docket}
    (hd : P docket) : P (updated r docket) ↔ ∀ t, r = .ok (some t) → P t := by
  refine ⟨?_, updated_induction hd⟩
  rintro h t rfl
  exact h

end Docketra
