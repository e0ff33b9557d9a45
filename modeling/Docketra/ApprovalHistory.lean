import Docketra.ComplianceStates

/-!
# The history of approvals

`decideApproval` adds the stage that it closes to `approval_history`. `requestApproval` adds the
stage that it replaces, which is a closed one, so it is added a second time. A run of the two has one
entry for each decision exactly when it makes no request after a decision (`exact_iff`). The
decisions are recorded beside the docket, from the arguments of the calls.
-/

namespace Docketra.ComplianceStates

open Checked Runs

/-! ## The record of the decisions -/

inductive ApprovalCall where
  | requestApproval (req : ApprovalRequest)
  | decideApproval (req : Decision)

/-- What an entry tells of a decision. -/
structure ApprovalEntry where
  approval_type : Option ApprovalType
  requested_by : Option String
  approver : Option String
  decision : Option ApprovalStatus
  deriving DecidableEq, Repr

/-- What an entry of `approval_history` tells. -/
def ApprovalSnapshot.entry (snapshot : ApprovalSnapshot) : ApprovalEntry where
  approval_type := snapshot.stage.approval_type
  requested_by := snapshot.stage.requested_by
  approver := snapshot.stage.approver
  decision := snapshot.stage.status

/-- A name, as `normalizeXid` leaves it. -/
def nameOf (xid : String) : Option String := (some (normalizeXid xid)).filter (· ≠ "")

/-- A docket, with the request that is open and the decisions so far. -/
structure Recorded where
  docket : ComplianceDocket
  pending : Option ApprovalRequest := none
  decisions : List ApprovalEntry := []

section calls

-- `String.prototype.toLowerCase`
variable (lowerCase : String → String)

/-- The entry for a request and the decision on it. -/
def entryOf (req : ApprovalRequest) (decision : Decision) : ApprovalEntry where
  approval_type := approvalTypeOf lowerCase req.approvalType
  requested_by := nameOf req.requestedByXID
  approver := nameOf req.approverXID
  decision := decisionOf lowerCase decision.decision

/-- A call, with the record of its success. -/
def record : ApprovalCall → Recorded → Recorded
  | .requestApproval req, s =>
    match requestApproval lowerCase req s.docket with
    | .error _ => s
    | .ok docket => { s with docket := docket, pending := some req }
  | .decideApproval req, s =>
    match decideApproval lowerCase req s.docket with
    | .error _ => s
    | .ok docket =>
      { docket := docket
        pending := none
        decisions := s.decisions ++ (s.pending.map fun open_ => entryOf lowerCase open_ req).toList }

/-- The history tells of the decisions, of each once, in their order. -/
def Exact (s : Recorded) : Prop := s.docket.approval_history.map (·.entry) = s.decisions

/-- A call is no request that is accepted after a decision. -/
def NotAgain : ApprovalCall → Recorded → Prop
  | .requestApproval req, s => s.docket.approval_stage.status.isSome = true →
    ∀ approvalType, ¬RequestAccepted lowerCase req approvalType s.docket
  | .decideApproval _, _ => True

/-- The stage is that of the request that is open. -/
def Open (s : Recorded) : Prop :=
  s.docket.approval_stage.status = some .pending → ∃ req approvalType, s.pending = some req ∧
    approvalTypeOf lowerCase req.approvalType = some approvalType ∧
    s.docket.approval_stage = requestedStage req approvalType

/-! ## One call -/

variable {lowerCase}

/-- A request is refused, or opens its stage, and adds the one that it replaces. -/
theorem record_requestApproval (req : ApprovalRequest) (s : Recorded) :
    (record lowerCase (.requestApproval req) s = s ∧
        ∀ approvalType, ¬RequestAccepted lowerCase req approvalType s.docket) ∨
      ∃ approvalType, RequestAccepted lowerCase req approvalType s.docket ∧
        record lowerCase (.requestApproval req) s =
          { s with
            docket := { requested req approvalType s.docket with
              toDocket := s.docket.toDocket.saved }
            pending := some req } := by
  dsimp only [record]
  cases hanswer : requestApproval lowerCase req s.docket with
  | error e =>
    refine Or.inl ⟨rfl, fun approvalType haccepted => ?_⟩
    have hok := (requestApproval_eq_ok lowerCase).mpr ⟨approvalType, haccepted, rfl⟩
    cases hanswer.symm.trans hok
  | ok t =>
    obtain ⟨approvalType, haccepted, rfl⟩ := (requestApproval_eq_ok lowerCase).mp hanswer
    exact Or.inr ⟨approvalType, haccepted, rfl⟩

/-- A decision is refused, or closes the stage and adds it. -/
theorem record_decideApproval (req : Decision) (s : Recorded) :
    record lowerCase (.decideApproval req) s = s ∨
      ∃ decision, DecisionAccepted lowerCase req decision s.docket ∧
        record lowerCase (.decideApproval req) s =
          { docket := { decided req decision s.docket with toDocket := s.docket.toDocket.saved }
            pending := none
            decisions := s.decisions ++
              (s.pending.map fun open_ => entryOf lowerCase open_ req).toList } := by
  dsimp only [record]
  cases hanswer : decideApproval lowerCase req s.docket with
  | error e => exact Or.inl rfl
  | ok t =>
    obtain ⟨decision, haccepted, rfl⟩ := (decideApproval_eq_ok lowerCase).mp hanswer
    exact Or.inr ⟨decision, haccepted, rfl⟩

theorem decisionOf_ne_pending (word : String) : decisionOf lowerCase word ≠ some .pending := by
  unfold decisionOf
  dsimp only
  split_ifs <;> exact fun h => nomatch h

/-- The entry of a decision is that of the request that it closes. -/
theorem entry_decidedStage {req : ApprovalRequest} {approvalType : ApprovalType}
    {decision : Decision} {status : ApprovalStatus}
    (htype : approvalTypeOf lowerCase req.approvalType = some approvalType)
    (hstatus : decisionOf lowerCase decision.decision = some status) :
    (snapshotApprovalStage decision.now
      (decidedStage decision status (requestedStage req approvalType))).entry =
        entryOf lowerCase req decision := by
  simp only [ApprovalSnapshot.entry, snapshotApprovalStage, decidedStage, requestedStage, entryOf,
    nameOf, htype, hstatus]

/-! ## Runs -/

theorem open_record (call : ApprovalCall) (s : Recorded) (h : Open lowerCase s) :
    Open lowerCase (record lowerCase call s) := by
  cases call with
  | requestApproval req =>
    obtain ⟨hsame, -⟩ | ⟨approvalType, haccepted, hnext⟩ := record_requestApproval req s
    · rw [hsame]
      exact h
    · rw [hnext]
      exact fun _ => ⟨req, approvalType, rfl, haccepted.type, rfl⟩
  | decideApproval req =>
    obtain hsame | ⟨decision, haccepted, hnext⟩ := record_decideApproval req s
    · rw [hsame]
      exact h
    · rw [hnext]
      intro hpending
      exact absurd (haccepted.given.trans hpending) (decisionOf_ne_pending req.decision)

/-- A call that does not ask again keeps the history exact. -/
theorem exact_record {call : ApprovalCall} {s : Recorded} (hopen : Open lowerCase s)
    (hexact : Exact s) (h : NotAgain lowerCase call s) : Exact (record lowerCase call s) := by
  cases call with
  | requestApproval req =>
    obtain ⟨hsame, -⟩ | ⟨approvalType, haccepted, hnext⟩ := record_requestApproval req s
    · rw [hsame]
      exact hexact
    · rw [hnext]
      have hnone : ¬s.docket.approval_stage.status.isSome = true :=
        fun hsome => h hsome approvalType haccepted
      change (s.docket.approval_history ++ if s.docket.approval_stage.status.isSome then _ else
        []).map _ = s.decisions
      rw [if_neg hnone, List.append_nil]
      exact hexact
  | decideApproval req =>
    obtain hsame | ⟨decision, haccepted, hnext⟩ := record_decideApproval req s
    · rw [hsame]
      exact hexact
    · obtain ⟨asked, approvalType, hasked, htype, hstage⟩ := hopen haccepted.pending
      rw [hnext, hasked]
      change (s.docket.approval_history ++ [snapshotApprovalStage req.now
        (decidedStage req decision s.docket.approval_stage)]).map _ =
          s.decisions ++ [entryOf lowerCase asked req]
      rw [hstage, List.map_append, List.map_singleton, entry_decidedStage htype haccepted.given,
        hexact]

/-- The history is longer than the decisions. -/
def Repeated (s : Recorded) : Prop := s.decisions.length < s.docket.approval_history.length

theorem not_exact_of_repeated {s : Recorded} (h : Repeated s) : ¬Exact s := by
  intro hexact
  have hlength : s.docket.approval_history.length = s.decisions.length := by
    rw [← hexact, List.length_map]
  unfold Repeated at h
  omega

/-- A request that is accepted after a decision repeats it. -/
theorem repeated_of_again {call : ApprovalCall} {s : Recorded} (hexact : Exact s)
    (h : ¬NotAgain lowerCase call s) : Repeated (record lowerCase call s) := by
  cases call with
  | requestApproval req =>
    obtain ⟨-, hrefused⟩ | ⟨approvalType, haccepted, hnext⟩ := record_requestApproval req s
    · exact absurd (fun _ => hrefused) h
    · rw [hnext]
      have hsome : s.docket.approval_stage.status.isSome = true := by
        by_contra hnone
        exact h fun hsome => absurd hsome hnone
      have hlength : s.docket.approval_history.length = s.decisions.length := by
        rw [← hexact, List.length_map]
      change s.decisions.length < (s.docket.approval_history ++
        if s.docket.approval_stage.status.isSome then _ else []).length
      rw [if_pos hsome, List.length_append, List.length_singleton]
      omega
  | decideApproval req => exact absurd trivial h

/-- No call takes an entry away, and each decision comes with one. -/
theorem repeated_record (call : ApprovalCall) (s : Recorded) (h : Repeated s) :
    Repeated (record lowerCase call s) := by
  unfold Repeated at h
  cases call with
  | requestApproval req =>
    obtain ⟨hsame, -⟩ | ⟨approvalType, haccepted, hnext⟩ := record_requestApproval req s
    · rw [hsame]
      exact h
    · rw [hnext]
      change s.decisions.length < (s.docket.approval_history ++ _).length
      rw [List.length_append]
      omega
  | decideApproval req =>
    obtain hsame | ⟨decision, haccepted, hnext⟩ := record_decideApproval req s
    · rw [hsame]
      exact h
    · rw [hnext]
      change (s.decisions ++ _).length < (s.docket.approval_history ++ [_]).length
      have hone : (s.pending.map fun open_ => entryOf lowerCase open_ req).toList.length ≤ 1 := by
        cases s.pending with
        | none => exact Nat.zero_le 1
        | some asked => exact le_refl 1
      rw [List.length_append, List.length_append, List.length_singleton]
      omega

variable (lowerCase) in
/-- What holds as long as no request is accepted after a decision. -/
structure Tracked (s : Recorded) : Prop where
  open_ : Open lowerCase s
  exact : Exact s

/-- From a docket without a stage and without a history, the history tells of each decision once
exactly when no request is accepted after a decision. -/
theorem exact_iff {docket : ComplianceDocket} (hstage : docket.approval_stage.status = none)
    (hhistory : docket.approval_history = []) (calls : List ApprovalCall) :
    Exact (run (record lowerCase) calls { docket := docket }) ↔
      Admits (record lowerCase) (NotAgain lowerCase) calls { docket := docket } := by
  have hstart : Tracked lowerCase { docket := docket } := by
    refine ⟨fun hpending => ?_, ?_⟩
    · rw [hstage] at hpending
      exact nomatch hpending
    · rw [Exact, hhistory]
      rfl
  have hstep : ∀ call s, Tracked lowerCase s → NotAgain lowerCase call s →
      Tracked lowerCase (record lowerCase call s) :=
    fun call s hs h => ⟨open_record call s hs.open_, exact_record hs.open_ hs.exact h⟩
  exact run_iff_admits hstep (fun _ _ hs => repeated_of_again hs.exact) repeated_record
    (fun _ hs => hs.exact) (fun _ => not_exact_of_repeated) calls _ hstart

end calls

theorem exact_rejection :
    Exact (run (record toLowerCase)
      [.requestApproval clientApproval, .decideApproval rejection] { docket := {} }) :=
  (exact_iff rfl rfl _).mpr ⟨fun h => (nomatch h), trivial, trivial⟩

/-- The next request adds the decision again. -/
theorem exact_fails :
    ¬Exact (run (record toLowerCase) [.requestApproval clientApproval, .decideApproval rejection,
      .requestApproval clientApproval] { docket := {} }) := by
  unfold Exact
  decide

end Docketra.ComplianceStates
