import Docketra.StatusUpdate

/-!
# What a status update stores

`transitionDocket` asks the lifecycle table about `toLifecycleFromStatus` of the new status, and
`updateStatus` then stores what `inferLifecycleAfterStatusChange` says, which is another lifecycle
when the docket has no owner, or when the status says nothing about the lifecycle. The state that it
stores is computed from the patch alone, since the spread of the document has none of its fields.

What is stored is coherent exactly when the inferred lifecycle is again a move of the table, and no
owner or personal queue that the patch leaves as it is decides the state
(`updateStatus_coherent_iff`).
-/

namespace Docketra.StatusUpdate

open Checked
open CaseRepository (StatusPatch decryptCaseDoc)

/-! ## Any patch -/

/-- A `statusPatch`. Its lifecycle may be any word. -/
structure AnyPatch where
  lifecycle : Option LifecycleWord := none
  fields : StatusPatch := {}
  deriving DecidableEq, Repr

/-- The lifecycle that a patch names. A blank word names none. -/
def AnyPatch.explicit (patch : AnyPatch) : Option LifecycleWord :=
  patch.lifecycle.filter fun
    | .other word => !isBlank word
    | _ => true

/-- The owner once a patch is stored. -/
def AnyPatch.assigned (patch : AnyPatch) (docket : Docket) : Option String :=
  patch.fields.assignedToXID.getD docket.assignedToXID

/-- A patch as the update reads it. The word of an explicit lifecycle counts as the lifecycle that
`deriveLifecycle` gives for it. -/
def AnyPatch.read (patch : AnyPatch) (ns : CaseStatus) (existingCase : Docket) : StatusPatch :=
  { patch.fields with
    lifecycle := patch.explicit.map fun word =>
      deriveLifecycle word (patch.assigned existingCase) ns }

/-- `updateStatus`, with any `statusPatch` in the place of the context's. -/
def updateStatusWith (newStatus : CaseStatus) (patch : AnyPatch) (ctx : StatusContext)
    (docket : Docket) : Except Failure Docket :=
  updateStatus newStatus
    { ctx with statusPatch := patch.read (normalizeStatus newStatus) (decryptCaseDoc docket) } docket

/-! ## Coherence -/

/-- The statuses whose lifecycle is `DONE`. -/
def isDone (status : CaseStatus) : Bool := toLifecycleFromStatus status = .DONE

/-- What is stored is coherent: the lifecycle has moved by the table, the state is that of the whole
document, and a docket that is done has the lifecycle `DONE`. -/
structure StoredCoherently (docket t : Docket) : Prop where
  moved : ∃ lifecycle, t.lifecycle = .state lifecycle ∧
    isValidTransition (normalizeLifecycle docket.lifecycle) lifecycle = true
  state : t.state = some t.canonicalState
  done : isDone t.status = true → t.lifecycle = .state .DONE

/-- The statuses whose canonical state is that of the ownership. -/
def asksOwnership (status : CaseStatus) : Bool :=
  status.normalize ∉ [CaseStatus.RESOLVED, .FILED, .QC_PENDING, .PENDING, .ROUTED, .ASSIGNED,
    .IN_PROGRESS, .ROUTED_ASSIGNED]

/-- The lifecycle that is inferred is a move of the table. -/
def InfersMove (patch : AnyPatch) (ns : CaseStatus) (docket : Docket) : Prop :=
  match patch.explicit with
  | some word =>
    match coerceLifecycleToDocket word with
    | some lifecycle =>
      isValidTransition (normalizeLifecycle docket.lifecycle) lifecycle = true ∧
        (isDone ns = true → lifecycle = .DONE)
    -- A word that is no lifecycle leaves the decision to status and owner.
    | none => isDone ns = true ∨ truthy (patch.assigned docket) = true
  | none => isDone ns = true ∨ truthy (patch.assigned docket) = true ∧
      ns ∈ [CaseStatus.PENDING, .QC_PENDING, .IN_PROGRESS, .QC_FAILED, .QC_CORRECTED]

/-- An owner, or the personal queue, puts a docket in progress: one that the patch names, or one
that it leaves as it is. -/
def PatchSaysOwned (patch : AnyPatch) : Prop :=
  hasText patch.fields.assignedToXID.join = true ∨ patch.fields.queueType = some .PERSONAL

/-- The docket keeps an owner or the personal queue, which the patch says nothing about. -/
def KeepsOwned (patch : AnyPatch) (docket : Docket) : Prop :=
  patch.fields.assignedToXID = none ∧ hasText docket.assignedToXID = true ∨
    patch.fields.queueType = none ∧ docket.queueType = .PERSONAL

/-- The condition for what is stored to be coherent. -/
structure UpdatesCoherently (patch : AnyPatch) (ns : CaseStatus) (docket : Docket) : Prop where
  lifecycle : InfersMove patch ns docket
  state : asksOwnership ns = true → KeepsOwned patch docket → PatchSaysOwned patch

/-! ## What is stored -/

/-- What a status update that commits has passed, and what it stores. -/
theorem updateStatus_ok {newStatus : CaseStatus} {ctx : StatusContext} {docket t : Docket}
    (h : updateStatus newStatus ctx docket = .ok t) :
    isValidTransition (normalizeLifecycle docket.lifecycle)
        (toLifecycleFromStatus (normalizeStatus newStatus)) = true ∧
      toPersistenceState (toDocketState (normalizeStatus newStatus)) = normalizeStatus newStatus ∧
      t = updated (normalizeStatus newStatus) ctx docket := by
  simp only [updateStatus, bind_eq_ok, throwIf_eq_ok, CaseRepository.findByCaseId_eq_ok,
    transitionDocket, transitionDocketBetween_eq_ok, CaseRepository.updateStatus, pure_eq,
    Except.ok.injEq] at h
  obtain ⟨_, -, existingCase, ⟨-, rfl⟩, moved, ⟨haccepts, -, rfl⟩, _, hstatus, rfl⟩ := h
  exact ⟨haccepts.gate, not_not.mp hstatus, rfl⟩

section

variable {ns : CaseStatus} {patch : AnyPatch} {ctx : StatusContext} {docket : Docket}

/-- The canonical state of a status that asks the ownership. -/
theorem canonical_of_asksOwnership (hasks : asksOwnership ns = true) (hopen : ns.normalize ≠ .OPEN)
    {view : DocketView} (hview : view.status = some ns) :
    getCanonicalDocketState view = ownershipState view := by
  unfold getCanonicalDocketState
  rw [hview]
  cases ns <;> first | rfl | exact absurd rfl hopen | cases hasks

/-- The canonical state of any other status is that of the status. -/
theorem canonical_of_not_asksOwnership (hasks : asksOwnership ns = false) {v w : DocketView}
    (hv : v.status = some ns) (hw : w.status = some ns) :
    getCanonicalDocketState v = getCanonicalDocketState w := by
  unfold getCanonicalDocketState
  rw [hv, hw]
  cases ns <;> first | rfl | cases hasks

/-- The state of the ownership, in words. -/
theorem ownershipState_eq_iff {v w : DocketView} :
    ownershipState v = ownershipState w ↔
      ((hasText v.assignedToXID = true ∨ v.queueType = some .PERSONAL) ↔
        (hasText w.assignedToXID = true ∨ w.queueType = some .PERSONAL)) := by
  unfold ownershipState
  grind

theorem hasText_castXID (x : Option String) : hasText (x.map castXID) = hasText x := by
  cases x with
  | none => rfl
  | some s =>
    have hblank : isBlank (castXID s) = isBlank s := by
      rw [Bool.eq_iff_iff, ← trim_eq_empty, ← castXID_eq_empty, castXID, trim_trim]
    show (!isBlank (castXID s)) = !isBlank s
    rw [hblank]

/-- The ownership of what is stored: that of the patch, or what it keeps of the docket's. -/
theorem stored_owned_iff :
    (hasText ((patch.fields.assignedToXID.map (·.map castXID)).getD docket.assignedToXID) = true ∨
        patch.fields.queueType.getD docket.queueType = .PERSONAL) ↔
      PatchSaysOwned patch ∨ KeepsOwned patch docket := by
  unfold PatchSaysOwned KeepsOwned
  cases patch.fields.assignedToXID <;> cases patch.fields.queueType <;> simp [hasText_castXID]
  tauto

/-- The state that is stored is that of the whole document exactly when no ownership is kept that
the patch does not name, or the status does not ask for it. -/
theorem state_iff (hopen : ns.normalize ≠ .OPEN) :
    let t := updated ns { ctx with statusPatch := patch.read ns (decryptCaseDoc docket) } docket
    t.state = some t.canonicalState ↔
      (asksOwnership ns = true → KeepsOwned patch docket → PatchSaysOwned patch) := by
  intro t
  -- The spread of the document has none of its fields, so the state is that of the patch.
  generalize hpatched : (⟨some ns, none, patch.fields.assignedToXID.join,
    patch.fields.queueType⟩ : DocketView) = patched
  generalize hwhole : t.view = whole
  have hpatchedStatus : patched.status = some ns := by rw [← hpatched]
  have hwholeStatus : whole.status = some ns := by rw [← hwhole]; rfl
  have hstate : t.state = some (getCanonicalDocketState patched) := by rw [← hpatched]; rfl
  have hfull : t.canonicalState = getCanonicalDocketState whole := by rw [← hwhole]; rfl
  have hpatchedOwned : (hasText patched.assignedToXID = true ∨
      patched.queueType = some .PERSONAL) ↔ PatchSaysOwned patch := by rw [← hpatched]; rfl
  have hwholeOwned : (hasText whole.assignedToXID = true ∨ whole.queueType = some .PERSONAL) ↔
      PatchSaysOwned patch ∨ KeepsOwned patch docket := by
    rw [← hwhole, ← stored_owned_iff]
    exact or_congr Iff.rfl Option.some_inj
  rw [hstate, hfull, Option.some.injEq]
  cases hasks : asksOwnership ns with
  | false =>
    exact iff_of_true (canonical_of_not_asksOwnership hasks hpatchedStatus hwholeStatus) nofun
  | true =>
    rw [canonical_of_asksOwnership hasks hopen hpatchedStatus,
      canonical_of_asksOwnership hasks hopen hwholeStatus, ownershipState_eq_iff, hpatchedOwned,
      hwholeOwned]
    simp only [forall_const]
    constructor
    · intro h hkeeps
      exact h.mpr (.inr hkeeps)
    · intro h
      exact ⟨.inl, fun howned => howned.elim id h⟩

/-- The statuses that the gate lets a docket out of its lifecycle for are none of a worklist's. -/
theorem gate_target_ne {previous : Lifecycle}
    (hgate : isValidTransition previous (toLifecycleFromStatus ns) = true) :
    toLifecycleFromStatus ns ≠ .WL ∧ previous ≠ .DONE := by
  cases previous <;> cases ns <;> first | exact ⟨by decide, by decide⟩ | cases hgate

/-- The lifecycle of a status that is done, or of one that says something about the lifecycle, is
that of the gate; the other statuses leave the lifecycle as it was. -/
theorem infer_of_none {previous : Lifecycle} {existingCase : Docket} {fields : StatusPatch}
    (hgate : isValidTransition previous (toLifecycleFromStatus ns) = true)
    (hnormal : normalizeStatus ns = ns) (hopen : ns.normalize ≠ .OPEN)
    (hprevious : existingCase.lifecycle = .state previous) (hfields : fields.lifecycle = none) :
    inferLifecycleAfterStatusChange existingCase ns fields =
      if isDone ns = true then .DONE
      else if truthy (fields.assignedToXID.getD existingCase.assignedToXID) = true then
        if ns ∈ [CaseStatus.PENDING, .QC_PENDING, .IN_PROGRESS, .QC_FAILED, .QC_CORRECTED]
        then toLifecycleFromStatus ns else previous
      else .WL := by
  obtain ⟨hwl, hdone⟩ := gate_target_ne hgate
  unfold inferLifecycleAfterStatusChange
  simp only [hfields, hprevious, coerceLifecycleToDocket, Option.some.injEq, hdone, if_false,
    deriveLifecycle_state]
  by_cases hassigned : truthy (fields.assignedToXID.getD existingCase.assignedToXID) = true
  · simp only [hassigned, not_true_eq_false, if_false, if_true]
    cases ns <;> first
      | rfl
      | exact absurd rfl hwl
      | exact absurd rfl hopen
      | exact absurd hnormal (by decide)
  · simp only [hassigned]
    cases ns <;> first | rfl | exact absurd hnormal (by decide)

/-- The statuses that are done, as a status update names them. -/
theorem isDone_iff (hnormal : normalizeStatus ns = ns) :
    isDone ns = true ↔ ns = .RESOLVED ∨ ns = .CLOSED ∨ ns = .FILED := by
  cases ns <;> first | exact absurd hnormal (by decide) | decide

/-- A word that is no lifecycle leaves the decision to the status, and to the owner. -/
theorem deriveLifecycle_of_none {previous : Lifecycle} {word : LifecycleWord}
    (hgate : isValidTransition previous (toLifecycleFromStatus ns) = true)
    (hnormal : normalizeStatus ns = ns) (hword : coerceLifecycleToDocket word = none)
    (assigned : Option String) :
    deriveLifecycle word assigned ns =
      if isDone ns = true then .DONE
      else if truthy assigned = true then toLifecycleFromStatus ns else .WL := by
  obtain ⟨hwl, -⟩ := gate_target_ne hgate
  simp only [deriveLifecycle, hword, hnormal, ← isDone_iff hnormal]
  by_cases hdone : isDone ns = true
  · rw [if_pos hdone, if_pos hdone]
  · rw [if_neg hdone, if_neg hdone]
    by_cases hassigned : truthy assigned = true
    · rw [if_neg (not_not.mpr hassigned), if_pos hassigned]
      cases ns <;> first
        | rfl
        | exact absurd rfl hwl
        | exact absurd rfl hdone
        | exact absurd hnormal (by decide)
    · rw [if_pos hassigned, if_neg hassigned]

/-- A lifecycle that may be stored with a status: a move of the table, and `DONE` for a status that
is done. -/
def MovesLifecycle (previous : Lifecycle) (ns : CaseStatus) (stored : Lifecycle) : Prop :=
  isValidTransition previous stored = true ∧ (isDone ns = true → stored = .DONE)

/-- No lifecycle is a move to itself, and none leads back to `WL`. -/
theorem not_movesLifecycle (ns : CaseStatus) (previous : Lifecycle) :
    ¬MovesLifecycle previous ns previous ∧ ¬MovesLifecycle previous ns .WL := by
  unfold MovesLifecycle
  cases previous <;> simp [isValidTransition, Lifecycle.transitions]

/-- The lifecycle that the gate has let through. -/
theorem movesLifecycle_gate {previous : Lifecycle}
    (hgate : isValidTransition previous (toLifecycleFromStatus ns) = true) :
    MovesLifecycle previous ns (toLifecycleFromStatus ns) :=
  ⟨hgate, of_decide_eq_true⟩

/-- The lifecycle that is stored may be stored with the status exactly when `InfersMove` says so. -/
theorem lifecycle_iff {existingCase : Docket}
    (hgate : isValidTransition (normalizeLifecycle docket.lifecycle) (toLifecycleFromStatus ns) =
      true)
    (hnormal : normalizeStatus ns = ns) (hopen : ns.normalize ≠ .OPEN)
    (hprevious : existingCase.lifecycle = .state (normalizeLifecycle docket.lifecycle))
    (howner : existingCase.assignedToXID = docket.assignedToXID) :
    MovesLifecycle (normalizeLifecycle docket.lifecycle) ns
        (inferLifecycleAfterStatusChange existingCase ns (patch.read ns existingCase)) ↔
      InfersMove patch ns docket := by
  have hassigned : patch.assigned existingCase = patch.assigned docket := by
    rw [AnyPatch.assigned, AnyPatch.assigned, howner]
  have hmoves := movesLifecycle_gate hgate
  obtain ⟨hstay, hback⟩ := not_movesLifecycle ns (normalizeLifecycle docket.lifecycle)
  have hdone : isDone ns = true → toLifecycleFromStatus ns = .DONE := of_decide_eq_true
  unfold InfersMove
  cases hexplicit : patch.explicit with
  | some word =>
    have hstored : inferLifecycleAfterStatusChange existingCase ns (patch.read ns existingCase) =
        deriveLifecycle word (patch.assigned docket) ns := by
      rw [inferLifecycleAfterStatusChange, AnyPatch.read, hexplicit, hassigned]
      rfl
    rw [hstored]
    show _ ↔ (match coerceLifecycleToDocket word with
      | some lifecycle => MovesLifecycle (normalizeLifecycle docket.lifecycle) ns lifecycle
      | none => isDone ns = true ∨ truthy (patch.assigned docket) = true)
    cases hcoerced : coerceLifecycleToDocket word with
    | some lifecycle => rw [deriveLifecycle, hcoerced]
    | none =>
      show _ ↔ isDone ns = true ∨ truthy (patch.assigned docket) = true
      rw [deriveLifecycle_of_none hgate hnormal hcoerced]
      split_ifs with hns howned
      · rw [← hdone hns]
        exact iff_of_true hmoves (.inl hns)
      · exact iff_of_true hmoves (.inr howned)
      · exact iff_of_false hback fun h => h.elim hns howned
  | none =>
    show _ ↔ isDone ns = true ∨ truthy (patch.assigned docket) = true ∧ _
    rw [infer_of_none hgate hnormal hopen hprevious
      (show (patch.read ns existingCase).lifecycle = none by rw [AnyPatch.read, hexplicit]; rfl)]
    have hread : (patch.read ns existingCase).assignedToXID.getD existingCase.assignedToXID =
        patch.assigned docket := hassigned
    rw [hread]
    split_ifs with hns howned hlist
    · rw [← hdone hns]
      exact iff_of_true hmoves (.inl hns)
    · exact iff_of_true hmoves (.inr ⟨howned, hlist⟩)
    · exact iff_of_false hstay fun h => h.elim hns fun h => hlist h.2
    · exact iff_of_false hback fun h => h.elim hns fun h => howned h.1

end

/-- A status update that commits stores a coherent docket exactly when the condition holds. -/
theorem updateStatus_coherent_iff {newStatus : CaseStatus} {patch : AnyPatch}
    {ctx : StatusContext} {docket t : Docket}
    (h : updateStatusWith newStatus patch ctx docket = .ok t) :
    StoredCoherently docket t ↔ UpdatesCoherently patch (normalizeStatus newStatus) docket := by
  obtain ⟨hgate, hstored, rfl⟩ := updateStatus_ok h
  generalize hns : normalizeStatus newStatus = ns at hgate hstored ⊢
  have hnormal : normalizeStatus ns = ns := by
    rw [← hns]
    cases newStatus <;> rfl
  have hopen : ns.normalize ≠ .OPEN := by
    cases ns <;> first | decide | cases hstored
  have hlifecycle : MovesLifecycle (normalizeLifecycle docket.lifecycle) ns
      (inferLifecycleAfterStatusChange (decryptCaseDoc docket) ns
        (patch.read ns (decryptCaseDoc docket))) ↔ InfersMove patch ns docket :=
    lifecycle_iff hgate hnormal hopen rfl rfl
  constructor
  · rintro ⟨⟨stored, hstored, hmoved⟩, hcanonical, hdone⟩
    obtain rfl := LifecycleWord.state.inj hstored
    exact ⟨hlifecycle.mp ⟨hmoved, fun hns => LifecycleWord.state.inj (hdone hns)⟩,
      (state_iff hopen).mp hcanonical⟩
  · rintro ⟨hinfers, howned⟩
    obtain ⟨hmoved, hdone⟩ := hlifecycle.mpr hinfers
    exact ⟨⟨_, rfl, hmoved⟩, (state_iff hopen).mpr howned,
      fun hns => congrArg LifecycleWord.state (hdone hns)⟩

/-- A docket at work, with its owner. -/
def activeDocket : Docket where
  status := .IN_PROGRESS
  state := some .IN_PROGRESS
  lifecycle := .state .ACTIVE
  queueType := .PERSONAL
  assignedToXID := some "X000001"

/-- The context of a user's request, in a transaction. -/
def userContext : StatusContext where
  now := 0
  session := true
  role := .USER
  reason := some "Waiting for the client"

theorem updateStatus_coherent_pended :
    StoredCoherently activeDocket (updated .PENDING userContext activeDocket) :=
  (updateStatus_coherent_iff (show updateStatusWith .PENDING {} userContext activeDocket =
    .ok (updated .PENDING userContext activeDocket) from rfl)).mpr ⟨.inr ⟨rfl, by decide⟩, nofun⟩

/-- A docket of a workbasket that is pended stays in the lifecycle `WL`, and a docket that its owner
gets back from a quality check, corrected, is stored as one of the workbasket. -/
theorem updateStatus_coherent_fails :
    (∃ t, updateStatusWith .PENDING {} userContext {} = .ok t ∧ ¬StoredCoherently {} t) ∧
      ∃ t, updateStatusWith .QC_CORRECTED {} userContext
          { activeDocket with status := .QC_FAILED, lifecycle := .state .WAITING } = .ok t ∧
        t.state = some .IN_WB ∧ t.canonicalState = .IN_PROGRESS := by
  refine ⟨⟨_, rfl, ?_⟩, ⟨_, rfl, rfl, rfl⟩⟩
  rintro ⟨⟨stored, hstored, hmoved⟩, -, -⟩
  obtain rfl := LifecycleWord.state.inj hstored
  cases hmoved

end Docketra.StatusUpdate
