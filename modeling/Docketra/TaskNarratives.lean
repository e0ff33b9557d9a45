import Docketra.FieldEncryption
import Docketra.Lib.LastWrite
import Docketra.Narratives

/-!
# The narrative of a task

`createTask` and `updateTask` of `services/task.service.js` write the texts of a task to the storage
of the firm, and clear the description in the database. Each call writes all of them, from its own
payload: what it does not give becomes blank, since the description that it could fall back on has
been cleared by the call before. So a text survives only if it was blank, or is given again by the
last call (`survives_iff`).
-/

namespace Docketra.TaskNarratives

open Checked Narratives
open FieldEncryption (utf16Length)

/-! ## Payloads -/

/-- A value of a request. An array is known by the JSON of its items, and an object by its JSON and
by the text that the schema casts it to, if any. -/
inductive Value where
  | null
  | bool (b : Bool)
  | number (shown : String)
  | text (s : String)
  | array (items : List String)
  | object (json : String) (castText : Option String)
  deriving DecidableEq, Repr

def Value.isTruthy : Value → Bool
  | .null => false
  | .bool b => b
  | .number shown => shown != "0"
  | .text s => s != ""
  | .array _ | .object .. => true

def Value.isArray : Value → Bool
  | .array _ => true
  | _ => false

/-- The fields of a task that a call may assign, by their values as the schema casts them. -/
structure Fields where
  title : String
  status : String := "pending"
  priority : String := "medium"
  assignedTo : Option ObjectId := none
  dueDate : Option Date := none
  estimatedHours : Option ℤ := none
  actualHours : Option ℤ := none
  tags : List String := []
  updatedBy : Option ObjectId := none
  deriving DecidableEq, Repr

/-- The body of a request, and what is given of each part of the narrative. -/
structure Payload where
  title : Option String := none
  status : Option String := none
  priority : Option String := none
  assignedTo : Option (Option ObjectId) := none
  dueDate : Option (Option Date) := none
  estimatedHours : Option (Option ℤ) := none
  actualHours : Option (Option ℤ) := none
  tags : Option (List String) := none
  createdBy : Option ObjectId := none
  updatedBy : Option ObjectId := none
  description : Option Value := none
  notes : Option Value := none
  instructions : Option Value := none
  checklist : Option Value := none
  details : Option Value := none
  deriving DecidableEq, Repr

/-- The parts of a narrative that `getTaskById` returns. -/
inductive Part where
  | description | notes | instructions | checklist
  deriving DecidableEq, Repr

def Payload.given (payload : Payload) : Part → Option Value
  | .description => payload.description
  | .notes => payload.notes
  | .instructions => payload.instructions
  | .checklist => payload.checklist

/-! ## Documents -/

structure TaskRef extends Ref where
  version : ℕ
  updatedBy : String

inductive StorageMode where
  | cloud_first | legacy_mongo
  deriving DecidableEq, Repr

/-- A task in the database. -/
structure Task extends Fields where
  _id : ObjectId
  description : Option String := none
  taskRef : Option TaskRef := none
  taskStorageMode : StorageMode := .legacy_mongo

/-- `task.taskRef.version || 0`. -/
def Task.version (task : Task) : ℕ := (task.taskRef.map TaskRef.version).getD 0

structure Narrative where
  description : Value
  notes : Value
  instructions : Value
  checklist : Value
  details : Value
  deriving DecidableEq, Repr

def Narrative.part (narrative : Narrative) : Part → Value
  | .description => narrative.description
  | .notes => narrative.notes
  | .instructions => narrative.instructions
  | .checklist => narrative.checklist

/-- What is stored of a task outside the database. -/
structure NarrativePayload where
  schemaVersion : ℕ := 1
  firmId : String
  taskId : String
  updatedBy : String
  narrativeVersion : ℕ
  narrative : Narrative
  deriving DecidableEq, Repr

/-- A storage for narratives whose reads return what was written, by the reference as the schema of
tasks keeps it. -/
structure Storage where
  State : Type
  uploadNarrative : State → NarrativePayload → Except ServiceError (Ref × State)
  readNarrative : State → Ref → Except ServiceError (Option NarrativePayload)
  reads : ∀ {state stored : State} {payload : NarrativePayload} {ref : Ref},
    uploadNarrative state payload = .ok (ref, stored) →
      trim ref.provider ≠ "" ∧
        readNarrative stored (ClientProfile.castRef ref) = .ok (some payload)

/-! ## Writing -/

/-- `value || fallback`. -/
def valueOr (fallback : Value) (value : Option Value) : Value :=
  (value.filter Value.isTruthy).getD fallback

/-- `buildNarrativePayload`. -/
def buildNarrativePayload (firmId : String) (task : Task) (payload : Payload) (updatedBy : String) :
    NarrativePayload where
  firmId := firmId
  taskId := task._id.hex
  updatedBy := updatedBy
  narrativeVersion := task.version + 1
  narrative :=
    { description := (payload.description.filter (· ≠ .null)).getD
        ((task.description.map Value.text).getD (.text ""))
      notes := valueOr (.text "") payload.notes
      instructions := valueOr (.text "") payload.instructions
      checklist := (payload.checklist.filter Value.isArray).getD (.array [])
      details := valueOr .null payload.details }

section writing

variable (storage : Storage) (firmId : String)

/-- `persistTaskNarrative`. -/
def persistTaskNarrative (task : Task) (payload : Payload) (updatedBy : String)
    (state : storage.State) : Except ServiceError (Task × storage.State) := do
  let narrativePayload := buildNarrativePayload firmId task payload updatedBy
  let (taskRef, stored) ← storage.uploadNarrative state narrativePayload
  return ({ task with
      taskRef := some
        { toRef := ClientProfile.castRef taskRef
          version := narrativePayload.narrativeVersion
          updatedBy := trim narrativePayload.updatedBy }
      taskStorageMode := .cloud_first }, stored)

def statuses : List String :=
  ["pending", "in_progress", "review", "completed", "blocked", "cancelled"]

def priorities : List String := ["low", "medium", "high", "urgent"]

/-- The validators of the schema, by their paths. -/
def invalidPaths (task : Task) : List String :=
  (if task.title = "" ∨ 200 < utf16Length task.title then ["title"] else []) ++
    (if task.status ∈ statuses then [] else ["status"]) ++
    (if task.priority ∈ priorities then [] else ["priority"]) ++
    (if task.estimatedHours.any (· < 0) then ["estimatedHours"] else []) ++
    (if task.actualHours.any (· < 0) then ["actualHours"] else [])

/-- `task.save()`: the hook and the validators, and then the answer of the database. -/
def save (task : Task) (answer : Except ServiceError Unit) : Except ServiceError Unit := do
  throwIf (task.description.any fun text => trim text ≠ "")
    ⟨"BYOS_SENSITIVE_FIELD_PERSISTENCE_BLOCKED:description",
      some (.code "BYOS_SENSITIVE_FIELD_PERSISTENCE_BLOCKED")⟩
  throwIf (invalidPaths task ≠ []) ⟨"Task validation failed", none⟩
  answer

/-- The end of both calls. -/
def saveCleared (written : Task × storage.State) (answer : Except ServiceError Unit) :
    Except ServiceError (Task × storage.State) := do
  let task := { written.1 with description := none }
  save task answer
  return (task, written.2)

/-- `createTask`, from the document that has been created of the payload without the
description. -/
def createTask (payload : Payload) (answer : Except ServiceError Unit)
    (before : Task × storage.State) : Except ServiceError (Task × storage.State) := do
  let updatedBy := (payload.updatedBy.or payload.createdBy).map ObjectId.hex
  let written ← persistTaskNarrative storage firmId before.1 payload (updatedBy.getD "SYSTEM")
    before.2
  saveCleared storage written answer

/-- The assignments of `updateTask`. -/
def assign (task : Task) (payload : Payload) : Task :=
  { task with
    title := ((orElse payload.title none).map trim).getD task.title
    status := (orElse payload.status none).getD task.status
    priority := (orElse payload.priority none).getD task.priority
    assignedTo := payload.assignedTo.getD task.assignedTo
    dueDate := payload.dueDate.getD task.dueDate
    estimatedHours := payload.estimatedHours.getD task.estimatedHours
    actualHours := payload.actualHours.getD task.actualHours
    tags := payload.tags.getD task.tags
    updatedBy := payload.updatedBy }

/-- `updateTask`, from the document that is found. -/
def updateTask (payload : Payload) (answer : Except ServiceError Unit)
    (before : Task × storage.State) : Except ServiceError (Task × storage.State) := do
  let written ← persistTaskNarrative storage firmId (assign before.1 payload) payload
    ((payload.updatedBy.map ObjectId.hex).getD "SYSTEM") before.2
  saveCleared storage written answer

end writing

/-! ## Reading -/

/-- A task with its narrative. -/
structure Hydrated extends Task where
  notes : Option Value := none
  instructions : Option Value := none
  checklist : Option Value := none
  taskWarning : Option String := none

/-- `task.description = value`: the schema casts the value and trims it. A value that it cannot cast
is not assigned. -/
def castDescription (current : Option String) : Value → Option String
  | .null => none
  | .bool b => some (if b then "true" else "false")
  | .number shown => some (trim shown)
  | .text s => some (trim s)
  | .array _ => current
  | .object _ castText => (castText.map trim).or current

/-- `getTaskById`, from the document that is found. -/
def getTaskById (storage : Storage) (task : Task) (state : storage.State) : Hydrated :=
  match task.taskRef.filter (·.provider ≠ "") with
  | none => { task with }
  | some taskRef =>
    match storage.readNarrative state taskRef.toRef with
    | .error _ => { task with taskWarning := some "task_content_unavailable" }
    | .ok none => { task with taskStorageMode := .cloud_first }
    | .ok (some hydrated) =>
      { task with
        description := castDescription task.description hydrated.narrative.description
        notes := some hydrated.narrative.notes
        instructions := some hydrated.narrative.instructions
        checklist := some hydrated.narrative.checklist
        taskStorageMode := .cloud_first }

/-- What is returned of a part. -/
def Hydrated.part (task : Hydrated) : Part → Option Value
  | .description => task.description.map Value.text
  | .notes => task.notes
  | .instructions => task.instructions
  | .checklist => task.checklist

/-! ## Runs -/

/-- The value of a part that a list of calls has given last. -/
def lastGiven (part : Part) (calls : List Payload) : Option Value :=
  (LastWrite.last (fun payload => (payload.given part).isSome) calls).bind (·.given part)

theorem lastGiven_concat (part : Part) (calls : List Payload) (payload : Payload) :
    lastGiven part (calls ++ [payload]) = (payload.given part).or (lastGiven part calls) := by
  rw [lastGiven, LastWrite.last_concat]
  cases hgiven : payload.given part with
  | none => rfl
  | some value => exact hgiven

/-- The calls on a task that all succeed, from a task that is there or is created by the first of
them. -/
inductive Run (storage : Storage) (firmId : String) (start : Task × storage.State) :
    List Payload → Task × storage.State → Prop where
  | existing : Run storage firmId start [] start
  | created {payload : Payload} {answer : Except ServiceError Unit} {after : Task × storage.State} :
    start.1.description = none → createTask storage firmId payload answer start = .ok after →
      Run storage firmId start [payload] after
  | updated {calls : List Payload} {payload : Payload} {answer : Except ServiceError Unit}
    {before after : Task × storage.State} : Run storage firmId start calls before →
      updateTask storage firmId payload answer before = .ok after →
        Run storage firmId start (calls ++ [payload]) after

/-- What a call leaves: a cleared description, the next version, and the narrative that it has
written of its payload and of the description before. -/
structure Wrote (storage : Storage) (before : Task × storage.State) (payload : Payload)
    (after : Task × storage.State) : Prop where
  description : after.1.description = none
  version : after.1.version = before.1.version + 1
  read : ∃ taskRef, after.1.taskRef = some taskRef ∧ taskRef.provider ≠ "" ∧
    ∃ written, storage.readNarrative after.2 taskRef.toRef = .ok (some written) ∧
      written.narrative = (buildNarrativePayload "" before.1 payload "").narrative

section run

variable {storage : Storage} {firmId : String} {payload : Payload}
  {answer : Except ServiceError Unit} {start before after : Task × storage.State}
  {calls : List Payload}

theorem wrote_of_saveCleared {task : Task} {updatedBy : String} {written : Task × storage.State}
    (hpersist : persistTaskNarrative storage firmId task payload updatedBy before.2 = .ok written)
    (hsave : saveCleared storage written answer = .ok after)
    (hdescription : task.description = before.1.description)
    (hversion : task.version = before.1.version) : Wrote storage before payload after := by
  obtain ⟨⟨⟩, -, hafter⟩ := bind_eq_ok.mp hsave
  obtain rfl := Except.ok.inj hafter
  obtain ⟨⟨taskRef, stored⟩, hupload, hwritten⟩ := bind_eq_ok.mp hpersist
  obtain rfl := Except.ok.inj hwritten
  obtain ⟨hnamed, hread⟩ := storage.reads hupload
  refine ⟨rfl, congrArg (· + 1) hversion, _, rfl, hnamed, _, hread, ?_⟩
  simp only [buildNarrativePayload, hdescription]

theorem wrote_of_createTask (h : createTask storage firmId payload answer before = .ok after) :
    Wrote storage before payload after := by
  obtain ⟨written, hpersist, hsave⟩ := bind_eq_ok.mp h
  exact wrote_of_saveCleared hpersist hsave rfl rfl

theorem wrote_of_updateTask (h : updateTask storage firmId payload answer before = .ok after) :
    Wrote storage before payload after := by
  obtain ⟨written, hpersist, hsave⟩ := bind_eq_ok.mp h
  exact wrote_of_saveCleared hpersist hsave rfl rfl

/-- Every call adds one to the version. -/
theorem Run.version (h : Run storage firmId start calls after) :
    after.1.version = start.1.version + calls.length := by
  induction h with
  | existing => rfl
  | created _ hcreate => exact (wrote_of_createTask hcreate).version
  | updated _ hupdate ih =>
    rw [(wrote_of_updateTask hupdate).version, ih, List.length_append, List.length_singleton,
      Nat.add_assoc]

/-- The description is cleared behind the first call. -/
theorem Run.description (h : Run storage firmId start calls after) (hcalls : calls ≠ []) :
    after.1.description = none := by
  cases h with
  | existing => exact absurd rfl hcalls
  | created _ hcreate => exact (wrote_of_createTask hcreate).description
  | updated _ hupdate => exact (wrote_of_updateTask hupdate).description

/-- The narrative is the last call's, which has had a description to fall back on only if it was the
first one. -/
theorem Run.last (h : Run storage firmId start calls after) (hcalls : calls ≠ []) :
    ∃ before init payload, calls = init ++ [payload] ∧ Wrote storage before payload after ∧
      (init ≠ [] → before.1.description = none) := by
  cases h with
  | existing => exact absurd rfl hcalls
  | created _ hcreate =>
    exact ⟨start, [], _, rfl, wrote_of_createTask hcreate, fun hinit => absurd rfl hinit⟩
  | updated hrun hupdate =>
    exact ⟨_, _, _, rfl, wrote_of_updateTask hupdate, hrun.description⟩

end run

/-! ## What survives -/

/-- What is written of a part that is not given. -/
def Part.blank : Part → Value
  | .checklist => .array []
  | _ => .text ""

/-- The values of a part that are written and returned as they are. -/
def Part.admits : Part → Value → Bool
  | .description, .text s => trim s == s
  | .description, _ => false
  | .notes, value | .instructions, value => value.isTruthy
  | .checklist, value => value.isArray

/-- What is returned of a part that is written. -/
def Part.returned : Part → Value → Option Value
  | .description, value => (castDescription none value).map Value.text
  | _, value => some value

section parts

variable {storage : Storage} {before after : Task × storage.State} {payload : Payload}

theorem Wrote.part (h : Wrote storage before payload after) (part : Part) :
    (getTaskById storage after.1 after.2).part part =
      part.returned ((buildNarrativePayload "" before.1 payload "").narrative.part part) := by
  obtain ⟨taskRef, htaskRef, hnamed, written, hread, hnarrative⟩ := h.read
  have hfilter : after.1.taskRef.filter (·.provider ≠ "") = some taskRef := by
    rw [htaskRef, Option.filter_some, if_pos (decide_eq_true hnamed)]
  rw [getTaskById, hfilter]
  simp only [hread, hnarrative, h.description]
  cases part <;> rfl

/-- The description that is given is returned as it is when it is a text without white space around
it. -/
theorem returned_description (value : Value) (current : Option String) :
    Part.description.returned (((some value).filter (· ≠ .null)).getD
        ((current.map Value.text).getD (.text ""))) = some value ↔
      value = .text "" ∨ Part.description.admits value = true := by
  cases value with
  | null => cases current <;> simp [Part.returned, castDescription, Part.admits]
  | text s =>
    have hcast : Part.description.returned (.text s) = some (.text (trim s)) := rfl
    have hempty : trim "" = "" := by decide
    have hnull : decide (Value.text s ≠ .null) = true := rfl
    rw [Option.filter_some, if_pos hnull, Option.getD_some, hcast, Option.some.injEq,
      Value.text.injEq, Value.text.injEq, Part.admits, beq_iff_eq]
    constructor
    · exact Or.inr
    · rintro (rfl | htrim)
      · exact hempty
      · exact htrim
  | bool b => simp [Part.returned, castDescription, Part.admits]
  | number shown => simp [Part.returned, castDescription, Part.admits]
  | array items => simp [Part.returned, castDescription, Part.admits]
  | object json castText => cases castText <;> simp [Part.returned, castDescription, Part.admits]

/-- A value that is kept if a test admits it is kept exactly if it is the fallback or admitted. -/
theorem filter_getD_iff (admitted : Value → Bool) (value fallback : Value) :
    ((some value).filter admitted).getD fallback = value ↔
      value = fallback ∨ admitted value = true := by
  rw [Option.filter_some]
  cases hvalue : admitted value with
  | true => simp
  | false => simp [eq_comm]

/-- A value that is given is returned as it is when it is blank or admitted. -/
theorem returned_given {part : Part} {value : Value} (hgiven : payload.given part = some value)
    (task : Task) :
    part.returned ((buildNarrativePayload "" task payload "").narrative.part part) = some value ↔
      value = part.blank ∨ part.admits value = true := by
  cases part with
  | description =>
    have hdescription : payload.description = some value := hgiven
    simp only [buildNarrativePayload, Narrative.part, hdescription]
    exact returned_description value task.description
  | notes =>
    have hnotes : payload.notes = some value := hgiven
    simp only [buildNarrativePayload, Narrative.part, hnotes]
    exact Option.some_inj.trans (filter_getD_iff Value.isTruthy value (.text ""))
  | instructions =>
    have hinstructions : payload.instructions = some value := hgiven
    simp only [buildNarrativePayload, Narrative.part, hinstructions]
    exact Option.some_inj.trans (filter_getD_iff Value.isTruthy value (.text ""))
  | checklist =>
    have hchecklist : payload.checklist = some value := hgiven
    simp only [buildNarrativePayload, Narrative.part, hchecklist]
    exact Option.some_inj.trans (filter_getD_iff Value.isArray value (.array []))

/-- A part that is not given is returned blank. -/
theorem returned_absent {part : Part} (hgiven : payload.given part = none) {task : Task}
    (htask : task.description = none) :
    part.returned ((buildNarrativePayload "" task payload "").narrative.part part) =
      some part.blank := by
  cases part with
  | description =>
    have hdescription : payload.description = none := hgiven
    simp only [buildNarrativePayload, Narrative.part, hdescription, htask]
    decide
  | notes =>
    have hnotes : payload.notes = none := hgiven
    simp only [buildNarrativePayload, Narrative.part, hnotes]
    rfl
  | instructions =>
    have hinstructions : payload.instructions = none := hgiven
    simp only [buildNarrativePayload, Narrative.part, hinstructions]
    rfl
  | checklist =>
    have hchecklist : payload.checklist = none := hgiven
    simp only [buildNarrativePayload, Narrative.part, hchecklist]
    rfl

end parts

/-- The narrative of a task survives its calls: each part is returned as it was given last, and the
version has gone up by one with each call. -/
structure Survives (storage : Storage) (calls : List Payload) (start after : Task × storage.State) :
    Prop where
  parts : ∀ part value, lastGiven part calls = some value →
    (getTaskById storage after.1 after.2).part part = some value
  version : after.1.version = start.1.version + calls.length

/-- A part is given a blank value last, or one that is admitted, by the last call itself. -/
def GivenAtTheEnd (calls : List Payload) (part : Part) : Prop :=
  ∀ value, lastGiven part calls = some value → value = part.blank ∨
    part.admits value = true ∧ ∃ payload, calls.getLast? = some payload ∧
      payload.given part = some value

/-- The last value that is given of a part is there after a run exactly if it is blank, or the last
call gives it, and the part admits it. -/
theorem Run.part_iff {storage : Storage} {firmId : String} {calls : List Payload}
    {start after : Task × storage.State} (h : Run storage firmId start calls after) {part : Part}
    {value : Value} (hlast : lastGiven part calls = some value) :
    (getTaskById storage after.1 after.2).part part = some value ↔ value = part.blank ∨
      part.admits value = true ∧ ∃ payload, calls.getLast? = some payload ∧
        payload.given part = some value := by
  have hcalls : calls ≠ [] := by
    rintro rfl
    exact absurd hlast.symm (Option.some_ne_none value)
  obtain ⟨before, init, payload, rfl, hwrote, hcleared⟩ := h.last hcalls
  rw [hwrote.part, List.getLast?_concat]
  rw [lastGiven_concat] at hlast
  cases hgiven : payload.given part with
  | some given =>
    rw [hgiven, Option.some_or] at hlast
    obtain rfl := Option.some.inj hlast
    rw [returned_given hgiven]
    exact or_congr_right (iff_self_and.mpr fun _ => ⟨payload, rfl, hgiven⟩)
  | none =>
    -- The value is an earlier call's, which has cleared the description.
    rw [hgiven, Option.none_or] at hlast
    have hinit : init ≠ [] := by
      rintro rfl
      exact absurd hlast.symm (Option.some_ne_none value)
    rw [returned_absent hgiven (hcleared hinit), Option.some.injEq]
    constructor
    · exact fun hblank => Or.inl hblank.symm
    · rintro (hblank | ⟨-, last, hpayload, hvalue⟩)
      · exact hblank.symm
      · rw [← Option.some.inj hpayload, hgiven] at hvalue
        exact absurd hvalue.symm (Option.some_ne_none value)

/-- The narrative survives exactly if each part that is given at all is given a blank value last, or
is given last by the last call, a text without white space around it for the description, a value
that counts for notes and instructions, and an array for the checklist. -/
theorem survives_iff {storage : Storage} {firmId : String} {calls : List Payload}
    {start after : Task × storage.State} (h : Run storage firmId start calls after) :
    Survives storage calls start after ↔ ∀ part, GivenAtTheEnd calls part := by
  constructor
  · intro hsurvives part value hlast
    exact (h.part_iff hlast).mp (hsurvives.parts part value hlast)
  · intro hend
    exact ⟨fun part value hlast => (h.part_iff hlast).mpr (hend part value hlast), h.version⟩

/-! ## A status update -/

/-- A storage with room for one narrative. -/
def oneFile : Storage where
  State := Option NarrativePayload
  uploadNarrative _ payload :=
    .ok (⟨"google-drive", .firm_connected, some "file1", "", ""⟩, some payload)
  readNarrative state _ := .ok state
  reads h := by
    have hnamed : trim "google-drive" ≠ "" := by decide
    obtain ⟨rfl, rfl⟩ := Prod.ext_iff.mp (Except.ok.inj h)
    exact ⟨hnamed, rfl⟩

/-- The request that creates a task with a description and notes. -/
def draftRequest : Payload where
  title := some "File the return"
  createdBy := some ⟨"u1"⟩
  description := some (.text "Annual return")
  notes := some (.text "Wait for the audit")

/-- The document that is created of it. -/
def createdTask : Task where
  title := "File the return"
  _id := ⟨"k1"⟩

def statusRequest : Payload where
  status := some "review"

/-- The task behind the request that creates it. -/
def draftedTask : Task × oneFile.State :=
  ({ createdTask with
      taskRef := some ⟨⟨"google-drive", .firm_connected, some "file1", "", ""⟩, 1, "u1"⟩
      taskStorageMode := .cloud_first },
    some (buildNarrativePayload "FIRM001" createdTask draftRequest "u1"))

theorem created_draftedTask :
    Run oneFile "FIRM001" (createdTask, none) [draftRequest] draftedTask :=
  .created rfl (rfl : createTask oneFile "FIRM001" draftRequest (.ok ()) (createdTask, none) = _)

/-- Its description and notes are there. -/
theorem survives_drafted :
    Survives oneFile [draftRequest] (createdTask, none) draftedTask := by
  refine (survives_iff created_draftedTask).mpr fun part value hvalue => ?_
  cases part with
  | description =>
    obtain rfl : Value.text "Annual return" = value := Option.some.inj hvalue
    exact Or.inr ⟨by decide, draftRequest, rfl, rfl⟩
  | notes =>
    obtain rfl : Value.text "Wait for the audit" = value := Option.some.inj hvalue
    exact Or.inr ⟨by decide, draftRequest, rfl, rfl⟩
  | instructions => exact absurd hvalue.symm (Option.some_ne_none value)
  | checklist => exact absurd hvalue.symm (Option.some_ne_none value)

/-- The task after a status update. -/
def reviewedTask : Task × oneFile.State :=
  ({ draftedTask.1 with
      status := "review"
      taskRef := some ⟨⟨"google-drive", .firm_connected, some "file1", "", ""⟩, 2, "SYSTEM"⟩ },
    some (buildNarrativePayload "FIRM001" draftedTask.1 statusRequest "SYSTEM"))

/-- The description is gone with the status update. -/
theorem survives_fails :
    Run oneFile "FIRM001" (createdTask, none) [draftRequest, statusRequest] reviewedTask ∧
      lastGiven .description [draftRequest, statusRequest] = some (.text "Annual return") ∧
      (getTaskById oneFile reviewedTask.1 reviewedTask.2).part .description = some (.text "") ∧
      ¬Survives oneFile [draftRequest, statusRequest] (createdTask, none) reviewedTask := by
  have hread : (getTaskById oneFile reviewedTask.1 reviewedTask.2).part .description =
      some (.text "") := rfl
  refine ⟨.updated created_draftedTask
    (rfl : updateTask oneFile "FIRM001" statusRequest (.ok ()) draftedTask = _), rfl, hread, ?_⟩
  intro hsurvives
  have hkept := hsurvives.parts .description (.text "Annual return") rfl
  rw [hread] at hkept
  exact absurd hkept (by decide)

/-! ## The storage of a firm -/

section firmStorage

variable {process : Process} {tenant : Tenant}

/-- The schema has cast the reference, and the text is read by it all the same. -/
theorem read_castRef_of_upload {answers : Answers} {place : Place} {contents stored : Contents}
    {noBackend : String} {payload : process.codec.Payload} {ref : Ref}
    (hdrive : ¬OnManagedDrive process tenant)
    (hkey : ∀ backend, buildManagedFallbackClient process = .ok (some backend) →
      trim (managedKey place backend) = managedKey place backend)
    (h : upload process answers place contents tenant noBackend payload = .ok (ref, stored)) :
    trim ref.provider ≠ "" ∧
      read process tenant stored (ClientProfile.castRef ref) noBackend = .ok (some payload) := by
  obtain ⟨provider, fileId, hprovider, rfl, hfile⟩ | ⟨error, s3, -, hs3, rfl, hobject⟩ := upload_ok h
  · obtain ⟨hname, hnamed, htrim⟩ := providerName_of_connected hprovider hdrive
    rw [← htrim] at hname hnamed
    exact ⟨hnamed, read_connected hprovider hnamed (not_isManaged rfl hname)
      (congrArg some fileId.trimmed) hfile⟩
  · have hnamed : trim "docketra_managed" ≠ "" := by decide
    rw [← hkey s3 hs3] at hobject
    exact ⟨hnamed, read_managedS3 hs3 hnamed rfl hobject⟩

/-- The services of `Docketra.Narratives` are such a storage for a firm that is not on managed
Drive, when the schema leaves the key on managed S3 as it is, and narratives have JSON texts. -/
def firmStorage (answers : Answers) (taskId : String)
    (encode : NarrativePayload → process.codec.Payload)
    (decode : process.codec.Payload → NarrativePayload)
    (hdecode : ∀ payload, decode (encode payload) = payload)
    (hdrive : ¬OnManagedDrive process tenant)
    (hkey : ∀ backend, buildManagedFallbackClient process = .ok (some backend) →
      trim (managedKey (Narratives.Task.place tenant.firmId.value taskId) backend) =
        managedKey (Narratives.Task.place tenant.firmId.value taskId) backend) :
    Storage where
  State := Contents
  uploadNarrative contents payload :=
    Narratives.Task.uploadNarrative process answers contents tenant taskId (encode payload)
  readNarrative contents ref :=
    (Narratives.Task.readNarrative process tenant contents ref).map (Option.map decode)
  reads := by
    intro contents stored payload ref hupload
    obtain ⟨hnamed, hread⟩ := read_castRef_of_upload hdrive hkey hupload
    have hdecoded : some (decode (encode payload)) = some payload := congrArg some (hdecode payload)
    exact ⟨hnamed, (congrArg (Except.map (Option.map decode)) hread).trans
      (congrArg Except.ok hdecoded)⟩

end firmStorage

end Docketra.TaskNarratives
