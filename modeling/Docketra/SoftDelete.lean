import Docketra.Lib.Checked
import Docketra.Lib.Keyed
import Docketra.Text

/-!
# Soft deletes

`services/softDelete.service.js` marks documents as deleted instead of removing them. Deleting a
client deletes its cases, and deleting a case its tasks, attachments and comments; restoring a case
restores these. The cascade finds attachments and comments by the number of the case alone, which
other firms use too, so it stays within the firm exactly when no other firm has an attachment or a
comment with such a number that is not deleted (`confined_iff`).
-/

namespace Docketra.SoftDelete

open Checked

/-! ## Documents -/

/-- A point in time. -/
abbrev Date := Int

/-- The models with soft deletes. -/
inductive ModelName where
  | User | Client | Case | Task | Attachment | Comment | Category
  deriving DecidableEq, Repr

/-- The `status` of a user. -/
inductive UserStatus where
  | invited | active | disabled | suspended | deleted
  deriving DecidableEq, Repr

/-- The fields of a user that a delete changes. -/
structure AuthState where
  status : Option UserStatus
  isActive : Option Bool
  lockUntil : Option Date
  deriving DecidableEq, Repr

def AuthState.unset : AuthState := ⟨none, none, none⟩

/-- A document, with the fields that the service reads of any model. -/
structure Document where
  model : ModelName
  id : String
  firmId : Option String
  clientId : Option String := none
  caseId : Option String := none
  caseNumber : Option String := none
  /-- The `case` of a task. -/
  parentCase : Option String := none
  categoryId : Option String := none
  isDefaultClient : Bool := false
  auth : AuthState := .unset
  deletedAuthSnapshot : AuthState := .unset
  deletedAt : Option Date := none
  deletedByXID : Option String := none
  deleteReason : Option String := none
  restoreHistory : List (Date × Option String) := []
  deriving DecidableEq, Repr

/-- A document is known by its model and its `_id`. -/
def Document.key (doc : Document) : ModelName × String := (doc.model, doc.id)

/-- The collections, with the documents of all firms. -/
abbrev Database := Keyed Document.key

def Document.isDeleted (doc : Document) : Bool := doc.deletedAt.isSome

/-- `getCaseKey`. -/
def getCaseKey (caseDoc : Document) : Option String := orElse caseDoc.caseId caseDoc.caseNumber

/-- An error, with its `statusCode`. -/
structure DeleteError where
  statusCode : Option ℕ
  message : String
  deriving DecidableEq, Repr

/-! ## Saving -/

/-- The status that the hook of `models/User.model.js` saves. -/
def normalizeStatus : UserStatus → UserStatus
  | .suspended => .disabled
  | status => status

/-- The hook of a case: without a `caseId`, it gets its number. -/
def fillCaseId (doc : Document) : Document :=
  if !truthy doc.caseId && truthy doc.caseNumber then { doc with caseId := doc.caseNumber } else doc

/-- The hook of a user: when the status is modified, it says whether the user is active. -/
def syncActive (stored doc : Document) : Document :=
  if doc.auth.status = stored.auth.status then doc
  else
    let status := doc.auth.status.map normalizeStatus
    { doc with auth := { doc.auth with status, isActive := some (status = some .active) } }

/-- The hooks of the models, on a document that replaces a stored one. -/
def preSave (stored doc : Document) : Document :=
  match doc.model with
  | .Case => fillCaseId doc
  | .User => syncActive stored doc
  | _ => doc

/-- `save`, which requires a user to have a status. -/
def save (stored doc : Document) : Except DeleteError Document := do
  throwIf (doc.model = .User ∧ doc.auth.status = none)
    ⟨none, "User validation failed: status: Path `status` is required."⟩
  return preSave stored doc

/-- The request of a call: its time, its actor (`getActorXID`), and the reason that is given. -/
structure Request where
  now : Date
  actorXID : Option String
  reason : Option String
  deriving Repr

/-- The assignments of `applyDocumentDeleteMarkers`. -/
def markDeleted (req : Request) (doc : Document) : Document :=
  if doc.isDeleted then doc
  else
    { doc with
      deletedAt := some req.now
      deletedByXID := orElse req.actorXID none
      deleteReason := orElse req.reason none }

/-- The assignments of a restore. -/
def markRestored (req : Request) (doc : Document) : Document :=
  { doc with
    restoreHistory := doc.restoreHistory ++ [(req.now, orElse req.actorXID none)]
    deletedAt := none
    deletedByXID := none
    deleteReason := none }

@[simp] theorem key_preSave (stored doc : Document) : (preSave stored doc).key = doc.key := by
  unfold preSave fillCaseId syncActive
  split
  · split_ifs <;> rfl
  · split_ifs <;> rfl
  · rfl

@[simp] theorem key_markDeleted (req : Request) (doc : Document) :
    (markDeleted req doc).key = doc.key := by
  unfold markDeleted
  split_ifs <;> rfl

@[simp] theorem key_markRestored (req : Request) (doc : Document) :
    (markRestored req doc).key = doc.key := rfl

/-! ## The service -/

section service

variable (req : Request)

/-- The documents of a model that a query finds. -/
def found (model : ModelName) (filter : Document → Bool) (doc : Document) : Bool :=
  doc.model = model && filter doc

def findOne (db : Database) (model : ModelName) (filter : Document → Bool) : Option Document :=
  db.items.find? (found model filter)

def find (db : Database) (model : ModelName) (filter : Document → Bool) : List Document :=
  db.items.filter (found model filter)

/-- A document is changed and saved when a query finds it. -/
def saveIf (change : Document → Document) (model : ModelName) (filter : Document → Bool)
    (doc : Document) : Document :=
  if found model filter doc then preSave doc (change doc) else doc

theorem key_saveIf {change : Document → Document} (hchange : ∀ doc, (change doc).key = doc.key)
    {model : ModelName} {filter : Document → Bool} (doc : Document) :
    (saveIf change model filter doc).key = doc.key := by
  unfold saveIf
  split_ifs
  · rw [key_preSave, hchange]
  · rfl

/-- The documents that are found are changed and saved one by one. The models for which this is done
do not refuse them. -/
def saveMany (change : Document → Document) (hchange : ∀ doc, (change doc).key = doc.key)
    (model : ModelName) (filter : Document → Bool) (db : Database) : Database :=
  db.update (saveIf change model filter) (key_saveIf hchange)

def softDeleteMany (model : ModelName) (filter : Document → Bool) (db : Database) : Database :=
  saveMany (markDeleted req) (key_markDeleted req) model filter db

def restoreMany (model : ModelName) (filter : Document → Bool) (db : Database) : Database :=
  saveMany (markRestored req) (key_markRestored req) model
    (fun doc => filter doc && doc.isDeleted) db

/-- The filter for the tasks of a case. -/
def isTaskOf (caseDoc : Document) (doc : Document) : Bool :=
  doc.parentCase = some caseDoc.id && doc.firmId = caseDoc.firmId

/-- The filter for the attachments and the comments of a case that is deleted. -/
def hasCaseKey (caseDoc : Document) (doc : Document) : Bool := doc.caseId = getCaseKey caseDoc

/-- `cascadeDeletes`, for a case. -/
def cascadeCase (caseDoc : Document) (db : Database) : Database :=
  let db := softDeleteMany req .Task (isTaskOf caseDoc) db
  let db := softDeleteMany req .Attachment (hasCaseKey caseDoc) db
  softDeleteMany req .Comment (hasCaseKey caseDoc) db

/-- The filter for the cases of a client. -/
def isCaseOf (client : Document) (doc : Document) : Bool :=
  doc.clientId = client.clientId && doc.firmId = client.firmId

/-- `cascadeDeletes`. -/
def cascadeDeletes (doc : Document) (db : Database) : Database :=
  match doc.model with
  | .Client =>
    let db := softDeleteMany req .Case (isCaseOf doc) db
    (find db .Case (isCaseOf doc)).foldl (fun db caseDoc => cascadeCase req caseDoc db) db
  | .Case => cascadeCase req doc db
  | _ => db

/-- `ensureCategoryNotInUse`, and the check for the default client. -/
def ensureDeletable (db : Database) (doc : Document) : Except DeleteError Unit := do
  throwIf
    (doc.model = .Category ∧
      (findOne db .Case fun caseDoc => caseDoc.categoryId = some doc.id).isSome = true)
    ⟨some 400, "Category is in use by existing cases and cannot be deleted"⟩
  throwIf (doc.model = .Client ∧ doc.isDefaultClient = true)
    ⟨some 400, "Default client cannot be deleted."⟩

/-- Whether a nested path without values is an object, as it is in Mongoose, or `undefined`. -/
structure Odm where
  nestedIsObject : Bool

variable (odm : Odm)

/-- `doc.deletedAuthSnapshot` is truthy. -/
def hasSnapshot (doc : Document) : Bool := odm.nestedIsObject || doc.deletedAuthSnapshot ≠ .unset

/-- The assignments of `softDelete` to a user. -/
def disableUser (doc : Document) : Document :=
  if doc.model = .User then
    { doc with
      deletedAuthSnapshot := if hasSnapshot odm doc then doc.deletedAuthSnapshot else doc.auth
      auth := { doc.auth with status := some .disabled, isActive := some false } }
  else doc

/-- The assignments of `restoreDocument` to a user. -/
def enableUser (doc : Document) : Document :=
  if doc.model = .User && hasSnapshot odm doc then
    { doc with auth := doc.deletedAuthSnapshot, deletedAuthSnapshot := .unset }
  else doc

/-- `softDelete`. -/
def softDelete (model : ModelName) (filter : Document → Bool) (db : Database) :
    Except DeleteError Database :=
  match findOne db model filter with
  | none => .ok db
  | some doc => do
    ensureDeletable db doc
    let doc ← save doc (markDeleted req (disableUser odm doc))
    return cascadeDeletes req doc (db.replace doc)

/-- The filter for a client by its identifier within a firm. -/
def isClient (clientId firmId : Option String) (doc : Document) : Bool :=
  doc.clientId = clientId && doc.firmId = firmId

/-- The case that an attachment or a comment belongs to. -/
def isNumbered (caseId : Option String) (doc : Document) : Bool :=
  doc.caseId = caseId || doc.caseNumber = caseId

/-- The document that is found is deleted. -/
def foundDeleted (doc : Option Document) : Prop := (doc.map Document.isDeleted).getD false = true

instance (doc : Option Document) : Decidable (foundDeleted doc) := by
  unfold foundDeleted
  infer_instance

/-- `ensureParentsActive`. -/
def ensureParentsActive (db : Database) (doc : Document) : Except DeleteError Unit := do
  throwIf
    (doc.model = .Case ∧ truthy doc.clientId = true ∧
      foundDeleted (findOne db .Client (isClient doc.clientId doc.firmId)))
    ⟨some 400, "Cannot restore case while client is deleted"⟩
  throwIf
    (doc.model = .Task ∧ truthy doc.parentCase = true ∧
      foundDeleted (findOne db .Case fun caseDoc => some caseDoc.id = doc.parentCase))
    ⟨some 400, "Cannot restore task while parent case is deleted"⟩
  throwIf
    ((doc.model = .Attachment ∨ doc.model = .Comment) ∧ truthy doc.caseId = true ∧
      foundDeleted (findOne db .Case (isNumbered doc.caseId)))
    ⟨some 400, "Cannot restore child while parent case is deleted"⟩

/-- The filter for the attachments and the comments of a case that is restored. -/
def hasCaseKeyInFirm (caseDoc : Document) (doc : Document) : Bool :=
  hasCaseKey caseDoc doc && doc.firmId = caseDoc.firmId

/-- The children of a case are restored. -/
def restoreChildren (doc : Document) (db : Database) : Database :=
  match doc.model with
  | .Case =>
    let db := restoreMany req .Task (isTaskOf doc) db
    let db := restoreMany req .Attachment (hasCaseKeyInFirm doc) db
    restoreMany req .Comment (hasCaseKeyInFirm doc) db
  | _ => db

/-- `restoreDocument`. -/
def restoreDocument (model : ModelName) (filter : Document → Bool) (db : Database) :
    Except DeleteError Database :=
  match findOne db model filter with
  | none => .ok db
  | some doc =>
    if doc.isDeleted then do
      ensureParentsActive db doc
      let doc ← save doc (enableUser odm (markRestored req doc))
      return restoreChildren req doc (db.replace doc)
    else .ok db

end service

/-! ## What a save does not change -/

/-- The fields by which documents refer to each other are the same. -/
structure SameLinks (doc doc' : Document) : Prop where
  model : doc'.model = doc.model
  id : doc'.id = doc.id
  firmId : doc'.firmId = doc.firmId
  clientId : doc'.clientId = doc.clientId
  caseKey : getCaseKey doc' = getCaseKey doc

theorem SameLinks.refl (doc : Document) : SameLinks doc doc := ⟨rfl, rfl, rfl, rfl, rfl⟩

theorem SameLinks.key {doc doc' : Document} (h : SameLinks doc doc') : doc'.key = doc.key := by
  unfold Document.key
  rw [h.model, h.id]

theorem SameLinks.trans {doc doc' doc'' : Document} (h : SameLinks doc doc')
    (h' : SameLinks doc' doc'') : SameLinks doc doc'' where
  model := h'.model.trans h.model
  id := h'.id.trans h.id
  firmId := h'.firmId.trans h.firmId
  clientId := h'.clientId.trans h.clientId
  caseKey := h'.caseKey.trans h.caseKey

theorem sameLinks_fillCaseId (doc : Document) : SameLinks doc (fillCaseId doc) := by
  unfold fillCaseId
  split_ifs with h
  · refine ⟨rfl, rfl, rfl, rfl, ?_⟩
    rw [Bool.and_eq_true, Bool.not_eq_true'] at h
    unfold getCaseKey orElse
    dsimp only
    rw [h.1, h.2]
    rfl
  · exact ⟨rfl, rfl, rfl, rfl, rfl⟩

theorem sameLinks_preSave (stored doc : Document) : SameLinks doc (preSave stored doc) := by
  unfold preSave syncActive
  split
  · exact sameLinks_fillCaseId doc
  · split_ifs <;> exact ⟨rfl, rfl, rfl, rfl, rfl⟩
  · exact ⟨rfl, rfl, rfl, rfl, rfl⟩

theorem sameLinks_markDeleted (req : Request) (doc : Document) :
    SameLinks doc (markDeleted req doc) := by
  unfold markDeleted
  split_ifs <;> exact ⟨rfl, rfl, rfl, rfl, rfl⟩

theorem sameLinks_markRestored (req : Request) (doc : Document) :
    SameLinks doc (markRestored req doc) := ⟨rfl, rfl, rfl, rfl, rfl⟩

theorem sameLinks_disableUser (odm : Odm) (doc : Document) :
    SameLinks doc (disableUser odm doc) := by
  unfold disableUser
  split_ifs <;> exact ⟨rfl, rfl, rfl, rfl, rfl⟩

theorem sameLinks_enableUser (odm : Odm) (doc : Document) : SameLinks doc (enableUser odm doc) := by
  unfold enableUser
  split_ifs <;> exact ⟨rfl, rfl, rfl, rfl, rfl⟩

theorem isDeleted_markDeleted (req : Request) (doc : Document) :
    (markDeleted req doc).isDeleted = true := by
  unfold markDeleted
  split_ifs with h
  · exact h
  · rfl

theorem markDeleted_of_isDeleted {req : Request} {doc : Document} (h : doc.isDeleted = true) :
    markDeleted req doc = doc :=
  if_pos h

theorem isDeleted_preSave (stored doc : Document) :
    (preSave stored doc).isDeleted = doc.isDeleted := by
  unfold preSave fillCaseId syncActive
  split
  · split_ifs <;> rfl
  · split_ifs <;> rfl
  · rfl

/-! ## The children of a case -/

/-- A filter for tasks, and one for attachments and comments. -/
def childFilter (task numbered : Document → Bool) (doc : Document) : Bool :=
  match doc.model with
  | .Task => task doc
  | .Attachment | .Comment => numbered doc
  | _ => false

/-- A document is deleted with a case. -/
def isChild (caseDoc : Document) : Document → Bool :=
  childFilter (isTaskOf caseDoc) (hasCaseKey caseDoc)

/-- Changes the documents with a property. -/
def changeIf (p : Document → Bool) (change : Document → Document) (doc : Document) : Document :=
  if p doc then change doc else doc

theorem key_changeIf {p : Document → Bool} {change : Document → Document}
    (hchange : ∀ doc, (change doc).key = doc.key) (doc : Document) :
    (changeIf p change doc).key = doc.key := by
  unfold changeIf
  split_ifs
  · exact hchange doc
  · rfl

section children

variable {change : Document → Document} (hchange : ∀ doc, (change doc).key = doc.key)

theorem saveIf_of_ne {model : ModelName} {filter : Document → Bool} (doc : Document)
    (h : doc.model ≠ model) : saveIf change model filter doc = doc := by
  refine if_neg ?_
  simp [found, h]

include hchange in
theorem model_saveIf (model : ModelName) (filter : Document → Bool) (doc : Document) :
    (saveIf change model filter doc).model = doc.model := by
  unfold saveIf
  split_ifs
  · exact (sameLinks_preSave doc _).model.trans (congrArg Prod.fst (hchange doc))
  · rfl

include hchange in
/-- The models other than cases and users have no hooks. -/
theorem saveIf_of_eq {model : ModelName} {filter : Document → Bool} {doc : Document}
    (h : doc.model = model) (hcase : model ≠ .Case) (huser : model ≠ .User) :
    saveIf change model filter doc = changeIf filter change doc := by
  have hmodel : (change doc).model = model := (congrArg Prod.fst (hchange doc)).trans h
  have hhooks : preSave doc (change doc) = change doc := by
    unfold preSave
    split
    · exact absurd (hmodel.symm.trans ‹_›) hcase
    · exact absurd (hmodel.symm.trans ‹_›) huser
    · rfl
  unfold saveIf changeIf
  rw [hhooks]
  simp [found, h]

/-- The children of a case are changed in three queries. -/
theorem saveMany_children (task numbered : Document → Bool) (db : Database) :
    saveMany change hchange .Comment numbered (saveMany change hchange .Attachment numbered
      (saveMany change hchange .Task task db)) =
      db.update (changeIf (childFilter task numbered) change) (key_changeIf hchange) := by
  unfold saveMany
  rw [Keyed.update_update, Keyed.update_update]
  refine Keyed.update_congr fun doc _ => ?_
  have hmodel := model_saveIf hchange .Task task doc
  have hmodel' := model_saveIf hchange .Attachment numbered doc
  unfold changeIf childFilter
  cases h : doc.model with
  | Task =>
    rw [saveIf_of_ne _ (by simp [model_saveIf hchange, h]), saveIf_of_ne _ (by simp [hmodel, h]),
      saveIf_of_eq hchange h (by decide) (by decide)]
    rfl
  | Attachment =>
    rw [saveIf_of_ne doc (by simp [h]), saveIf_of_ne _ (by simp [hmodel', h]),
      saveIf_of_eq hchange h (by decide) (by decide)]
    rfl
  | Comment =>
    rw [saveIf_of_ne doc (by simp [h]), saveIf_of_ne doc (by simp [h]),
      saveIf_of_eq hchange h (by decide) (by decide)]
    rfl
  | _ =>
    rw [saveIf_of_ne doc (by simp [h]), saveIf_of_ne doc (by simp [h]),
      saveIf_of_ne doc (by simp [h])]
    simp

end children

section cascade

variable (req : Request) (odm : Odm)

theorem isChild_congr {caseDoc caseDoc' : Document} (h : SameLinks caseDoc caseDoc') :
    isChild caseDoc' = isChild caseDoc := by
  unfold isChild
  have htask : isTaskOf caseDoc' = isTaskOf caseDoc := by
    funext doc
    unfold isTaskOf
    rw [h.id, h.firmId]
  have hnumbered : hasCaseKey caseDoc' = hasCaseKey caseDoc := by
    funext doc
    unfold hasCaseKey
    rw [h.caseKey]
  rw [htask, hnumbered]

/-- A child is a task, an attachment or a comment. -/
theorem model_of_isChild {caseDoc doc : Document} (h : isChild caseDoc doc = true) :
    doc.model = .Task ∨ doc.model = .Attachment ∨ doc.model = .Comment := by
  unfold isChild childFilter at h
  split at h
  · exact .inl ‹_›
  · exact .inr (.inl ‹_›)
  · exact .inr (.inr ‹_›)
  · cases h

theorem cascadeCase_eq (caseDoc : Document) (db : Database) :
    cascadeCase req caseDoc db = db.update (changeIf (isChild caseDoc) (markDeleted req))
      (key_changeIf (key_markDeleted req)) :=
  saveMany_children (key_markDeleted req) _ _ db

/-- A document is deleted with one of the cases. -/
def isChildOfAny (cases : List Document) (doc : Document) : Bool := cases.any fun c => isChild c doc

/-- The cascades of several cases delete the documents that are children of one of them. -/
theorem foldl_cascadeCase (cases : List Document) (db : Database) :
    cases.foldl (fun db caseDoc => cascadeCase req caseDoc db) db =
      db.update (changeIf (isChildOfAny cases) (markDeleted req))
        (key_changeIf (key_markDeleted req)) := by
  induction cases generalizing db with
  | nil => exact (Keyed.update_eq_self fun doc _ => rfl).symm
  | cons first cases ih =>
    rw [List.foldl_cons, ih, cascadeCase_eq, Keyed.update_update]
    refine Keyed.update_congr fun doc _ => ?_
    have hcons : isChildOfAny (first :: cases) doc =
        (isChild first doc || isChildOfAny cases doc) := List.any_cons
    unfold changeIf
    rw [hcons]
    cases hfirst : isChild first doc with
    | false => rfl
    | true =>
      have htwice : markDeleted req (markDeleted req doc) = markDeleted req doc :=
        markDeleted_of_isDeleted (isDeleted_markDeleted req doc)
      rw [if_pos rfl, Bool.true_or, if_pos rfl, htwice, ite_self]

/-- The cases whose children are deleted with a document. -/
def cascadeRoots (db : Database) (doc : Document) : List Document :=
  match doc.model with
  | .Client => find db .Case (isCaseOf doc)
  | .Case => [doc]
  | _ => []

/-- The document that `softDelete` saves. -/
def deletedDocument (doc : Document) : Document :=
  preSave doc (markDeleted req (disableUser odm doc))

theorem sameLinks_deletedDocument (doc : Document) : SameLinks doc (deletedDocument req odm doc) :=
  ((sameLinks_disableUser odm doc).trans (sameLinks_markDeleted req _)).trans
    (sameLinks_preSave doc _)

/-- The document is a case that is deleted with a client. -/
def isRelatedCase (doc other : Document) : Bool :=
  doc.model = .Client && found .Case (isCaseOf doc) other

/-- What `softDelete` of a document makes of the documents. -/
def deleteEffect (db : Database) (doc other : Document) : Document :=
  if other.key = doc.key then deletedDocument req odm doc
  else if isRelatedCase doc other then preSave other (markDeleted req other)
  else changeIf (isChildOfAny (cascadeRoots db doc)) (markDeleted req) other

theorem key_deleteEffect (db : Database) (doc other : Document) :
    (deleteEffect req odm db doc other).key = other.key := by
  unfold deleteEffect
  split_ifs with hkey
  · exact (sameLinks_deletedDocument req odm doc).key.trans hkey.symm
  · rw [key_preSave, key_markDeleted]
  · exact key_changeIf (key_markDeleted req) other

/-- A user is saved with a status. -/
theorem save_deleted (doc : Document) :
    save doc (markDeleted req (disableUser odm doc)) = .ok (deletedDocument req odm doc) := by
  have hstatus : ¬((markDeleted req (disableUser odm doc)).model = .User ∧
      (markDeleted req (disableUser odm doc)).auth.status = none) := by
    rintro ⟨hmodel, hnone⟩
    have huser : doc.model = .User :=
      ((sameLinks_disableUser odm doc).trans (sameLinks_markDeleted req _)).model.symm.trans hmodel
    unfold disableUser at hnone
    rw [if_pos huser] at hnone
    unfold markDeleted at hnone
    split_ifs at hnone
  unfold save
  rw [throwIf_neg hstatus]
  rfl

theorem mem_of_findOne {db : Database} {model : ModelName} {filter : Document → Bool}
    {doc : Document} (h : findOne db model filter = some doc) :
    doc ∈ db.items ∧ doc.model = model := by
  have hfound := List.find?_some h
  unfold found at hfound
  rw [Bool.and_eq_true] at hfound
  exact ⟨List.mem_of_find?_eq_some h, of_decide_eq_true hfound.1⟩

/-- A query finds the same cases when their links are the same. -/
theorem isChildOfAny_find {db : Database} {f : Document → Document}
    (hf : ∀ doc, (f doc).key = doc.key) {client client' : Document}
    (hclient : SameLinks client client')
    (hlinks : ∀ a ∈ db.items, a.model = .Case → SameLinks a (f a)) :
    isChildOfAny (find (db.update f hf) .Case (isCaseOf client')) =
      isChildOfAny (find db .Case (isCaseOf client)) := by
  funext doc
  unfold isChildOfAny find
  rw [Keyed.items_update, List.any_filter, List.any_filter, List.any_map]
  have hsame : ∀ a ∈ db.items, (found .Case (isCaseOf client') (f a) && isChild (f a) doc) =
      (found .Case (isCaseOf client) a && isChild a doc) := by
    intro a ha
    have hmodel : (f a).model = a.model := congrArg Prod.fst (hf a)
    unfold found isCaseOf
    by_cases hcase : a.model = .Case
    · have hlink := hlinks a ha hcase
      rw [hmodel, hlink.clientId, hlink.firmId, isChild_congr hlink, hclient.clientId,
        hclient.firmId]
    · rw [hmodel, decide_eq_false hcase]
      rfl
  rw [Bool.eq_iff_iff, List.any_eq_true, List.any_eq_true]
  exact exists_congr fun a => and_congr_right fun ha => Bool.eq_iff_iff.1 (hsame a ha)

/-- A document that is no child is left by the cascades. -/
theorem changeIf_of_model {cases : List Document} {change : Document → Document} {doc : Document}
    (h : doc.model ≠ .Task ∧ doc.model ≠ .Attachment ∧ doc.model ≠ .Comment) :
    changeIf (isChildOfAny cases) change doc = doc := by
  refine if_neg fun hany => ?_
  obtain ⟨c, _, hchild⟩ := List.any_eq_true.1 hany
  rcases model_of_isChild hchild with hmodel | hmodel | hmodel
  · exact h.1 hmodel
  · exact h.2.1 hmodel
  · exact h.2.2 hmodel

/-- The cases of a client whose children are deleted are found after the client and the cases have
been saved. -/
theorem isChildOfAny_related {db : Database} {doc saved : Document} (hmodel : doc.model = .Client)
    (hlinks : SameLinks doc saved) :
    isChildOfAny (find (softDeleteMany req .Case (isCaseOf saved) (db.replace saved)) .Case
      (isCaseOf saved)) = isChildOfAny (cascadeRoots db doc) := by
  have hreplaced : isChildOfAny (find (db.replace saved) .Case (isCaseOf doc)) =
      isChildOfAny (find db .Case (isCaseOf doc)) := by
    refine isChildOfAny_find _ (SameLinks.refl doc) fun a _ hcase => ?_
    have hkey : a.key ≠ saved.key := by
      intro hkey
      have hsame : a.model = saved.model := congrArg Prod.fst hkey
      rw [hcase, hlinks.model, hmodel] at hsame
      cases hsame
    rw [if_neg hkey]
    exact SameLinks.refl a
  have hdeleted : isChildOfAny (find (softDeleteMany req .Case (isCaseOf saved) (db.replace saved))
      .Case (isCaseOf saved)) = isChildOfAny (find (db.replace saved) .Case (isCaseOf doc)) := by
    refine isChildOfAny_find (key_saveIf (key_markDeleted req)) hlinks fun a _ _ => ?_
    unfold saveIf
    split_ifs
    · exact (sameLinks_markDeleted req a).trans (sameLinks_preSave a _)
    · exact SameLinks.refl a
  rw [hdeleted, hreplaced]
  unfold cascadeRoots
  rw [hmodel]

/-- A client is deleted with its cases and their children. -/
theorem cascade_client {db : Database} {doc : Document} (hmodel : doc.model = .Client) :
    cascadeDeletes req (deletedDocument req odm doc) (db.replace (deletedDocument req odm doc)) =
      db.update (deleteEffect req odm db doc) (key_deleteEffect req odm db doc) := by
  have hlinks := sameLinks_deletedDocument req odm doc
  generalize hsaved : deletedDocument req odm doc = saved at hlinks
  have hsavedModel : saved.model = .Client := hlinks.model.trans hmodel
  unfold cascadeDeletes
  rw [hsavedModel]
  dsimp only
  rw [foldl_cascadeCase, isChildOfAny_related req hmodel hlinks]
  unfold softDeleteMany saveMany Keyed.replace
  rw [Keyed.update_update, Keyed.update_update]
  refine Keyed.update_congr fun other _ => ?_
  unfold deleteEffect saveIf
  rw [hsaved, hlinks.key]
  by_cases hkey : other.key = doc.key
  · have hnotFound : found .Case (isCaseOf saved) saved = false := by
      unfold found
      rw [hsavedModel]
      rfl
    rw [if_pos hkey, if_pos hkey, hnotFound, if_neg Bool.false_ne_true]
    exact changeIf_of_model (by rw [hsavedModel]; decide)
  · have hrelated : isRelatedCase doc other = found .Case (isCaseOf saved) other := by
      unfold isRelatedCase found isCaseOf
      rw [hmodel, hlinks.clientId, hlinks.firmId]
      rfl
    rw [if_neg hkey, if_neg hkey, hrelated]
    by_cases hfound : found .Case (isCaseOf saved) other = true
    · have hcase : (preSave other (markDeleted req other)).model = .Case := by
        rw [((sameLinks_markDeleted req other).trans (sameLinks_preSave other _)).model]
        unfold found at hfound
        exact of_decide_eq_true (Bool.and_eq_true_iff.1 hfound).1
      rw [if_pos hfound, if_pos hfound]
      exact changeIf_of_model (by rw [hcase]; decide)
    · rw [if_neg hfound, if_neg hfound]

/-- Other documents than clients are deleted with their children. -/
theorem cascade_other {db : Database} {doc : Document} (hmodel : doc.model ≠ .Client) :
    cascadeDeletes req (deletedDocument req odm doc) (db.replace (deletedDocument req odm doc)) =
      db.update (deleteEffect req odm db doc) (key_deleteEffect req odm db doc) := by
  have hlinks := sameLinks_deletedDocument req odm doc
  have hrelated (other : Document) : isRelatedCase doc other = false := by
    unfold isRelatedCase
    rw [decide_eq_false hmodel]
    rfl
  have hcascade : cascadeDeletes req (deletedDocument req odm doc)
      (db.replace (deletedDocument req odm doc)) =
      (db.replace (deletedDocument req odm doc)).update
        (changeIf (isChildOfAny (cascadeRoots db doc)) (markDeleted req))
        (key_changeIf (key_markDeleted req)) := by
    unfold cascadeDeletes cascadeRoots
    rw [hlinks.model]
    cases h : doc.model with
    | Client => exact absurd h hmodel
    | Case =>
      dsimp only
      rw [cascadeCase_eq, isChild_congr hlinks]
      refine Keyed.update_congr fun other _ => ?_
      unfold changeIf isChildOfAny
      simp only [List.any_cons, List.any_nil, Bool.or_false]
    | _ => exact (Keyed.update_eq_self fun _ _ => rfl).symm
  rw [hcascade]
  unfold Keyed.replace
  rw [Keyed.update_update]
  refine Keyed.update_congr fun other _ => ?_
  unfold deleteEffect
  rw [hlinks.key, hrelated]
  by_cases hkey : other.key = doc.key
  · rw [if_pos hkey, if_pos hkey]
    by_cases hcase : doc.model = .Case
    · exact changeIf_of_model (by rw [hlinks.model, hcase]; decide)
    · have hroots : cascadeRoots db doc = [] := by
        unfold cascadeRoots
        split
        · exact absurd ‹_› hmodel
        · exact absurd ‹_› hcase
        · rfl
      rw [hroots]
      rfl
  · rw [if_neg hkey, if_neg hkey]
    rfl

/-- `softDelete` of a document that may be deleted. -/
theorem softDelete_eq {model : ModelName} {filter : Document → Bool} {db : Database} {doc : Document}
    (hfind : findOne db model filter = some doc) (hdeletable : ensureDeletable db doc = .ok ()) :
    softDelete req odm model filter db =
      .ok (db.update (deleteEffect req odm db doc) (key_deleteEffect req odm db doc)) := by
  unfold softDelete
  rw [hfind]
  dsimp only
  rw [hdeletable, ok_bind, save_deleted, ok_bind]
  by_cases hmodel : doc.model = .Client
  · exact congrArg Except.ok (cascade_client req odm hmodel)
  · exact congrArg Except.ok (cascade_other req odm hmodel)

/-- The document that `restoreDocument` saves. -/
def restoredDocument (doc : Document) : Document :=
  preSave doc (enableUser odm (markRestored req doc))

theorem sameLinks_restoredDocument (doc : Document) : SameLinks doc (restoredDocument req odm doc) :=
  ((sameLinks_markRestored req doc).trans (sameLinks_enableUser odm _)).trans
    (sameLinks_preSave doc _)

/-- A child that is restored with a document. -/
def isRestorable (doc : Document) (other : Document) : Bool :=
  doc.model = .Case && childFilter (fun d => isTaskOf doc d && d.isDeleted)
    (fun d => hasCaseKeyInFirm doc d && d.isDeleted) other

/-- What `restoreDocument` of a document makes of the documents. -/
def restoreEffect (doc other : Document) : Document :=
  if other.key = doc.key then restoredDocument req odm doc
  else changeIf (isRestorable doc) (markRestored req) other

theorem key_restoreEffect (doc other : Document) :
    (restoreEffect req odm doc other).key = other.key := by
  unfold restoreEffect
  split_ifs with hkey
  · exact (sameLinks_restoredDocument req odm doc).key.trans hkey.symm
  · exact key_changeIf (key_markRestored req) other

theorem isRestorable_congr {doc saved : Document} (hlinks : SameLinks doc saved) :
    isRestorable saved = isRestorable doc := by
  funext other
  unfold isRestorable isTaskOf hasCaseKeyInFirm hasCaseKey
  rw [hlinks.model, hlinks.id, hlinks.firmId, hlinks.caseKey]

theorem restoreChildren_eq {db : Database} {doc : Document} :
    restoreChildren req (restoredDocument req odm doc) (db.replace (restoredDocument req odm doc)) =
      db.update (restoreEffect req odm doc) (key_restoreEffect req odm doc) := by
  have hlinks := sameLinks_restoredDocument req odm doc
  generalize hsaved : restoredDocument req odm doc = saved at hlinks
  have hchildren : restoreChildren req saved (db.replace saved) = (db.replace saved).update
      (changeIf (isRestorable saved) (markRestored req)) (key_changeIf (key_markRestored req)) := by
    unfold restoreChildren restoreMany
    cases hmodel : saved.model with
    | Case =>
      dsimp only
      rw [saveMany_children]
      refine Keyed.update_congr fun other _ => ?_
      unfold changeIf isRestorable
      rw [hmodel]
      rfl
    | _ =>
      refine (Keyed.update_eq_self fun other _ => ?_).symm
      unfold changeIf isRestorable
      rw [hmodel]
      rfl
  rw [hchildren, isRestorable_congr hlinks]
  unfold Keyed.replace
  rw [Keyed.update_update]
  refine Keyed.update_congr fun other _ => ?_
  unfold restoreEffect
  rw [hsaved, hlinks.key]
  by_cases hkey : other.key = doc.key
  · rw [if_pos hkey, if_pos hkey]
    refine if_neg fun hrestorable => ?_
    unfold isRestorable childFilter at hrestorable
    rw [Bool.and_eq_true, hlinks.model] at hrestorable
    rw [of_decide_eq_true hrestorable.1] at hrestorable
    exact Bool.false_ne_true hrestorable.2
  · rw [if_neg hkey, if_neg hkey]

/-- `restoreDocument` fails, or leaves the documents, or restores the document that it finds. -/
theorem restoreDocument_cases {model : ModelName} {filter : Document → Bool} {db : Database}
    {doc : Document} (hfind : findOne db model filter = some doc) :
    (∃ e, restoreDocument req odm model filter db = .error e) ∨
      restoreDocument req odm model filter db = .ok db ∨
        restoreDocument req odm model filter db =
          .ok (db.update (restoreEffect req odm doc) (key_restoreEffect req odm doc)) := by
  unfold restoreDocument
  rw [hfind]
  dsimp only
  split_ifs with hdeleted
  · cases hparents : ensureParentsActive db doc with
    | error e => exact .inl ⟨e, rfl⟩
    | ok =>
      rw [ok_bind]
      cases hsave : save doc (enableUser odm (markRestored req doc)) with
      | error e => exact .inl ⟨e, rfl⟩
      | ok saved =>
        obtain ⟨_, _, hsaved⟩ := bind_eq_ok.1 hsave
        cases hsaved
        exact .inr (.inr (congrArg Except.ok (restoreChildren_eq req odm)))
  · exact .inr (.inl rfl)

end cascade

/-! ## Other firms -/

/-- A call of the service. -/
inductive Call where
  | softDelete (model : ModelName) (filter : Document → Bool)
  | restoreDocument (model : ModelName) (filter : Document → Bool)

/-- The document that a call finds. -/
def Call.target (db : Database) : Call → Option Document
  | .softDelete model filter | .restoreDocument model filter => findOne db model filter

/-- The documents after a call. -/
def Call.run (req : Request) (odm : Odm) (db : Database) : Call → Database
  | .softDelete model filter => settle (SoftDelete.softDelete req odm model filter db) db
  | .restoreDocument model filter => settle (SoftDelete.restoreDocument req odm model filter db) db

/-- The documents of other firms than that of the document that a call finds are unchanged. -/
def Confined (req : Request) (odm : Odm) (db : Database) (call : Call) : Prop :=
  ∀ doc, call.target db = some doc → ∀ other ∈ db.items, other.firmId ≠ doc.firmId →
    other ∈ (call.run req odm db).items

/-- No other firm has an attachment or a comment that is not deleted under the number of a case that
is deleted. -/
def KeysApart (db : Database) : Call → Prop
  | .softDelete model filter => ∀ doc, findOne db model filter = some doc →
    ¬(doc.model = .Client ∧ doc.isDefaultClient = true) →
      ∀ caseDoc ∈ cascadeRoots db doc, ∀ other ∈ db.items, isChild caseDoc other = true →
        other.firmId ≠ doc.firmId → other.isDeleted = true
  | .restoreDocument _ _ => True

section frame

variable {req : Request} {odm : Odm} {db : Database} {doc other : Document}

/-- To documents of other firms, a delete comes as a child of a case only. -/
theorem deleteEffect_of_ne (hdoc : doc ∈ db.items) (hother : other ∈ db.items)
    (hfirm : other.firmId ≠ doc.firmId) :
    deleteEffect req odm db doc other =
      changeIf (isChildOfAny (cascadeRoots db doc)) (markDeleted req) other := by
  have hkey : other.key ≠ doc.key :=
    fun hkey => hfirm (congrArg Document.firmId (Keyed.eq_of_key hother hdoc hkey))
  have hrelated : ¬isRelatedCase doc other = true := by
    intro h
    unfold isRelatedCase found isCaseOf at h
    simp only [Bool.and_eq_true, decide_eq_true_eq] at h
    exact hfirm h.2.2.2
  unfold deleteEffect
  rw [if_neg hkey, if_neg hrelated]

/-- A restore does not come to documents of other firms. -/
theorem restoreEffect_of_ne (hdoc : doc ∈ db.items) (hother : other ∈ db.items)
    (hfirm : other.firmId ≠ doc.firmId) : restoreEffect req odm doc other = other := by
  have hkey : other.key ≠ doc.key :=
    fun hkey => hfirm (congrArg Document.firmId (Keyed.eq_of_key hother hdoc hkey))
  have hrestorable : ¬isRestorable doc other = true := by
    intro h
    unfold isRestorable childFilter isTaskOf hasCaseKeyInFirm at h
    rw [Bool.and_eq_true] at h
    split at h
    · simp only [Bool.and_eq_true, decide_eq_true_eq] at h
      exact hfirm h.2.1.2
    · simp only [Bool.and_eq_true, decide_eq_true_eq] at h
      exact hfirm h.2.1.2
    · simp only [Bool.and_eq_true, decide_eq_true_eq] at h
      exact hfirm h.2.1.2
    · exact Bool.false_ne_true h.2
  unfold restoreEffect
  rw [if_neg hkey]
  exact if_neg hrestorable

/-- A document that may not be deleted is a default client, or has no cascade. -/
theorem cascadeRoots_of_error {e : DeleteError} (h : ensureDeletable db doc = .error e) :
    doc.model = .Client ∧ doc.isDefaultClient = true ∨ cascadeRoots db doc = [] := by
  by_contra hnot
  rw [not_or] at hnot
  have hcategory : doc.model ≠ .Category := by
    intro hmodel
    apply hnot.2
    unfold cascadeRoots
    rw [hmodel]
  unfold ensureDeletable at h
  rw [throwIf_neg fun hboth => hcategory hboth.1, ok_bind, throwIf_neg hnot.1] at h
  cases h

theorem ensureDeletable_default (h : ensureDeletable db doc = .ok ()) :
    ¬(doc.model = .Client ∧ doc.isDefaultClient = true) := by
  obtain ⟨_, _, hdefault⟩ := bind_eq_ok.1 h
  exact throwIf_eq_ok.1 hdefault

/-- A delete of a document that is found. -/
theorem confined_softDelete {model : ModelName} {filter : Document → Bool}
    (hfind : findOne db model filter = some doc) :
    Confined req odm db (.softDelete model filter) ↔ KeysApart db (.softDelete model filter) := by
  have hdoc := (mem_of_findOne hfind).1
  have hconfined : Confined req odm db (.softDelete model filter) ↔ ∀ other ∈ db.items,
      other.firmId ≠ doc.firmId →
        other ∈ ((Call.softDelete model filter).run req odm db).items := by
    unfold Confined Call.target
    simp [hfind]
  have hapart : KeysApart db (.softDelete model filter) ↔
      (¬(doc.model = .Client ∧ doc.isDefaultClient = true) →
        ∀ caseDoc ∈ cascadeRoots db doc, ∀ other ∈ db.items, isChild caseDoc other = true →
          other.firmId ≠ doc.firmId → other.isDeleted = true) := by
    unfold KeysApart
    simp [hfind]
  rw [hconfined, hapart, Call.run]
  cases hdeletable : ensureDeletable db doc with
  | error e =>
    have hrefused : softDelete req odm model filter db = .error e := by
      unfold softDelete
      rw [hfind]
      dsimp only
      rw [hdeletable]
      rfl
    rw [hrefused]
    refine iff_of_true (fun other hother _ => hother) fun hdefault caseDoc hcase => ?_
    rw [(cascadeRoots_of_error hdeletable).resolve_left hdefault] at hcase
    cases hcase
  | ok =>
    rw [softDelete_eq req odm hfind hdeletable]
    constructor
    · intro h _ caseDoc hcase other hother hchild hfirm
      have hsame := (Keyed.mem_update_iff (key_deleteEffect req odm db doc) hother).1
        (h other hother hfirm)
      have hany : isChildOfAny (cascadeRoots db doc) other = true :=
        List.any_eq_true.2 ⟨caseDoc, hcase, hchild⟩
      rw [deleteEffect_of_ne hdoc hother hfirm, changeIf, if_pos hany] at hsame
      rw [← hsame]
      exact isDeleted_markDeleted req other
    · intro h other hother hfirm
      refine (Keyed.mem_update_iff (key_deleteEffect req odm db doc) hother).2 ?_
      rw [deleteEffect_of_ne hdoc hother hfirm, changeIf]
      split_ifs with hany
      · obtain ⟨caseDoc, hcase, hchild⟩ := List.any_eq_true.1 hany
        exact markDeleted_of_isDeleted
          (h (ensureDeletable_default hdeletable) caseDoc hcase other hother hchild hfirm)
      · rfl

theorem confined_restoreDocument {model : ModelName} {filter : Document → Bool}
    (hfind : findOne db model filter = some doc) :
    Confined req odm db (.restoreDocument model filter) := by
  intro doc' hdoc' other hother hfirm
  obtain rfl : doc = doc' := Option.some.inj (hfind.symm.trans hdoc')
  have hdoc := (mem_of_findOne hfind).1
  change other ∈ (settle (restoreDocument req odm model filter db) db).items
  rcases restoreDocument_cases req odm hfind with ⟨e, h⟩ | h | h <;> rw [h]
  · exact hother
  · exact hother
  · exact (Keyed.mem_update_iff (key_restoreEffect req odm doc) hother).2
      (restoreEffect_of_ne hdoc hother hfirm)

end frame

/-- A delete or a restore leaves the documents of other firms unchanged exactly when no other firm
has an attachment or a comment under the number of a deleted case. -/
theorem confined_iff (req : Request) (odm : Odm) (db : Database) (call : Call) :
    Confined req odm db call ↔ KeysApart db call := by
  cases htarget : call.target db with
  | none =>
    cases call with
    | softDelete model filter =>
      refine iff_of_true (fun doc hdoc => ?_) fun doc hdoc => ?_
      · rw [htarget] at hdoc
        cases hdoc
      · rw [show findOne db model filter = none from htarget] at hdoc
        cases hdoc
    | restoreDocument model filter =>
      refine iff_of_true (fun doc hdoc => ?_) trivial
      rw [htarget] at hdoc
      cases hdoc
  | some doc =>
    cases call with
    | softDelete model filter => exact confined_softDelete htarget
    | restoreDocument model filter => exact iff_of_true (confined_restoreDocument htarget) trivial

/-! ## A number that two firms use -/

/-- A case of a firm. Case numbers are unique within a firm only. -/
def numberedCase (id firmId : String) : Document where
  model := .Case
  id := id
  firmId := some firmId
  caseId := some "CASE-20260105-00001"
  caseNumber := some "CASE-20260105-00001"

/-- A comment of the second firm on its case. -/
def otherComment : Document where
  model := .Comment
  id := "comment"
  firmId := some "second"
  caseId := some "CASE-20260105-00001"

/-- Two firms have a case with the same number. -/
def twoFirms : Database where
  items := [numberedCase "case1" "first", numberedCase "case2" "second", otherComment]
  nodup := by decide

def anyRequest : Request := ⟨0, some "X000001", none⟩

def deleteFirstCase : Call := .softDelete .Case fun doc => doc.id = "case1"

/-- The comment of the second firm is deleted with the case of the first one. -/
theorem confined_fails :
    markDeleted anyRequest otherComment ∈ (deleteFirstCase.run anyRequest ⟨true⟩ twoFirms).items ∧
      ¬Confined anyRequest ⟨true⟩ twoFirms deleteFirstCase := by
  have hitems : (deleteFirstCase.run anyRequest ⟨true⟩ twoFirms).items =
      [markDeleted anyRequest (numberedCase "case1" "first"), numberedCase "case2" "second",
        markDeleted anyRequest otherComment] := by
    decide
  refine ⟨by rw [hitems]; simp, fun h => ?_⟩
  have hunchanged := h (numberedCase "case1" "first") (by decide) otherComment
    (by decide) (by decide)
  rw [hitems] at hunchanged
  revert hunchanged
  decide

end Docketra.SoftDelete
