import Docketra.SoftDelete

/-!
# Restoring what was deleted

`restoreDocument` restores the document, and of a case the children that are deleted, whenever that
was, and are of its firm. `softDelete` deletes more: the cases of a client with their children, and
attachments and comments of other firms. So a restore undoes a delete only where these differences do
not show (`restore_undoes_iff`). The state of a user comes from a snapshot, which is never taken when
an empty nested path is an object.
-/

namespace Docketra.SoftDelete

open Checked

/-! ## What is asked -/

/-- What is compared of a document: whether it is deleted, and the state of a user. -/
def view (doc : Document) : (ModelName × String) × Bool × AuthState :=
  (doc.key, doc.isDeleted, doc.auth)

def views (db : Database) : List ((ModelName × String) × Bool × AuthState) := db.items.map view

/-- The filter for a document by its `_id`. -/
def isDocument (doc other : Document) : Bool := other.id = doc.id

section statements

variable (req : Request) (odm : Odm)

def deleteOf (doc : Document) (db : Database) : Database :=
  settle (softDelete req odm doc.model (isDocument doc) db) db

def restoreOf (doc : Document) (db : Database) : Database :=
  settle (restoreDocument req odm doc.model (isDocument doc) db) db

/-- `restoreDocument` undoes `softDelete`. -/
def Undone (req' : Request) (db : Database) (doc : Document) : Prop :=
  views (restoreOf req' odm doc (deleteOf req odm doc db)) = views db

/-- What `restoreDocument` restores, it restores after another `softDelete` too. -/
def SecondHarmless (req' : Request) (db : Database) (doc : Document) : Prop :=
  ∀ entry ∈ views (restoreOf req' odm doc db), entry ∉ views db →
    entry ∈ views (restoreOf req' odm doc (deleteOf req odm doc db))

/-- A restore undoes the delete of a document that is not deleted, and another delete of one that is
deleted does not change what it restores. -/
structure RestoreUndoes (req' : Request) (db : Database) (doc : Document) : Prop where
  undone : doc.isDeleted = false → Undone req odm req' db doc
  second : doc.isDeleted = true → SecondHarmless req odm req' db doc

/-- The snapshot that a user is restored from after a delete. -/
def snapshotOf (doc : Document) : AuthState :=
  if hasSnapshot odm doc then doc.deletedAuthSnapshot else doc.auth

/-- A snapshot agrees with the state of a user: they have the same lock, and both are disabled with
the same `isActive`, or the user has the status of the snapshot and `isActive` by it. -/
def Matches (snapshot auth : AuthState) : Prop :=
  snapshot.lockUntil = auth.lockUntil ∧ ∃ status, snapshot.status = some status ∧
    (status = .disabled ∧ auth.status = some .disabled ∧ auth.isActive = snapshot.isActive ∨
      status ≠ .disabled ∧ auth.status = some (normalizeStatus status) ∧
        auth.isActive = some (decide (normalizeStatus status = .active)))

/-- The client of a case is deleted. -/
def clientDeleted (db : Database) (doc : Document) : Prop :=
  truthy doc.clientId = true ∧
    foundDeleted (findOne db .Client (isClient doc.clientId doc.firmId))

/-- When the delete of a document that is not deleted is undone. -/
def Undoable (db : Database) (doc : Document) : Prop :=
  match doc.model with
  | .User => Matches (snapshotOf odm doc) doc.auth
  | .Client => doc.isDefaultClient = true ∨ ∀ other ∈ db.items,
    isRelatedCase doc other = true ∨ isChildOfAny (cascadeRoots db doc) other = true →
      other.isDeleted = true
  | .Case => ¬clientDeleted db doc ∧ ∀ other ∈ db.items, isChild doc other = true →
    (other.isDeleted = true ↔ other.firmId ≠ doc.firmId)
  | _ => True

/-- When another delete of a deleted document does not change what is restored: a user's status is
that of the snapshot just when this is `disabled`, or the snapshot's `isActive` is that of its
status. -/
def SnapshotStands (doc : Document) : Prop :=
  doc.model = .User → ∀ status, (snapshotOf odm doc).status = some status →
    (doc.auth.status = some status ↔ status = .disabled) ∨
      status ≠ .suspended ∧ (snapshotOf odm doc).isActive = some (decide (status = .active))

end statements

/-! ## The document is found again -/

theorem findOne_self {db : Database} {doc : Document} (hdoc : doc ∈ db.items) :
    findOne db doc.model (isDocument doc) = some doc := by
  unfold findOne
  cases hfind : db.items.find? (found doc.model (isDocument doc)) with
  | none =>
    have hnot := List.find?_eq_none.1 hfind doc hdoc
    unfold found isDocument at hnot
    simp at hnot
  | some other =>
    have hfound := List.find?_some hfind
    unfold found isDocument at hfound
    rw [Bool.and_eq_true, decide_eq_true_eq, decide_eq_true_eq] at hfound
    have hkey : other.key = doc.key := Prod.ext hfound.1 hfound.2
    rw [Keyed.eq_of_key (List.mem_of_find?_eq_some hfind) hdoc hkey]

section effects

variable {req : Request} {odm : Odm} {db : Database} {doc : Document}

/-- A delete that is refused, or its effect. -/
theorem deleteOf_cases (req : Request) (odm : Odm) (hdoc : doc ∈ db.items) :
    (∃ e, ensureDeletable db doc = .error e) ∧ deleteOf req odm doc db = db ∨
      ensureDeletable db doc = .ok () ∧ deleteOf req odm doc db =
        db.update (deleteEffect req odm db doc) (key_deleteEffect req odm db doc) := by
  have hfind := findOne_self hdoc
  unfold deleteOf
  cases hdeletable : ensureDeletable db doc with
  | error e =>
    refine .inl ⟨⟨e, rfl⟩, ?_⟩
    unfold softDelete
    rw [hfind]
    dsimp only
    rw [hdeletable]
    rfl
  | ok => exact .inr ⟨rfl, by rw [softDelete_eq req odm hfind hdeletable]; rfl⟩

theorem deleteOf_eq (req : Request) (odm : Odm) (hdoc : doc ∈ db.items)
    (hdeletable : ensureDeletable db doc = .ok ()) : deleteOf req odm doc db =
      db.update (deleteEffect req odm db doc) (key_deleteEffect req odm db doc) := by
  rcases deleteOf_cases req odm hdoc with ⟨⟨e, he⟩, -⟩ | ⟨-, heq⟩
  · rw [hdeletable] at he
    cases he
  · exact heq

/-- A restore that is refused. -/
theorem restoreOf_refused (hdoc : doc ∈ db.items)
    (h : doc.isDeleted = false ∨ (∃ e, ensureParentsActive db doc = .error e) ∨
      ∃ e, save doc (enableUser odm (markRestored req doc)) = .error e) :
    restoreOf req odm doc db = db := by
  unfold restoreOf restoreDocument
  rw [findOne_self hdoc]
  dsimp only
  cases hdeleted : doc.isDeleted with
  | false => rfl
  | true =>
    rw [if_pos rfl]
    rcases h with h | ⟨e, h⟩ | ⟨e, h⟩
    · rw [hdeleted] at h
      cases h
    · rw [h]
      rfl
    · cases hparents : ensureParentsActive db doc with
      | error e' => rfl
      | ok => rw [ok_bind, h]; rfl

/-- A restore that is not refused. -/
theorem restoreOf_eq (hdoc : doc ∈ db.items) (hdeleted : doc.isDeleted = true)
    (hparents : ensureParentsActive db doc = .ok ())
    (hsave : save doc (enableUser odm (markRestored req doc)) = .ok (restoredDocument req odm doc)) :
    restoreOf req odm doc db =
      db.update (restoreEffect req odm doc) (key_restoreEffect req odm doc) := by
  unfold restoreOf restoreDocument
  rw [findOne_self hdoc]
  dsimp only
  rw [if_pos hdeleted, hparents, ok_bind, hsave, ok_bind]
  exact restoreChildren_eq req odm

/-- A document is saved unless it is a user without a status. -/
theorem save_eq_ok (stored saved : Document) (h : saved.model = .User → saved.auth.status ≠ none) :
    save stored saved = .ok (preSave stored saved) := by
  unfold save
  rw [throwIf_neg fun hboth => h hboth.1 hboth.2]
  rfl

theorem isDocument_congr {doc' : Document} (hlinks : SameLinks doc doc') :
    isDocument doc' = isDocument doc := by
  funext other
  unfold isDocument
  rw [hlinks.id]

/-- A restore finds the document that has been deleted. -/
theorem restoreOf_congr {doc' : Document} (hlinks : SameLinks doc doc') :
    restoreOf req odm doc' = restoreOf req odm doc := by
  funext db
  unfold restoreOf
  rw [hlinks.model, isDocument_congr hlinks]

theorem deletedDocument_mem (hdoc : doc ∈ db.items) :
    deletedDocument req odm doc ∈
      (db.update (deleteEffect req odm db doc) (key_deleteEffect req odm db doc)).items :=
  List.mem_map.2 ⟨doc, hdoc, if_pos rfl⟩

theorem isDeleted_deletedDocument : (deletedDocument req odm doc).isDeleted = true := by
  unfold deletedDocument
  rw [isDeleted_preSave, isDeleted_markDeleted]

/-! ## What is compared -/

theorem views_update {f : Document → Document} {hf : ∀ d, (f d).key = d.key} :
    views (db.update f hf) = db.items.map fun d => view (f d) := by
  unfold views
  rw [Keyed.items_update, List.map_map]
  rfl

theorem views_update_eq_iff {f : Document → Document} {hf : ∀ d, (f d).key = d.key} :
    views (db.update f hf) = views db ↔ ∀ d ∈ db.items, view (f d) = view d := by
  rw [views_update]
  exact List.map_inj_left

/-- Only what is deleted and the states of users count. -/
theorem view_eq_iff {d d' : Document} (hkey : d'.key = d.key) :
    view d' = view d ↔ d'.isDeleted = d.isDeleted ∧ d'.auth = d.auth := by
  unfold view
  simp [hkey]

theorem auth_preSave (stored saved : Document) (h : saved.model ≠ .User) :
    (preSave stored saved).auth = saved.auth := by
  unfold preSave fillCaseId
  split
  · split_ifs <;> rfl
  · exact absurd ‹_› h
  · rfl

theorem auth_markDeleted : (markDeleted req doc).auth = doc.auth := by
  unfold markDeleted
  split_ifs <;> rfl

theorem auth_markRestored (req : Request) (doc : Document) :
    (markRestored req doc).auth = doc.auth := rfl

/-- The state of other documents than users is not changed. -/
theorem auth_deletedDocument (req : Request) (odm : Odm) (huser : doc.model ≠ .User) :
    (deletedDocument req odm doc).auth = doc.auth := by
  have hdisable : disableUser odm doc = doc := if_neg huser
  unfold deletedDocument
  rw [hdisable, auth_preSave _ _ (by rw [(sameLinks_markDeleted req doc).model]; exact huser),
    auth_markDeleted]

theorem isDeleted_restoredDocument (req : Request) (odm : Odm) (doc : Document) :
    (restoredDocument req odm doc).isDeleted = false := by
  unfold restoredDocument enableUser
  rw [isDeleted_preSave]
  split_ifs <;> rfl

theorem auth_restoredDocument (req : Request) (odm : Odm) (huser : doc.model ≠ .User) :
    (restoredDocument req odm doc).auth = doc.auth := by
  have henable : enableUser odm (markRestored req doc) = markRestored req doc :=
    if_neg fun h => huser (of_decide_eq_true (Bool.and_eq_true_iff.1 h).1)
  unfold restoredDocument
  rw [henable, auth_preSave _ (markRestored req doc) huser, auth_markRestored]

/-- A document that is no user is restored to the same whether it is deleted once more or not. -/
theorem view_restored_again (req' : Request) (huser : doc.model ≠ .User) :
    view (restoredDocument req' odm (deletedDocument req odm doc)) =
      view (restoredDocument req' odm doc) := by
  have hlinks := sameLinks_deletedDocument req odm doc
  have hkey : (restoredDocument req' odm (deletedDocument req odm doc)).key =
      (restoredDocument req' odm doc).key := by
    rw [(sameLinks_restoredDocument req' odm _).key, hlinks.key,
      (sameLinks_restoredDocument req' odm doc).key]
  have huser' : (deletedDocument req odm doc).model ≠ .User := by
    rw [hlinks.model]
    exact huser
  rw [view_eq_iff hkey, isDeleted_restoredDocument, isDeleted_restoredDocument,
    auth_restoredDocument req' odm huser', auth_restoredDocument req' odm huser,
    auth_deletedDocument req odm huser]
  exact ⟨rfl, rfl⟩

/-- A document that is no user is as it was after a delete and a restore. -/
theorem view_restored_deleted (req' : Request) (hactive : doc.isDeleted = false)
    (huser : doc.model ≠ .User) :
    view (restoredDocument req' odm (deletedDocument req odm doc)) = view doc := by
  rw [view_restored_again req' huser, view_eq_iff (sameLinks_restoredDocument req' odm doc).key,
    isDeleted_restoredDocument, auth_restoredDocument req' odm huser, hactive]
  exact ⟨rfl, rfl⟩

/-! ## The effect of a delete and a restore -/

/-- The restore after a delete that is not refused. -/
theorem restoreOf_deleted {req' : Request} (hdoc : doc ∈ db.items)
    (hparents : ensureParentsActive
      (db.update (deleteEffect req odm db doc) (key_deleteEffect req odm db doc))
      (deletedDocument req odm doc) = .ok ())
    (hsave : save (deletedDocument req odm doc)
      (enableUser odm (markRestored req' (deletedDocument req odm doc))) =
        .ok (restoredDocument req' odm (deletedDocument req odm doc))) :
    restoreOf req' odm doc
        (db.update (deleteEffect req odm db doc) (key_deleteEffect req odm db doc)) =
      db.update (fun d => restoreEffect req' odm (deletedDocument req odm doc)
        (deleteEffect req odm db doc d)) fun d => by rw [key_restoreEffect, key_deleteEffect] := by
  rw [← restoreOf_congr (sameLinks_deletedDocument req odm doc),
    restoreOf_eq (deletedDocument_mem hdoc) isDeleted_deletedDocument hparents hsave,
    Keyed.update_update]

/-- A restore after a delete that is refused leaves the document deleted. -/
theorem not_undone_of_refused {req' : Request} (hdoc : doc ∈ db.items)
    (hactive : doc.isDeleted = false)
    (h : restoreOf req' odm doc
        (db.update (deleteEffect req odm db doc) (key_deleteEffect req odm db doc)) =
      db.update (deleteEffect req odm db doc) (key_deleteEffect req odm db doc)) :
    ¬views (restoreOf req' odm doc
        (db.update (deleteEffect req odm db doc) (key_deleteEffect req odm db doc))) = views db := by
  rw [h, views_update_eq_iff]
  intro hviews
  have hdeleted := ((view_eq_iff (key_deleteEffect req odm db doc doc)).1 (hviews doc hdoc)).1
  rw [deleteEffect, if_pos rfl, isDeleted_deletedDocument, hactive] at hdeleted
  cases hdeleted

/-- What is restored with the document itself. -/
theorem restoreEffect_self {req' : Request} :
    restoreEffect req' odm (deletedDocument req odm doc) (deleteEffect req odm db doc doc) =
      restoredDocument req' odm (deletedDocument req odm doc) := by
  unfold restoreEffect
  rw [deleteEffect, if_pos rfl, if_pos rfl]

theorem restoreEffect_of_key {req' : Request} {d : Document} (hkey : d.key ≠ doc.key) :
    restoreEffect req' odm (deletedDocument req odm doc) (deleteEffect req odm db doc d) =
      changeIf (isRestorable doc) (markRestored req') (deleteEffect req odm db doc d) := by
  have hlinks := sameLinks_deletedDocument req odm doc
  unfold restoreEffect
  rw [key_deleteEffect, hlinks.key, if_neg hkey, isRestorable_congr hlinks]

/-- A document changes exactly when it is deleted by the cascade and was not before. -/
theorem view_deleteEffect_iff {d : Document} (hkey : d.key ≠ doc.key) :
    view (deleteEffect req odm db doc d) = view d ↔
      (isRelatedCase doc d = true ∨ isChildOfAny (cascadeRoots db doc) d = true →
        d.isDeleted = true) := by
  rw [view_eq_iff (key_deleteEffect req odm db doc d)]
  unfold deleteEffect
  rw [if_neg hkey]
  by_cases hrelated : isRelatedCase doc d = true
  · have hcase : d.model = .Case := by
      unfold isRelatedCase found at hrelated
      simp only [Bool.and_eq_true, decide_eq_true_eq] at hrelated
      exact hrelated.2.1
    have hauth : (preSave d (markDeleted req d)).auth = d.auth := by
      rw [auth_preSave _ _ (by rw [(sameLinks_markDeleted req d).model, hcase]; decide),
        auth_markDeleted]
    rw [if_pos hrelated, isDeleted_preSave, isDeleted_markDeleted]
    exact ⟨fun h _ => h.1.symm, fun h => ⟨(h (.inl hrelated)).symm, hauth⟩⟩
  · rw [if_neg hrelated]
    unfold changeIf
    split_ifs with hany
    · rw [isDeleted_markDeleted, auth_markDeleted]
      exact ⟨fun h _ => h.1.symm, fun h => ⟨(h (.inr hany)).symm, rfl⟩⟩
    · exact iff_of_true ⟨rfl, rfl⟩ fun h => absurd h (not_or.2 ⟨hrelated, hany⟩)

/-! ## Clients -/

theorem ensureParentsActive_of_model (h : doc.model = .Client ∨ doc.model = .User) :
    ensureParentsActive db doc = .ok () := by
  unfold ensureParentsActive
  rcases h with h | h <;> simp [h, throwIf]

theorem undone_client {req' : Request} (hdoc : doc ∈ db.items) (hmodel : doc.model = .Client)
    (hactive : doc.isDeleted = false) : Undone req odm req' db doc ↔ Undoable odm db doc := by
  have hlinks := sameLinks_deletedDocument req odm doc
  have hundoable : Undoable odm db doc ↔ doc.isDefaultClient = true ∨ ∀ other ∈ db.items,
      isRelatedCase doc other = true ∨ isChildOfAny (cascadeRoots db doc) other = true →
        other.isDeleted = true := by
    unfold Undoable
    rw [hmodel]
  unfold Undone
  rw [hundoable]
  rcases deleteOf_cases req odm hdoc with ⟨⟨e, hrefused⟩, heq⟩ | ⟨hdeletable, heq⟩
  · rw [heq, restoreOf_refused hdoc (.inl hactive)]
    refine iff_of_true rfl (.inl ?_)
    by_contra hdefault
    unfold ensureDeletable at hrefused
    simp [hmodel, hdefault, throwIf] at hrefused
  · have hdefault : ¬doc.isDefaultClient = true :=
      fun hdefault => ensureDeletable_default hdeletable ⟨hmodel, hdefault⟩
    have hsaved : (deletedDocument req odm doc).model = .Client := hlinks.model.trans hmodel
    have henabled : (enableUser odm (markRestored req' (deletedDocument req odm doc))).model =
        .Client := (sameLinks_enableUser odm _).model.trans hsaved
    rw [heq, restoreOf_deleted hdoc (ensureParentsActive_of_model (.inl hsaved))
      (save_eq_ok _ _ fun huser => by rw [henabled] at huser; cases huser),
      views_update_eq_iff, or_iff_right hdefault]
    refine forall₂_congr fun d hd => ?_
    by_cases hkey : d.key = doc.key
    · obtain rfl := Keyed.eq_of_key hd hdoc hkey
      rw [restoreEffect_self, view_restored_deleted req' hactive (by rw [hmodel]; decide)]
      refine iff_of_true rfl fun h => ?_
      rcases h with h | h
      · unfold isRelatedCase found at h
        simp [hmodel] at h
      · obtain ⟨c, _, hchild⟩ := List.any_eq_true.1 h
        have hchildModel := model_of_isChild hchild
        simp [hmodel] at hchildModel
    · have hnone : isRestorable doc (deleteEffect req odm db doc d) = false := by
        unfold isRestorable
        rw [hmodel]
        rfl
      rw [restoreEffect_of_key hkey, changeIf, hnone, if_neg Bool.false_ne_true,
        view_deleteEffect_iff hkey]

/-! ## Cases -/

/-- The clients are found as they were. -/
theorem findOne_client {f : Document → Document} (hf : ∀ d, (f d).key = d.key)
    (hclients : ∀ d ∈ db.items, d.model = .Client → f d = d) (filter : Document → Bool) :
    findOne (db.update f hf) .Client filter = findOne db .Client filter := by
  have hfound : ∀ d ∈ db.items, found .Client filter (f d) = found .Client filter d := by
    intro d hd
    by_cases hmodel : d.model = .Client
    · rw [hclients d hd hmodel]
    · have hmodel' : (f d).model ≠ .Client := by
        rw [show (f d).model = d.model from congrArg Prod.fst (hf d)]
        exact hmodel
      unfold found
      rw [decide_eq_false hmodel, decide_eq_false hmodel']
      rfl
  unfold findOne
  rw [Keyed.items_update]
  have hitems : ∀ l : List Document, (∀ d ∈ l, d ∈ db.items) →
      (l.map f).find? (found .Client filter) = l.find? (found .Client filter) := by
    intro l hl
    induction l with
    | nil => rfl
    | cons d l ih =>
      have hd := hl d List.mem_cons_self
      rw [List.map_cons, List.find?_cons, List.find?_cons, hfound d hd,
        ih fun a ha => hl a (List.mem_cons_of_mem _ ha)]
      cases hmatches : found .Client filter d with
      | false => rfl
      | true =>
        unfold found at hmatches
        rw [hclients d hd (of_decide_eq_true (Bool.and_eq_true_iff.1 hmatches).1)]
  exact hitems db.items fun _ hd => hd

/-- The delete of a case leaves the clients as they are. -/
theorem deleteEffect_client (hmodel : doc.model = .Case) {d : Document}
    (hclient : d.model = .Client) : deleteEffect req odm db doc d = d := by
  have hkey : d.key ≠ doc.key := by
    intro hkey
    have hsame : d.model = doc.model := congrArg Prod.fst hkey
    rw [hclient, hmodel] at hsame
    cases hsame
  have hrelated : ¬isRelatedCase doc d = true := by
    unfold isRelatedCase
    simp [hmodel]
  unfold deleteEffect
  rw [if_neg hkey, if_neg hrelated]
  exact changeIf_of_model (by rw [hclient]; decide)

theorem ensureParentsActive_case (hmodel : doc.model = .Case) :
    ensureParentsActive db doc = .ok () ↔ ¬clientDeleted db doc := by
  unfold ensureParentsActive clientDeleted
  simp [hmodel, throwIf]

theorem clientDeleted_deleted (hmodel : doc.model = .Case) :
    clientDeleted (db.update (deleteEffect req odm db doc) (key_deleteEffect req odm db doc))
      (deletedDocument req odm doc) ↔ clientDeleted db doc := by
  have hlinks := sameLinks_deletedDocument req odm doc
  unfold clientDeleted
  rw [findOne_client _ (fun d _ hclient => deleteEffect_client hmodel hclient), hlinks.clientId,
    hlinks.firmId]

theorem isRestorable_iff {d : Document} (hmodel : doc.model = .Case) :
    isRestorable doc d = true ↔
      isChild doc d = true ∧ d.firmId = doc.firmId ∧ d.isDeleted = true := by
  unfold isRestorable isChild childFilter isTaskOf hasCaseKeyInFirm
  rw [hmodel]
  cases d.model <;> simp <;> tauto

/-- A document that is no user is saved. -/
theorem save_restored {req' : Request} {saved : Document} (huser : saved.model ≠ .User) :
    save saved (enableUser odm (markRestored req' saved)) =
      .ok (restoredDocument req' odm saved) := by
  refine save_eq_ok _ _ fun hmodel => ?_
  rw [(sameLinks_enableUser odm _).model, (sameLinks_markRestored req' saved).model] at hmodel
  exact absurd hmodel huser

theorem auth_changeIf {p : Document → Bool} {change : Document → Document}
    (hchange : ∀ d, (change d).auth = d.auth) (d : Document) :
    (changeIf p change d).auth = d.auth := by
  unfold changeIf
  split_ifs
  · exact hchange d
  · rfl

/-- A child of a case that was deleted is restored exactly when it is of the same firm. -/
theorem view_case_child {req' : Request} (hmodel : doc.model = .Case) {d : Document}
    (hkey : d.key ≠ doc.key) :
    view (restoreEffect req' odm (deletedDocument req odm doc) (deleteEffect req odm db doc d)) =
        view d ↔
      (isChild doc d = true → (d.isDeleted = true ↔ d.firmId ≠ doc.firmId)) := by
  have hrelated : ¬isRelatedCase doc d = true := by
    unfold isRelatedCase
    simp [hmodel]
  have hany : isChildOfAny (cascadeRoots db doc) d = isChild doc d := by
    unfold cascadeRoots isChildOfAny
    rw [hmodel]
    exact Bool.or_false _
  rw [restoreEffect_of_key hkey, view_eq_iff (by
    rw [key_changeIf (key_markRestored req'), key_deleteEffect])]
  unfold deleteEffect
  rw [if_neg hkey, if_neg hrelated, auth_changeIf (auth_markRestored req'),
    auth_changeIf fun _ => auth_markDeleted]
  by_cases hchild : isChild doc d = true
  · have hdeleted : changeIf (isChildOfAny (cascadeRoots db doc)) (markDeleted req) d =
        markDeleted req d := if_pos (hany.trans hchild)
    have hrestorable : isRestorable doc (markDeleted req d) = true ↔ d.firmId = doc.firmId := by
      have hchild' : isChild doc (markDeleted req d) = true := by
        unfold markDeleted
        split_ifs <;> exact hchild
      rw [isRestorable_iff hmodel, (sameLinks_markDeleted req d).firmId]
      simp [hchild', isDeleted_markDeleted]
    rw [hdeleted]
    unfold changeIf
    by_cases hfirm : d.firmId = doc.firmId
    · rw [if_pos (hrestorable.2 hfirm)]
      have hactive : (markRestored req' (markDeleted req d)).isDeleted = false := rfl
      rw [hactive]
      refine ⟨fun h _ => iff_of_false ?_ (not_not.2 hfirm), fun h => ⟨?_, rfl⟩⟩
      · rw [← h.1]
        exact Bool.false_ne_true
      · exact (Bool.eq_false_iff.2 fun hdeleted => (h hchild).1 hdeleted hfirm).symm
    · rw [if_neg fun h => hfirm (hrestorable.1 h), isDeleted_markDeleted]
      exact ⟨fun h _ => iff_of_true h.1.symm hfirm, fun h => ⟨((h hchild).2 hfirm).symm, rfl⟩⟩
  · have hkept : changeIf (isChildOfAny (cascadeRoots db doc)) (markDeleted req) d = d :=
      if_neg fun h => hchild (hany.symm.trans h)
    rw [hkept]
    refine iff_of_true ⟨?_, rfl⟩ fun h => absurd h hchild
    rw [changeIf, if_neg fun h => hchild ((isRestorable_iff hmodel).1 h).1]

theorem undone_case {req' : Request} (hdoc : doc ∈ db.items) (hmodel : doc.model = .Case)
    (hactive : doc.isDeleted = false) : Undone req odm req' db doc ↔ Undoable odm db doc := by
  have hlinks := sameLinks_deletedDocument req odm doc
  have hsaved : (deletedDocument req odm doc).model = .Case := hlinks.model.trans hmodel
  have hundoable : Undoable odm db doc ↔ ¬clientDeleted db doc ∧ ∀ other ∈ db.items,
      isChild doc other = true → (other.isDeleted = true ↔ other.firmId ≠ doc.firmId) := by
    unfold Undoable
    rw [hmodel]
  have hdeletable : ensureDeletable db doc = .ok () := by
    unfold ensureDeletable
    simp [hmodel, throwIf]
  have hdelete := deleteOf_eq req odm hdoc hdeletable
  have hparents : ensureParentsActive
      (db.update (deleteEffect req odm db doc) (key_deleteEffect req odm db doc))
      (deletedDocument req odm doc) = .ok () ↔ ¬clientDeleted db doc :=
    (ensureParentsActive_case hsaved).trans (not_congr (clientDeleted_deleted hmodel))
  unfold Undone
  rw [hundoable, hdelete]
  by_cases hclient : clientDeleted db doc
  · have hrefused : ∃ e, ensureParentsActive
        (db.update (deleteEffect req odm db doc) (key_deleteEffect req odm db doc))
        (deletedDocument req odm doc) = .error e := by
      cases hresult : ensureParentsActive
          (db.update (deleteEffect req odm db doc) (key_deleteEffect req odm db doc))
          (deletedDocument req odm doc) with
      | error e => exact ⟨e, rfl⟩
      | ok => exact absurd hclient (hparents.1 hresult)
    refine iff_of_false (not_undone_of_refused hdoc hactive ?_) fun h => h.1 hclient
    rw [← restoreOf_congr hlinks]
    exact restoreOf_refused (deletedDocument_mem hdoc) (.inr (.inl hrefused))
  · rw [restoreOf_deleted hdoc (hparents.2 hclient) (save_restored (by rw [hsaved]; decide)),
      views_update_eq_iff, and_iff_right hclient]
    refine forall₂_congr fun d hd => ?_
    by_cases hkey : d.key = doc.key
    · obtain rfl := Keyed.eq_of_key hd hdoc hkey
      rw [restoreEffect_self, view_restored_deleted req' hactive (by rw [hmodel]; decide)]
      refine iff_of_true rfl fun hchild => ?_
      have hchildModel := model_of_isChild hchild
      simp [hmodel] at hchildModel
    · exact view_case_child hmodel hkey

/-! ## Users -/

/-- What the hook makes of the state of a user. -/
def savedState (stored : Option UserStatus) (auth : AuthState) : AuthState :=
  if auth.status = stored then auth
  else
    let status := auth.status.map normalizeStatus
    { auth with status, isActive := some (status = some .active) }

theorem auth_preSave_user (stored saved : Document) (h : saved.model = .User) :
    (preSave stored saved).auth = savedState stored.auth.status saved.auth := by
  unfold preSave syncActive savedState
  rw [h]
  dsimp only
  split_ifs <;> rfl

theorem snapshot_preSave (stored saved : Document) :
    (preSave stored saved).deletedAuthSnapshot = saved.deletedAuthSnapshot := by
  unfold preSave fillCaseId syncActive
  split
  · split_ifs <;> rfl
  · split_ifs <;> rfl
  · rfl

/-- A deleted user is disabled, and has the snapshot. -/
theorem deletedDocument_user (req : Request) (odm : Odm) (hmodel : doc.model = .User) :
    (deletedDocument req odm doc).auth =
        { doc.auth with status := some .disabled, isActive := some false } ∧
      (deletedDocument req odm doc).deletedAuthSnapshot = snapshotOf odm doc := by
  have hdisable : disableUser odm doc =
      { doc with
        deletedAuthSnapshot := snapshotOf odm doc
        auth := { doc.auth with status := some .disabled, isActive := some false } } :=
    if_pos hmodel
  have hmarked : (markDeleted req (disableUser odm doc)).model = .User := by
    rw [(sameLinks_markDeleted req _).model, (sameLinks_disableUser odm doc).model, hmodel]
  constructor
  · unfold deletedDocument
    rw [auth_preSave_user _ _ hmarked, auth_markDeleted, hdisable]
    unfold savedState
    split_ifs <;> rfl
  · unfold deletedDocument
    rw [snapshot_preSave]
    have hsnapshot : (markDeleted req (disableUser odm doc)).deletedAuthSnapshot =
        (disableUser odm doc).deletedAuthSnapshot := by
      unfold markDeleted
      split_ifs <;> rfl
    rw [hsnapshot, hdisable]

/-- A user is restored to its snapshot. Without a status in it, the save is refused. -/
theorem restore_user (req : Request) (hmodel : doc.model = .User) :
    ((snapshotOf odm doc).status = none →
        ∃ e, save doc (enableUser odm (markRestored req doc)) = .error e) ∧
      ((snapshotOf odm doc).status ≠ none →
        save doc (enableUser odm (markRestored req doc)) = .ok (restoredDocument req odm doc)) ∧
      (restoredDocument req odm doc).auth =
        savedState doc.auth.status (snapshotOf odm doc) := by
  have hrestored : (enableUser odm (markRestored req doc)).model = .User :=
    (sameLinks_enableUser odm _).model.trans hmodel
  have hsnapshot : hasSnapshot odm (markRestored req doc) = hasSnapshot odm doc := rfl
  have henable : (enableUser odm (markRestored req doc)).auth = snapshotOf odm doc := by
    unfold enableUser snapshotOf
    have huser : decide ((markRestored req doc).model = .User) = true := decide_eq_true hmodel
    rw [hsnapshot, huser, Bool.true_and]
    split_ifs <;> rfl
  refine ⟨fun hnone => ?_, fun hsome => ?_, ?_⟩
  · have hrefused : (enableUser odm (markRestored req doc)).auth.status = none := by
      rw [henable, hnone]
    unfold save
    exact ⟨_, by rw [throwIf, if_pos ⟨hrestored, hrefused⟩]; rfl⟩
  · refine save_eq_ok _ _ fun _ => ?_
    rw [henable]
    exact hsome
  · unfold restoredDocument
    rw [auth_preSave_user _ _ hrestored, henable]

/-- A snapshot with a status is kept by another delete. -/
theorem snapshotOf_deleted (req : Request) (hmodel : doc.model = .User)
    (hstatus : (snapshotOf odm doc).status ≠ none) :
    snapshotOf odm (deletedDocument req odm doc) = snapshotOf odm doc := by
  obtain ⟨_, hsnapshot⟩ := deletedDocument_user req odm hmodel
  have hthere : hasSnapshot odm (deletedDocument req odm doc) = true := by
    unfold hasSnapshot
    rw [hsnapshot, Bool.or_eq_true]
    refine .inr (decide_eq_true fun hunset => hstatus ?_)
    rw [hunset]
    rfl
  rw [← hsnapshot]
  exact if_pos hthere

/-- A deleted user without a snapshot had no state. -/
theorem unset_of_no_snapshot (hmodel : doc.model = .User)
    (hthere : hasSnapshot odm (deletedDocument req odm doc) = false) : doc.auth = .unset := by
  obtain ⟨_, hsnapshot⟩ := deletedDocument_user req odm hmodel
  unfold hasSnapshot at hthere
  rw [Bool.or_eq_false_iff, hsnapshot] at hthere
  have hunset : snapshotOf odm doc = .unset := by simpa using hthere.2
  unfold snapshotOf at hunset
  split_ifs at hunset with hsome
  · unfold hasSnapshot at hsome
    rw [hthere.1, hunset] at hsome
    exact absurd hsome (by decide)
  · exact hunset

/-- The state that a deleted user is restored to, from the snapshot. -/
theorem savedState_eq_iff {snapshot auth : AuthState} {status : UserStatus}
    (hstatus : snapshot.status = some status) :
    savedState (some .disabled) snapshot = auth ↔ Matches snapshot auth := by
  obtain ⟨snapshotStatus, snapshotActive, snapshotLock⟩ := snapshot
  obtain ⟨authStatus, authActive, authLock⟩ := auth
  dsimp only at hstatus
  subst hstatus
  unfold savedState Matches
  by_cases hdisabled : status = .disabled
  · subst hdisabled
    simp
    tauto
  · simp [hdisabled]
    tauto

/-- The hook leaves a state with a status as it is when the status is not `suspended` and `isActive`
says whether it is `active`. -/
theorem savedState_ne_iff {snapshot : AuthState} {status : UserStatus}
    (hstatus : snapshot.status = some status) {stored : Option UserStatus}
    (hne : stored ≠ some status) :
    savedState stored snapshot = snapshot ↔
      status ≠ .suspended ∧ snapshot.isActive = some (decide (status = .active)) := by
  obtain ⟨snapshotStatus, snapshotActive, snapshotLock⟩ := snapshot
  dsimp only at hstatus
  subst hstatus
  unfold savedState
  rw [if_neg hne.symm]
  cases status <;> simp [normalizeStatus, eq_comm]

/-- When the status is modified, what the hook makes of a state does not depend on the stored one. -/
theorem savedState_ne {snapshot : AuthState} {status : UserStatus}
    (hstatus : snapshot.status = some status) {stored stored' : Option UserStatus}
    (hne : stored ≠ some status) (hne' : stored' ≠ some status) :
    savedState stored snapshot = savedState stored' snapshot := by
  unfold savedState
  rw [hstatus, if_neg hne.symm, if_neg hne'.symm]

/-- The states after the restore of a user, after and without another delete, agree. -/
theorem savedState_again_iff {snapshot : AuthState} {status : UserStatus}
    (hstatus : snapshot.status = some status) (stored : Option UserStatus) :
    savedState (some .disabled) snapshot = savedState stored snapshot ↔
      (stored = some status ↔ status = .disabled) ∨
        status ≠ .suspended ∧ snapshot.isActive = some (decide (status = .active)) := by
  have hsame (h : stored = some status) : savedState stored snapshot = snapshot :=
    if_pos (hstatus.trans h.symm)
  by_cases hdisabled : status = .disabled
  · have hsnapshot : savedState (some .disabled) snapshot = snapshot := by
      refine if_pos ?_
      rw [hstatus, hdisabled]
    rw [hsnapshot]
    by_cases hstored : stored = some status
    · rw [hsame hstored]
      exact iff_of_true rfl (.inl (iff_of_true hstored hdisabled))
    · rw [eq_comm, savedState_ne_iff hstatus hstored]
      exact (or_iff_right fun h => hstored (h.2 hdisabled)).symm
  · have hmodified : some UserStatus.disabled ≠ some status :=
      fun h => hdisabled (Option.some.inj h).symm
    by_cases hstored : stored = some status
    · rw [hsame hstored, savedState_ne_iff hstatus hmodified]
      exact (or_iff_right fun h => hdisabled (h.1 hstored)).symm
    · exact iff_of_true (savedState_ne hstatus hmodified hstored)
        (.inl (iff_of_false hstored hdisabled))

theorem deletable_user (hmodel : doc.model = .User) : ensureDeletable db doc = .ok () := by
  unfold ensureDeletable
  simp [hmodel, throwIf]

/-- The delete and the restore of a user leave the other documents. -/
theorem user_other {req' : Request} (hmodel : doc.model = .User) {d : Document}
    (hkey : d.key ≠ doc.key) :
    restoreEffect req' odm (deletedDocument req odm doc) (deleteEffect req odm db doc d) = d := by
  have hrestorable (other : Document) : isRestorable doc other = false := by
    unfold isRestorable
    rw [hmodel]
    rfl
  have hroots : cascadeRoots db doc = [] := by
    unfold cascadeRoots
    rw [hmodel]
  have hrelated : isRelatedCase doc d = false := by
    unfold isRelatedCase
    rw [hmodel]
    rfl
  rw [restoreEffect_of_key hkey, changeIf, hrestorable, if_neg Bool.false_ne_true, deleteEffect,
    if_neg hkey, hrelated, if_neg Bool.false_ne_true, hroots]
  rfl

/-- A restore of a user that is not refused undoes the delete when it leaves the user with its
state. -/
theorem views_restored_user_iff {req' : Request} (hdoc : doc ∈ db.items) (hmodel : doc.model = .User)
    (hactive : doc.isDeleted = false)
    (hsave : save (deletedDocument req odm doc)
      (enableUser odm (markRestored req' (deletedDocument req odm doc))) =
        .ok (restoredDocument req' odm (deletedDocument req odm doc))) :
    views (restoreOf req' odm doc
        (db.update (deleteEffect req odm db doc) (key_deleteEffect req odm db doc))) = views db ↔
      (restoredDocument req' odm (deletedDocument req odm doc)).auth = doc.auth := by
  have hlinks := sameLinks_deletedDocument req odm doc
  have hsaved : (deletedDocument req odm doc).model = .User := hlinks.model.trans hmodel
  have hkey := (hlinks.trans (sameLinks_restoredDocument req' odm _)).key
  rw [restoreOf_deleted hdoc (ensureParentsActive_of_model (.inr hsaved)) hsave,
    views_update_eq_iff]
  constructor
  · intro h
    have hself := h doc hdoc
    rw [restoreEffect_self, view_eq_iff hkey] at hself
    exact hself.2
  · intro h d hd
    by_cases hd' : d.key = doc.key
    · obtain rfl := Keyed.eq_of_key hd hdoc hd'
      rw [restoreEffect_self, view_eq_iff hkey, isDeleted_restoredDocument, hactive]
      exact ⟨rfl, h⟩
    · -- another document is no part of the cascade of a user
      rw [user_other hmodel hd']

theorem undone_user {req' : Request} (hdoc : doc ∈ db.items) (hmodel : doc.model = .User)
    (hactive : doc.isDeleted = false) : Undone req odm req' db doc ↔ Undoable odm db doc := by
  have hlinks := sameLinks_deletedDocument req odm doc
  have hsaved : (deletedDocument req odm doc).model = .User := hlinks.model.trans hmodel
  obtain ⟨hauth, hsnapshot⟩ := deletedDocument_user req odm hmodel
  have hundoable : Undoable odm db doc ↔ Matches (snapshotOf odm doc) doc.auth := by
    unfold Undoable
    rw [hmodel]
  have hdelete := deleteOf_eq req odm hdoc (deletable_user hmodel)
  obtain ⟨hrefused, hsave, hstate⟩ := restore_user req' hsaved
  unfold Undone
  rw [hundoable, hdelete]
  cases hstatus : (snapshotOf odm doc).status with
  | some status =>
    have hsome : (snapshotOf odm doc).status ≠ none := by
      rw [hstatus]
      exact Option.some_ne_none _
    rw [snapshotOf_deleted req hmodel hsome] at hsave hstate
    rw [views_restored_user_iff hdoc hmodel hactive (hsave hsome), hstate, hauth,
      savedState_eq_iff hstatus]
  | none =>
    refine iff_of_false (fun hviews => ?_) fun ⟨_, status, hsome, _⟩ => ?_
    · cases hthere : hasSnapshot odm (deletedDocument req odm doc) with
      | true =>
        have hnone : (snapshotOf odm (deletedDocument req odm doc)).status = none := by
          rw [snapshotOf, if_pos hthere, hsnapshot, hstatus]
        refine not_undone_of_refused hdoc hactive ?_ hviews
        rw [← restoreOf_congr hlinks]
        exact restoreOf_refused (deletedDocument_mem hdoc) (.inr (.inr (hrefused hnone)))
      | false =>
        -- there was no state to restore, and the user stays disabled
        have hown : snapshotOf odm (deletedDocument req odm doc) =
            (deletedDocument req odm doc).auth := by
          rw [snapshotOf, hthere, if_neg Bool.false_ne_true]
        rw [hown, hauth] at hsave hstate
        rw [views_restored_user_iff hdoc hmodel hactive (hsave (Option.some_ne_none _)), hstate,
          unset_of_no_snapshot hmodel hthere] at hviews
        cases hviews
    · rw [hstatus] at hsome
      cases hsome

/-! ## Another delete -/

theorem mem_views_update_iff {f : Document → Document} {hf : ∀ d, (f d).key = d.key}
    {d d' : Document} (hd : d ∈ db.items) (hkey : d'.key = d.key) :
    view d' ∈ views (db.update f hf) ↔ view (f d) = view d' := by
  rw [views_update, List.mem_map]
  constructor
  · rintro ⟨other, hother, hview⟩
    have hkeys : (f other).key = d'.key := congrArg Prod.fst hview
    rw [hf other, hkey] at hkeys
    rw [← Keyed.eq_of_key hother hd hkeys]
    exact hview
  · exact fun h => ⟨d, hd, h⟩

theorem mem_views_iff {d d' : Document} (hd : d ∈ db.items) (hkey : d'.key = d.key) :
    view d' ∈ views db ↔ view d = view d' := by
  have hkept : db.update id (fun _ => rfl) = db := Keyed.update_eq_self fun _ _ => rfl
  have hmem : view d' ∈ views (db.update id fun _ => rfl) ↔ view (id d) = view d' :=
    mem_views_update_iff hd hkey
  rw [hkept] at hmem
  exact hmem

/-- Two restores, document by document. -/
theorem secondHarmless_iff {req' : Request} {f g : Document → Document}
    {hf : ∀ d, (f d).key = d.key} {hg : ∀ d, (g d).key = d.key}
    (hrestored : restoreOf req' odm doc db = db.update f hf)
    (hagain : restoreOf req' odm doc (deleteOf req odm doc db) = db.update g hg) :
    SecondHarmless req odm req' db doc ↔
      ∀ d ∈ db.items, view (f d) ≠ view d → view (g d) = view (f d) := by
  unfold SecondHarmless
  rw [hrestored, hagain]
  constructor
  · intro h d hd hne
    refine (mem_views_update_iff hd (hf d)).1 (h (view (f d)) ?_ ?_)
    · exact (mem_views_update_iff hd (hf d)).2 rfl
    · rw [mem_views_iff hd (hf d)]
      exact hne.symm
  · intro h entry hentry hnot
    rw [views_update, List.mem_map] at hentry
    obtain ⟨d, hd, rfl⟩ := hentry
    refine (mem_views_update_iff hd (hf d)).2 (h d hd fun hsame => hnot ?_)
    rw [mem_views_iff hd (hf d)]
    exact hsame.symm

/-- What is restored with a case is deleted already. -/
theorem deleteEffect_of_restorable {d : Document} (hkey : d.key ≠ doc.key)
    (h : isRestorable doc d = true) : deleteEffect req odm db doc d = d := by
  have hmodel : doc.model = .Case := by
    unfold isRestorable at h
    exact of_decide_eq_true (Bool.and_eq_true_iff.1 h).1
  have hrelated : ¬isRelatedCase doc d = true := by
    unfold isRelatedCase
    simp [hmodel]
  unfold deleteEffect changeIf
  rw [if_neg hkey, if_neg hrelated,
    markDeleted_of_isDeleted ((isRestorable_iff hmodel).1 h).2.2, ite_self]

/-- When neither restore is refused, only the state of the document can be another one. -/
theorem secondHarmless_iff_auth {req' : Request} (hdoc : doc ∈ db.items)
    (hdeleted : doc.isDeleted = true) (hdeletable : ensureDeletable db doc = .ok ())
    (hparents : ensureParentsActive db doc = .ok ())
    (hparents' : ensureParentsActive
      (db.update (deleteEffect req odm db doc) (key_deleteEffect req odm db doc))
      (deletedDocument req odm doc) = .ok ())
    (hsave : save doc (enableUser odm (markRestored req' doc)) = .ok (restoredDocument req' odm doc))
    (hsave' : save (deletedDocument req odm doc)
      (enableUser odm (markRestored req' (deletedDocument req odm doc))) =
        .ok (restoredDocument req' odm (deletedDocument req odm doc))) :
    SecondHarmless req odm req' db doc ↔
      (restoredDocument req' odm (deletedDocument req odm doc)).auth =
        (restoredDocument req' odm doc).auth := by
  have hdelete := deleteOf_eq req odm hdoc hdeletable
  have hagain := restoreOf_deleted hdoc hparents' hsave'
  rw [← hdelete] at hagain
  rw [secondHarmless_iff (restoreOf_eq hdoc hdeleted hparents hsave) hagain]
  have hself : restoreEffect req' odm doc doc = restoredDocument req' odm doc := if_pos rfl
  have hkeys : (restoredDocument req' odm (deletedDocument req odm doc)).key =
      (restoredDocument req' odm doc).key := by
    rw [(sameLinks_restoredDocument req' odm _).key, (sameLinks_deletedDocument req odm doc).key,
      (sameLinks_restoredDocument req' odm doc).key]
  have hview : view (restoredDocument req' odm (deletedDocument req odm doc)) =
        view (restoredDocument req' odm doc) ↔
      (restoredDocument req' odm (deletedDocument req odm doc)).auth =
        (restoredDocument req' odm doc).auth := by
    rw [view_eq_iff hkeys, isDeleted_restoredDocument, isDeleted_restoredDocument]
    exact and_iff_right rfl
  constructor
  · intro h
    have hdocument := h doc hdoc
    rw [hself, restoreEffect_self, hview] at hdocument
    refine hdocument fun hsame => ?_
    have hactive :=
      ((view_eq_iff (sameLinks_restoredDocument req' odm doc).key).1 hsame).1
    rw [isDeleted_restoredDocument, hdeleted] at hactive
    cases hactive
  · intro h d hd hne
    by_cases hkey : d.key = doc.key
    · obtain rfl := Keyed.eq_of_key hd hdoc hkey
      rw [hself, restoreEffect_self, hview]
      exact h
    · have hother : restoreEffect req' odm doc d =
          changeIf (isRestorable doc) (markRestored req') d := if_neg hkey
      rw [restoreEffect_of_key hkey, hother]
      rw [hother] at hne
      by_cases hrestorable : isRestorable doc d = true
      · rw [deleteEffect_of_restorable hkey hrestorable]
      · exact absurd (by rw [changeIf, if_neg hrestorable]) hne

/-- A delete that is refused changes nothing. -/
theorem secondHarmless_of_same {req' : Request} (h : deleteOf req odm doc db = db) :
    SecondHarmless req odm req' db doc := by
  intro entry hentry _
  rw [h]
  exact hentry

/-- Nothing is restored when the restore is refused. -/
theorem secondHarmless_of_refused {req' : Request} (h : restoreOf req' odm doc db = db) :
    SecondHarmless req odm req' db doc := by
  intro entry hentry hnot
  rw [h] at hentry
  exact absurd hentry hnot

/-- The parents of a client or a case are deleted after its delete when they were before. -/
theorem ensureParentsActive_deleted (hmodel : doc.model = .Client ∨ doc.model = .Case)
    (hparents : ensureParentsActive db doc = .ok ()) :
    ensureParentsActive
      (db.update (deleteEffect req odm db doc) (key_deleteEffect req odm db doc))
      (deletedDocument req odm doc) = .ok () := by
  have hlinks := (sameLinks_deletedDocument req odm doc).model
  rcases hmodel with hmodel | hmodel
  · exact ensureParentsActive_of_model (.inl (hlinks.trans hmodel))
  · rw [ensureParentsActive_case hmodel] at hparents
    rw [ensureParentsActive_case (hlinks.trans hmodel), clientDeleted_deleted hmodel]
    exact hparents

theorem second_other {req' : Request} (hdoc : doc ∈ db.items) (hdeleted : doc.isDeleted = true)
    (hmodel : doc.model = .Client ∨ doc.model = .Case) : SecondHarmless req odm req' db doc := by
  have huser : doc.model ≠ .User := by
    rcases hmodel with hmodel | hmodel <;> rw [hmodel] <;> decide
  have huser' : (deletedDocument req odm doc).model ≠ .User := by
    rw [(sameLinks_deletedDocument req odm doc).model]
    exact huser
  rcases deleteOf_cases req odm hdoc with ⟨_, hsame⟩ | ⟨hdeletable, _⟩
  · exact secondHarmless_of_same hsame
  cases hparents : ensureParentsActive db doc with
  | error e => exact secondHarmless_of_refused (restoreOf_refused hdoc (.inr (.inl ⟨e, hparents⟩)))
  | ok =>
    rw [secondHarmless_iff_auth hdoc hdeleted hdeletable hparents
      (ensureParentsActive_deleted hmodel hparents) (save_restored huser) (save_restored huser'),
      auth_restoredDocument req' odm huser', auth_restoredDocument req' odm huser,
      auth_deletedDocument req odm huser]

theorem second_user {req' : Request} (hdoc : doc ∈ db.items) (hdeleted : doc.isDeleted = true)
    (hmodel : doc.model = .User) : SecondHarmless req odm req' db doc ↔ SnapshotStands odm doc := by
  have hsaved : (deletedDocument req odm doc).model = .User :=
    (sameLinks_deletedDocument req odm doc).model.trans hmodel
  obtain ⟨hrefused, hsave, hstate⟩ := restore_user req' hmodel
  cases hstatus : (snapshotOf odm doc).status with
  | none =>
    refine iff_of_true ?_ fun _ status hsome => ?_
    · exact secondHarmless_of_refused (restoreOf_refused hdoc (.inr (.inr (hrefused hstatus))))
    · rw [hstatus] at hsome
      cases hsome
  | some status =>
    have hsome : (snapshotOf odm doc).status ≠ none := by
      rw [hstatus]
      exact Option.some_ne_none _
    obtain ⟨_, hsave', hstate'⟩ := restore_user req' hsaved
    rw [snapshotOf_deleted req hmodel hsome] at hsave' hstate'
    have hstands : SnapshotStands odm doc ↔
        (doc.auth.status = some status ↔ status = .disabled) ∨ status ≠ .suspended ∧
          (snapshotOf odm doc).isActive = some (decide (status = .active)) := by
      unfold SnapshotStands
      simp [hmodel, hstatus]
    rw [secondHarmless_iff_auth hdoc hdeleted (deletable_user hmodel)
      (ensureParentsActive_of_model (.inr hmodel)) (ensureParentsActive_of_model (.inr hsaved))
      (hsave hsome) (hsave' hsome), hstate, hstate', (deletedDocument_user req odm hmodel).1,
      savedState_again_iff hstatus, hstands]

end effects

/-- A restore undoes a delete, and another delete does not harm, exactly under these conditions. -/
theorem restore_undoes_iff (req : Request) (odm : Odm) (req' : Request) (db : Database)
    (doc : Document) (hdoc : doc ∈ db.items)
    (hmodel : doc.model = .Client ∨ doc.model = .Case ∨ doc.model = .User) :
    RestoreUndoes req odm req' db doc ↔
      (doc.isDeleted = false → Undoable odm db doc) ∧
        (doc.isDeleted = true → SnapshotStands odm doc) := by
  have hundone (hactive : doc.isDeleted = false) :
      Undone req odm req' db doc ↔ Undoable odm db doc := by
    rcases hmodel with hmodel | hmodel | hmodel
    · exact undone_client hdoc hmodel hactive
    · exact undone_case hdoc hmodel hactive
    · exact undone_user hdoc hmodel hactive
  have hsecond (hdeleted : doc.isDeleted = true) :
      SecondHarmless req odm req' db doc ↔ SnapshotStands odm doc := by
    have hstands (hother : doc.model ≠ .User) : SnapshotStands odm doc :=
      fun huser => absurd huser hother
    rcases hmodel with hmodel | hmodel | hmodel
    · exact iff_of_true (second_other hdoc hdeleted (.inl hmodel))
        (hstands (by rw [hmodel]; decide))
    · exact iff_of_true (second_other hdoc hdeleted (.inr hmodel))
        (hstands (by rw [hmodel]; decide))
    · exact second_user hdoc hdeleted hmodel
  constructor
  · intro h
    exact ⟨fun hactive => (hundone hactive).1 (h.undone hactive),
      fun hdeleted => (hsecond hdeleted).1 (h.second hdeleted)⟩
  · intro h
    exact ⟨fun hactive => (hundone hactive).2 (h.1 hactive),
      fun hdeleted => (hsecond hdeleted).2 (h.2 hdeleted)⟩

/-! ## A case with a comment -/

/-- A comment of the first firm on its case. -/
def ownComment (deletedAt : Option Date) : Document where
  model := .Comment
  id := "comment"
  firmId := some "first"
  caseId := some "CASE-20260105-00001"
  deletedAt := deletedAt

def commentedCase (deletedAt : Option Date) : Database where
  items := [numberedCase "case1" "first", ownComment deletedAt]
  nodup := by
    have hkeys : [(ModelName.Case, "case1"), (ModelName.Comment, "comment")].Nodup := by decide
    exact hkeys

/-- A comment that is not deleted is restored with its case. -/
theorem restore_undoes_commented :
    RestoreUndoes anyRequest ⟨true⟩ anyRequest (commentedCase none)
      (numberedCase "case1" "first") := by
  refine (restore_undoes_iff anyRequest ⟨true⟩ anyRequest (commentedCase none)
    (numberedCase "case1" "first") List.mem_cons_self (.inr (.inl rfl))).2
      ⟨fun _ => ⟨fun hclient => absurd hclient.1 (by decide), ?_⟩, fun hdeleted => by cases hdeleted⟩
  intro other hother hchild
  rcases List.mem_cons.1 hother with rfl | hother
  · exact absurd hchild (by decide)
  · obtain rfl := List.mem_singleton.1 hother
    decide

/-- A comment that was deleted before its case is revived with it. -/
theorem restore_undoes_fails :
    views (restoreOf anyRequest ⟨true⟩ (numberedCase "case1" "first")
        (deleteOf anyRequest ⟨true⟩ (numberedCase "case1" "first") (commentedCase (some 0)))) =
      [((.Case, "case1"), false, .unset), ((.Comment, "comment"), false, .unset)] ∧
    views (commentedCase (some 0)) =
      [((.Case, "case1"), false, .unset), ((.Comment, "comment"), true, .unset)] ∧
    ¬RestoreUndoes anyRequest ⟨true⟩ anyRequest (commentedCase (some 0))
      (numberedCase "case1" "first") := by
  have hrestored : views (restoreOf anyRequest ⟨true⟩ (numberedCase "case1" "first")
        (deleteOf anyRequest ⟨true⟩ (numberedCase "case1" "first") (commentedCase (some 0)))) =
      [((.Case, "case1"), false, .unset), ((.Comment, "comment"), false, .unset)] := by
    decide
  refine ⟨hrestored, by decide, fun h => ?_⟩
  have hundone := h.undone rfl
  unfold Undone at hundone
  rw [hrestored] at hundone
  revert hundone
  decide

end Docketra.SoftDelete
