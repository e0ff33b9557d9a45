import Docketra.Lib.Checked
import Docketra.Lib.Keyed
import Docketra.Lib.Releasing
import Docketra.SoftDelete

/-!
# Files that attachments share

`deleteClientCFSFile` of `services/cfsDrive.service.js` marks an attachment of a client as deleted,
and lets the storage provider delete its file when nothing else refers to it. Attachments refer to a
file by `driveFileId` or by `storageFileId`, case files by `storageFileId`. The service looks for
other references by `driveFileId` of attachments and by `storageFileId` of case files, fails when it
finds one, on variables that were never declared, and never deletes a file that is referred to by
`storageFileId` only. So the calls of a run do their work exactly when each meets `Clean`
(`shared_iff`).

Over such a run the files that have been deleted are those that nothing refers to any more
(`deleted_iff`), and no file is deleted that something still refers to (`sound_of_clean`).
-/

namespace Docketra.SharedFiles

open Checked Releasing Runs
open SoftDelete (Date Request)

/-! ## Documents -/

/-- The `source` of an attachment. -/
inductive Source where
  | upload | email | system | client_cfs | CLIENT_UPLOAD
  deriving DecidableEq, Repr

/-- An attachment, with the fields that a delete reads, checks or writes. -/
structure Attachment where
  id : String
  firmId : String
  clientId : Option String
  caseId : Option String
  source : Source
  driveFileId : Option String
  storageFileId : Option String
  storageProvider : Option String
  filePath : Option String
  deletedAt : Option Date
  deletedByXID : Option String
  deleteReason : Option String
  deriving DecidableEq, Repr

/-- A case file. Its schema has no field that marks it as deleted. -/
structure CaseFile where
  id : String
  storageFileId : Option String
  deriving DecidableEq, Repr

structure Store where
  attachments : Keyed Attachment.id
  caseFiles : List CaseFile

/-- The attachment refers to a file of the provider. -/
def Attachment.Refers (a : Attachment) (file : String) : Prop :=
  file ≠ "" ∧ (a.driveFileId = some file ∨ a.storageFileId = some file)

def CaseFile.Refers (c : CaseFile) (file : String) : Prop :=
  file ≠ "" ∧ c.storageFileId = some file

/-- Another undeleted attachment or a case file refers to the file. -/
def OthersRefer (s : Store) (a : Attachment) (file : String) : Prop :=
  (∃ b ∈ s.attachments.items, b.id ≠ a.id ∧ b.deletedAt = none ∧ b.Refers file) ∨
    ∃ c ∈ s.caseFiles, c.Refers file

/-! ## The provider -/

/-- The provider of a firm. Not every class of provider has a `deleteFile`. -/
structure Provider where
  deleteFile : Option (String → Except String Unit)

/-- The file is gone after `await provider.deleteFile(file)`. -/
def Provider.deletes (p : Provider) (file : String) : Bool :=
  p.deleteFile.any fun deleteFile => (deleteFile file).isOk

/-- What the provider has deleted after the `try` block, which catches every error. -/
def Provider.deleted (p : Provider) (file : String) : List String :=
  if p.deletes file then [file] else []

/-! ## Saving an attachment -/

/-- The fields that the schema requires, and its hook. -/
def Attachment.validate (a : Attachment) : Except String Unit := do
  throwIf (truthy a.storageFileId ∧ ¬truthy a.storageProvider)
    "Attachment validation failed: storageProvider: Path `storageProvider` is required."
  throwIf (a.storageProvider = some "google-drive" ∧ ¬truthy a.storageFileId)
    "Attachment validation failed: storageFileId: Path `storageFileId` is required."
  throwIf (a.source = .client_cfs ∧ ¬truthy a.clientId)
    "Client CFS attachments must have a clientId"
  throwIf (¬truthy a.clientId ∧ ¬truthy a.caseId)
    "Attachment must belong to either a client or a case"
  throwIf (¬truthy a.storageFileId ∧ ¬truthy a.driveFileId ∧ ¬truthy a.filePath)
    "Invalid attachment: no storage reference"

/-- `applyDocumentDeleteMarkers`, before it saves. -/
def markDeleted (req : Request) (a : Attachment) : Attachment :=
  if a.deletedAt.isSome then a
  else
    { a with
      deletedAt := some req.now
      deletedByXID := orElse req.actorXID none
      deleteReason := orElse req.reason none }

/-- `softDelete`, which finds deleted documents too. -/
def softDelete (req : Request) (id : String) (s : Store) : Except String Store :=
  match s.attachments.items.find? (·.id = id) with
  | none => .ok s
  | some doc => do
    (markDeleted req doc).validate
    return { s with attachments := s.attachments.replace (markDeleted req doc) }

/-! ## The service -/

/-- A call, with what `getProvider` answers to it. -/
structure DeleteCall where
  clientId : String
  attachmentId : String
  firmId : String
  req : Request
  provider : Except String Provider

/-- What a call returns, what is stored after it, and the files that the provider has deleted. -/
structure Outcome where
  result : Except String Attachment
  store : Store
  deleted : List String

def Outcome.failed (e : String) (s : Store) (deleted : List String) : Outcome :=
  ⟨.error e, s, deleted⟩

/-- `Attachment.findOne`. -/
def findAttachment (call : DeleteCall) (s : Store) : Option Attachment :=
  s.attachments.items.find? fun a =>
    a.id = call.attachmentId ∧ a.firmId = call.firmId ∧ a.clientId = some call.clientId ∧
      a.source = .client_cfs ∧ a.deletedAt = none

/-- `Attachment.exists`, for the other attachments that are not deleted. -/
def hasDuplicate (s : Store) (a : Attachment) (driveFileId : String) : Bool :=
  s.attachments.items.any fun b =>
    b.driveFileId = some driveFileId ∧ b.id ≠ a.id ∧ b.deletedAt = none

/-- `CaseFile.exists`. -/
def hasCaseFile (s : Store) (driveFileId : String) : Bool :=
  s.caseFiles.any (·.storageFileId = some driveFileId)

/-- The files that the provider deletes for an attachment. The branch of a shared file reads
variables that are not declared. -/
def releaseFile (p : Provider) (s : Store) (a : Attachment) : Except String (List String) :=
  match a.driveFileId.filter (· ≠ "") with
  | none => .ok []
  | some driveFileId =>
    if !hasDuplicate s a driveFileId && !hasCaseFile s driveFileId then
      .ok (p.deleted driveFileId)
    else .error "duplicateCount is not defined"

/-- `deleteClientCFSFile`, from the attachment that it has found. -/
def deleteFound (call : DeleteCall) (a : Attachment) (s : Store) : Outcome :=
  match call.provider with
  | .error e => .failed e s []
  | .ok p =>
    match releaseFile p s a with
    | .error e => .failed e s []
    | .ok deleted =>
      match softDelete call.req a.id s with
      | .error e => .failed e s deleted
      | .ok t => ⟨.ok a, t, deleted⟩

/-- `deleteClientCFSFile`. -/
def deleteClientCFSFile (call : DeleteCall) (s : Store) : Outcome :=
  if call.clientId = "" ∨ call.attachmentId = "" ∨ call.firmId = "" then
    .failed "clientId, attachmentId, and firmId are required" s []
  else
    match findAttachment call s with
    | none => .failed "File not found or access denied" s []
    | some a => deleteFound call a s

/-- The attachment that a call is on. -/
def subject (call : DeleteCall) (s : Store) : Option Attachment :=
  if call.clientId = "" ∨ call.attachmentId = "" ∨ call.firmId = "" then none
  else findAttachment call s

/-- The stored documents, and the files that the provider has deleted. -/
structure Service where
  store : Store
  deleted : List String

def step (call : DeleteCall) (s : Service) : Service where
  store := (deleteClientCFSFile call s.store).store
  deleted := s.deleted ++ (deleteClientCFSFile call s.store).deleted

/-! ## What a call has to do -/

/-- The call returns, marks exactly the attachment, and deletes its files that nothing else refers
to, and no others. -/
structure Removed (call : DeleteCall) (a : Attachment) (s : Store) : Prop where
  returns : (deleteClientCFSFile call s).result = .ok a
  marks : (deleteClientCFSFile call s).store =
    { s with attachments := s.attachments.replace (markDeleted call.req a) }
  deletes : ∀ file,
    file ∈ (deleteClientCFSFile call s).deleted ↔ a.Refers file ∧ ¬OthersRefer s a file

/-- A call on an existing attachment does its work. -/
def Handled (call : DeleteCall) (s : Service) : Prop :=
  ∀ a, subject call s.store = some a → Removed call a s.store

/-- No other attachment has the file of `driveFileId` there too, and no case file has it. -/
def Unshared (s : Store) (a : Attachment) : Prop :=
  ∀ file ≠ "", a.driveFileId = some file →
    hasDuplicate s a file = false ∧ hasCaseFile s file = false

/-- A call for which the code does its work: the provider `p` is there, the attachment can be saved,
its file is not shared in a way that the code looks for, `p` deletes a file of `driveFileId` exactly
when no `storageFileId` of another attachment refers to it, and a file that only `storageFileId`
names is referred to by others. -/
structure CleanFor (p : Provider) (a : Attachment) (s : Store) : Prop where
  saved : a.validate = .ok ()
  unshared : Unshared s a
  drive : ∀ file ≠ "", a.driveFileId = some file → (p.deletes file ↔ ¬OthersRefer s a file)
  storage : ∀ file ≠ "", a.storageFileId = some file → a.driveFileId ≠ some file →
    OthersRefer s a file

def Clean (call : DeleteCall) (s : Service) : Prop :=
  ∀ a, subject call s.store = some a → ∃ p, call.provider = .ok p ∧ CleanFor p a s.store

/-! ## One call -/

variable {call : DeleteCall} {s : Store} {a : Attachment} {p : Provider}

theorem delete_of_subject (h : subject call s = some a) :
    deleteClientCFSFile call s = deleteFound call a s := by
  unfold subject at h
  split_ifs at h with hgiven
  rw [deleteClientCFSFile, if_neg hgiven, h]

theorem subject_spec (h : subject call s = some a) :
    a ∈ s.attachments.items ∧ a.deletedAt = none := by
  unfold subject at h
  split_ifs at h
  have hfound := List.find?_some h
  simp only [decide_eq_true_eq] at hfound
  exact ⟨List.mem_of_find?_eq_some h, hfound.2.2.2.2⟩

/-- A call that is not on an attachment changes nothing. -/
theorem delete_of_no_subject (h : subject call s = none) :
    (deleteClientCFSFile call s).store = s ∧ (deleteClientCFSFile call s).deleted = [] := by
  unfold subject at h
  unfold deleteClientCFSFile
  split_ifs at h ⊢ with hgiven
  · exact ⟨rfl, rfl⟩
  · rw [h]
    exact ⟨rfl, rfl⟩

@[simp] theorem validate_markDeleted (req : Request) (a : Attachment) :
    (markDeleted req a).validate = a.validate := by
  unfold markDeleted
  split_ifs <;> rfl

@[simp] theorem id_markDeleted (req : Request) (a : Attachment) : (markDeleted req a).id = a.id := by
  unfold markDeleted
  split_ifs <;> rfl

theorem softDelete_eq (req : Request) (ha : a ∈ s.attachments.items) :
    softDelete req a.id s = a.validate.map fun _ =>
      { s with attachments := s.attachments.replace (markDeleted req a) } := by
  rw [softDelete, s.attachments.find?_key ha]
  show (markDeleted req a).validate >>= _ = _
  rw [validate_markDeleted]
  cases a.validate <;> rfl

/-- The file of `driveFileId`, when the provider deletes it. -/
def deletable (p : Provider) (a : Attachment) : List String :=
  (a.driveFileId.filter (· ≠ "")).elim [] p.deleted

theorem mem_deletable {file : String} :
    file ∈ deletable p a ↔ file ≠ "" ∧ a.driveFileId = some file ∧ p.deletes file := by
  unfold deletable Provider.deleted
  cases hdrive : a.driveFileId with
  | none => simp
  | some f =>
    by_cases hf : f = ""
    · -- An empty id counts as none.
      subst hf
      refine iff_of_false List.not_mem_nil ?_
      rintro ⟨hne, hsome, -⟩
      exact hne (Option.some.inj hsome).symm
    · simp only [Option.filter_some, ne_eq, hf, not_false_eq_true, decide_true, if_true,
        Option.elim_some, Option.some_inj]
      split_ifs with hdel <;> grind

theorem releaseFile_of_unshared (h : Unshared s a) : releaseFile p s a = .ok (deletable p a) := by
  unfold releaseFile deletable
  cases hdrive : a.driveFileId.filter (· ≠ "") with
  | none => rfl
  | some f =>
    obtain ⟨hsome, hf⟩ := Option.filter_eq_some_iff.1 hdrive
    obtain ⟨hdup, hcase⟩ := h f (of_decide_eq_true hf) hsome
    simp only [hdup, hcase, Bool.not_false, Bool.and_self, if_true, Option.elim_some]

theorem unshared_of_releaseFile {deleted : List String} (h : releaseFile p s a = .ok deleted) :
    Unshared s a := by
  intro f hf hsome
  have hdrive : a.driveFileId.filter (· ≠ "") = some f :=
    Option.filter_eq_some_iff.2 ⟨hsome, decide_eq_true hf⟩
  rw [releaseFile, hdrive] at h
  dsimp only at h
  split_ifs at h with hfree
  simpa using hfree

/-- A call that meets no error does what it should to the documents, and deletes the file of
`driveFileId`. -/
theorem deleteFound_eq (ha : a ∈ s.attachments.items) (hp : call.provider = .ok p)
    (hunshared : Unshared s a) (hsaved : a.validate = .ok ()) :
    deleteFound call a s =
      ⟨.ok a, { s with attachments := s.attachments.replace (markDeleted call.req a) },
        deletable p a⟩ := by
  rw [deleteFound, hp]
  dsimp only
  rw [releaseFile_of_unshared hunshared, softDelete_eq call.req ha, hsaved]
  rfl

/-- A call that returns has met no error. -/
theorem of_deleteFound (ha : a ∈ s.attachments.items)
    (h : (deleteFound call a s).result = .ok a) :
    ∃ p, call.provider = .ok p ∧ Unshared s a ∧ a.validate = .ok () := by
  unfold deleteFound at h
  cases hp : call.provider with
  | error e =>
    rw [hp] at h
    cases h
  | ok p =>
    rw [hp] at h
    dsimp only at h
    refine ⟨p, rfl, ?_⟩
    cases hds : releaseFile p s a with
    | error e =>
      rw [hds] at h
      cases h
    | ok deleted =>
      refine ⟨unshared_of_releaseFile hds, ?_⟩
      rw [hds, softDelete_eq call.req ha] at h
      dsimp only at h
      cases hsaved : a.validate with
      | error e =>
        rw [hsaved] at h
        cases h
      | ok u => rfl

/-- The files that the provider deletes are those that should be deleted exactly when `CleanFor`
says so of the file of `driveFileId` and of the other one. -/
theorem deletable_iff :
    (∀ file, file ∈ deletable p a ↔ a.Refers file ∧ ¬OthersRefer s a file) ↔
      (∀ file ≠ "", a.driveFileId = some file → (p.deletes file ↔ ¬OthersRefer s a file)) ∧
        ∀ file ≠ "", a.storageFileId = some file → a.driveFileId ≠ some file →
          OthersRefer s a file := by
  simp only [mem_deletable, Attachment.Refers]
  constructor
  · intro h
    refine ⟨fun file hfile hdrive => ?_, fun file hfile hstorage hdrive => ?_⟩
    · have hdeletes := h file
      tauto
    · by_contra hothers
      exact hdrive ((h file).2 ⟨⟨hfile, .inr hstorage⟩, hothers⟩).2.1
  · rintro ⟨hdrive, hstorage⟩ file
    have hd := hdrive file
    have hs := hstorage file
    tauto

theorem removed_iff (h : subject call s = some a) :
    Removed call a s ↔ ∃ p, call.provider = .ok p ∧ CleanFor p a s := by
  obtain ⟨ha, -⟩ := subject_spec h
  constructor
  · rintro ⟨hreturns, -, hdeletes⟩
    rw [delete_of_subject h] at hreturns hdeletes
    obtain ⟨p, hp, hunshared, hsaved⟩ := of_deleteFound ha hreturns
    rw [deleteFound_eq ha hp hunshared hsaved] at hdeletes
    obtain ⟨hdrive, hstorage⟩ := deletable_iff.1 hdeletes
    exact ⟨p, hp, hsaved, hunshared, hdrive, hstorage⟩
  · rintro ⟨p, hp, hsaved, hunshared, hdrive, hstorage⟩
    have heq := (delete_of_subject h).trans (deleteFound_eq ha hp hunshared hsaved)
    refine ⟨?_, ?_, ?_⟩
    · rw [heq]
    · rw [heq]
    · rw [heq]
      exact deletable_iff.2 ⟨hdrive, hstorage⟩

theorem handled_iff (call : DeleteCall) (s : Service) : Handled call s ↔ Clean call s :=
  forall₂_congr fun _ h => removed_iff h

/-! ## Runs -/

/-- In every run of calls, each call on an existing attachment does its work exactly when each meets
the condition. -/
theorem shared_iff (calls : List DeleteCall) (s : Service) :
    Admits step Handled calls s ↔ Admits step Clean calls s :=
  admits_congr_of_iff handled_iff calls s

/-- A file that was uploaded for the client. The upload leaves a case file. -/
def agreement : Attachment where
  id := "64a1"
  firmId := "F1"
  clientId := some "C000001"
  caseId := none
  source := .client_cfs
  driveFileId := some "drive-1"
  storageFileId := none
  storageProvider := none
  filePath := none
  deletedAt := none
  deletedByXID := none
  deleteReason := none

/-- The call that deletes it, of a firm with Google Drive. -/
def deleteAgreement : DeleteCall where
  clientId := "C000001"
  attachmentId := "64a1"
  firmId := "F1"
  req := ⟨0, some "X000001", some "Client CFS delete"⟩
  provider := .ok ⟨some fun _ => .ok ()⟩

def uploaded : Service where
  store := ⟨⟨[agreement], List.nodup_singleton _⟩, [⟨"64f1", some "drive-1"⟩]⟩
  deleted := []

/-- The delete of an uploaded file fails. -/
theorem shared_fails : ¬∀ calls s, Admits step Handled calls s := by
  intro h
  have hremoved := (h [deleteAgreement] uploaded).1 agreement (by decide)
  have hreturns := hremoved.returns
  have hresult : (deleteClientCFSFile deleteAgreement uploaded.store).result =
      .error "duplicateCount is not defined" := by
    decide
  rw [hresult] at hreturns
  cases hreturns

/-! ## What is deleted over a run -/

/-- An undeleted attachment or a case file refers to the file. -/
def Held (s : Store) (file : String) : Prop :=
  (∃ b ∈ s.attachments.items, b.deletedAt = none ∧ b.Refers file) ∨
    ∃ c ∈ s.caseFiles, c.Refers file

/-- The files that are referred to, and those that the provider has deleted. -/
def resources (s : Service) : Resources String :=
  ⟨{file | Held s.store file}, {file | file ∈ s.deleted}⟩

theorem deletedAt_markDeleted (req : Request) (h : a.deletedAt = none) :
    (markDeleted req a).deletedAt = some req.now := by
  rw [markDeleted, h]
  rfl

/-- Once an attachment is marked, a file is referred to exactly when others did. -/
theorem held_marked (req : Request) (hnone : a.deletedAt = none) (file : String) :
    Held { s with attachments := s.attachments.replace (markDeleted req a) } file ↔
      OthersRefer s a file := by
  have hmarked := deletedAt_markDeleted req hnone
  have hid := id_markDeleted req a
  unfold Held OthersRefer
  simp only [Keyed.mem_replace, hid]
  refine or_congr_left ⟨?_, ?_⟩
  · rintro ⟨b, ⟨hb, hne⟩ | ⟨rfl, -⟩, hdel, href⟩
    · exact ⟨b, hb, hne, hdel, href⟩
    · -- The marked attachment is no longer one that holds a file.
      rw [hmarked] at hdel
      cases hdel
  · rintro ⟨b, hb, hne, hdel, href⟩
    exact ⟨b, .inl ⟨hb, hne⟩, hdel, href⟩

/-- A file that an attachment does not refer to is referred to by others, when it is at all. -/
theorem held_iff (ha : a ∈ s.attachments.items) (hnone : a.deletedAt = none) (file : String) :
    Held s file ↔ a.Refers file ∨ OthersRefer s a file := by
  unfold Held OthersRefer
  rw [← or_assoc]
  refine or_congr_left ⟨?_, ?_⟩
  · rintro ⟨b, hb, hdel, href⟩
    -- The attachment with the same id is the same one.
    by_cases hid : b.id = a.id
    · rw [Keyed.eq_of_key hb ha hid] at href
      exact .inl href
    · exact .inr ⟨b, hb, hid, hdel, href⟩
  · rintro (href | ⟨b, hb, -, hdel, href⟩)
    · exact ⟨a, ha, hnone, href⟩
    · exact ⟨b, hb, hdel, href⟩

/-- A call that meets the condition releases the files that are no longer referred to. -/
theorem step_releases (call : DeleteCall) (s : Service) (h : Clean call s) :
    Releases (resources s) (resources (step call s)) := by
  cases hsubject : subject call s.store with
  | none =>
    obtain ⟨hstore, hdeleted⟩ := delete_of_no_subject hsubject
    have hstep : step call s = s := by
      rw [step, hstore, hdeleted, List.append_nil]
    rw [hstep]
    exact .refl _
  | some a =>
    obtain ⟨ha, hnone⟩ := subject_spec hsubject
    obtain ⟨-, hmarks, hdeletes⟩ := (removed_iff hsubject).2 (h a hsubject)
    -- What is held after the call is what others refer to before it.
    have hheld : ∀ file, Held (step call s).store file ↔ OthersRefer s.store a file := by
      intro file
      rw [step, hmarks]
      exact held_marked call.req hnone file
    constructor
    · intro file hfile
      exact (held_iff ha hnone file).2 (.inr ((hheld file).1 hfile))
    · ext file
      show file ∈ s.deleted ++ _ ↔
        file ∈ s.deleted ∨ Held s.store file ∧ ¬Held (step call s).store file
      rw [List.mem_append, hdeletes, hheld, held_iff ha hnone]
      tauto

/-- In a run of calls that meet the condition, the files that have been deleted are those that were
referred to and no longer are. -/
theorem deleted_iff {calls : List DeleteCall} {s : Service} (h : Admits step Clean calls s) :
    ∀ t ∈ states step calls s, ∀ file,
      file ∈ t.deleted ↔ file ∈ s.deleted ∨ Held s.store file ∧ ¬Held t.store file := by
  intro t ht file
  have hrun := states_release step_releases calls s h t ht
  exact Set.ext_iff.1 hrun.released_eq file

/-- In such a run no file is deleted that something still refers to. -/
theorem sound_of_clean {calls : List DeleteCall} {s : Service} (hs : (resources s).Sound)
    (h : Admits step Clean calls s) : ∀ t ∈ states step calls s, (resources t).Sound :=
  fun t ht => (states_release step_releases calls s h t ht).sound hs

end Docketra.SharedFiles
