import Docketra.Lib.Interleaving
import Mathlib.Data.List.Basic

/-!
# The storage worker

`workers/storage.worker.js` uploads the files that wait in a local directory. An attempt at a job
reads the staging record, hashes the file, looks for an attachment with the same content, uploads
the file where there is none, marks the record, inserts an attachment and removes the local file. An
attempt may fail or stop at any of these, and the queue starts another one; it may do so while the
first one is still at work.

In every run, with any number of attempts at any jobs and their steps in any order, no content is
lost: a staged file is in its place, or its record is marked with an object that has the same hash
and was uploaded for the same firm. No attachment refers to an object of another firm, or of another
content (`uploads_safe`).

The hash is any function. Comments, audit records, the count of bytes and the circuit breaker's own
state are left out: nothing that is modelled reads them. Nothing deletes an object.
-/

namespace Docketra.StorageWorker

open Interleaving Runs

inductive UploadStatus where
  | pending | initiated | uploaded | verified | error | failed | abandoned
  deriving DecidableEq, Repr

/-- What is known of a file when it is staged, and does not change. -/
structure Staged where
  firmId : String
  caseId : Option String := none
  clientId : Option String := none
  originalName : String
  size : ℕ := 0
  deriving DecidableEq, Repr

/-- A staging record. `hasLocalPath` tells whether `localPath` is set. -/
structure CaseFile where
  staged : Staged
  hasLocalPath : Bool := true
  storageFileId : Option ℕ := none
  uploadStatus : UploadStatus := .pending
  errorMessage : Option String := none
  isDeleted : Bool := false
  deriving DecidableEq, Repr

/-- The data of an `UPLOAD_FILE` job. -/
structure Job where
  firmId : String
  provider : String := "google"
  caseId : Option String := none
  folderId : Option String
  fileId : ℕ
  deriving DecidableEq, Repr

/-- An object in the firm's Drive. -/
structure Object (β : Type) where
  firmId : String
  folderId : String
  name : String
  content : β
  deriving DecidableEq, Repr

/-- An attachment, with the fields that the worker takes from the upload. -/
structure Attachment where
  firmId : String
  caseId : Option String
  clientId : Option String
  fileName : String
  driveFileId : ℕ
  size : ℕ
  contentHash : String
  isDuplicate : Bool
  deriving DecidableEq, Repr

/-- The collections, the local directory, where each staging record has a path of its own, and
Drive, whose objects are counted in the order of their uploads. -/
structure Storage (β : Type) where
  caseFiles : ℕ → Option CaseFile
  localFiles : ℕ → Option β
  drive : List (Object β)
  attachments : List Attachment

/-! ## Errors -/

/-- What an attempt throws. -/
structure JobError where
  message : String
  status : Option ℕ := none
  code : Option String := none
  isUnrecoverable : Bool := false
  deriving DecidableEq, Repr

def RETRYABLE_NETWORK_CODES : List String := ["ECONNRESET", "ETIMEDOUT", "ENOTFOUND", "ECONNREFUSED"]

def isRetryable (err : JobError) : Bool :=
  err.status.any (500 ≤ ·) || err.code.any (· ∈ RETRYABLE_NETWORK_CODES)

/-- What the worker makes of an error: one that is not worth a retry is thrown as unrecoverable. -/
def reclassify (err : JobError) : JobError :=
  if !isRetryable err && !err.isUnrecoverable then
    { message := err.message, isUnrecoverable := true }
  else err

def unrecoverable (message : String) : JobError := { message, isUnrecoverable := true }

/-! ## Attempts -/

/-- What an attempt has come to. -/
inductive Phase where
  | waiting
  | reconciling
  | fetched (file : CaseFile)
  | safe (file : CaseFile) (folderId : String)
  /-- The attempt has failed, and the record is to say so. -/
  | failing (err : JobError) (message : String)
  | hashed (file : CaseFile) (folderId contentHash : String)
  | unsent (file : CaseFile) (folderId contentHash : String)
  | uncounted (file : CaseFile) (contentHash : String) (driveFileId : ℕ)
  | sent (file : CaseFile) (contentHash : String) (driveFileId : ℕ) (isDuplicate : Bool)
  | marked (file : CaseFile) (contentHash : String) (driveFileId : ℕ) (isDuplicate : Bool)
  | attached
  | ended (err : Option JobError)
  deriving DecidableEq, Repr

/-- What an upload comes to: the object is there, or it is not, or it is and no answer arrives. -/
inductive UploadResult where
  | stored
  | refused (err : JobError)
  | unanswered (err : JobError)
  deriving DecidableEq, Repr

/-- A step of an attempt, with what it finds where nothing of the model does. -/
inductive Action where
  /-- The circuit allows the attempt, and the firm has a storage record. -/
  | fetch (isAllowed hasRecord : Bool)
  | reconcile
  /-- The firm is there, and the docket, if one is given, is the firm's. -/
  | assertTenantSafety (hasFirm ownsCase : Bool)
  | note
  | hash
  | findDuplicate
  | upload (result : UploadResult)
  /-- The storage usage is updated, or that fails. -/
  | count (err : Option JobError)
  | mark
  /-- The attachment is inserted, or that fails, which is logged. -/
  | attach (isInserted : Bool)
  | unlink
  | stop
  deriving DecidableEq, Repr

section

variable {β : Type} (sha256 : β → String)

/-- `assertTenantSafety`, and the check of the folder after it. -/
def assertTenantSafety (job : Job) (file : CaseFile) (hasFirm ownsCase : Bool) : Phase :=
  if !hasFirm then
    .ended (some (unrecoverable s!"[StorageWorker] Tenant safety: firm not found: {job.firmId}"))
  else if job.caseId.any (· ≠ "") && !ownsCase then
    .ended (some (unrecoverable ("[StorageWorker] Tenant safety: case " ++ job.caseId.getD "" ++
      " does not belong to firm " ++ job.firmId)))
  else if file.staged.firmId ≠ job.firmId then
    .ended (some (unrecoverable ("[StorageWorker] Tenant safety: CaseFile firmId mismatch (job: " ++
      job.firmId ++ ", record: " ++ file.staged.firmId ++ ")")))
  else if file.isDeleted then
    .ended (some (unrecoverable
      "[StorageWorker] Tenant safety: CaseFile is soft-deleted, skipping upload"))
  else
    match job.folderId with
    | none | some "" =>
      .ended (some (unrecoverable "[StorageWorker] folderId is required for case uploads"))
    | some folderId => .safe file folderId

/-- What an attempt does with the record that it has fetched. -/
def afterFetch (job : Job) : Option CaseFile → Phase
  | none => .ended (some (unrecoverable s!"[StorageWorker] CaseFile not found: {job.fileId}"))
  | some file =>
    if file.storageFileId.isSome && file.uploadStatus ≠ .uploaded then .reconciling
    else if file.uploadStatus = .uploaded then .ended none
    else .fetched file

def fetch (job : Job) (isAllowed hasRecord : Bool) (s : Storage β) : Phase :=
  if !isAllowed then
    .ended (some { message := "[StorageWorker] Circuit breaker OPEN for provider: " ++
      job.provider ++ ". Failing fast." })
  else if !hasRecord then
    .ended (some (unrecoverable
      s!"[StorageWorker] No FirmStorage record found for firmId: {job.firmId}"))
  else if job.provider ≠ "google" then
    .ended (some (unrecoverable s!"[StorageWorker] Unsupported provider: {job.provider}"))
  else afterFetch job (s.caseFiles job.fileId)

/-- `CaseFile.findByIdAndUpdate`. -/
def Storage.update (s : Storage β) (fileId : ℕ) (change : CaseFile → CaseFile) : Storage β :=
  { s with caseFiles := Function.update s.caseFiles fileId ((s.caseFiles fileId).map change) }

/-- The file cannot be read. -/
def readError : JobError := { message := "ENOENT: no such file or directory", code := some "ENOENT" }

/-- The attachment that the content was uploaded for. -/
def findDuplicate (firmId contentHash : String) (attachments : List Attachment) :
    Option Attachment :=
  attachments.find? fun a => a.firmId = firmId ∧ a.contentHash = contentHash ∧ !a.isDuplicate

/-- The object of an upload. -/
def Storage.store (s : Storage β) (job : Job) (folderId : String) (file : CaseFile) (content : β) :
    Storage β :=
  { s with drive := s.drive ++ [⟨job.firmId, folderId, file.staged.originalName, content⟩] }

/-- `provider.uploadFile`, which reads the local file again. -/
def upload (job : Job) (file : CaseFile) (folderId contentHash : String) (result : UploadResult)
    (s : Storage β) : Storage β × Phase :=
  match s.localFiles job.fileId with
  | none => (s, .failing readError readError.message)
  | some content =>
    match result with
    | .stored => (s.store job folderId file content, .uncounted file contentHash s.drive.length)
    | .refused err => (s, .failing err err.message)
    | .unanswered err => (s.store job folderId file content, .failing err err.message)

/-- The attachment of an upload. A file of neither a docket nor a client has none. -/
def attachmentOf (file : CaseFile) (contentHash : String) (driveFileId : ℕ) (isDuplicate : Bool) :
    Attachment where
  firmId := file.staged.firmId
  caseId := file.staged.caseId
  clientId := file.staged.clientId
  fileName := file.staged.originalName
  driveFileId
  size := file.staged.size
  contentHash
  isDuplicate

def isAttached (file : CaseFile) : Bool :=
  file.staged.caseId.any (· ≠ "") || file.staged.clientId.any (· ≠ "")

/-- A step of an attempt at a job. -/
def act (job : ℕ → Job) (request : ℕ) :
    Action → Storage β → Phase → Option (Storage β × Phase)
  | .stop, s, _ => some (s, .ended none)
  | .fetch isAllowed hasRecord, s, .waiting =>
    some (s, fetch (job request) isAllowed hasRecord s)
  | .reconcile, s, .reconciling =>
    some (s.update (job request).fileId fun file => { file with uploadStatus := .uploaded },
      .ended none)
  | .assertTenantSafety hasFirm ownsCase, s, .fetched file =>
    some (s, assertTenantSafety (job request) file hasFirm ownsCase)
  | .note, s, .failing err message =>
    some (s.update (job request).fileId fun file =>
      { file with uploadStatus := .error, errorMessage := some message },
      .ended (some (reclassify err)))
  | .hash, s, .safe file folderId =>
    some (s, match s.localFiles (job request).fileId with
      | none => .failing readError ("Failed to read local file: " ++ readError.message)
      | some content => .hashed file folderId (sha256 content))
  | .findDuplicate, s, .hashed file folderId contentHash =>
    some (s, match findDuplicate file.staged.firmId contentHash s.attachments with
      | some existing => .sent file contentHash existing.driveFileId true
      | none => .unsent file folderId contentHash)
  | .upload result, s, .unsent file folderId contentHash =>
    some (upload (job request) file folderId contentHash result s)
  | .count err, s, .uncounted file contentHash driveFileId =>
    some (s, match err with
      | some err => .ended (some (reclassify err))
      | none => .sent file contentHash driveFileId false)
  | .mark, s, .sent file contentHash driveFileId isDuplicate =>
    some (s.update (job request).fileId fun record =>
      { record with storageFileId := some driveFileId, uploadStatus := .uploaded,
                    hasLocalPath := false },
      .marked file contentHash driveFileId isDuplicate)
  | .attach isInserted, s, .marked file contentHash driveFileId isDuplicate =>
    some (if isAttached file && isInserted then
        { s with attachments := s.attachments ++
            [attachmentOf file contentHash driveFileId isDuplicate] }
      else s, .attached)
  | .unlink, s, .attached =>
    some ({ s with localFiles := Function.update s.localFiles (job request).fileId none },
      .ended none)
  | _, _, _ => none

/-- What others do to the staging records. -/
inductive Other where
  | stage (fileId : ℕ)
  | softDelete (fileId : ℕ)
  deriving DecidableEq, Repr

/-- A new staging record, and its file. -/
def Storage.stage (s : Storage β) (fileId : ℕ) (staged : Staged) (content : β) : Storage β :=
  { s with
    caseFiles := Function.update s.caseFiles fileId (some { staged })
    localFiles := Function.update s.localFiles fileId (some content) }

/-- A file is staged once, with its content. -/
def other (files : ℕ → Staged) (content : ℕ → β) : Other → Storage β → Storage β
  | .stage fileId, s =>
    match s.caseFiles fileId with
    | some _ => s
    | none => s.stage fileId (files fileId) (content fileId)
  | .softDelete fileId, s => s.update fileId fun file => { file with isDeleted := true }

def program (job : ℕ → Job) (files : ℕ → Staged) (content : ℕ → β) :
    Program (Storage β) Phase Action Other where
  act := act sha256 job
  other := other files content

def initial : System (Storage β) Phase where
  stored := ⟨fun _ => none, fun _ => none, [], []⟩
  phase := fun _ => .waiting

end

/-! ## What holds throughout -/

section invariant

variable {β : Type} {sha256 : β → String} {job : ℕ → Job} {files : ℕ → Staged} {content : ℕ → β}

/-- There is an object with the hash, which was uploaded for the firm. -/
def IsStored (sha256 : β → String) (s : Storage β) (driveFileId : ℕ) (firmId contentHash : String) :
    Prop :=
  ∃ object, s.drive[driveFileId]? = some object ∧ object.firmId = firmId ∧
    sha256 object.content = contentHash

/-- A record is of the file that was staged, and what it says of it is so. -/
structure RecordInv (sha256 : β → String) (files : ℕ → Staged) (content : ℕ → β) (s : Storage β)
    (fileId : ℕ) (file : CaseFile) : Prop where
  staged : file.staged = files fileId
  inPlace : file.hasLocalPath = true → s.localFiles fileId = some (content fileId)
  marked : file.hasLocalPath = false → file.storageFileId.isSome = true
  uploaded : file.uploadStatus = .uploaded → file.storageFileId.isSome = true
  stored : ∀ driveFileId, file.storageFileId = some driveFileId →
    IsStored sha256 s driveFileId (files fileId).firmId (sha256 (content fileId))

/-- What is stored is sound. -/
structure StoreInv (sha256 : β → String) (files : ℕ → Staged) (content : ℕ → β) (s : Storage β) :
    Prop where
  records : ∀ fileId file, s.caseFiles fileId = some file →
    RecordInv sha256 files content s fileId file
  contents : ∀ fileId c, s.localFiles fileId = some c → c = content fileId
  attachments : ∀ a ∈ s.attachments, IsStored sha256 s a.driveFileId a.firmId a.contentHash

/-- Nothing that counts is taken back: objects stay, and so do marks. -/
structure Extends (s s' : Storage β) : Prop where
  drive : s.drive <+: s'.drive
  records : ∀ fileId file, s.caseFiles fileId = some file →
    ∃ file', s'.caseFiles fileId = some file' ∧
      (file.hasLocalPath = false → file'.hasLocalPath = false) ∧
      (file.storageFileId.isSome = true → file'.storageFileId.isSome = true)

theorem Extends.refl (s : Storage β) : Extends s s :=
  ⟨List.prefix_refl s.drive, fun _ file hfile => ⟨file, hfile, id, id⟩⟩

theorem IsStored.extends {s s' : Storage β} {driveFileId : ℕ} {firmId contentHash : String}
    (h : IsStored sha256 s driveFileId firmId contentHash) (hext : s.drive <+: s'.drive) :
    IsStored sha256 s' driveFileId firmId contentHash := by
  obtain ⟨object, hobject, hmatch⟩ := h
  obtain ⟨more, hmore⟩ := hext
  refine ⟨object, ?_, hmatch⟩
  rw [← hmore, List.getElem?_append_left (List.getElem?_eq_some_iff.mp hobject).1]
  exact hobject

/-- The record of the attempt's file is marked, and its local file may go. -/
def IsMarked (job : Job) (s : Storage β) : Prop :=
  ∃ file, s.caseFiles job.fileId = some file ∧ file.hasLocalPath = false

/-- The record of the attempt's file is there. -/
def HasRecord (job : Job) (s : Storage β) : Prop := ∃ file, s.caseFiles job.fileId = some file

/-- What an attempt has is of its file, and of the firm of its job. -/
def OwnInv (sha256 : β → String) (job : ℕ → Job) (files : ℕ → Staged) (content : ℕ → β)
    (request : ℕ) (s : Storage β) : Phase → Prop
  | .fetched file => file.staged = files (job request).fileId ∧ HasRecord (job request) s
  | .reconciling => ∃ file, s.caseFiles (job request).fileId = some file ∧
      file.storageFileId.isSome = true
  | .safe file _ => (file.staged = files (job request).fileId ∧ HasRecord (job request) s) ∧
      file.staged.firmId = (job request).firmId
  | .hashed file _ contentHash | .unsent file _ contentHash =>
    (file.staged = files (job request).fileId ∧ HasRecord (job request) s) ∧
      file.staged.firmId = (job request).firmId ∧
      contentHash = sha256 (content (job request).fileId)
  | .uncounted file contentHash driveFileId | .sent file contentHash driveFileId _ =>
    (file.staged = files (job request).fileId ∧ HasRecord (job request) s) ∧
      contentHash = sha256 (content (job request).fileId) ∧
      IsStored sha256 s driveFileId file.staged.firmId contentHash
  | .marked file contentHash driveFileId _ =>
    IsStored sha256 s driveFileId file.staged.firmId contentHash ∧ IsMarked (job request) s
  | .attached => IsMarked (job request) s
  | .waiting | .failing _ _ | .ended _ => True

def assertions (sha256 : β → String) (job : ℕ → Job) (files : ℕ → Staged) (content : ℕ → β) :
    Assertions (Storage β) Phase where
  store := StoreInv sha256 files content
  own := OwnInv sha256 job files content
  both _ _ := True

theorem IsMarked.extends {job : Job} {s s' : Storage β} (h : IsMarked job s) (hext : Extends s s') :
    IsMarked job s' := by
  obtain ⟨file, hfile, hmarked⟩ := h
  obtain ⟨file', hfile', hkeep, -⟩ := hext.records _ file hfile
  exact ⟨file', hfile', hkeep hmarked⟩

theorem HasRecord.extends {job : Job} {s s' : Storage β} (h : HasRecord job s)
    (hext : Extends s s') : HasRecord job s' := by
  obtain ⟨file, hfile⟩ := h
  obtain ⟨file', hfile', -⟩ := hext.records _ file hfile
  exact ⟨file', hfile'⟩

/-- What an attempt has is not taken from it. -/
theorem OwnInv.extends {request : ℕ} {s s' : Storage β} {phase : Phase}
    (h : OwnInv sha256 job files content request s phase) (hext : Extends s s') :
    OwnInv sha256 job files content request s' phase := by
  cases phase with
  | waiting => trivial
  | reconciling =>
    obtain ⟨file, hfile, hsome⟩ := h
    obtain ⟨file', hfile', -, hkeep⟩ := hext.records _ file hfile
    exact ⟨file', hfile', hkeep hsome⟩
  | fetched file => exact ⟨h.1, h.2.extends hext⟩
  | safe file folderId => exact ⟨⟨h.1.1, h.1.2.extends hext⟩, h.2⟩
  | failing err message => trivial
  | hashed file folderId contentHash => exact ⟨⟨h.1.1, h.1.2.extends hext⟩, h.2⟩
  | unsent file folderId contentHash => exact ⟨⟨h.1.1, h.1.2.extends hext⟩, h.2⟩
  | uncounted file contentHash driveFileId =>
    exact ⟨⟨h.1.1, h.1.2.extends hext⟩, h.2.1, h.2.2.extends hext.drive⟩
  | sent file contentHash driveFileId isDuplicate =>
    exact ⟨⟨h.1.1, h.1.2.extends hext⟩, h.2.1, h.2.2.extends hext.drive⟩
  | marked file contentHash driveFileId isDuplicate =>
    exact ⟨h.1.extends hext.drive, h.2.extends hext⟩
  | attached => exact IsMarked.extends h hext
  | ended err => trivial

/-- A record goes on to be sound while its local file is as it was, and objects are added. -/
theorem RecordInv.extends {s s' : Storage β} {fileId : ℕ} {file : CaseFile}
    (h : RecordInv sha256 files content s fileId file)
    (hlocal : file.hasLocalPath = true → s'.localFiles fileId = s.localFiles fileId)
    (hdrive : s.drive <+: s'.drive) : RecordInv sha256 files content s' fileId file where
  staged := h.staged
  inPlace hpath := (hlocal hpath).trans (h.inPlace hpath)
  marked := h.marked
  uploaded := h.uploaded
  stored driveFileId hid := (h.stored driveFileId hid).extends hdrive

theorem caseFiles_update_self {s : Storage β} {fileId : ℕ} {file : CaseFile}
    (h : s.caseFiles fileId = some file) (change : CaseFile → CaseFile) :
    (s.update fileId change).caseFiles fileId = some (change file) := by
  show Function.update s.caseFiles fileId _ fileId = _
  rw [Function.update_self, h]
  rfl

theorem caseFiles_update_of_ne (s : Storage β) {fileId other : ℕ} (h : other ≠ fileId)
    (change : CaseFile → CaseFile) :
    (s.update fileId change).caseFiles other = s.caseFiles other :=
  Function.update_of_ne h _ _

/-- The record after an update is the one before it, changed. -/
theorem caseFiles_update_cases {s : Storage β} {fileId other : ℕ} {change : CaseFile → CaseFile}
    {file' : CaseFile} (h : (s.update fileId change).caseFiles other = some file') :
    s.caseFiles other = some file' ∨
      other = fileId ∧ ∃ file, s.caseFiles fileId = some file ∧ file' = change file := by
  by_cases hid : other = fileId
  · subst hid
    cases hfile : s.caseFiles other with
    | none =>
      have hnone : (s.update other change).caseFiles other = none := by
        show Function.update s.caseFiles other _ other = _
        rw [Function.update_self, hfile]
        rfl
      exact nomatch hnone.symm.trans h
    | some file =>
      rw [caseFiles_update_self hfile change] at h
      exact .inr ⟨rfl, file, rfl, (Option.some.inj h).symm⟩
  · rw [caseFiles_update_of_ne s hid change] at h
    exact .inl h

/-- An update that leaves each record sound leaves what is stored sound. -/
theorem StoreInv.update {s : Storage β} (h : StoreInv sha256 files content s) {fileId : ℕ}
    {change : CaseFile → CaseFile}
    (hchange : ∀ file, s.caseFiles fileId = some file →
      RecordInv sha256 files content s fileId (change file)) :
    StoreInv sha256 files content (s.update fileId change) where
  records other file' hfile' := by
    rcases caseFiles_update_cases hfile' with hfile | ⟨rfl, file, hfile, rfl⟩
    · exact (h.records other file' hfile).extends (fun _ => rfl) (List.prefix_refl s.drive)
    · exact (hchange file hfile).extends (fun _ => rfl) (List.prefix_refl s.drive)
  contents := h.contents
  attachments := h.attachments

theorem extends_update (s : Storage β) (fileId : ℕ) {change : CaseFile → CaseFile}
    (hpath : ∀ file, file.hasLocalPath = false → (change file).hasLocalPath = false)
    (hid : ∀ file, file.storageFileId.isSome = true → (change file).storageFileId.isSome = true) :
    Extends s (s.update fileId change) where
  drive := List.prefix_refl s.drive
  records other file hfile := by
    by_cases hother : other = fileId
    · subst hother
      exact ⟨change file, caseFiles_update_self hfile change, hpath file, hid file⟩
    · exact ⟨file, (caseFiles_update_of_ne s hother change).trans hfile, id, id⟩

/-- What an attempt has to show of a step. -/
theorem keeps_of {s : System (Storage β) Phase}
    (h : Holds (assertions sha256 job files content) s) {request : ℕ} {s' : Storage β}
    {phase : Phase} (hstore : StoreInv sha256 files content s')
    (hown : OwnInv sha256 job files content request s' phase) (hext : Extends s.stored s') :
    Keeps (assertions sha256 job files content) s request (s', phase) :=
  ⟨hstore, hown, fun r _ => (h.own r).extends hext, fun _ _ => ⟨trivial, trivial⟩⟩

/-- An update of the record of an attempt's file, after which the attempt is at its end. -/
theorem keeps_update {s : System (Storage β) Phase}
    (h : Holds (assertions sha256 job files content) s) (request : ℕ) {phase : Phase}
    {change : CaseFile → CaseFile}
    (hchange : ∀ file, s.stored.caseFiles (job request).fileId = some file →
      RecordInv sha256 files content s.stored (job request).fileId (change file))
    (hpath : ∀ file, file.hasLocalPath = false → (change file).hasLocalPath = false)
    (hid : ∀ file, file.storageFileId.isSome = true → (change file).storageFileId.isSome = true)
    (hown : OwnInv sha256 job files content request
      (s.stored.update (job request).fileId change) phase) :
    Keeps (assertions sha256 job files content) s request
      (s.stored.update (job request).fileId change, phase) :=
  keeps_of h (h.store.update hchange) hown (extends_update _ _ hpath hid)

/-- An attempt that changes nothing goes on to what it has. -/
theorem keeps_still {s : System (Storage β) Phase}
    (h : Holds (assertions sha256 job files content) s) {request : ℕ} {phase : Phase}
    (hown : OwnInv sha256 job files content request s.stored phase) :
    Keeps (assertions sha256 job files content) s request (s.stored, phase) :=
  keeps_of h h.store hown (.refl s.stored)

theorem own_fetch {s : Storage β} (h : StoreInv sha256 files content s) (request : ℕ)
    (isAllowed hasRecord : Bool) :
    OwnInv sha256 job files content request s (fetch (job request) isAllowed hasRecord s) := by
  unfold fetch
  split_ifs
  · trivial
  · trivial
  · trivial
  · cases hfile : s.caseFiles (job request).fileId with
    | none => trivial
    | some file =>
      simp only [afterFetch]
      split_ifs with hpartial huploaded
      · rw [Bool.and_eq_true] at hpartial
        exact ⟨file, hfile, hpartial.1⟩
      · trivial
      · exact ⟨(h.records _ file hfile).staged, file, hfile⟩

theorem own_assertTenantSafety {s : Storage β} {request : ℕ} {file : CaseFile}
    (h : OwnInv sha256 job files content request s (.fetched file)) (hasFirm ownsCase : Bool) :
    OwnInv sha256 job files content request s
      (assertTenantSafety (job request) file hasFirm ownsCase) := by
  unfold assertTenantSafety
  split_ifs with hfirm hcase hmismatch hdeleted
  · trivial
  · trivial
  · trivial
  · trivial
  · split
    · trivial
    · trivial
    · exact ⟨h, not_not.mp hmismatch⟩

/-- An upload adds an object with the content of the attempt's file. -/
theorem keeps_store {s : System (Storage β) Phase}
    (h : Holds (assertions sha256 job files content) s) {request : ℕ} (folderId : String)
    (file : CaseFile) (c : β) {phase : Phase}
    (hown : OwnInv sha256 job files content request
      (s.stored.store (job request) folderId file c) phase) :
    Keeps (assertions sha256 job files content) s request
      (s.stored.store (job request) folderId file c, phase) := by
  have hdrive : s.stored.drive <+: (s.stored.store (job request) folderId file c).drive :=
    List.prefix_append _ _
  refine keeps_of h ⟨?_, h.store.contents, ?_⟩ hown ⟨hdrive, fun _ file hfile => ?_⟩
  · intro fileId record hrecord
    exact (h.store.records fileId record hrecord).extends (fun _ => rfl) hdrive
  · intro a ha
    exact (h.store.attachments a ha).extends hdrive
  · exact ⟨file, hfile, id, id⟩

theorem keeps_upload {s : System (Storage β) Phase}
    (h : Holds (assertions sha256 job files content) s) {request : ℕ} {file : CaseFile}
    {folderId contentHash : String}
    (hown : OwnInv sha256 job files content request s.stored (.unsent file folderId contentHash))
    (result : UploadResult) :
    Keeps (assertions sha256 job files content) s request
      (upload (job request) file folderId contentHash result s.stored) := by
  unfold upload
  cases hlocal : s.stored.localFiles (job request).fileId with
  | none => exact keeps_still h trivial
  | some c =>
    obtain ⟨hfile, hfirm, hhash⟩ := hown
    cases result with
    | stored =>
      refine keeps_store h folderId file c ⟨hfile, hhash, ?_⟩
      refine ⟨_, List.getElem?_concat_length, hfirm.symm, ?_⟩
      rw [hhash, ← h.store.contents _ c hlocal]
    | refused err => exact keeps_still h trivial
    | unanswered err => exact keeps_store h folderId file c trivial

/-- Marking a record with the object that the attempt has. -/
theorem keeps_mark {s : System (Storage β) Phase}
    (h : Holds (assertions sha256 job files content) s) {request : ℕ} {file : CaseFile}
    {contentHash : String} {driveFileId : ℕ} {isDuplicate : Bool}
    (hown : OwnInv sha256 job files content request s.stored
      (.sent file contentHash driveFileId isDuplicate)) :
    Keeps (assertions sha256 job files content) s request
      (s.stored.update (job request).fileId fun record =>
        { record with storageFileId := some driveFileId, uploadStatus := .uploaded,
                      hasLocalPath := false },
        .marked file contentHash driveFileId isDuplicate) := by
  obtain ⟨⟨hstaged, record, hrecord⟩, hhash, hstored⟩ := hown
  refine keeps_update h request (fun record hrecord => ?_) (fun _ _ => rfl) (fun _ _ => rfl)
    ⟨hstored.extends (List.prefix_refl _), _, caseFiles_update_self hrecord _, rfl⟩
  refine ⟨(h.store.records _ record hrecord).staged, fun hpath => (nomatch hpath), fun _ => rfl,
    fun _ => rfl, fun id hid => ?_⟩
  cases hid
  rwa [hstaged, hhash] at hstored

theorem keeps_attach {s : System (Storage β) Phase}
    (h : Holds (assertions sha256 job files content) s) {request : ℕ} {file : CaseFile}
    {contentHash : String} {driveFileId : ℕ} {isDuplicate : Bool}
    (hown : OwnInv sha256 job files content request s.stored
      (.marked file contentHash driveFileId isDuplicate)) (isInserted : Bool) :
    Keeps (assertions sha256 job files content) s request
      (if isAttached file && isInserted then
          { s.stored with attachments := s.stored.attachments ++
              [attachmentOf file contentHash driveFileId isDuplicate] }
        else s.stored, .attached) := by
  split_ifs
  · refine keeps_of h ⟨fun fileId record hrecord => ?_, h.store.contents, fun a ha => ?_⟩ hown.2
      ⟨List.prefix_refl _, fun _ record hrecord => ⟨record, hrecord, id, id⟩⟩
    · exact (h.store.records fileId record hrecord).extends (fun _ => rfl) (List.prefix_refl _)
    · rcases List.mem_append.mp ha with ha | ha
      · exact h.store.attachments a ha
      · rw [List.mem_singleton.mp ha]
        exact hown.1
  · exact keeps_still h hown.2

/-- The local file goes when its record no longer names it. -/
theorem keeps_unlink {s : System (Storage β) Phase}
    (h : Holds (assertions sha256 job files content) s) {request : ℕ}
    (hown : IsMarked (job request) s.stored) :
    Keeps (assertions sha256 job files content) s request
      ({ s.stored with
          localFiles := Function.update s.stored.localFiles (job request).fileId none },
        .ended none) := by
  refine keeps_of h ⟨fun fileId record hrecord => ?_, fun fileId c hc => ?_, h.store.attachments⟩
    trivial ⟨List.prefix_refl _, fun _ record hrecord => ⟨record, hrecord, id, id⟩⟩
  · refine (h.store.records fileId record hrecord).extends (fun hpath => ?_) (List.prefix_refl _)
    refine Function.update_of_ne ?_ _ _
    rintro rfl
    obtain ⟨marked, hmarked, hgone⟩ := hown
    rw [hrecord, Option.some.injEq] at hmarked
    rw [hmarked, hgone] at hpath
    exact nomatch hpath
  · by_cases hid : fileId = (job request).fileId
    · subst hid
      have hnone : Function.update s.stored.localFiles (job request).fileId none
          (job request).fileId = some c := hc
      rw [Function.update_self] at hnone
      exact nomatch hnone
    · have hold : Function.update s.stored.localFiles (job request).fileId none fileId = some c := hc
      rw [Function.update_of_ne hid] at hold
      exact h.store.contents fileId c hold

/-- A step of an attempt keeps what holds. -/
theorem act_keeps {s : System (Storage β) Phase}
    (h : Holds (assertions sha256 job files content) s) (request : ℕ) (action : Action)
    (result : Storage β × Phase)
    (hresult : act sha256 job request action s.stored (s.phase request) = some result) :
    Keeps (assertions sha256 job files content) s request result := by
  obtain ⟨stored, phases⟩ := s
  have hown : OwnInv sha256 job files content request stored (phases request) := h.own request
  have hact : act sha256 job request action stored (phases request) = some result := hresult
  revert hact hown
  generalize phases request = phase
  intro hown
  fun_cases act sha256 job request action stored phase with
  | case1 =>
    rintro ⟨⟩
    exact keeps_still h trivial
  | case2 isAllowed hasRecord =>
    rintro ⟨⟩
    exact keeps_still h (own_fetch h.store request isAllowed hasRecord)
  | case3 =>
    rintro ⟨⟩
    obtain ⟨file, hfile, hsome⟩ := hown
    refine keeps_update h request (fun record hrecord => ?_) (fun _ => id) (fun _ => id) trivial
    have hrecords := h.store.records _ record hrecord
    rw [hrecord, Option.some.injEq] at hfile
    rw [← hfile] at hsome
    exact ⟨hrecords.staged, hrecords.inPlace, hrecords.marked, fun _ => hsome, hrecords.stored⟩
  | case4 hasFirm ownsCase file =>
    rintro ⟨⟩
    exact keeps_still h (own_assertTenantSafety hown hasFirm ownsCase)
  | case5 err message =>
    rintro ⟨⟩
    refine keeps_update h request (fun record hrecord => ?_) (fun _ => id) (fun _ => id) trivial
    have hrecords := h.store.records _ record hrecord
    exact ⟨hrecords.staged, hrecords.inPlace, hrecords.marked, fun huploaded => (nomatch huploaded),
      hrecords.stored⟩
  | case6 =>
    rintro ⟨⟩
    refine keeps_still h ?_
    cases hlocal : stored.localFiles (job request).fileId with
    | none => trivial
    | some c => exact ⟨hown.1, hown.2, by rw [h.store.contents _ c hlocal]⟩
  | case7 _ file folderId contentHash =>
    rintro ⟨⟩
    refine keeps_still h ?_
    cases hfound : findDuplicate file.staged.firmId contentHash stored.attachments with
    | none => exact hown
    | some existing =>
      -- The attachment is of the same firm and has the same hash.
      have hmem := List.mem_of_find?_eq_some hfound
      have hmatch := List.find?_some hfound
      simp only [decide_eq_true_eq] at hmatch
      have hstored := h.store.attachments existing hmem
      rw [hmatch.1, hmatch.2.1] at hstored
      exact ⟨hown.1, hown.2.2, hstored⟩
  | case8 result file folderId contentHash =>
    rintro ⟨⟩
    exact keeps_upload h hown result
  | case9 err file contentHash driveFileId =>
    rintro ⟨⟩
    refine keeps_still h ?_
    cases err with
    | some err => trivial
    | none => exact hown
  | case10 file contentHash driveFileId isDuplicate =>
    rintro ⟨⟩
    exact keeps_mark h hown
  | case11 isInserted file contentHash driveFileId isDuplicate =>
    rintro ⟨⟩
    exact keeps_attach h hown isInserted
  | case12 =>
    rintro ⟨⟩
    exact keeps_unlink h hown
  | case13 => exact fun hresult => nomatch hresult

/-- What is written to one key is found there, and elsewhere what was there. -/
theorem update_eq_some {α : Type} {f : ℕ → Option α} {id other : ℕ} {value found : α}
    (h : Function.update f id (some value) other = some found) :
    other = id ∧ found = value ∨ other ≠ id ∧ f other = some found := by
  by_cases hid : other = id
  · subst hid
    rw [Function.update_self, Option.some.injEq] at h
    exact .inl ⟨rfl, h.symm⟩
  · rw [Function.update_of_ne hid] at h
    exact .inr ⟨hid, h⟩

theorem StoreInv.stage {s : Storage β} (h : StoreInv sha256 files content s) {fileId : ℕ} :
    StoreInv sha256 files content (s.stage fileId (files fileId) (content fileId)) where
  records id record hrecord := by
    rcases update_eq_some hrecord with ⟨rfl, rfl⟩ | ⟨hid, hold⟩
    · exact ⟨rfl, fun _ => Function.update_self _ _ _, fun hpath => (nomatch hpath),
        fun huploaded => (nomatch huploaded), fun _ hnone => (nomatch hnone)⟩
    · exact (h.records id record hold).extends (fun _ => Function.update_of_ne hid _ _)
        (List.prefix_refl _)
  contents id c hc := by
    rcases update_eq_some hc with ⟨rfl, rfl⟩ | ⟨-, hold⟩
    · rfl
    · exact h.contents id c hold
  attachments := h.attachments

theorem extends_stage {s : Storage β} {fileId : ℕ} (h : s.caseFiles fileId = none)
    (staged : Staged) (c : β) : Extends s (s.stage fileId staged c) where
  drive := List.prefix_refl s.drive
  records other record hrecord := by
    refine ⟨record, (Function.update_of_ne ?_ _ _).trans hrecord, id, id⟩
    rintro rfl
    exact nomatch h.symm.trans hrecord

/-- Staging a file, and deleting a record softly, keep what holds. -/
theorem holds_other {s : System (Storage β) Phase}
    (h : Holds (assertions sha256 job files content) s) (event : Other) :
    Holds (assertions sha256 job files content)
      (step (program sha256 job files content) (.other event) s) := by
  have hafter {s' : Storage β} (heq : other files content event s.stored = s')
      (hstore : StoreInv sha256 files content s') (hext : Extends s.stored s') :
      Holds (assertions sha256 job files content)
        (step (program sha256 job files content) (.other event) s) := by
    subst heq
    exact h.other hstore fun r => (h.own r).extends hext
  cases event with
  | softDelete fileId =>
    refine hafter rfl (h.store.update fun file hfile => ?_)
      (extends_update _ _ (fun _ => id) fun _ => id)
    have hrecord := h.store.records fileId file hfile
    exact ⟨hrecord.staged, hrecord.inPlace, hrecord.marked, hrecord.uploaded, hrecord.stored⟩
  | stage fileId =>
    cases hfile : s.stored.caseFiles fileId with
    | some file =>
      exact hafter (by simp only [other, hfile]) h.store (.refl s.stored)
    | none =>
      exact hafter (by simp only [other, hfile]) h.store.stage (extends_stage hfile _ _)

theorem holds_step (event : Event Action Other) (s : System (Storage β) Phase)
    (h : Holds (assertions sha256 job files content) s) :
    Holds (assertions sha256 job files content)
      (step (program sha256 job files content) event s) := by
  cases event with
  | other event => exact holds_other h event
  | act request action => exact h.act fun result hresult => act_keeps h request action result hresult

theorem holds_initial : Holds (assertions sha256 job files content) initial where
  store := ⟨fun _ _ h => (nomatch h), fun _ _ h => (nomatch h), fun _ h => (nomatch h)⟩
  own _ := trivial
  both _ _ _ := trivial

end invariant

/-- Nothing is lost, and nothing is taken for another thing. -/
structure UploadsSafe {β : Type} (sha256 : β → String) (files : ℕ → Staged) (content : ℕ → β)
    (s : Storage β) : Prop where
  /-- A staged file is in its place, or its record has an object with its hash and of its firm. -/
  kept : ∀ fileId file, s.caseFiles fileId = some file →
    s.localFiles fileId = some (content fileId) ∨
      ∃ driveFileId, file.storageFileId = some driveFileId ∧
        IsStored sha256 s driveFileId (files fileId).firmId (sha256 (content fileId))
  /-- A record that is marked as uploaded has such an object. -/
  uploaded : ∀ fileId file, s.caseFiles fileId = some file → file.uploadStatus = .uploaded →
    ∃ driveFileId, file.storageFileId = some driveFileId ∧
      IsStored sha256 s driveFileId (files fileId).firmId (sha256 (content fileId))
  /-- An attachment has an object with its hash and of its firm, also where it shares it. -/
  attachments : ∀ a ∈ s.attachments, IsStored sha256 s a.driveFileId a.firmId a.contentHash

/-- However many attempts there are at however many jobs, in whatever order their steps come, and
wherever they fail or stop, uploads are safe. -/
theorem uploads_safe {β : Type} (sha256 : β → String) (job : ℕ → Job) (files : ℕ → Staged)
    (content : ℕ → β) (events : List (Event Action Other)) :
    ∀ s ∈ states (step (program sha256 job files content)) events initial,
      UploadsSafe sha256 files content s.stored := by
  intro s hs
  have h := (states_keep holds_step events initial holds_initial s hs).store
  have hstored : ∀ fileId file, s.stored.caseFiles fileId = some file →
      file.storageFileId.isSome = true → ∃ driveFileId, file.storageFileId = some driveFileId ∧
        IsStored sha256 s.stored driveFileId (files fileId).firmId (sha256 (content fileId)) := by
    intro fileId file hfile hsome
    obtain ⟨driveFileId, hid⟩ := Option.isSome_iff_exists.mp hsome
    exact ⟨driveFileId, hid, (h.records fileId file hfile).stored driveFileId hid⟩
  refine ⟨fun fileId file hfile => ?_, fun fileId file hfile huploaded => ?_, h.attachments⟩
  · cases hpath : file.hasLocalPath with
    | true => exact .inl ((h.records fileId file hfile).inPlace hpath)
    | false => exact .inr (hstored fileId file hfile ((h.records fileId file hfile).marked hpath))
  · exact hstored fileId file hfile ((h.records fileId file hfile).uploaded huploaded)

/-- A file of a docket, which one attempt uploads, attaches and removes. -/
theorem uploads_safe_attempt :
    let job : ℕ → Job := fun _ => { firmId := "f", folderId := some "d", fileId := 0 }
    let files : ℕ → Staged := fun _ => { firmId := "f", caseId := some "c", originalName := "a.pdf" }
    let content : ℕ → String := fun _ => "a"
    let events : List (Event Action Other) :=
      [.other (.stage 0), .act 0 (.fetch true true), .act 0 (.assertTenantSafety true true),
        .act 0 .hash, .act 0 .findDuplicate, .act 0 (.upload .stored), .act 0 (.count none),
        .act 0 .mark, .act 0 (.attach true), .act 0 .unlink]
    UploadsSafe id files content (run (step (program id job files content)) events initial).stored :=
  uploads_safe id (fun _ => { firmId := "f", folderId := some "d", fileId := 0 })
    (fun _ => { firmId := "f", caseId := some "c", originalName := "a.pdf" }) (fun _ => "a") _ _
    (run_mem_states _ _ _)

end Docketra.StorageWorker
