import Docketra.StorageArchive
import Mathlib.Algebra.GroupWithZero.Nat
import Mathlib.Data.Countable.Basic
import Mathlib.Logic.Equiv.List

/-!
# Backups and restores

`runBackupForFirm` of `services/storageBackup.service.js` archives the root folder of a firm's
provider, encrypts the archive and uploads it; `_executeRestoreBackground` of
`services/storageRestore.service.js` downloads an archive, uploads its documents, and moves the
attachments to them. The job of a backup keeps the key that the archive was to have. A bucket has it
under that key, but Google Drive gives it an id, and OneDrive does not list the root folder.
Documents and uploads go by names, so a file may get the bytes of another one. So a restore inverts
a backup in a bucket only, for the vectors that do not start as a ZIP file does and the files whose
bytes are kept under these names (`restore_inverts_iff`).

No step of another request comes between those of a backup or of a restore. What is audited, mailed
and shown of the progress is left out.
-/

namespace Docketra.StorageBackup

open Base64 Calls Encryption LastWrite StorageArchive StorageProviders

inductive JobStatus where
  | queued | running | success | failed
  deriving DecidableEq, Repr

/-- What a restore reads of a job, and where the archive is. -/
structure BackupJob where
  jobId : String
  firmId : String
  archiveObjectKey : String
  status : JobStatus
  providerFileId : Option String
  deriving DecidableEq, Repr

structure Attachment where
  firmId : String
  storageFileId : Option String
  driveFileId : Option String
  deriving DecidableEq, Repr

/-- What is stored for the firms, and by the services. -/
structure World where
  storage : Storage
  attachments : List Attachment
  backupJobs : List BackupJob

/-- A call of a provider. -/
def onStorage {α : Type} (x : Call Storage α) : Call World α :=
  within World.storage (fun storage w => { w with storage := storage }) x

/-! ## Backups -/

def DEFAULT_BACKUP_FOLDER : String := "Backups"

def BACKUP_PATH_PREFIX : String := "backups/nightly"

/-- The key that an archive is to have. -/
def objectKey (day exportId : String) : String :=
  BACKUP_PATH_PREFIX ++ "/" ++ day ++ "/" ++ exportId ++ ".zip.enc"

structure UploadedArchive where
  archiveObjectKey : String
  providerFileId : String

section upload

variable (ids : Ids) (p : Provider) (firmId : String) (objectKey : String) (archive : Bytes)

/-- The upload into the folder of the firm. -/
def uploadToBackups : Call Storage UploadedArchive := do
  let root ← p.getOrCreateFolder ids none "Docketra"
  let firmFolder ← p.getOrCreateFolder ids (some root) firmId
  let backups ← p.getOrCreateFolder ids (some firmFolder) DEFAULT_BACKUP_FOLDER
  let fileId ← p.uploadFile ids (some backups) (lastSegment objectKey) archive
  return ⟨BACKUP_PATH_PREFIX ++ "/" ++ lastSegment objectKey, fileId⟩

/-- The upload that is made when that one fails. -/
def uploadToRoot : Call Storage UploadedArchive := do
  let parent := if p.providerName = "onedrive" then some "root" else none
  let fileId ← p.uploadFile ids parent (lastSegment objectKey) archive
  return ⟨lastSegment objectKey, fileId⟩

def uploadBackupToProvider : Call Storage UploadedArchive :=
  if p.providerName = "s3" then do
    let fileId ← p.uploadFile ids none objectKey archive
    return ⟨objectKey, fileId⟩
  else
    tryCatch (uploadToBackups ids p firmId objectKey archive) fun _ =>
      uploadToRoot ids p objectKey archive

end upload

/-- `BackupJob.create`. The index on `jobId` is unique. -/
def createJob (job : BackupJob) : Call World Unit := do
  let w ← get
  if w.backupJobs.any fun other => other.jobId = job.jobId then
    throw "E11000 duplicate key error"
  else set { w with backupJobs := w.backupJobs ++ [job] }

/-- `BackupJob.updateOne`. -/
def updateJob (jobId : String) (update : BackupJob → BackupJob) : Call World Unit :=
  modify fun w =>
    { w with
      backupJobs := w.backupJobs.map fun job => if job.jobId = jobId then update job else job }

structure Created where
  exportId : String
  archiveObjectKey : String
  providerFileId : String
  fileCount : ℕ

section services

variable (env : Env) (p : Provider) (firmId : String)

/-- The part of `runBackupForFirm` that may fail. -/
def makeBackup (exportId day : String) (iv : Iv) : Call World Created := do
  let archive ← onStorage (createBackupArchive env p)
  let encrypted := encryptFileGcm env.crypto env.key iv (env.zip.zip archive)
  let uploaded ← onStorage
    (uploadBackupToProvider env.ids p firmId (objectKey day exportId) encrypted)
  updateJob exportId fun job =>
    { job with status := .success, providerFileId := some uploaded.providerFileId }
  return {
    exportId := exportId
    archiveObjectKey := uploaded.archiveObjectKey
    providerFileId := uploaded.providerFileId
    fileCount := (archive.metadata.getD []).length }

/-- `runBackupForFirm`, for the id, the day and the vector of the backup. -/
def runBackupForFirm (exportId day : String) (iv : Iv) : Call World Created := do
  createJob ⟨exportId, firmId, objectKey day exportId, .running, none⟩
  tryCatch (makeBackup env p firmId exportId day iv) fun error => do
    updateJob exportId fun job => { job with status := .failed }
    throw error

/-! ## Restores -/

/-- Where the archive of a restore comes from. -/
inductive Source where
  | exported (exportId : String)
  | uploaded (file : Bytes)

/-- The two updates of the attachments that refer to a file. -/
def Attachment.relocate (fileId newFileId : String) (a : Attachment) : Attachment :=
  let a := if a.storageFileId = some fileId then { a with storageFileId := some newFileId } else a
  if a.driveFileId = some fileId then
    { a with driveFileId := some newFileId, storageFileId := some newFileId }
  else a

/-- The attachment of a firm, when a file of the firm has been uploaded again. -/
def Attachment.afterUpload (firmId fileId newFileId : String) (a : Attachment) : Attachment :=
  if a.firmId = firmId ∧ fileId ≠ "" ∧ newFileId ≠ "" ∧ fileId ≠ newFileId then
    a.relocate fileId newFileId
  else a

/-- The bytes of the archive, decrypted. -/
def retrieve : Source → Call World Bytes
  | .exported exportId => do
    let w ← get
    match w.backupJobs.find? fun job => job.jobId = exportId && job.firmId = firmId with
    | none => throw ("Backup job " ++ exportId ++ " not found")
    | some job =>
      let encrypted ← onStorage (p.downloadFile job.archiveObjectKey)
      lift (decryptArchive env.crypto env.key encrypted)
  | .uploaded file => lift (decryptArchive env.crypto env.key file)

/-- The loop over the files of an archive. -/
def restoreFiles (documents : Documents) : List ListedFile → Call World Unit
  | [] => pure ()
  | file :: files =>
    match documents.lookup (documentName file) with
    | none => restoreFiles documents files
    | some body => do
      let newFileId ← onStorage (p.uploadFile env.ids none (fileName file) body)
      modify fun w =>
        { w with attachments := w.attachments.map (·.afterUpload firmId file.id newFileId) }
      restoreFiles documents files

/-- `_executeRestoreBackground`. -/
def executeRestoreBackground (source : Source) : Call World Unit := do
  let zip ← retrieve env p firmId source
  match env.zip.unzip zip with
  | none => throw "FILE_ENDED"
  | some archive =>
    match archive.metadata with
    | none => throw "Invalid backup ZIP: missing metadata.json"
    | some files => restoreFiles env p firmId archive.documents files

end services

/-! ## What is asked -/

/-- The file that an attachment is downloaded from. -/
def Attachment.reference (a : Attachment) : Option String := orElse a.storageFileId a.driveFileId

/-- An attachment is downloaded from a file, and no other one of the files is in its fields. -/
def Attachment.RefersTo (a : Attachment) (files : List ListedFile) (fileId : String) : Prop :=
  fileId ≠ "" ∧ a.reference = some fileId ∧
    ∀ other, a.driveFileId = some other → other = fileId ∨ ∀ file ∈ files, file.id ≠ other

/-- Some of what is stored is deleted. -/
def kept {κ ν : Type} (items : AList fun _ : κ => ν) (deleted : κ → Bool) :
    AList fun _ : κ => ν where
  entries := items.entries.filter fun e => !deleted e.1
  nodupKeys := items.nodupKeys.sublist List.filter_sublist

def Storage.delete (s : Storage) (deleted : String → Bool) : Storage :=
  { s with
    bucket := kept s.bucket deleted
    drive := kept s.drive fun id => deleted id.value
    oneDrive := kept s.oneDrive fun id => deleted id.value }

def World.delete (w : World) (deleted : String → Bool) : World :=
  { w with storage := Storage.delete w.storage deleted }

section asked

variable (env : Env) (p : Provider) (firmId exportId : String) (before : World)

/-- A restore from a state finds and decrypts the archive that was made before, and leaves every
attachment of the firm to a file of the root folder with a file that has its bytes. -/
structure Restores (archive : Archive) (w : World) : Prop where
  decrypts : (outcome (retrieve env p firmId (.exported exportId)) w).1 = .ok (env.zip.zip archive)
  completes : (outcome (executeRestoreBackground env p firmId (.exported exportId)) w).1 = .ok ()
  attachments : List.Forall₂ (fun a a' : Attachment => a.firmId = firmId →
      ∀ fileId ∈ (p.rootFiles before.storage).map ListedFile.id,
        a.RefersTo (p.rootFiles before.storage) fileId →
        ∀ bytes, readFile p before.storage fileId = some bytes →
          ∃ fileId', a'.reference = some fileId' ∧
            readFile p
              (outcome (executeRestoreBackground env p firmId (.exported exportId)) w).2.storage
              fileId' = some bytes)
    before.attachments
    (outcome (executeRestoreBackground env p firmId (.exported exportId)) w).2.attachments

/-- After a backup, whatever is deleted but the archive, a restore succeeds. -/
def RestoreInverts (after : World) : Prop :=
  ∃ archive, (outcome (createBackupArchive env p) before.storage).1 = .ok archive ∧
    ∀ deleted : String → Bool,
      (∀ job ∈ after.backupJobs, job.jobId = exportId →
        ∀ fileId, job.providerFileId = some fileId → deleted fileId = false) →
      Restores env p firmId exportId before archive (after.delete deleted)

end asked

/-- The key that a file of a bucket is uploaded to when it is restored. -/
def uploadKey (pathPrefix : String) (file : ListedFile) : String :=
  (normalizeObjectKey pathPrefix (fileName file)).toOption.getD ""

/-- The file as which a file of a listing is restored last: one that is listed after it, under the
key that it is uploaded to, or itself. -/
def restoredAs (pathPrefix : String) (files : List ListedFile) (file : ListedFile) : ListedFile :=
  ((files.dropWhile (·.id ≠ file.id)).tail.find? (·.id = uploadKey pathPrefix file)).getD file

/-- The key that a reference to an object ends at. -/
def finalKey (pathPrefix : String) (files : List ListedFile) (fileId : String) : String :=
  match files.find? (·.id = fileId) with
  | some file => uploadKey pathPrefix (restoredAs pathPrefix files file)
  | none => (normalizeObjectKey pathPrefix fileId).toOption.getD ""

/-- The last file that is uploaded to the key has the document of a file with the bytes. -/
def Kept (pathPrefix : String) (s : Storage) (fileId : String) (bytes : Bytes) : Prop :=
  ∃ uploaded document,
    last (fun file => uploadKey pathPrefix file = finalKey pathPrefix (listed pathPrefix s) fileId)
        (listed pathPrefix s) = some uploaded ∧
      last (fun file => documentName file = documentName uploaded) (listed pathPrefix s) =
        some document ∧
      readFile (.s3 pathPrefix) s document.id = some bytes

/-- The vector does not start as a ZIP file does, and the files of the attachments are kept. -/
structure Recoverable (pathPrefix firmId : String) (iv : Iv) (before : World) : Prop where
  vector : isPlainZipFile iv.bytes = false
  files : ∀ a ∈ before.attachments, a.firmId = firmId →
    ∀ fileId ∈ ((Provider.s3 pathPrefix).rootFiles before.storage).map ListedFile.id,
      a.RefersTo ((Provider.s3 pathPrefix).rootFiles before.storage) fileId →
      ∀ bytes, readFile (.s3 pathPrefix) before.storage fileId = some bytes →
        Kept pathPrefix before.storage fileId bytes

/-- The id of a backup is new, and so is the key of its archive. -/
def Fresh (p : Provider) (exportId day : String) (before : World) : Prop :=
  ∀ pathPrefix key, p = .s3 pathPrefix →
    normalizeObjectKey pathPrefix (objectKey day exportId) = .ok key → key ∉ before.storage.bucket

/-! ## The keys of the files of a bucket -/

section keys

variable {pathPrefix : String} {s : Storage} {f g h : ListedFile}

/-- A file of a bucket that can be downloaded. -/
structure InBucket (pathPrefix : String) (file : ListedFile) : Prop where
  named : file.name = some (lastSegment file.id)
  starts : startsWith file.id (keyPrefix pathPrefix) = true
  accepted : ∃ key, normalizeObjectKey pathPrefix file.id = .ok key

theorem slash_not_mem_lastSegment (key : String) : '/' ∉ (lastSegment key).toList := by
  obtain ⟨-, -, -, hslash⟩ := exists_path_lastPart key.toList
  rw [toList_lastSegment]
  exact hslash

theorem lastSegment_keyPrefix {name : String} (hslash : '/' ∉ name.toList) :
    lastSegment (keyPrefix pathPrefix ++ name) = name := by
  refine String.toList_injective ?_
  rw [toList_lastSegment, String.toList_append]
  exact lastPart_path (endsPath_keyPrefix pathPrefix) hslash

/-- A file is uploaded under its name, directly under the prefix. One without a name keeps its key,
with a name. -/
theorem uploadKey_spec (hf : InBucket pathPrefix f) :
    normalizeObjectKey pathPrefix (fileName f) = .ok (uploadKey pathPrefix f) ∧
      (lastSegment f.id ≠ "" → uploadKey pathPrefix f = keyPrefix pathPrefix ++ lastSegment f.id) ∧
      (lastSegment f.id = "" → lastSegment (uploadKey pathPrefix f) = ".bin") := by
  obtain ⟨key, hkey⟩ := hf.accepted
  have hupload : ∀ {key'}, normalizeObjectKey pathPrefix (fileName f) = .ok key' →
      uploadKey pathPrefix f = key' := by
    intro key' h
    unfold uploadKey
    rw [h]
    rfl
  have hfileName : fileName f =
      if lastSegment f.id = "" then f.id ++ ".bin" else lastSegment f.id := by
    unfold fileName
    rw [hf.named]
  by_cases hname : lastSegment f.id = ""
  · rw [if_pos hname] at hfileName
    obtain ⟨q, hq, hid, -⟩ := exists_path_lastPart f.id.toList
    rw [← toList_lastSegment, hname, String.toList_empty, List.append_nil] at hid
    obtain ⟨key', hkey', hlast⟩ : ∃ key', normalizeObjectKey pathPrefix (f.id ++ ".bin") = .ok key' ∧
        lastSegment key' = ".bin" :=
      normalizeObjectKey_path hkey (hid ▸ hq) (by decide) (by decide)
    rw [← hfileName] at hkey'
    rw [hupload hkey']
    exact ⟨hkey', fun h => absurd hname h, fun _ => hlast⟩
  · rw [if_neg hname] at hfileName
    have hdots : isDots (lastSegment f.id).toList = false := by
      rw [toList_lastSegment, ← lastPart_strip]
      exact isDots_lastPart (normalizeObjectKey_eq_ok.1 hkey).1
    have hkey' : normalizeObjectKey pathPrefix (lastSegment f.id) =
        .ok (keyPrefix pathPrefix ++ lastSegment f.id) :=
      normalizeObjectKey_name (slash_not_mem_lastSegment f.id) hdots
    rw [← hfileName] at hkey'
    rw [hupload hkey', hfileName]
    exact ⟨hfileName ▸ hkey', fun _ => rfl, fun h => absurd h hname⟩

theorem lastSegment_uploadKey_ne (hf : InBucket pathPrefix f) :
    lastSegment (uploadKey pathPrefix f) ≠ "" := by
  obtain ⟨-, hnamed, hunnamed⟩ := uploadKey_spec hf
  by_cases hname : lastSegment f.id = ""
  · rw [hunnamed hname]
    decide
  · rw [hnamed hname, lastSegment_keyPrefix (slash_not_mem_lastSegment f.id)]
    exact hname

theorem uploadKey_ne_empty (hf : InBucket pathPrefix f) : uploadKey pathPrefix f ≠ "" := by
  intro h
  exact lastSegment_uploadKey_ne hf (by rw [h]; rfl)

/-- A file under a key that another one was uploaded to is uploaded to a key that is not left any
more. -/
theorem uploadKey_settled (hf : InBucket pathPrefix f) (hg : InBucket pathPrefix g)
    (hh : InBucket pathPrefix h) (hgf : g.id = uploadKey pathPrefix f)
    (hhg : h.id = uploadKey pathPrefix g) : uploadKey pathPrefix h = uploadKey pathPrefix g := by
  have hname : lastSegment g.id ≠ "" := by
    rw [hgf]
    exact lastSegment_uploadKey_ne hf
  have hg' := (uploadKey_spec hg).2.1 hname
  have hlast : lastSegment h.id = lastSegment g.id := by
    rw [hhg, hg', lastSegment_keyPrefix (slash_not_mem_lastSegment g.id)]
  rw [(uploadKey_spec hh).2.1 (hlast ▸ hname), hlast, hg']

/-- A key that a file was uploaded to is read there. -/
theorem normalizeObjectKey_uploadKey (hf : InBucket pathPrefix f) :
    normalizeObjectKey pathPrefix (uploadKey pathPrefix f) = .ok (uploadKey pathPrefix f) := by
  obtain ⟨key, hkey⟩ := hf.accepted
  exact normalizeObjectKey_idem (hasDots_keyPrefix hf.starts hkey) (uploadKey_spec hf).1

theorem mem_rootFiles_s3 :
    f ∈ (Provider.s3 pathPrefix).rootFiles s ↔
      f.name = some (lastSegment f.id) ∧ startsWith f.id (keyPrefix pathPrefix) = true ∧
        f.id ∈ s.bucket := by
  unfold Provider.rootFiles listObjects
  rw [List.mem_map]
  constructor
  · rintro ⟨key, hkey, rfl⟩
    rw [List.mem_insertionSort, List.mem_filter] at hkey
    exact ⟨rfl, hkey.2, AList.mem_keys.2 hkey.1⟩
  · rintro ⟨hname, hstarts, hmem⟩
    refine ⟨f.id, ?_, ?_⟩
    · rw [List.mem_insertionSort, List.mem_filter]
      exact ⟨AList.mem_keys.1 hmem, hstarts⟩
    · rw [← hname]

end keys

/-! ## What a backup leaves -/

section backup

variable {env : Env} {p : Provider} {firmId exportId day : String} {iv : Iv} {before after : World}
  {created : Created}

theorem outcome_onStorage {α : Type} (x : Call Storage α) (w : World) :
    outcome (onStorage x) w =
      ((outcome x w.storage).1, { w with storage := (outcome x w.storage).2 }) :=
  outcome_within _ _ x w

theorem onStorage_eq_ok {α : Type} {x : Call Storage α} {a : α} {w w' : World}
    (h : outcome (onStorage x) w = (.ok a, w')) :
    ∃ s, outcome x w.storage = (.ok a, s) ∧ w' = { w with storage := s } := by
  rw [outcome_onStorage, Prod.mk.injEq] at h
  exact ⟨_, Prod.ext h.1 rfl, h.2.symm⟩

/-- What a backup that returned has done. -/
theorem runBackup_ok
    (h : outcome (runBackupForFirm env p firmId exportId day iv) before = (.ok created, after)) :
    ∃ archive s₁ uploaded s₂,
      outcome (createBackupArchive env p) before.storage = (.ok archive, s₁) ∧
      outcome (uploadBackupToProvider env.ids p firmId (objectKey day exportId)
        (encryptFileGcm env.crypto env.key iv (env.zip.zip archive))) s₁ = (.ok uploaded, s₂) ∧
      after = ⟨s₂, before.attachments, before.backupJobs ++
        [⟨exportId, firmId, objectKey day exportId, .success, some uploaded.providerFileId⟩]⟩ ∧
      ∀ job ∈ before.backupJobs, job.jobId ≠ exportId := by
  unfold runBackupForFirm at h
  obtain ⟨_, w, hcreate, hrest⟩ := bind_eq_ok.1 h
  unfold createJob at hcreate
  rw [outcome_bind, outcome_get] at hcreate
  dsimp only at hcreate
  split_ifs at hcreate with hexists
  · cases hcreate
  · have hnew : ∀ job ∈ before.backupJobs, job.jobId ≠ exportId := fun job hjob heq =>
      hexists (List.any_eq_true.2 ⟨job, hjob, decide_eq_true heq⟩)
    cases hcreate
    rw [outcome_tryCatch] at hrest
    split at hrest
    · rename_i created' w' hmake
      cases hrest
      unfold makeBackup at hmake
      obtain ⟨archive, w₁, hfirst, hrest⟩ := bind_eq_ok.1 hmake
      obtain ⟨s₁, harchive, rfl⟩ := onStorage_eq_ok hfirst
      obtain ⟨uploaded, w₂, hsecond, hreturn⟩ := bind_eq_ok.1 hrest
      obtain ⟨s₂, hupload, rfl⟩ := onStorage_eq_ok hsecond
      cases hreturn
      refine ⟨archive, s₁, uploaded, s₂, harchive, hupload, ?_, hnew⟩
      have hjobs : before.backupJobs.map (fun job : BackupJob => if job.jobId = exportId then
          { job with status := .success, providerFileId := some uploaded.providerFileId }
          else job) = before.backupJobs :=
        (List.map_congr_left fun job hjob => if_neg (hnew job hjob)).trans (List.map_id _)
      show World.mk s₂ before.attachments _ = _
      rw [List.map_append, hjobs, List.map_singleton, if_pos rfl]
    · cases hrest

/-- The job of a backup is found. -/
theorem find_job {jobs : List BackupJob} {job : BackupJob}
    (hnew : ∀ other ∈ jobs, other.jobId ≠ job.jobId) :
    ((jobs ++ [job]).find? fun other => other.jobId = job.jobId && other.firmId = job.firmId) =
      some job := by
  have hnone : (jobs.find? fun other => other.jobId = job.jobId && other.firmId = job.firmId) =
      none := by
    refine List.find?_eq_none.2 fun other hother heq => ?_
    rw [Bool.and_eq_true, decide_eq_true_iff] at heq
    exact hnew other hother heq.1
  rw [List.find?_append, hnone]
  simp

/-- What the archive of a job is read as. -/
theorem retrieve_eq_ok {w : World} {job : BackupJob} {bytes : Bytes}
    (hfind : (w.backupJobs.find? fun other => other.jobId = exportId && other.firmId = firmId) =
      some job) :
    (outcome (retrieve env p firmId (.exported exportId)) w).1 = .ok bytes ↔
      ∃ encrypted, readFile p w.storage job.archiveObjectKey = some encrypted ∧
        decryptArchive env.crypto env.key encrypted = .ok bytes := by
  unfold retrieve readFile
  dsimp only
  rw [outcome_bind, outcome_get]
  dsimp only
  rw [hfind]
  dsimp only
  rw [outcome_bind, outcome_onStorage]
  rcases outcome (p.downloadFile job.archiveObjectKey) w.storage with ⟨error | encrypted, s⟩
  · exact ⟨nofun, fun ⟨_, h, _⟩ => nomatch h⟩
  · dsimp only
    rw [outcome_lift]
    exact ⟨fun h => ⟨encrypted, rfl, h⟩, fun ⟨_, h, h'⟩ => by cases h; exact h'⟩

end backup

/-! ## Google Drive and OneDrive -/

section items

variable {env : Env} {p : Provider} {firmId exportId day : String} {iv : Iv} {before after : World}
  {created : Created}

theorem slash_mem_objectKey : '/' ∈ (objectKey day exportId).toList := by
  unfold objectKey
  rw [String.toList_append, String.toList_append, String.toList_append, String.toList_append]
  simp [BACKUP_PATH_PREFIX]

/-- An id has no slash, so that nothing is found under a key that has one. -/
theorem findItem_slash {items : AList fun _ : FileId => Item} {fileId : String}
    (h : '/' ∈ fileId.toList) : findItem items fileId = none := by
  unfold findItem
  rw [List.find?_eq_none.2 fun e _ heq => ?_]
  · rfl
  · rw [← of_decide_eq_true heq] at h
    exact e.1.noSlash h

theorem readFile_slash {s : Storage} {fileId : String} (h : '/' ∈ fileId.toList)
    (hp : ∀ pathPrefix, p ≠ .s3 pathPrefix) : readFile p s fileId = none := by
  have hdrive : readFile (.googleDrive none) s fileId = none := by
    unfold readFile Provider.downloadFile
    dsimp only
    rw [outcome_bind]
    rcases outcome request s with ⟨error | u, s'⟩
    · rfl
    · dsimp only
      rw [outcome_bind, outcome_get]
      dsimp only
      rw [findItem_slash h]
      rfl
  cases p with
  | s3 pathPrefix => exact absurd rfl (hp pathPrefix)
  | googleDrive rootFolderId => exact hdrive
  | docketraManaged rootFolderId => exact hdrive
  | oneDrive =>
    unfold readFile Provider.downloadFile
    dsimp only
    rw [outcome_bind, outcome_get]
    dsimp only
    rw [findItem_slash h]
    rfl

/-- What is uploaded to Google Drive or OneDrive is not found under the key of its job. -/
theorem not_restoreInverts (hp : ∀ pathPrefix, p ≠ .s3 pathPrefix)
    (h : outcome (runBackupForFirm env p firmId exportId day iv) before = (.ok created, after)) :
    ¬ RestoreInverts env p firmId exportId before after := by
  obtain ⟨-, s₁, uploaded, s₂, -, -, rfl, hnew⟩ := runBackup_ok h
  rintro ⟨archive, -, hrestores⟩
  have hdecrypts := (hrestores (fun _ => false) fun _ _ _ _ _ => rfl).decrypts
  have hfind := @find_job _ ⟨exportId, firmId, objectKey day exportId, .success,
    some uploaded.providerFileId⟩ hnew
  obtain ⟨encrypted, hread, -⟩ := (retrieve_eq_ok hfind).1 hdecrypts
  rw [readFile_slash slash_mem_objectKey hp] at hread
  cases hread

end items

/-! ## The attachments -/

section attachments

variable {firmId fileId : String} {a : Attachment}

theorem reference_of_storageFileId {x : String} (hx : x ≠ "") (h : a.storageFileId = some x) :
    a.reference = some x := by
  unfold Attachment.reference orElse
  rw [h, if_pos ((truthy_some x).2 hx)]

theorem refersTo_of_subset {files files' : List ListedFile} (hsub : files' ⊆ files)
    (h : a.RefersTo files fileId) : a.RefersTo files' fileId :=
  ⟨h.1, h.2.1, fun other hother => (h.2.2 other hother).imp_right fun hne g hg => hne g (hsub hg)⟩

/-- An attachment that is downloaded from a file is moved to another id. -/
theorem refersTo_relocate {file : ListedFile} {files : List ListedFile} {newFileId : String}
    (hnew : newFileId ≠ "") (h : a.RefersTo (file :: files) file.id) :
    (a.relocate file.id newFileId).RefersTo files newFileId := by
  obtain ⟨-, hreference, hother⟩ := h
  unfold Attachment.relocate
  by_cases hdrive : a.driveFileId = some file.id
  · -- the second update sets both fields
    have hboth : ∀ b : Attachment, b.driveFileId = some file.id →
        (if b.driveFileId = some file.id then
          { b with driveFileId := some newFileId, storageFileId := some newFileId }
          else b) = ⟨b.firmId, some newFileId, some newFileId⟩ := fun b hb => if_pos hb
    dsimp only
    rw [hboth _ (by split_ifs <;> exact hdrive)]
    exact ⟨hnew, reference_of_storageFileId hnew rfl, fun other hother => .inl (by
      rw [← Option.some.inj hother])⟩
  · have hstorage : a.storageFileId = some file.id := by
      unfold Attachment.reference orElse at hreference
      split_ifs at hreference
      · exact hreference
      · exact absurd hreference hdrive
    dsimp only
    rw [if_pos hstorage, if_neg hdrive]
    refine ⟨hnew, reference_of_storageFileId hnew rfl, fun other hdrive' => .inr ?_⟩
    rcases hother other hdrive' with heq | hne
    · exact absurd (hdrive'.trans (congrArg some heq)) hdrive
    · exact fun g hg => hne g (List.mem_cons_of_mem file hg)

/-- An attachment that is downloaded from another file stays as it is. -/
theorem afterUpload_of_ne {file : ListedFile} {files : List ListedFile} (newFileId : String)
    (h : a.RefersTo (file :: files) fileId) (hne : fileId ≠ file.id) :
    a.afterUpload firmId file.id newFileId = a := by
  obtain ⟨-, hreference, hother⟩ := h
  unfold Attachment.afterUpload
  split_ifs with hguard
  · have hstorage : a.storageFileId ≠ some file.id := fun hstorage =>
      hne (Option.some.inj (hreference.symm.trans (reference_of_storageFileId hguard.2.1 hstorage)))
    have hdrive : a.driveFileId ≠ some file.id := by
      intro hdrive
      rcases hother file.id hdrive with heq | hothers
      · exact hne heq.symm
      · exact hothers file List.mem_cons_self rfl
    unfold Attachment.relocate
    dsimp only
    rw [if_neg hstorage, if_neg hdrive]
  · rfl

/-- An attachment that refers to a file refers to what the file is uploaded as. -/
theorem refersTo_afterUpload {file : ListedFile} {files : List ListedFile} {newFileId : String}
    (hfirm : a.firmId = firmId) (hnew : newFileId ≠ "") (h : a.RefersTo (file :: files) fileId) :
    (a.afterUpload firmId file.id newFileId).RefersTo files
      (if fileId = file.id then newFileId else fileId) := by
  have htail : a.RefersTo files fileId := refersTo_of_subset (List.subset_cons_self file files) h
  by_cases hx : fileId = file.id
  · rw [if_pos hx]
    by_cases hsame : file.id = newFileId
    · have hself : a.afterUpload firmId file.id newFileId = a :=
        if_neg fun hguard => hguard.2.2.2 hsame
      rw [hself, ← hsame, ← hx]
      exact htail
    · have hmoved : a.afterUpload firmId file.id newFileId = a.relocate file.id newFileId :=
        if_pos ⟨hfirm, hx ▸ h.1, hnew, hsame⟩
      rw [hmoved]
      exact refersTo_relocate hnew (hx ▸ h)
  · rw [if_neg hx, afterUpload_of_ne newFileId h hx]
    exact htail

theorem firmId_afterUpload (newFileId : String) :
    (a.afterUpload firmId fileId newFileId).firmId = a.firmId := by
  unfold Attachment.afterUpload Attachment.relocate
  dsimp only
  split_ifs <;> rfl

/-- An attachment follows the files that are uploaded one after another. -/
theorem reference_restored {pathPrefix : String} {files : List ListedFile}
    (hfirm : a.firmId = firmId) (hkeys : ∀ file ∈ files, uploadKey pathPrefix file ≠ "")
    (h : a.RefersTo files fileId) :
    (files.foldl (fun a file =>
        a.afterUpload firmId file.id (uploadKey pathPrefix file)) a).reference =
      some (follow ListedFile.id (uploadKey pathPrefix) files fileId) := by
  induction files generalizing a fileId with
  | nil => exact h.2.1
  | cons file files ih =>
    rw [List.foldl_cons, follow_cons]
    exact ih ((firmId_afterUpload _).trans hfirm)
      (fun g hg => hkeys g (List.mem_cons_of_mem file hg))
      (refersTo_afterUpload hfirm (hkeys file List.mem_cons_self) h)

end attachments

/-! ## Buckets -/

section bucket

variable {env : Env} {pathPrefix firmId exportId day : String} {iv : Iv} {before after : World}
  {created : Created} {archive : Archive}

theorem outcome_uploadFile_s3 (ids : Ids) (name : String) (bytes : Bytes) (s : Storage) :
    outcome ((Provider.s3 pathPrefix).uploadFile ids none name bytes) s =
      match normalizeObjectKey pathPrefix name with
      | .error error => (.error error, s)
      | .ok key => (.ok key, { s with bucket := s.bucket.insert key bytes }) := by
  have hpath : "/".intercalate (([name]).filter (· ≠ "")) = name := by
    by_cases hname : name = ""
    · rw [hname]
      rfl
    · rw [List.filter_singleton, decide_eq_true hname]
      rfl
  unfold Provider.uploadFile
  dsimp only
  rw [Option.toList_none, List.nil_append, hpath]
  cases normalizeObjectKey pathPrefix name with
  | error error => rfl
  | ok key => rfl

/-- The documents are uploaded one after another, and the attachments moved to them. -/
theorem restoreFiles_s3 {documents : Documents} {files : List ListedFile} (w : World)
    (hkeys : ∀ file ∈ files,
      normalizeObjectKey pathPrefix (fileName file) = .ok (uploadKey pathPrefix file))
    (hdocuments : ∀ file ∈ files, ∃ bytes, documents.lookup (documentName file) = some bytes) :
    outcome (restoreFiles env (.s3 pathPrefix) firmId documents files) w = (.ok (), {
      storage := { w.storage with
        bucket := files.foldl (fun m file => m.insert (uploadKey pathPrefix file)
          ((documents.lookup (documentName file)).getD [])) w.storage.bucket }
      attachments := w.attachments.map fun a =>
        files.foldl (fun a file => a.afterUpload firmId file.id (uploadKey pathPrefix file)) a
      backupJobs := w.backupJobs }) := by
  induction files generalizing w with
  | nil =>
    have hsame : w.attachments.map (fun a => ([] : List ListedFile).foldl
        (fun a file => a.afterUpload firmId file.id (uploadKey pathPrefix file)) a) =
          w.attachments :=
      List.map_id _
    rw [hsame]
    rfl
  | cons file files ih =>
    obtain ⟨bytes, hbytes⟩ := hdocuments file List.mem_cons_self
    unfold restoreFiles
    rw [hbytes]
    dsimp only
    rw [outcome_bind, outcome_onStorage, outcome_uploadFile_s3, hkeys file List.mem_cons_self]
    dsimp only
    rw [outcome_bind, outcome_modify]
    dsimp only
    rw [ih _ (fun g hg => hkeys g (List.mem_cons_of_mem file hg))
      fun g hg => hdocuments g (List.mem_cons_of_mem file hg), List.map_map, List.foldl_cons, hbytes]
    rfl

/-- The files that one answer lists can be downloaded once an archive of them is made. -/
theorem inBucket_of_listed {s : Storage} {file : ListedFile}
    (hread : ∃ bytes, readFile (.s3 pathPrefix) s file.id = some bytes)
    (h : file ∈ listed pathPrefix s) : InBucket pathPrefix file := by
  obtain ⟨hname, hstarts, -⟩ := mem_rootFiles_s3.1 (List.mem_of_mem_take h)
  obtain ⟨bytes, hbytes⟩ := hread
  obtain ⟨key, hkey, -⟩ := readFile_s3_eq_some.1 hbytes
  exact ⟨hname, hstarts, key, hkey⟩

/-- A reference ends at the final key of its file. -/
theorem normalizeObjectKey_follow {files : List ListedFile} {fileId : String}
    (hfiles : ∀ file ∈ files, InBucket pathPrefix file)
    (haccepted : ∃ key, normalizeObjectKey pathPrefix fileId = .ok key) :
    normalizeObjectKey pathPrefix (follow ListedFile.id (uploadKey pathPrefix) files fileId) =
      .ok (finalKey pathPrefix files fileId) := by
  unfold finalKey
  cases hfind : files.find? (·.id = fileId) with
  | none =>
    obtain ⟨key, hkey⟩ := haccepted
    rw [follow_of_not_mem fun file hfile heq =>
      List.find?_eq_none.1 hfind file hfile (decide_eq_true heq)]
    dsimp only
    rw [hkey]
    rfl
  | some file =>
    obtain ⟨hid, before, after, rfl, hbefore⟩ := List.find?_eq_some_iff_append.1 hfind
    have hfile : InBucket pathPrefix file :=
      hfiles file (List.mem_append_right before List.mem_cons_self)
    have hbefore' : ∀ g ∈ before, g.id ≠ file.id := fun g hg heq => by
      have hne := hbefore g hg
      rw [heq, hid] at hne
      cases hne
    have htail : ((before ++ file :: after).dropWhile (·.id ≠ file.id)).tail = after := by
      rw [List.dropWhile_append_of_pos fun g hg => decide_eq_true (hbefore' g hg),
        List.dropWhile_cons_of_neg (by simp)]
      rfl
    dsimp only
    unfold restoredAs
    rw [htail, ← of_decide_eq_true hid, follow_split hbefore']
    cases hnext : after.find? (·.id = uploadKey pathPrefix file) with
    | none =>
      rw [follow_of_not_mem fun g hg heq =>
        List.find?_eq_none.1 hnext g hg (decide_eq_true heq)]
      exact normalizeObjectKey_uploadKey hfile
    | some g =>
      obtain ⟨hgid, between, rest, rfl, hbetween⟩ := List.find?_eq_some_iff_append.1 hnext
      have hin : ∀ h ∈ between ++ g :: rest, InBucket pathPrefix h := fun h hh =>
        hfiles h (List.mem_append_right before (List.mem_cons_of_mem file hh))
      have hg := hin g (List.mem_append_right between List.mem_cons_self)
      have hgid' : g.id = uploadKey pathPrefix file := of_decide_eq_true hgid
      rw [← hgid', follow_split fun h hh heq => ?_]
      · rw [follow_of_settled fun h hh heq => uploadKey_settled hfile hg
          (hin h (List.mem_append_right between (List.mem_cons_of_mem g hh))) hgid' heq]
        exact normalizeObjectKey_uploadKey hg
      · have hne := hbetween h hh
        rw [heq, hgid] at hne
        cases hne

theorem lookup_kept {κ ν : Type} [DecidableEq κ] {items : AList fun _ : κ => ν} {deleted : κ → Bool}
    {k : κ} : (kept items deleted).lookup k = if deleted k then none else items.lookup k := by
  have hmem : ∀ v, (kept items deleted).lookup k = some v ↔
      items.lookup k = some v ∧ deleted k = false := by
    intro v
    show v ∈ (kept items deleted).lookup k ↔ v ∈ items.lookup k ∧ _
    rw [AList.mem_lookup_iff, AList.mem_lookup_iff]
    show _ ∈ items.entries.filter _ ↔ _
    rw [List.mem_filter, Bool.not_eq_true']
  refine Option.ext fun v => ?_
  rw [hmem]
  cases deleted k with
  | true => exact ⟨fun h => absurd h.2 (by decide), nofun⟩
  | false => exact ⟨And.left, fun h => ⟨h, rfl⟩⟩

/-- When an upload has put the bytes under the final key of a file. -/
theorem kept_iff {s : Storage} {fileId : String} {bytes : Bytes}
    (hread : ∀ file ∈ listed pathPrefix s,
      ∃ bytes, readFile (.s3 pathPrefix) s file.id = some bytes) :
    Kept pathPrefix s fileId bytes ↔
      ∃ uploaded,
        last (fun file =>
            uploadKey pathPrefix file = finalKey pathPrefix (listed pathPrefix s) fileId)
            (listed pathPrefix s) = some uploaded ∧
          ((last (fun file => documentName file = documentName uploaded) (listed pathPrefix s)).map
            (body pathPrefix s)) = some bytes := by
  have hbody : ∀ file ∈ listed pathPrefix s,
      readFile (.s3 pathPrefix) s file.id = some (body pathPrefix s file) := by
    intro file hfile
    obtain ⟨stored, hstored⟩ := hread file hfile
    unfold body
    rw [hstored]
    rfl
  unfold Kept
  refine exists_congr fun uploaded => ⟨?_, ?_⟩
  · rintro ⟨document, huploaded, hdocument, hbytes⟩
    rw [hdocument, Option.map_some, ← hbytes]
    exact ⟨huploaded, (hbody document (mem_of_last hdocument).1).symm⟩
  · rintro ⟨huploaded, hbytes⟩
    obtain ⟨document, hdocument, hbytes⟩ := Option.map_eq_some_iff.1 hbytes
    refine ⟨document, huploaded, hdocument, ?_⟩
    rw [hbody document (mem_of_last hdocument).1, hbytes]

/-- What a backup into a bucket leaves. -/
structure BackedUp (env : Env) (pathPrefix firmId exportId day : String) (iv : Iv)
    (before after : World) (archive : Archive) (key : String) : Prop where
  archived : outcome (createBackupArchive env (.s3 pathPrefix)) before.storage =
    (.ok archive, before.storage)
  accepted : normalizeObjectKey pathPrefix (objectKey day exportId) = .ok key
  bucket : after.storage.bucket = before.storage.bucket.insert key
    (encryptFileGcm env.crypto env.key iv (env.zip.zip archive))
  attachments : after.attachments = before.attachments
  job : (after.backupJobs.find? fun job => job.jobId = exportId && job.firmId = firmId) =
    some ⟨exportId, firmId, objectKey day exportId, .success, some key⟩
  jobs : ∀ job ∈ after.backupJobs, job.jobId = exportId → job.providerFileId = some key

theorem runBackup_s3
    (h : outcome (runBackupForFirm env (.s3 pathPrefix) firmId exportId day iv) before =
      (.ok created, after)) :
    ∃ archive key, BackedUp env pathPrefix firmId exportId day iv before after archive key := by
  obtain ⟨archive, s₁, uploaded, s₂, harchive, hupload, rfl, hnew⟩ := runBackup_ok h
  obtain ⟨rfl, -⟩ := createBackupArchive_s3 harchive
  have hname : (Provider.s3 pathPrefix).providerName = "s3" := rfl
  unfold uploadBackupToProvider at hupload
  rw [if_pos hname] at hupload
  obtain ⟨fileId, s, hfile, hreturn⟩ := bind_eq_ok.1 hupload
  rw [outcome_uploadFile_s3] at hfile
  cases hkey : normalizeObjectKey pathPrefix (objectKey day exportId) with
  | error error =>
    rw [hkey] at hfile
    cases hfile
  | ok key =>
    rw [hkey] at hfile
    cases hfile
    cases hreturn
    refine ⟨archive, fileId, harchive, hkey, rfl, rfl, @find_job _ ⟨exportId, firmId,
      objectKey day exportId, .success, some fileId⟩ hnew, fun job hjob hid => ?_⟩
    rcases List.mem_append.1 hjob with hold | hlast
    · exact absurd hid (hnew job hold)
    · rw [List.mem_singleton.1 hlast]

theorem retrieve_state_s3 (exportId : String) (w : World) :
    (outcome (retrieve env (.s3 pathPrefix) firmId (.exported exportId)) w).2 = w := by
  unfold retrieve
  dsimp only
  rw [outcome_bind, outcome_get]
  dsimp only
  split
  · rfl
  · rw [outcome_bind, outcome_onStorage, outcome_downloadFile_s3]
    split
    · rename_i hresult
      exact (congrArg Prod.snd hresult).symm
    · rename_i hresult
      exact (congrArg Prod.snd hresult).symm

section restore

variable {key : String} {deleted : String → Bool}

theorem BackedUp.inBucket
    (h : BackedUp env pathPrefix firmId exportId day iv before after archive key) :
    ∀ file ∈ listed pathPrefix before.storage, InBucket pathPrefix file := fun _ hfile =>
  inBucket_of_listed ((createBackupArchive_s3 h.archived).2.2.1 _ hfile) hfile

/-- Every file of the listing has a document. -/
theorem BackedUp.documents
    (h : BackedUp env pathPrefix firmId exportId day iv before after archive key) :
    ∀ file ∈ listed pathPrefix before.storage, ∃ bytes,
      archive.documents.lookup (documentName file) = some bytes := by
  intro file hfile
  obtain ⟨document, hdocument⟩ := exists_last_key documentName hfile rfl
  rw [(createBackupArchive_s3 h.archived).2.2.2, hdocument]
  exact ⟨_, rfl⟩

/-- The archive is found, and decrypted unless its vector starts as a ZIP file does. -/
theorem BackedUp.retrieve_iff
    (h : BackedUp env pathPrefix firmId exportId day iv before after archive key)
    (hdeleted : deleted key = false) :
    (outcome (retrieve env (.s3 pathPrefix) firmId (.exported exportId)) (after.delete deleted)).1 =
      .ok (env.zip.zip archive) ↔ isPlainZipFile iv.bytes = false := by
  have hfound : readFile (.s3 pathPrefix) (after.delete deleted).storage (objectKey day exportId) =
      some (encryptFileGcm env.crypto env.key iv (env.zip.zip archive)) := by
    refine readFile_s3_eq_some.2 ⟨key, h.accepted, ?_⟩
    show (kept after.storage.bucket deleted).lookup key = _
    rw [lookup_kept, hdeleted, h.bucket, AList.lookup_insert]
    rfl
  have hdecrypted : decryptArchive env.crypto env.key
        (encryptFileGcm env.crypto env.key iv (env.zip.zip archive)) = .ok (env.zip.zip archive) ↔
      isPlainZipFile iv.bytes = false := decryptArchive_encryptFileGcm (env.zip.zip_ne_nil archive)
  have hjob : ((after.delete deleted).backupJobs.find? fun other =>
      other.jobId = exportId && other.firmId = firmId) = some _ := h.job
  rw [retrieve_eq_ok hjob, ← hdecrypted]
  dsimp only
  rw [hfound]
  constructor
  · rintro ⟨encrypted, heq, hdecrypt⟩
    rw [Option.some.inj heq]
    exact hdecrypt
  · exact fun hdecrypt => ⟨_, rfl, hdecrypt⟩

/-- What a restore of the archive does. -/
theorem BackedUp.restore
    (h : BackedUp env pathPrefix firmId exportId day iv before after archive key)
    (hdeleted : deleted key = false) (hvector : isPlainZipFile iv.bytes = false) :
    outcome (executeRestoreBackground env (.s3 pathPrefix) firmId (.exported exportId))
        (after.delete deleted) =
      outcome (restoreFiles env (.s3 pathPrefix) firmId archive.documents
        (listed pathPrefix before.storage)) (after.delete deleted) := by
  have hretrieve : outcome (retrieve env (.s3 pathPrefix) firmId (.exported exportId))
      (after.delete deleted) = (.ok (env.zip.zip archive), after.delete deleted) :=
    Prod.ext ((h.retrieve_iff hdeleted).2 hvector) (retrieve_state_s3 exportId _)
  unfold executeRestoreBackground
  rw [outcome_bind_ok hretrieve, env.zip.unzip_zip]
  dsimp only
  rw [(createBackupArchive_s3 h.archived).2.1]

/-- Where a reference ends is what was uploaded there last, or what was there. -/
theorem BackedUp.read_iff
    (h : BackedUp env pathPrefix firmId exportId day iv before after archive key)
    (w : World) {fileId : String} {bytes : Bytes}
    (haccepted : ∃ key, normalizeObjectKey pathPrefix fileId = .ok key) :
    readFile (.s3 pathPrefix)
        (outcome (restoreFiles env (.s3 pathPrefix) firmId archive.documents
          (listed pathPrefix before.storage)) w).2.storage
        (follow ListedFile.id (uploadKey pathPrefix) (listed pathPrefix before.storage) fileId) =
          some bytes ↔
      Kept pathPrefix before.storage fileId bytes ∨
        last (fun file => uploadKey pathPrefix file =
          finalKey pathPrefix (listed pathPrefix before.storage) fileId)
          (listed pathPrefix before.storage) = none ∧
        w.storage.bucket.lookup (finalKey pathPrefix (listed pathPrefix before.storage) fileId) =
          some bytes := by
  obtain ⟨-, -, hread, hlookup⟩ := createBackupArchive_s3 h.archived
  rw [restoreFiles_s3 w (fun file hfile => (uploadKey_spec (h.inBucket file hfile)).1) h.documents,
    readFile_s3_eq_some, kept_iff hread, normalizeObjectKey_follow h.inBucket haccepted]
  dsimp only
  generalize finalKey pathPrefix (listed pathPrefix before.storage) fileId = final
  simp only [Except.ok.injEq, exists_eq_left']
  rw [lookup_foldl_insert]
  cases hlast : last (fun file => uploadKey pathPrefix file = final)
      (listed pathPrefix before.storage) with
  | none =>
    constructor
    · exact fun hbytes => .inr ⟨rfl, hbytes⟩
    · rintro (⟨uploaded, heq, -⟩ | ⟨-, hbytes⟩)
      · cases heq
      · exact hbytes
  | some uploaded =>
    obtain ⟨document, hdocument⟩ := h.documents uploaded (mem_of_last hlast).1
    rw [Option.map_some, hdocument]
    rw [hlookup] at hdocument
    constructor
    · intro hbytes
      exact .inl ⟨uploaded, rfl, hdocument.trans hbytes⟩
    · rintro (⟨other, heq, hbytes⟩ | ⟨heq, -⟩)
      · cases heq
        exact hdocument.symm.trans hbytes
      · cases heq

/-- The attachments are moved along with the files that one answer lists. -/
theorem BackedUp.attachments_restored
    (h : BackedUp env pathPrefix firmId exportId day iv before after archive key)
    (hdeleted : deleted key = false) (hvector : isPlainZipFile iv.bytes = false) :
    (outcome (executeRestoreBackground env (.s3 pathPrefix) firmId (.exported exportId))
      (after.delete deleted)).2.attachments = before.attachments.map fun a =>
        (listed pathPrefix before.storage).foldl
          (fun a file => a.afterUpload firmId file.id (uploadKey pathPrefix file)) a := by
  rw [h.restore hdeleted hvector, restoreFiles_s3 _ (fun file hfile =>
    (uploadKey_spec (h.inBucket file hfile)).1) h.documents, ← h.attachments]
  rfl

theorem BackedUp.reference_restored
    (h : BackedUp env pathPrefix firmId exportId day iv before after archive key) {a : Attachment}
    {fileId : String} (hfirm : a.firmId = firmId)
    (hrefers : a.RefersTo ((Provider.s3 pathPrefix).rootFiles before.storage) fileId) :
    ((listed pathPrefix before.storage).foldl
      (fun a file => a.afterUpload firmId file.id (uploadKey pathPrefix file)) a).reference =
      some (follow ListedFile.id (uploadKey pathPrefix) (listed pathPrefix before.storage) fileId) :=
  StorageBackup.reference_restored hfirm
    (fun file hfile => uploadKey_ne_empty (h.inBucket file hfile))
    (refersTo_of_subset (List.take_subset ..) hrefers)

/-- A restore from what is left after a backup and after deletions. -/
theorem BackedUp.restores_iff
    (h : BackedUp env pathPrefix firmId exportId day iv before after archive key)
    (deleted : String → Bool) (hdeleted : deleted key = false) :
    Restores env (.s3 pathPrefix) firmId exportId before archive (after.delete deleted) ↔
      isPlainZipFile iv.bytes = false ∧ ∀ a ∈ before.attachments, a.firmId = firmId →
        ∀ fileId ∈ ((Provider.s3 pathPrefix).rootFiles before.storage).map ListedFile.id,
          a.RefersTo ((Provider.s3 pathPrefix).rootFiles before.storage) fileId →
          ∀ bytes, readFile (.s3 pathPrefix) before.storage fileId = some bytes →
            Kept pathPrefix before.storage fileId bytes ∨
              last (fun file => uploadKey pathPrefix file =
                finalKey pathPrefix (listed pathPrefix before.storage) fileId)
                (listed pathPrefix before.storage) = none ∧
              (kept after.storage.bucket deleted).lookup
                (finalKey pathPrefix (listed pathPrefix before.storage) fileId) = some bytes := by
  have haccepted : ∀ fileId bytes, readFile (.s3 pathPrefix) before.storage fileId = some bytes →
      ∃ key, normalizeObjectKey pathPrefix fileId = .ok key := fun fileId bytes hbytes => by
    obtain ⟨key, hkey, -⟩ := readFile_s3_eq_some.1 hbytes
    exact ⟨key, hkey⟩
  constructor
  · intro hrestores
    have hvector := (h.retrieve_iff hdeleted).1 hrestores.decrypts
    refine ⟨hvector, fun a ha hfirm fileId hfileId hrefers bytes hbytes => ?_⟩
    have hall := hrestores.attachments
    rw [h.attachments_restored hdeleted hvector, List.forall₂_map_right_iff,
      List.forall₂_same] at hall
    obtain ⟨fileId', href, hfinal⟩ := hall a ha hfirm fileId hfileId hrefers bytes hbytes
    rw [h.reference_restored hfirm hrefers] at href
    rw [h.restore hdeleted hvector, ← Option.some.inj href] at hfinal
    exact (h.read_iff _ (haccepted fileId bytes hbytes)).1 hfinal
  · rintro ⟨hvector, hall⟩
    refine ⟨(h.retrieve_iff hdeleted).2 hvector, ?_, ?_⟩
    · rw [h.restore hdeleted hvector, restoreFiles_s3 _ (fun file hfile =>
        (uploadKey_spec (h.inBucket file hfile)).1) h.documents]
    · rw [h.attachments_restored hdeleted hvector, List.forall₂_map_right_iff,
        List.forall₂_same]
      intro a ha hfirm fileId hfileId hrefers bytes hbytes
      refine ⟨_, h.reference_restored hfirm hrefers, ?_⟩
      rw [h.restore hdeleted hvector]
      exact (h.read_iff _ (haccepted fileId bytes hbytes)).2
        (hall a ha hfirm fileId hfileId hrefers bytes hbytes)

end restore

end bucket

/-! ## The exact condition -/

section condition

variable {pathPrefix : String} {s : Storage} {files : List ListedFile} {fileId : String}

theorem restoredAs_mem {file : ListedFile} (h : file ∈ files) :
    restoredAs pathPrefix files file ∈ files := by
  unfold restoredAs
  cases hnext : (files.dropWhile (·.id ≠ file.id)).tail.find? (·.id = uploadKey pathPrefix file) with
  | none => exact h
  | some g => exact List.dropWhile_subset _ (List.mem_of_mem_tail (List.mem_of_find?_eq_some hnext))

/-- Something is uploaded to the final key of a file that is listed. -/
theorem finalKey_of_last
    (h : last (fun file => uploadKey pathPrefix file = finalKey pathPrefix files fileId) files =
      none) :
    finalKey pathPrefix files fileId = (normalizeObjectKey pathPrefix fileId).toOption.getD "" := by
  have hnone : files.find? (·.id = fileId) = none := by
    cases hfind : files.find? (·.id = fileId) with
    | none => rfl
    | some file =>
      have hfinal : finalKey pathPrefix files fileId =
          uploadKey pathPrefix (restoredAs pathPrefix files file) := by
        unfold finalKey
        rw [hfind]
      obtain ⟨m, hm⟩ := exists_last_key (uploadKey pathPrefix)
        (restoredAs_mem (List.mem_of_find?_eq_some hfind)) hfinal.symm
      rw [hm] at h
      cases h
  unfold finalKey
  rw [hnone]

/-- A file whose name no other one has is restored as itself. -/
theorem finalKey_of_alone {file : ListedFile} (hfile : file ∈ files)
    (hupload : uploadKey pathPrefix file = keyPrefix pathPrefix ++ lastSegment file.id)
    (halone : ∀ g ∈ files, lastSegment g.id = lastSegment file.id → g = file) :
    finalKey pathPrefix files file.id = uploadKey pathPrefix file := by
  have hself : restoredAs pathPrefix files file = file := by
    have hin : restoredAs pathPrefix files file ∈ files := restoredAs_mem hfile
    unfold restoredAs at hin ⊢
    cases hnext : (files.dropWhile (·.id ≠ file.id)).tail.find?
        (·.id = uploadKey pathPrefix file) with
    | none => rfl
    | some g =>
      rw [hnext] at hin
      have hid := List.find?_some hnext
      refine halone g hin ?_
      rw [of_decide_eq_true hid, hupload,
        lastSegment_keyPrefix (slash_not_mem_lastSegment file.id)]
  unfold finalKey
  cases hfind : files.find? (·.id = file.id) with
  | none => exact absurd (decide_eq_true rfl) (List.find?_eq_none.1 hfind file hfile)
  | some g =>
    have hid := List.find?_some hfind
    have hg : g = file := halone g (List.mem_of_find?_eq_some hfind)
      (congrArg lastSegment (of_decide_eq_true hid))
    dsimp only
    rw [hg, hself]

/-- Files with different document names are kept, when all of them have names. -/
theorem kept_of_distinct {bytes : Bytes}
    (hin : ∀ file ∈ listed pathPrefix s, InBucket pathPrefix file)
    (hnamed : ∀ file ∈ listed pathPrefix s, lastSegment file.id ≠ "")
    (hdistinct : ∀ f ∈ listed pathPrefix s, ∀ g ∈ listed pathPrefix s,
      documentName f = documentName g → f = g)
    (hmem : fileId ∈ (listed pathPrefix s).map ListedFile.id)
    (hbytes : readFile (.s3 pathPrefix) s fileId = some bytes) : Kept pathPrefix s fileId bytes := by
  obtain ⟨file, hfile, rfl⟩ := List.mem_map.1 hmem
  have hdocument : ∀ g ∈ listed pathPrefix s, lastSegment g.id = lastSegment file.id → g = file := by
    intro g hg hlast
    refine hdistinct g hg file hfile ?_
    unfold documentName fileName
    rw [(hin g hg).named, (hin file hfile).named, hlast]
    dsimp only
    rw [if_neg (hnamed file hfile), if_neg (hnamed file hfile)]
  have hupload : ∀ g ∈ listed pathPrefix s,
      uploadKey pathPrefix g = keyPrefix pathPrefix ++ lastSegment g.id := fun g hg =>
    (uploadKey_spec (hin g hg)).2.1 (hnamed g hg)
  have huploaded : ∀ g ∈ listed pathPrefix s,
      uploadKey pathPrefix g = uploadKey pathPrefix file → g = file := by
    intro g hg heq
    rw [hupload g hg, hupload file hfile] at heq
    have hlast := congrArg lastSegment heq
    rw [lastSegment_keyPrefix (slash_not_mem_lastSegment g.id),
      lastSegment_keyPrefix (slash_not_mem_lastSegment file.id)] at hlast
    exact hdocument g hg hlast
  have hfinal : finalKey pathPrefix (listed pathPrefix s) file.id = uploadKey pathPrefix file :=
    finalKey_of_alone hfile (hupload file hfile) hdocument
  obtain ⟨uploaded, hlast⟩ := exists_last_key (uploadKey pathPrefix) hfile rfl
  have huploadedEq : uploaded = file :=
    huploaded uploaded (mem_of_last hlast).1 (of_decide_eq_true (mem_of_last hlast).2)
  obtain ⟨document, hdocumentLast⟩ := exists_last_key documentName hfile rfl
  have hdocumentEq : document = file := hdistinct document (mem_of_last hdocumentLast).1 file hfile
    (of_decide_eq_true (mem_of_last hdocumentLast).2)
  refine ⟨file, file, ?_, ?_, hbytes⟩
  · rw [hfinal, hlast, huploadedEq]
  · rw [hdocumentLast, hdocumentEq]

end condition

/-- **After a backup, a restore inverts it exactly for a bucket, a vector that does not start as a
ZIP file does, and files whose bytes are uploaded last where the references to them end.** -/
theorem restore_inverts_iff (env : Env) (p : Provider) (firmId exportId day : String) (iv : Iv)
    (before after : World) (created : Created)
    (h : outcome (runBackupForFirm env p firmId exportId day iv) before = (.ok created, after))
    (hfresh : Fresh p exportId day before) :
    RestoreInverts env p firmId exportId before after ↔
      ∃ pathPrefix, p = .s3 pathPrefix ∧ Recoverable pathPrefix firmId iv before := by
  constructor
  · intro hinverts
    by_cases hp : ∃ pathPrefix, p = .s3 pathPrefix
    · obtain ⟨pathPrefix, rfl⟩ := hp
      obtain ⟨archive, key, hbacked⟩ := runBackup_s3 h
      obtain ⟨archive', harchive', hrestores⟩ := hinverts
      rw [hbacked.archived] at harchive'
      cases harchive'
      -- everything is deleted but the archive
      have hrest := (hbacked.restores_iff (fun id => id ≠ key) (by simp)).1
        (hrestores _ fun job hjob hid fileId hfileId => by
          rw [hbacked.jobs job hjob hid] at hfileId
          cases hfileId
          simp)
      refine ⟨pathPrefix, rfl, hrest.1, fun a ha hfirm fileId hfileId hrefers bytes hbytes => ?_⟩
      rcases hrest.2 a ha hfirm fileId hfileId hrefers bytes hbytes with hkept | ⟨hnone, hlookup⟩
      · exact hkept
      · obtain ⟨key', hkey', hstored⟩ := readFile_s3_eq_some.1 hbytes
        rw [finalKey_of_last hnone, hkey'] at hlookup
        have hleft : (kept after.storage.bucket fun id => id ≠ key).lookup key' = some bytes :=
          hlookup
        have heq : key' = key := by
          by_contra hne
          rw [lookup_kept, if_pos (decide_eq_true hne)] at hleft
          cases hleft
        refine absurd ?_ (hfresh pathPrefix key rfl hbacked.accepted)
        rw [← heq]
        exact AList.lookup_isSome.1 (by rw [hstored]; rfl)
    · exact absurd hinverts (not_restoreInverts (fun pathPrefix heq => hp ⟨pathPrefix, heq⟩) h)
  · rintro ⟨pathPrefix, rfl, hvector, hfiles⟩
    obtain ⟨archive, key, hbacked⟩ := runBackup_s3 h
    refine ⟨archive, congrArg Prod.fst hbacked.archived, fun deleted hdeleted => ?_⟩
    have hjob := hbacked.job
    have hid := List.find?_some hjob
    simp only [Bool.and_eq_true, decide_eq_true_eq] at hid
    refine (hbacked.restores_iff deleted (hdeleted _ (List.mem_of_find?_eq_some hjob) rfl key rfl)).2
      ⟨hvector, fun a ha hfirm fileId hfileId hrefers bytes hbytes => .inl ?_⟩
    exact hfiles a ha hfirm fileId hfileId hrefers bytes hbytes

/-! ## Three backups -/

section samples

theorem countable_archive : Countable Archive := by
  have hchar : Countable Char := Function.Injective.countable fun _ _ => Char.toNat_inj.1
  have hbyte : Countable UInt8 := Function.Injective.countable fun _ _ => UInt8.toNat_inj.1
  have hstring : Countable String :=
    Function.Injective.countable (f := String.toList) fun _ _ h => String.toList_injective h
  have hfile : Countable ListedFile := Function.Injective.countable
    (f := fun file => (file.id, file.name)) fun a b h => by
      cases a
      cases b
      cases h
      rfl
  have hdocuments : Countable Documents :=
    Function.Injective.countable (f := AList.entries) fun _ _ => AList.ext
  exact Function.Injective.countable (f := fun archive => (archive.metadata, archive.documents))
    fun a b h => by
      cases a
      cases b
      cases h
      rfl

theorem exists_numbering : ∃ number : Archive → ℕ, Function.Injective number :=
  @Countable.exists_injective_nat Archive countable_archive

/-- A ZIP file that is as long as the number of its archive. -/
noncomputable def sampleZip : Zip where
  zip archive := List.replicate (exists_numbering.choose archive + 1) 0
  unzip file := Function.partialInv exists_numbering.choose (file.length - 1)
  unzip_zip archive := by
    rw [List.length_replicate, Nat.add_sub_cancel]
    exact Function.partialInv_left exists_numbering.choose_spec archive
  zip_ne_nil archive := nofun

/-- An id that is longer than all others. -/
def sampleId (ids : List FileId) : FileId where
  value := String.ofList (List.replicate ((ids.map fun id => id.value.length).sum + 1) 'a')
  noSlash := by
    rw [String.toList_ofList]
    exact fun h => absurd (List.eq_of_mem_replicate h) (by decide)
  notNull := by
    intro h
    have htoList := congrArg String.toList h
    rw [String.toList_ofList] at htoList
    have hn : 'n' ∈ List.replicate ((ids.map fun id => id.value.length).sum + 1) 'a' := by
      rw [htoList]
      decide
    exact absurd (List.eq_of_mem_replicate hn) (by decide)
  notEmpty := by
    intro h
    have htoList := congrArg String.toList h
    rw [String.toList_ofList] at htoList
    cases htoList

theorem length_le_sum {ids : List FileId} {id : FileId} (h : id ∈ ids) :
    id.value.length ≤ (ids.map fun id => id.value.length).sum := by
  induction ids with
  | nil => cases h
  | cons other ids ih =>
    rw [List.map_cons, List.sum_cons]
    rcases List.mem_cons.1 h with rfl | h
    · exact Nat.le_add_right _ _
    · exact (ih h).trans (Nat.le_add_left _ _)

def sampleIds : Ids where
  newId := sampleId
  fresh ids := by
    intro hmem
    have hle := length_le_sum hmem
    have hlength : (sampleId ids).value.length = (ids.map fun id => id.value.length).sum + 1 := by
      rw [← String.length_toList]
      unfold sampleId
      rw [String.toList_ofList, List.length_replicate]
    omega

noncomputable def sample : Env where
  crypto := emptyTextCipher
  zip := sampleZip
  ids := sampleIds
  key := List.replicate 32 0
  nameable _ := true

/-- A bucket, with an attachment of the firm to one of its objects. -/
def bucketWorld (bucket : AList fun _ : String => Bytes) (storageFileId : String) : World where
  storage := { bucket := bucket, drive := ∅, outages := [], oneDrive := ∅ }
  attachments := [⟨"FIRM001", some storageFileId, none⟩]
  backupJobs := []

def oneObject : World :=
  bucketWorld (AList.singleton "firm1/docs/a.txt" [1, 2, 3]) "firm1/docs/a.txt"

noncomputable def sampleBackup (p : Provider) : Call World Created :=
  runBackupForFirm sample p "FIRM001" "3f1c" "2026-01-10" zeroIv

theorem sampleBackup_oneObject :
    outcome (sampleBackup (.s3 "firm1")) oneObject = (.ok {
      exportId := "3f1c"
      archiveObjectKey := "backups/nightly/2026-01-10/3f1c.zip.enc"
      providerFileId := "firm1/backups/nightly/2026-01-10/3f1c.zip.enc"
      fileCount := 1 }, (outcome (sampleBackup (.s3 "firm1")) oneObject).2) :=
  Prod.ext (by rfl) rfl

theorem listed_oneObject :
    listed "firm1" oneObject.storage = [⟨"firm1/docs/a.txt", some "a.txt"⟩] := by rfl

/-- An object with a name is restored. -/
theorem restore_inverts_iff_oneObject :
    RestoreInverts sample (.s3 "firm1") "FIRM001" "3f1c" oneObject
      (outcome (sampleBackup (.s3 "firm1")) oneObject).2 := by
  refine (restore_inverts_iff sample (.s3 "firm1") "FIRM001" "3f1c" "2026-01-10" zeroIv oneObject _ _
    sampleBackup_oneObject ?_).2 ⟨"firm1", rfl, by decide, ?_⟩
  · intro pathPrefix key hprovider hkey
    cases hprovider
    have hvalue : normalizeObjectKey "firm1" (objectKey "2026-01-10" "3f1c") =
        .ok "firm1/backups/nightly/2026-01-10/3f1c.zip.enc" := by rfl
    rw [hvalue] at hkey
    cases hkey
    decide
  · intro a _ _ fileId hfileId _ bytes hbytes
    have hin : ∀ file ∈ listed "firm1" oneObject.storage, InBucket "firm1" file := by
      rw [listed_oneObject]
      intro file hfile
      rw [List.mem_singleton.1 hfile]
      exact ⟨by rfl, by decide, _, by rfl⟩
    refine kept_of_distinct hin ?_ ?_ ?_ hbytes
    · rw [listed_oneObject]
      intro file hfile
      rw [List.mem_singleton.1 hfile]
      decide
    · rw [listed_oneObject]
      intro f hf g hg _
      rw [List.mem_singleton.1 hf, List.mem_singleton.1 hg]
    · exact hfileId

/-- Two objects with one name. -/
def twoObjects : World :=
  bucketWorld ((AList.singleton "firm1/b/x.txt" [2]).insert "firm1/a/x.txt" [1]) "firm1/a/x.txt"

/-- A file in Google Drive. -/
def driveFile : World where
  storage := {
    bucket := ∅
    drive := AList.singleton (sampleId []) ⟨some "a.txt", none, some [1, 2, 3]⟩
    outages := []
    oneDrive := ∅ }
  attachments := [⟨"FIRM001", some (sampleId []).value, some (sampleId []).value⟩]
  backupJobs := []

theorem sampleBackup_driveFile :
    ∃ created, outcome (sampleBackup (.googleDrive none)) driveFile =
      (.ok created, (outcome (sampleBackup (.googleDrive none)) driveFile).2) :=
  ⟨_, Prod.ext (by rfl) rfl⟩

theorem sampleBackup_twoObjects :
    ∃ created, outcome (sampleBackup (.s3 "firm1")) twoObjects =
      (.ok created, (outcome (sampleBackup (.s3 "firm1")) twoObjects).2) :=
  ⟨_, Prod.ext (by rfl) rfl⟩

theorem uploaded_twoObjects :
    last (fun file => uploadKey "firm1" file = finalKey "firm1" (listed "firm1" twoObjects.storage)
      "firm1/a/x.txt") (listed "firm1" twoObjects.storage) =
        some ⟨"firm1/b/x.txt", some "x.txt"⟩ := by
  decide +kernel

/-- The first object gets the bytes of the second one. -/
theorem not_kept_twoObjects : ¬ Kept "firm1" twoObjects.storage "firm1/a/x.txt" [1] := by
  rintro ⟨uploaded, document, huploaded, hdocument, hbytes⟩
  rw [uploaded_twoObjects] at huploaded
  cases huploaded
  have hlast : last (fun file => documentName file = documentName ⟨"firm1/b/x.txt", some "x.txt"⟩)
      (listed "firm1" twoObjects.storage) = some ⟨"firm1/b/x.txt", some "x.txt"⟩ := by
    decide
  rw [hlast] at hdocument
  cases hdocument
  have hread : readFile (.s3 "firm1") twoObjects.storage "firm1/b/x.txt" = some [2] := by
    decide
  rw [hread] at hbytes
  exact absurd hbytes (by decide)

/-- What is backed up to Google Drive is not found again. And of two objects with one name, a restore
from a bucket leaves the bytes of the last one for both. -/
theorem restore_inverts_fails :
    (∃ created after, outcome (sampleBackup (.googleDrive none)) driveFile = (.ok created, after) ∧
      ¬ RestoreInverts sample (.googleDrive none) "FIRM001" "3f1c" driveFile after) ∧
    ∃ created after, outcome (sampleBackup (.s3 "firm1")) twoObjects = (.ok created, after) ∧
      ¬ RestoreInverts sample (.s3 "firm1") "FIRM001" "3f1c" twoObjects after := by
  constructor
  · obtain ⟨created, h⟩ := sampleBackup_driveFile
    exact ⟨created, _, h, not_restoreInverts nofun h⟩
  · obtain ⟨created, h⟩ := sampleBackup_twoObjects
    refine ⟨created, _, h, ?_⟩
    rintro ⟨archive, harchive, hrestores⟩
    obtain ⟨archive', key, hbacked⟩ := runBackup_s3 h
    rw [hbacked.archived] at harchive
    cases harchive
    have hall := ((hbacked.restores_iff (fun _ => false) rfl).1
      (hrestores _ fun _ _ _ _ _ => rfl)).2
    have hread : readFile (.s3 "firm1") twoObjects.storage "firm1/a/x.txt" = some [1] := by
      decide
    have hmem : "firm1/a/x.txt" ∈
        ((Provider.s3 "firm1").rootFiles twoObjects.storage).map ListedFile.id := by
      decide
    rcases hall _ (List.mem_singleton.2 rfl) rfl "firm1/a/x.txt" hmem
      ⟨by decide, rfl, nofun⟩ [1] hread with hkept | ⟨hnone, -⟩
    · exact not_kept_twoObjects hkept
    · rw [uploaded_twoObjects] at hnone
      cases hnone

end samples

end Docketra.StorageBackup
