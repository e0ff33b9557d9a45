import Docketra.Lib.Runs
import Docketra.StorageBackup

/-!
# The shared folder of managed storage

The firms with managed storage share one account of Google Drive and one root folder.
`DocketraManagedStorageProvider` puts what is given no folder into that folder, and
`listFiles(null)` lists it for every firm. `uploadFile` of `services/docketFileStorage.service.js`,
the uploads of a restore, and that of a backup whose folders cannot be had give none. So the
archives of the other firms contain nothing of a firm in the runs in which the firm puts no file
directly into the shared folder (`backups_isolated`). The attachments of a firm are not changed by
the restores of others in any run.

A request to Google Drive fails as the account says. The other uploads are given a folder that is
looked up by its path, and what they store in the database is left out.
-/

namespace Docketra.ManagedStorage

open Base64 Calls Encryption Runs StorageArchive StorageBackup StorageProviders

/-- What the firms ask of their providers. -/
inductive Event where
  | uploadDocketFile (firmId fileName : String) (file : Bytes)
  | uploadInto (firmId : String) (folders : List String) (fileName : String) (file : Bytes)
  | backup (firmId exportId day : String) (iv : Iv)
  | restore (firmId : String) (source : Source)

def Event.firmId : Event → String
  | .uploadDocketFile firmId _ _ | .uploadInto firmId _ _ _ | .backup firmId _ _ _
  | .restore firmId _ => firmId

/-- The account of the service, with the shared folder at its top. -/
structure Account where
  world : World
  root : FileId
  rootItem : Item
  found : world.storage.drive.lookup root = some rootItem
  top : rootItem.parent = none

section firms

variable (env : Env) (root : FileId)

/-- The provider of every firm. -/
def managed : Provider := .docketraManaged root.value

/-- `uploadFile` of `DocketFileStorageService`. -/
def uploadDocketFile (firmId fileName : String) (file : Bytes) : Call World Unit := do
  let storageFileId ← onStorage ((managed root).uploadFile env.ids none fileName file)
  modify fun w => { w with attachments := w.attachments ++ [⟨firmId, some storageFileId, none⟩] }

/-- The folder at the end of a path. -/
def folderAt (parentFolderId : Option String) : List String → Call Storage (Option String)
  | [] => pure parentFolderId
  | folderName :: folderNames => do
    let folderId ← (managed root).getOrCreateFolder env.ids parentFolderId folderName
    folderAt (some folderId) folderNames

/-- An upload into a folder. -/
def uploadInto (folders : List String) (fileName : String) (file : Bytes) : Call Storage String := do
  let folderId ← folderAt env root none folders
  (managed root).uploadFile env.ids folderId fileName file

def step : Event → World → World
  | .uploadDocketFile firmId fileName file, w =>
    (outcome (uploadDocketFile env root firmId fileName file) w).2
  | .uploadInto _ folders fileName file, w =>
    (outcome (onStorage (uploadInto env root folders fileName file)) w).2
  | .backup firmId exportId day iv, w =>
    (outcome (runBackupForFirm env (managed root) firmId exportId day iv) w).2
  | .restore firmId source, w =>
    (outcome (executeRestoreBackground env (managed root) firmId source) w).2

/-! ## What is asked -/

/-- A step of the firm has put an item into Google Drive. -/
def PutBy (firm : String) (w : World) (events : List Event) (id : FileId) : Prop :=
  ∃ earlier event later, events = earlier ++ event :: later ∧ event.firmId = firm ∧
    (run (step env root) earlier w).storage.drive.lookup id = none ∧
    (run (step env root) (earlier ++ [event]) w).storage.drive.lookup id ≠ none

/-- The attachments of a firm. -/
def attachmentsOf (firm : String) (w : World) : List Attachment :=
  w.attachments.filter (·.firmId = firm)

/-- In a run, no archive of another firm contains what the firm has put, and no restore for another
firm changes its attachments. -/
structure Isolated (firm : String) (w : World) (events : List Event) : Prop where
  archives : ∀ earlier other exportId day iv later archive files,
    events = earlier ++ .backup other exportId day iv :: later → other ≠ firm →
    (outcome (createBackupArchive env (managed root)) (run (step env root) earlier w).storage).1 =
      .ok archive → archive.metadata = some files →
    ∀ id, PutBy env root firm w earlier id → ∀ file ∈ files, file.id ≠ id.value
  attachments : ∀ earlier other source later,
    events = earlier ++ .restore other source :: later → other ≠ firm →
    attachmentsOf firm (run (step env root) (earlier ++ [.restore other source]) w) =
      attachmentsOf firm (run (step env root) earlier w)

/-- A step of the firm puts no file directly into the shared folder: it is no upload without a
folder, the folders of a backup are there or can be made, and a restore has no document to upload. -/
def KeepsOut (firm : String) : Event → World → Prop
  | .uploadDocketFile firmId _ _, _ => firmId ≠ firm
  | .uploadInto firmId folders _ _, _ => firmId = firm → folders ≠ []
  | .backup firmId exportId day iv, w => firmId = firm → ∀ archive s,
    outcome (createBackupArchive env (managed root)) w.storage = (.ok archive, s) →
    ∃ uploaded s', outcome (uploadToBackups env.ids (managed root) firmId (objectKey day exportId)
      (encryptFileGcm env.crypto env.key iv (env.zip.zip archive))) s = (.ok uploaded, s')
  | .restore firmId source, w => firmId = firm → ∀ zip archive files,
    (outcome (retrieve env (managed root) firmId source) w).1 = .ok zip →
    env.zip.unzip zip = some archive → archive.metadata = some files →
    ∀ file ∈ files, archive.documents.lookup (documentName file) = none

end firms

/-! ## What is added -/

/-- Items stay as they are, and new ones are of a kind. -/
def Adds (kind : Item → Prop) (s s' : Storage) : Prop :=
  (∀ id item, s.drive.lookup id = some item → s'.drive.lookup id = some item) ∧
    ∀ id item, s.drive.lookup id = none → s'.drive.lookup id = some item → kind item

section adds

variable {env : Env} {root : FileId} {kind : Item → Prop}

theorem Adds.refl (s : Storage) : Adds kind s s :=
  ⟨fun _ _ h => h, fun _ _ hnone hsome => nomatch hnone.symm.trans hsome⟩

theorem Adds.trans {s t u : Storage} (h : Adds kind s t) (h' : Adds kind t u) : Adds kind s u := by
  refine ⟨fun id item hs => h'.1 id item (h.1 id item hs), fun id item hnone hsome => ?_⟩
  cases ht : t.drive.lookup id with
  | none => exact h'.2 id item ht hsome
  | some item' =>
    have heq : item' = item := Option.some.inj ((h'.1 id item' ht).symm.trans hsome)
    rw [← heq]
    exact h.2 id item' hnone ht

theorem Adds.of_drive_eq {s s' : Storage} (h : s'.drive = s.drive) : Adds kind s s' := by
  unfold Adds
  rw [h]
  exact Adds.refl s

theorem request_drive (s : Storage) : (outcome request s).2.drive = s.drive := by
  unfold request
  rw [outcome_bind, outcome_get]
  dsimp only
  split
  · rfl
  · rename_i fails outages _
    cases fails with
    | false => rfl
    | true => rfl

theorem keeps_request : Keeps (Adds kind) request := fun s => Adds.of_drive_eq (request_drive s)

theorem keeps_createItem {ids : Ids} {item : Item} (h : kind item) :
    Keeps (Adds kind) (createItem ids item) := by
  intro s
  have hfresh : ids.newId s.drive.keys ∉ s.drive.keys := ids.fresh s.drive.keys
  show Adds kind s { s with drive := s.drive.insert (ids.newId s.drive.keys) item }
  refine ⟨fun id stored hs => ?_, fun id added hnone hsome => ?_⟩
  · have hne : id ≠ ids.newId s.drive.keys := by
      rintro rfl
      exact hfresh (AList.mem_keys.1 (AList.lookup_isSome.1 (by rw [hs]; rfl)))
    exact (AList.lookup_insert_ne hne).trans hs
  · by_cases hid : id = ids.newId s.drive.keys
    · rw [hid] at hsome
      have heq := (AList.lookup_insert s.drive).symm.trans hsome
      rw [← Option.some.inj heq]
      exact h
    · exact nomatch hnone.symm.trans ((AList.lookup_insert_ne hid).symm.trans hsome)

theorem keeps_getOrCreateFolder {parentFolderId : Option String} {folderName : String}
    (h : ∀ item : Item, item.content = none → kind item) :
    Keeps (Adds kind) ((managed root).getOrCreateFolder env.ids parentFolderId folderName) := by
  refine Keeps.bind (R := Adds kind) Adds.trans keeps_request fun _ =>
    Keeps.bind (R := Adds kind) Adds.trans (fun s => Adds.refl s) fun s => ?_
  dsimp only
  split
  · exact Keeps.pure Adds.refl _
  · exact Keeps.bind (R := Adds kind) Adds.trans keeps_request fun _ => keeps_createItem (h _ rfl)

theorem keeps_uploadFile {parentOrPath : Option String} {fileName : String} {file : Bytes}
    (h : ∀ item : Item, item.parent = orElse parentOrPath (some root.value) → kind item) :
    Keeps (Adds kind) ((managed root).uploadFile env.ids parentOrPath fileName file) :=
  Keeps.bind (R := Adds kind) Adds.trans keeps_request fun _ => keeps_createItem (h _ rfl)

end adds

/-! ## Folders are not the shared folder -/

/-- The shared folder is there, at the top. -/
def Rooted (root : FileId) (s : Storage) : Prop :=
  ∃ item, s.drive.lookup root = some item ∧ item.parent = none

/-- An item directly in the shared folder is a folder. -/
def Beside (root : FileId) (item : Item) : Prop :=
  item.parent = some root.value → item.content = none

/-- From a state with the shared folder, a call puts no file directly into it. -/
def Avoids {α : Type} (root : FileId) (x : Call Storage α) : Prop :=
  ∀ s, Rooted root s → Adds (Beside root) s (outcome x s).2

section folders

theorem value_injective : Function.Injective FileId.value := by
  intro id id' h
  cases id
  cases id'
  cases h
  rfl

variable {env : Env} {root : FileId} {α : Type}

theorem Rooted.adds {kind : Item → Prop} {s s' : Storage} (h : Rooted root s)
    (hadds : Adds kind s s') : Rooted root s' := by
  obtain ⟨item, hitem, htop⟩ := h
  exact ⟨item, hadds.1 root item hitem, htop⟩

theorem Avoids.of_keeps {x : Call Storage α} (h : Keeps (Adds (Beside root)) x) : Avoids root x :=
  fun s _ => h s

theorem orElse_root (parentFolderId : Option String) :
    ∃ parent, orElse parentFolderId (some root.value) = some parent := by
  unfold orElse
  split_ifs with h
  · cases parentFolderId with
    | none => cases h
    | some parent => exact ⟨parent, rfl⟩
  · exact ⟨root.value, rfl⟩

/-- A folder that is found or made has the parent that was asked for. -/
theorem getOrCreateFolder_ok {parentFolderId : Option String} {folderName folderId : String}
    {s s' : Storage}
    (h : outcome ((managed root).getOrCreateFolder env.ids parentFolderId folderName) s =
      (.ok folderId, s')) :
    ∃ id item, folderId = id.value ∧ s'.drive.lookup id = some item ∧
      item.parent = orElse parentFolderId (some root.value) := by
  obtain ⟨parent, hparent⟩ : ∃ parent, orElse parentFolderId (some root.value) = some parent :=
    orElse_root parentFolderId
  unfold Provider.getOrCreateFolder managed at h
  dsimp only at h
  rw [hparent] at h ⊢
  unfold getOrCreateDriveFolder at h
  obtain ⟨_, s₁, -, hrest⟩ := bind_eq_ok.1 h
  rw [outcome_bind, outcome_get] at hrest
  dsimp only at hrest
  split at hrest
  · rename_i e hfound
    cases hrest
    have hmatch := List.find?_some hfound
    simp only [Option.isNone_some, Bool.false_or, Bool.and_eq_true, decide_eq_true_eq] at hmatch
    exact ⟨e.1, e.2, rfl, AList.mem_lookup_iff.2 (List.mem_of_find?_eq_some hfound), hmatch.2⟩
  · unfold createFolder createItem at hrest
    obtain ⟨_, s₂, -, hcreate⟩ := bind_eq_ok.1 hrest
    rw [outcome_bind, outcome_get] at hcreate
    cases hcreate
    exact ⟨_, _, rfl, AList.lookup_insert _, rfl⟩

/-- What is done with a folder of a path avoids the shared folder when it does so with every other
folder. -/
theorem avoids_in_folder {parentFolderId : Option String} {folderName : String}
    {next : String → Call Storage α}
    (h : ∀ folderId, folderId ≠ root.value → folderId ≠ "" → Avoids root (next folderId)) :
    Avoids root ((managed root).getOrCreateFolder env.ids parentFolderId folderName >>= next) := by
  intro s hrooted
  have hfirst : Adds (Beside root) s
      (outcome ((managed root).getOrCreateFolder env.ids parentFolderId folderName) s).2 :=
    keeps_getOrCreateFolder (fun item hcontent (_ : item.parent = some root.value) => hcontent) s
  rw [outcome_bind]
  rcases hresult : outcome ((managed root).getOrCreateFolder env.ids parentFolderId folderName) s
    with ⟨error | folderId, s'⟩
  · rw [hresult] at hfirst
    exact hfirst
  · rw [hresult] at hfirst
    have hrooted' : Rooted root s' := hrooted.adds hfirst
    obtain ⟨id, item, rfl, hitem, hparent⟩ := getOrCreateFolder_ok hresult
    obtain ⟨parent, hsome⟩ : ∃ parent, orElse parentFolderId (some root.value) = some parent :=
      orElse_root parentFolderId
    refine hfirst.trans (h id.value (fun hroot => ?_) id.notEmpty s' hrooted')
    have hid : id = root := value_injective hroot
    obtain ⟨rootItem, hrootItem, htop⟩ := hrooted'
    rw [hid] at hitem
    rw [Option.some.inj (hitem.symm.trans hrootItem), htop, hsome] at hparent
    cases hparent

theorem avoids_uploadFile {folderId fileName : String} {file : Bytes} (hroot : folderId ≠ root.value)
    (hgiven : folderId ≠ "") :
    Avoids root ((managed root).uploadFile env.ids (some folderId) fileName file) := by
  refine Avoids.of_keeps (keeps_uploadFile fun item hparent hshared => ?_)
  have hfolder : orElse (some folderId) (some root.value) = some folderId :=
    if_pos ((truthy_some folderId).2 hgiven)
  rw [hfolder, hshared] at hparent
  exact absurd (Option.some.inj hparent).symm hroot

/-- An upload into a folder avoids the shared folder. -/
theorem avoids_uploadInto {folders : List String} {fileName : String} {file : Bytes}
    (h : folders ≠ []) : Avoids root (uploadInto env root folders fileName file) := by
  have hpath : ∀ (folders : List String) (folderId : String), folderId ≠ root.value →
      folderId ≠ "" → Avoids root (folderAt env root (some folderId) folders >>= fun folderId =>
        (managed root).uploadFile env.ids folderId fileName file) := by
    intro folders
    induction folders with
    | nil =>
      intro folderId hroot hgiven
      show Avoids root (pure (some folderId) >>= _)
      rw [pure_bind]
      exact avoids_uploadFile hroot hgiven
    | cons folderName folderNames ih =>
      intro folderId _ _
      unfold folderAt
      rw [bind_assoc]
      exact avoids_in_folder ih
  cases folders with
  | nil => exact absurd rfl h
  | cons folderName folderNames =>
    unfold uploadInto folderAt
    rw [bind_assoc]
    exact avoids_in_folder (hpath folderNames)

theorem avoids_uploadToBackups {firmId objectKey : String} {archive : Bytes} :
    Avoids root (uploadToBackups env.ids (managed root) firmId objectKey archive) := by
  refine avoids_in_folder fun _ _ _ => avoids_in_folder fun _ _ _ =>
    avoids_in_folder fun folderId hroot hgiven s hrooted => ?_
  have hupload : Adds (Beside root) s (outcome ((managed root).uploadFile env.ids (some folderId)
      (lastSegment objectKey) archive) s).2 :=
    avoids_uploadFile hroot hgiven s hrooted
  rw [outcome_bind]
  split
  · rename_i hresult
    rw [hresult] at hupload
    exact hupload
  · rename_i hresult
    rw [hresult] at hupload
    exact hupload

end folders

/-! ## What a step adds -/

/-- What is added to Google Drive. -/
def Adding (kind : Item → Prop) (w w' : World) : Prop := Adds kind w.storage w'.storage

section steps

variable {env : Env} {root : FileId} {kind : Item → Prop} {α : Type}

theorem adding_onStorage {x : Call Storage α} (h : Keeps (Adds kind) x) :
    Keeps (Adding kind) (onStorage x) :=
  fun w => h w.storage

theorem adding_modify {f : World → World} (h : ∀ w, (f w).storage = w.storage) :
    Keeps (Adding kind) (modify f : Call World PUnit) :=
  fun w => Adds.of_drive_eq (congrArg Storage.drive (h w))

theorem keeps_downloadFile (fileId : String) :
    Keeps (Adds kind) ((managed root).downloadFile fileId) := by
  refine Keeps.bind (R := Adds kind) Adds.trans keeps_request fun _ =>
    Keeps.bind (R := Adds kind) Adds.trans (fun s => Adds.refl s) fun s => ?_
  split
  · exact Keeps.throw Adds.refl _
  · split
    · exact Keeps.throw Adds.refl _
    · exact Keeps.pure Adds.refl _

theorem keeps_listFiles : Keeps (Adds kind) (managed root).listFiles :=
  Keeps.bind (R := Adds kind) Adds.trans keeps_request fun _ =>
    Keeps.bind (R := Adds kind) Adds.trans (fun s => Adds.refl s) fun _ => Keeps.pure Adds.refl _

theorem keeps_writeDocuments (files : List ListedFile) :
    ∀ documents, Keeps (Adds kind) (writeDocuments env (managed root) files documents) := by
  induction files with
  | nil => exact fun documents => Keeps.pure Adds.refl documents
  | cons file files ih =>
    exact fun documents => Keeps.bind (R := Adds kind) Adds.trans (keeps_downloadFile file.id)
      fun _ => Keeps.bind (R := Adds kind) Adds.trans (Keeps.lift Adds.refl _) ih

theorem keeps_createBackupArchive : Keeps (Adds kind) (createBackupArchive env (managed root)) :=
  Keeps.bind (R := Adds kind) Adds.trans keeps_listFiles fun files =>
    Keeps.bind (R := Adds kind) Adds.trans (keeps_writeDocuments files ∅) fun _ =>
      Keeps.pure Adds.refl _

theorem adding_retrieve {firmId : String} (source : Source) :
    Keeps (Adding kind) (retrieve env (managed root) firmId source) := by
  cases source with
  | exported exportId =>
    refine Keeps.bind (R := Adding kind) Adds.trans (fun w => Adds.refl w.storage) fun w => ?_
    split
    · exact Keeps.throw (fun w => Adds.refl w.storage) _
    · exact Keeps.bind (R := Adding kind) Adds.trans (adding_onStorage (keeps_downloadFile _))
        fun _ => Keeps.lift (fun w => Adds.refl w.storage) _
  | uploaded file => exact Keeps.lift (fun w => Adds.refl w.storage) _

theorem adding_makeBackup {firmId exportId day : String} {iv : Iv} {w : World}
    (hupload : ∀ archive s, outcome (createBackupArchive env (managed root)) w.storage =
      (.ok archive, s) →
      Adds kind s (outcome (uploadBackupToProvider env.ids (managed root) firmId
        (objectKey day exportId)
        (encryptFileGcm env.crypto env.key iv (env.zip.zip archive))) s).2) :
    Adding kind w (outcome (makeBackup env (managed root) firmId exportId day iv) w).2 := by
  have harchive : Adds kind w.storage
      (outcome (createBackupArchive env (managed root)) w.storage).2 :=
    keeps_createBackupArchive w.storage
  unfold makeBackup
  rw [outcome_bind, outcome_onStorage]
  rcases hfirst : outcome (createBackupArchive env (managed root)) w.storage
    with ⟨error | archive, s⟩
  · rw [hfirst] at harchive
    exact harchive
  · rw [hfirst] at harchive
    have hadds := harchive.trans (hupload archive s hfirst)
    dsimp only
    rw [outcome_bind, outcome_onStorage]
    rcases hsecond : outcome (uploadBackupToProvider env.ids (managed root) firmId
      (objectKey day exportId) (encryptFileGcm env.crypto env.key iv (env.zip.zip archive))) s
      with ⟨error | uploaded, s'⟩
    · rw [hsecond] at hadds
      exact hadds
    · rw [hsecond] at hadds
      exact hadds

/-- A backup adds what the upload of its archive adds. -/
theorem adding_runBackup {firmId exportId day : String} {iv : Iv} {w : World}
    (hupload : ∀ archive s, outcome (createBackupArchive env (managed root)) w.storage =
      (.ok archive, s) →
      Adds kind s (outcome (uploadBackupToProvider env.ids (managed root) firmId
        (objectKey day exportId)
        (encryptFileGcm env.crypto env.key iv (env.zip.zip archive))) s).2) :
    Adding kind w (outcome (runBackupForFirm env (managed root) firmId exportId day iv) w).2 := by
  unfold runBackupForFirm createJob
  rw [outcome_bind, outcome_bind, outcome_get]
  dsimp only
  by_cases hexists : (w.backupJobs.any fun other => other.jobId = exportId) = true
  · rw [if_pos hexists]
    exact Adds.refl w.storage
  · rw [if_neg hexists]
    have hmade := @adding_makeBackup env root kind firmId exportId day iv { w with
      backupJobs := w.backupJobs ++
        [⟨exportId, firmId, objectKey day exportId, .running, none⟩] } hupload
    show Adding kind w (outcome (tryCatch _ _) _).2
    rw [outcome_tryCatch]
    split
    · rename_i hresult
      rw [hresult] at hmade
      exact hmade
    · rename_i hresult
      rw [hresult] at hmade
      exact hmade

theorem adding_restoreFiles {firmId : String} {documents : Documents} (files : List ListedFile)
    (h : ∀ item : Item, item.parent = some root.value → kind item) :
    Keeps (Adding kind) (restoreFiles env (managed root) firmId documents files) := by
  induction files with
  | nil => exact Keeps.pure (fun w => Adds.refl w.storage) ()
  | cons file files ih =>
    unfold restoreFiles
    split
    · exact ih
    · refine Keeps.bind (R := Adding kind) Adds.trans (adding_onStorage (keeps_uploadFile ?_))
        fun _ => Keeps.bind (R := Adding kind) Adds.trans (adding_modify fun _ => rfl) fun _ => ih
      exact fun item hparent => h item hparent

theorem restoreFiles_of_none {firmId : String} {documents : Documents} {files : List ListedFile}
    (h : ∀ file ∈ files, documents.lookup (documentName file) = none) (w : World) :
    outcome (restoreFiles env (managed root) firmId documents files) w = (.ok (), w) := by
  induction files with
  | nil => rfl
  | cons file files ih =>
    unfold restoreFiles
    rw [h file List.mem_cons_self]
    exact ih fun other hother => h other (List.mem_cons_of_mem file hother)

/-- A restore adds what the uploads of its documents add. -/
theorem adding_executeRestore {firmId : String} {source : Source} {w : World}
    (hfiles : ∀ zip archive files w', outcome (retrieve env (managed root) firmId source) w =
      (.ok zip, w') → env.zip.unzip zip = some archive → archive.metadata = some files →
      Adding kind w'
        (outcome (restoreFiles env (managed root) firmId archive.documents files) w').2) :
    Adding kind w (outcome (executeRestoreBackground env (managed root) firmId source) w).2 := by
  have hretrieve : Adding kind w (outcome (retrieve env (managed root) firmId source) w).2 :=
    adding_retrieve source w
  unfold executeRestoreBackground
  rw [outcome_bind]
  rcases hzip : outcome (retrieve env (managed root) firmId source) w with ⟨error | zip, w'⟩
  · rw [hzip] at hretrieve
    exact hretrieve
  · rw [hzip] at hretrieve
    dsimp only
    rcases harchive : env.zip.unzip zip with _ | archive
    · exact hretrieve
    · dsimp only
      rcases hmetadata : archive.metadata with _ | files
      · exact hretrieve
      · exact hretrieve.trans (hfiles zip archive files w' hzip harchive hmetadata)

theorem keeps_folderAt (folders : List String) :
    ∀ parentFolderId, Keeps (Adds fun _ => True) (folderAt env root parentFolderId folders) := by
  induction folders with
  | nil => exact fun parentFolderId => Keeps.pure Adds.refl parentFolderId
  | cons folderName folderNames ih =>
    exact fun parentFolderId => Keeps.bind (R := Adds fun _ => True) Adds.trans
      (keeps_getOrCreateFolder fun _ _ => trivial) fun folderId => ih (some folderId)

theorem keeps_uploadBackup (firmId objectKey : String) (archive : Bytes) : Keeps (Adds fun _ => True)
    (uploadBackupToProvider env.ids (managed root) firmId objectKey archive) := by
  have hfolder : ∀ parentFolderId folderName, Keeps (Adds fun _ => True)
      ((managed root).getOrCreateFolder env.ids parentFolderId folderName) :=
    fun _ _ => keeps_getOrCreateFolder fun _ _ => trivial
  have hfile : ∀ parentOrPath, Keeps (Adds fun _ => True)
      ((managed root).uploadFile env.ids parentOrPath (lastSegment objectKey) archive) :=
    fun _ => keeps_uploadFile fun _ _ => trivial
  refine Keeps.tryCatch (R := Adds fun _ => True) Adds.trans ?_ fun _ => ?_
  · exact Keeps.bind (R := Adds fun _ => True) Adds.trans (hfolder _ _) fun _ =>
      Keeps.bind (R := Adds fun _ => True) Adds.trans (hfolder _ _) fun _ =>
        Keeps.bind (R := Adds fun _ => True) Adds.trans (hfolder _ _) fun _ =>
          Keeps.bind (R := Adds fun _ => True) Adds.trans (hfile _) fun _ => Keeps.pure Adds.refl _
  · exact Keeps.bind (R := Adds fun _ => True) Adds.trans (hfile _) fun _ => Keeps.pure Adds.refl _

/-- No step changes or removes an item. -/
theorem step_adds (event : Event) (w : World) :
    Adding (fun _ => True) w (step env root event w) := by
  cases event with
  | uploadDocketFile firmId fileName file =>
    have hupload : Keeps (Adding fun _ => True) (uploadDocketFile env root firmId fileName file) :=
      Keeps.bind (R := Adding fun _ => True) Adds.trans
        (adding_onStorage (keeps_uploadFile fun _ _ => trivial)) fun _ => adding_modify fun _ => rfl
    exact hupload w
  | uploadInto firmId folders fileName file =>
    exact adding_onStorage (Keeps.bind (R := Adds fun _ => True) Adds.trans
      (keeps_folderAt folders none) fun _ => keeps_uploadFile fun _ _ => trivial) w
  | backup firmId exportId day iv =>
    exact adding_runBackup fun archive s _ => keeps_uploadBackup firmId (objectKey day exportId) _ s
  | restore firmId source =>
    exact adding_executeRestore fun _ archive files w' _ _ _ =>
      adding_restoreFiles files (fun _ _ => trivial) w'

/-- A step of the firm that keeps out of the shared folder puts no file directly into it. -/
theorem step_avoids {firm : String} {event : Event} {w : World} (hfirm : event.firmId = firm)
    (hout : KeepsOut env root firm event w) (hrooted : Rooted root w.storage) :
    Adding (Beside root) w (step env root event w) := by
  cases event with
  | uploadDocketFile firmId fileName file => exact absurd hfirm hout
  | uploadInto firmId folders fileName file =>
    exact avoids_uploadInto (hout hfirm) w.storage hrooted
  | backup firmId exportId day iv =>
    refine adding_runBackup fun archive s harchive => ?_
    obtain ⟨uploaded, s', hupload⟩ := hout hfirm archive s harchive
    have hkeeps : Adds (Beside root) w.storage
        (outcome (createBackupArchive env (managed root)) w.storage).2 :=
      keeps_createBackupArchive w.storage
    rw [harchive] at hkeeps
    have havoids : Adds (Beside root) s (outcome (uploadToBackups env.ids (managed root) firmId
        (objectKey day exportId)
        (encryptFileGcm env.crypto env.key iv (env.zip.zip archive))) s).2 :=
      avoids_uploadToBackups s (hrooted.adds hkeeps)
    rw [hupload] at havoids
    have hcaught : outcome (uploadBackupToProvider env.ids (managed root) firmId
        (objectKey day exportId) (encryptFileGcm env.crypto env.key iv (env.zip.zip archive))) s =
          (.ok uploaded, s') := by
      show outcome (tryCatch _ _) s = _
      rw [outcome_tryCatch, hupload]
    rw [hcaught]
    exact havoids
  | restore firmId source =>
    refine adding_executeRestore fun zip archive files w' hzip harchive hmetadata => ?_
    rw [restoreFiles_of_none (hout hfirm zip archive files (by rw [hzip]) harchive hmetadata)]
    exact Adds.refl w'.storage

end steps

/-! ## What an archive contains -/

section archives

variable {env : Env} {root : FileId} {s s' : Storage}

theorem request_ok (h : outcome request s = (.ok (), s')) : s'.drive = s.drive := by
  have hdrive := request_drive s
  rw [h] at hdrive
  exact hdrive

theorem findItem_eq_some {items : AList fun _ : FileId => Item} {fileId : String} {item : Item}
    (h : findItem items fileId = some item) :
    ∃ id, id.value = fileId ∧ items.lookup id = some item := by
  obtain ⟨e, hfound, rfl⟩ := Option.map_eq_some_iff.1 h
  have hvalue := List.find?_some hfound
  exact ⟨e.1, of_decide_eq_true hvalue, AList.mem_lookup_iff.2 (List.mem_of_find?_eq_some hfound)⟩

/-- What is downloaded is a file. -/
theorem downloadFile_ok {fileId : String} {body : Bytes}
    (h : outcome ((managed root).downloadFile fileId) s = (.ok body, s')) :
    s'.drive = s.drive ∧ ∃ item, findItem s.drive fileId = some item ∧ item.content = some body := by
  obtain ⟨_, t, hrequest, hrest⟩ := bind_eq_ok.1 h
  rw [outcome_bind, outcome_get] at hrest
  dsimp only at hrest
  rw [request_ok hrequest] at hrest
  cases hitem : findItem s.drive fileId with
  | none =>
    rw [hitem] at hrest
    cases hrest
  | some item =>
    rw [hitem] at hrest
    dsimp only at hrest
    cases hcontent : item.content with
    | none =>
      rw [hcontent] at hrest
      cases hrest
    | some content =>
      rw [hcontent] at hrest
      cases hrest
      exact ⟨request_ok hrequest, item, rfl, hcontent⟩

theorem writeDocuments_ok {files : List ListedFile} {documents documents' : Documents}
    (h : outcome (writeDocuments env (managed root) files documents) s = (.ok documents', s')) :
    ∀ file ∈ files, ∃ item, findItem s.drive file.id = some item ∧ item.content ≠ none := by
  induction files generalizing documents s with
  | nil => exact nofun
  | cons file files ih =>
    obtain ⟨bytes, t, hdownload, hrest⟩ := bind_eq_ok.1 h
    obtain ⟨hdrive, item, hitem, hcontent⟩ := downloadFile_ok hdownload
    obtain ⟨documents₁, t', hwrite, hloop⟩ := bind_eq_ok.1 hrest
    rw [outcome_lift, Prod.mk.injEq] at hwrite
    have hfiles := ih hloop
    rw [← hwrite.2, hdrive] at hfiles
    refine List.forall_mem_cons.2 ⟨⟨item, hitem, ?_⟩, hfiles⟩
    rw [hcontent]
    exact Option.some_ne_none bytes

/-- What an archive lists are the files that are directly in the shared folder. -/
theorem createBackupArchive_ok {archive : Archive} {files : List ListedFile}
    (h : outcome (createBackupArchive env (managed root)) s = (.ok archive, s'))
    (hfiles : archive.metadata = some files) :
    ∀ file ∈ files, ∃ id item, id.value = file.id ∧ s.drive.lookup id = some item ∧
      item.parent = some root.value ∧ item.content ≠ none := by
  obtain ⟨listed, t, hlist, hrest⟩ := bind_eq_ok.1 h
  obtain ⟨documents, t', hdocuments, hreturn⟩ := bind_eq_ok.1 hrest
  cases hreturn
  cases hfiles
  obtain ⟨_, u, hrequest, hlisted⟩ := bind_eq_ok.1 hlist
  have hdrive := request_ok hrequest
  rw [outcome_bind, outcome_get] at hlisted
  cases hlisted
  intro file hfile
  obtain ⟨item, hitem, hcontent⟩ := writeDocuments_ok hdocuments file hfile
  rw [hdrive] at hitem
  obtain ⟨id, hid, hlookup⟩ := findItem_eq_some hitem
  refine ⟨id, item, hid, hlookup, ?_, hcontent⟩
  obtain ⟨e, he, rfl⟩ := List.mem_map.1 (List.mem_of_mem_take hfile)
  obtain ⟨hentry, hparent⟩ := List.mem_filter.1 he
  rw [hdrive, ← AList.mem_lookup_iff] at hentry
  rw [value_injective hid, hentry] at hlookup
  cases hlookup
  exact of_decide_eq_true hparent

end archives

/-! ## The attachments of another firm -/

section attachments

variable {firm other : String}

/-- The attachments of a firm stay as they are. -/
def SameAttachments (firm : String) (w w' : World) : Prop :=
  attachmentsOf firm w' = attachmentsOf firm w

theorem SameAttachments.refl (w : World) : SameAttachments firm w w := rfl

theorem SameAttachments.trans {t u v : World} (h : SameAttachments firm t u)
    (h' : SameAttachments firm u v) : SameAttachments firm t v :=
  Eq.trans h' h

theorem filter_afterUpload (hne : other ≠ firm) (fileId newFileId : String)
    (attachments : List Attachment) :
    (attachments.map (·.afterUpload other fileId newFileId)).filter (·.firmId = firm) =
      attachments.filter (·.firmId = firm) := by
  have hfirm : (fun a : Attachment => decide (a.firmId = firm)) ∘
      (fun a : Attachment => a.afterUpload other fileId newFileId) =
        fun a => decide (a.firmId = firm) := by
    funext a
    show decide ((a.afterUpload other fileId newFileId).firmId = firm) = _
    rw [firmId_afterUpload]
  have hself : ∀ a ∈ attachments.filter (·.firmId = firm),
      a.afterUpload other fileId newFileId = a := by
    intro a ha
    have hown : a.firmId = firm := of_decide_eq_true (List.mem_filter.1 ha).2
    exact if_neg fun hguard => hne (hguard.1.symm.trans hown)
  rw [List.filter_map, hfirm, List.map_congr_left hself]
  exact List.map_id _

theorem sameAttachments_onStorage {α : Type} (x : Call Storage α) :
    Keeps (SameAttachments firm) (onStorage x) := fun _ => rfl

theorem sameAttachments_retrieve (env : Env) (p : Provider) (source : Source) :
    Keeps (SameAttachments firm) (retrieve env p other source) := by
  cases source with
  | exported exportId =>
    refine Keeps.bind (R := SameAttachments firm) SameAttachments.trans SameAttachments.refl
      fun w => ?_
    split
    · exact Keeps.throw SameAttachments.refl _
    · exact Keeps.bind (R := SameAttachments firm) SameAttachments.trans
        (sameAttachments_onStorage _) fun _ => Keeps.lift SameAttachments.refl _
  | uploaded file => exact Keeps.lift SameAttachments.refl _

theorem sameAttachments_restoreFiles (env : Env) (p : Provider) (hne : other ≠ firm)
    (documents : Documents) (files : List ListedFile) :
    Keeps (SameAttachments firm) (restoreFiles env p other documents files) := by
  induction files with
  | nil => exact Keeps.pure SameAttachments.refl ()
  | cons file files ih =>
    unfold restoreFiles
    split
    · exact ih
    · refine Keeps.bind (R := SameAttachments firm) SameAttachments.trans
        (sameAttachments_onStorage _) fun newFileId =>
          Keeps.bind (R := SameAttachments firm) SameAttachments.trans ?_ fun _ => ih
      exact fun w => filter_afterUpload hne file.id newFileId w.attachments

/-- A restore leaves the attachments of another firm as they are. -/
theorem sameAttachments_restore (env : Env) (p : Provider) (hne : other ≠ firm) (source : Source) :
    Keeps (SameAttachments firm) (executeRestoreBackground env p other source) := by
  refine Keeps.bind (R := SameAttachments firm) SameAttachments.trans
    (sameAttachments_retrieve env p source) fun zip => ?_
  split
  · exact Keeps.throw SameAttachments.refl _
  · split
    · exact Keeps.throw SameAttachments.refl _
    · exact sameAttachments_restoreFiles env p hne _ _

end attachments

/-! ## Whole runs -/

section runs

variable {env : Env} {root : FileId}

theorem run_adds (events : List Event) (w : World) :
    Adding (fun _ => True) w (run (step env root) events w) :=
  have hstep : ∀ event w', Adding (fun _ => True) w w' →
      Adding (fun _ => True) w (step env root event w') :=
    fun event w' h => Adds.trans h (step_adds event w')
  run_keeps hstep events w (Adds.refl w.storage)

/-- In a run in which a firm keeps out of the shared folder, what it has put is not a file directly
in that folder. -/
theorem beside_of_putBy {firm : String} {w : World} {events : List Event} {id : FileId}
    (hrooted : Rooted root w.storage)
    (h : Admits (step env root) (KeepsOut env root firm) events w)
    (hput : PutBy env root firm w events id) :
    ∃ item, (run (step env root) events w).storage.drive.lookup id = some item ∧
      Beside root item := by
  obtain ⟨earlier, event, later, rfl, hfirm, hbefore, hafter⟩ := hput
  have hout := ((admits_append earlier _ w).1 h).2.1
  have hstep := step_avoids hfirm hout (hrooted.adds (run_adds earlier w))
  rw [run_append] at hafter
  obtain ⟨item, hitem⟩ := Option.ne_none_iff_exists'.1 hafter
  refine ⟨item, ?_, hstep.2 id item hbefore hitem⟩
  rw [run_append]
  exact (run_adds later _).1 id item hitem

end runs

/-- In a run in which a firm puts no file directly into the shared folder, no archive of another firm
contains what it has put. No restore for another firm changes its attachments. -/
theorem backups_isolated (env : Env) (account : Account) (firm : String) (events : List Event)
    (h : Admits (step env account.root) (KeepsOut env account.root firm) events account.world) :
    Isolated env account.root firm account.world events where
  archives := by
    rintro earlier other exportId day iv later archive files rfl - harchive hfiles id hput file hfile
      hsame
    have hrooted : Rooted account.root account.world.storage :=
      ⟨account.rootItem, account.found, account.top⟩
    obtain ⟨item, hitem, hbeside⟩ :=
      beside_of_putBy hrooted ((admits_append earlier _ _).1 h).1 hput
    obtain ⟨id', item', hid', hitem', hparent, hcontent⟩ :=
      createBackupArchive_ok (Prod.ext harchive rfl) hfiles file hfile
    rw [value_injective (hid'.trans hsame), hitem] at hitem'
    cases hitem'
    exact hcontent (hbeside hparent)
  attachments := by
    intro earlier other source later _ hne
    rw [run_append]
    exact sameAttachments_restore env (managed account.root) hne source
      (run (step env account.root) earlier account.world)

/-! ## Two firms -/

section samples

/-- An account with nothing but the shared folder. -/
def emptyAccount : Account where
  world := {
    storage := {
      bucket := ∅
      drive := AList.singleton (sampleId []) ⟨some "Docketra", none, none⟩
      outages := []
      oneDrive := ∅ }
    attachments := []
    backupJobs := [] }
  root := sampleId []
  rootItem := ⟨some "Docketra", none, none⟩
  found := AList.lookup_insert ∅
  top := rfl

/-- A firm that keeps out: it makes a backup and uploads a file into a folder. -/
theorem backups_isolated_in_folder :
    Isolated sample emptyAccount.root "FIRM002" emptyAccount.world
      [.backup "FIRM002" "7a2e" "2026-01-10" zeroIv,
        .uploadInto "FIRM002" ["FIRM002"] "b.txt" [1],
        .backup "FIRM001" "3f1c" "2026-01-10" zeroIv] := by
  refine backups_isolated sample emptyAccount "FIRM002" _ ⟨fun _ archive s h => ?_, fun _ => ?_,
    fun h => ?_, trivial⟩
  · have hempty : outcome (createBackupArchive sample (managed emptyAccount.root))
        emptyAccount.world.storage = (.ok ⟨some [], ∅⟩, emptyAccount.world.storage) := by rfl
    rw [hempty] at h
    cases h
    exact ⟨_, _, Prod.ext (by rfl) rfl⟩
  · exact List.cons_ne_nil _ _
  · exact absurd h (by decide)

/-- A file that one firm uploads is in the archive of the other one. -/
theorem backups_isolated_fails :
    (∃ created, (outcome (runBackupForFirm sample (managed emptyAccount.root) "FIRM001" "3f1c"
      "2026-01-10" zeroIv) (step sample emptyAccount.root (.uploadDocketFile "FIRM002" "b.txt" [1])
        emptyAccount.world)).1 = .ok created) ∧
    ¬ Isolated sample emptyAccount.root "FIRM002" emptyAccount.world
      [.uploadDocketFile "FIRM002" "b.txt" [1],
        .backup "FIRM001" "3f1c" "2026-01-10" zeroIv] := by
  refine ⟨⟨_, by rfl⟩, fun h => ?_⟩
  have harchive : (outcome (createBackupArchive sample (managed emptyAccount.root))
      (step sample emptyAccount.root (.uploadDocketFile "FIRM002" "b.txt" [1])
        emptyAccount.world).storage).1 =
      .ok ⟨some [⟨"aa", some "b.txt"⟩], AList.singleton "b.txt" [1]⟩ := by rfl
  have hput : PutBy sample emptyAccount.root "FIRM002" emptyAccount.world
      [.uploadDocketFile "FIRM002" "b.txt" [1]] (sampleId [sampleId []]) :=
    ⟨[], _, [], rfl, rfl, by decide, by decide⟩
  exact h.archives [_] "FIRM001" "3f1c" "2026-01-10" zeroIv [] _ _ rfl (by decide) harchive rfl
    _ hput _ List.mem_cons_self (by decide)

end samples

end Docketra.ManagedStorage
