import Docketra.Encryption
import Docketra.Lib.LastWrite
import Docketra.StorageProviders

/-!
# Archives of a firm's files

`createBackupArchiveOnTempDisk` of `services/storageBackup.service.js` downloads the files of the
root folder into a directory, under their sanitized names, and zips the directory with a list of the
files. `encryptFileGcm` writes the initialisation vector, the ciphertext and the tag one after
another. `services/storageRestore.service.js` takes a file for a plain ZIP file when its first four
bytes are those of one, and decrypts it otherwise. So an archive is read back unless its vector
starts with these four bytes (`decryptArchive_encryptFileGcm`), and a document has the bytes of the
last file that was written under its name (`lookup_documents`).
-/

namespace Docketra.StorageArchive

open Base64 Calls Encryption LastWrite StorageProviders

/-- The directory `documents`, by names. -/
abbrev Documents := AList fun _ : String => Bytes

/-- What a ZIP file holds. -/
structure Archive where
  /-- `files` of `metadata.json`, when there is one. -/
  metadata : Option (List ListedFile)
  documents : Documents

/-- ZIP files, of which is used that they are read back and are not empty. -/
structure Zip where
  zip : Archive → Bytes
  unzip : Bytes → Option Archive
  unzip_zip : ∀ archive, unzip (zip archive) = some archive
  zip_ne_nil : ∀ archive, zip archive ≠ []

/-- What the services run with. -/
structure Env where
  crypto : Crypto
  zip : Zip
  ids : Ids
  /-- The hash of the key material. -/
  key : Bytes
  /-- The names that the temporary disk takes for a file. -/
  nameable : String → Bool

/-! ## Names -/

/-- `file.name`, or the id with an extension. -/
def fileName (file : ListedFile) : String :=
  match file.name with
  | some name => if name = "" then file.id ++ ".bin" else name
  | none => file.id ++ ".bin"

/-- The class `[\\/:*?"<>|]`. -/
def isReserved (c : Char) : Bool := "\\/:*?\"<>|".toList.contains c

def sanitizeFileName (name : String) : String :=
  let replaced := trim (String.ofList (name.toList.map fun c => if isReserved c then '_' else c))
  if replaced = "" then "file.bin" else replaced

/-- The name of the document of a file. -/
def documentName (file : ListedFile) : String := sanitizeFileName (fileName file)

/-! ## Encryption -/

/-- The file that `encryptFileGcm` writes. -/
def encryptFileGcm (C : Crypto) (key : Bytes) (iv : Iv) (input : Bytes) : Bytes :=
  iv.bytes ++ (C.gcmSeal key iv.bytes input).1 ++ (C.gcmSeal key iv.bytes input).2

/-- The first bytes of a ZIP file. -/
def zipMagic : Bytes := [0x50, 0x4b, 0x03, 0x04]

def isPlainZipFile (file : Bytes) : Bool := file.take 4 = zipMagic

def decryptFileGcm (C : Crypto) (key : Bytes) (file : Bytes) : Except String Bytes :=
  if file.length < 28 then .error "Encrypted backup file is truncated or invalid"
  -- a stream from byte 12 to byte 11 is not opened
  else if file.length = 28 then .error "The value of \"start\" is out of range."
  else
    let tag := file.drop (file.length - 16)
    let ciphertext := (file.take (file.length - 16)).drop 12
    match C.gcmOpen key (file.take 12) tag ciphertext with
    | some output => .ok output
    | none => .error "Unsupported state or unable to authenticate data"

/-- The second step of `_executeRestoreBackground`. -/
def decryptArchive (C : Crypto) (key : Bytes) (file : Bytes) : Except String Bytes :=
  if isPlainZipFile file then .ok file else decryptFileGcm C key file

/-! ## Archives -/

/-- A file is written into the directory, over the one with its name. -/
def writeFile (env : Env) (documents : Documents) (name : String) (body : Bytes) :
    Except String Documents :=
  if name = "." ∨ name = ".." then .error "EISDIR: illegal operation on a directory, open"
  else if env.nameable name = false then .error "ENAMETOOLONG: name too long, open"
  else .ok (documents.insert name body)

/-- The loop over the files of the listing. -/
def writeDocuments (env : Env) (p : Provider) : List ListedFile → Documents →
    Call Storage Documents
  | [], documents => pure documents
  | file :: files, documents => do
    let body ← p.downloadFile file.id
    let documents ← lift (writeFile env documents (documentName file) body)
    writeDocuments env p files documents

/-- `createBackupArchiveOnTempDisk`, without the compression. -/
def createBackupArchive (env : Env) (p : Provider) : Call Storage Archive := do
  let files ← p.listFiles
  let documents ← writeDocuments env p files ∅
  return { metadata := some files, documents := documents }

/-! ## What is decrypted -/

section encryption

variable {C : Crypto} {key : Bytes} {iv : Iv} {input : Bytes}

theorem length_encryptFileGcm :
    (encryptFileGcm C key iv input).length = input.length + 28 := by
  unfold encryptFileGcm
  rw [List.length_append, List.length_append, iv.length, C.ciphertext_length, C.authTag_length]
  omega

theorem isPlainZipFile_encryptFileGcm :
    isPlainZipFile (encryptFileGcm C key iv input) = isPlainZipFile iv.bytes := by
  unfold isPlainZipFile encryptFileGcm
  rw [List.append_assoc, List.take_append_of_le_length (by rw [iv.length]; decide)]

theorem decryptFileGcm_encryptFileGcm (hinput : input ≠ []) :
    decryptFileGcm C key (encryptFileGcm C key iv input) = .ok input := by
  have hlength : (encryptFileGcm C key iv input).length = input.length + 28 := length_encryptFileGcm
  have hpositive : 0 < input.length := List.length_pos_of_ne_nil hinput
  have hiv : (encryptFileGcm C key iv input).take 12 = iv.bytes := by
    unfold encryptFileGcm
    rw [List.append_assoc, ← iv.length, List.take_left]
  have hfront : (encryptFileGcm C key iv input).length - 16 =
      (iv.bytes ++ (C.gcmSeal key iv.bytes input).1).length := by
    rw [hlength, List.length_append, iv.length, C.ciphertext_length]
    omega
  have htag : (encryptFileGcm C key iv input).drop ((encryptFileGcm C key iv input).length - 16) =
      (C.gcmSeal key iv.bytes input).2 := by
    rw [hfront]
    exact List.drop_left
  have hciphertext : ((encryptFileGcm C key iv input).take
      ((encryptFileGcm C key iv input).length - 16)).drop 12 = (C.gcmSeal key iv.bytes input).1 := by
    rw [hfront]
    unfold encryptFileGcm
    rw [List.take_left, ← iv.length, List.drop_left]
  unfold decryptFileGcm
  dsimp only
  rw [if_neg (by omega), if_neg (by omega), hiv, htag, hciphertext, C.gcmOpen_gcmSeal]

/-- An archive is read back exactly when its vector does not start as a ZIP file does. -/
theorem decryptArchive_encryptFileGcm (hinput : input ≠ []) :
    decryptArchive C key (encryptFileGcm C key iv input) = .ok input ↔
      isPlainZipFile iv.bytes = false := by
  unfold decryptArchive
  rw [isPlainZipFile_encryptFileGcm]
  cases isPlainZipFile iv.bytes with
  | false => exact ⟨fun _ => rfl, fun _ => decryptFileGcm_encryptFileGcm hinput⟩
  | true =>
    refine ⟨fun h => ?_, nofun⟩
    have hlength := congrArg List.length (Except.ok.inj h)
    rw [length_encryptFileGcm] at hlength
    omega

end encryption

/-! ## What is archived of a bucket -/

section bucket

variable {env : Env} {pathPrefix : String} {s s' : Storage}

/-- What `downloadFile` returns, if it does. -/
def readFile (p : Provider) (s : Storage) (fileId : String) : Option Bytes :=
  (outcome (p.downloadFile fileId) s).1.toOption

/-- A bucket is read at the key that an id becomes. -/
theorem outcome_downloadFile_s3 (fileId : String) :
    outcome ((Provider.s3 pathPrefix).downloadFile fileId) s =
      (match normalizeObjectKey pathPrefix fileId with
        | .error error => .error error
        | .ok key =>
          match s.bucket.lookup key with
          | some body => .ok body
          | none => .error "The specified key does not exist.", s) := by
  unfold Provider.downloadFile
  dsimp only
  rw [outcome_bind, outcome_lift]
  cases normalizeObjectKey pathPrefix fileId with
  | error error => rfl
  | ok key =>
    dsimp only
    unfold getObject
    rw [outcome_bind, outcome_get]
    dsimp only
    cases s.bucket.lookup key with
    | none => rfl
    | some body => rfl

theorem readFile_s3_eq_some {fileId : String} {body : Bytes} :
    readFile (.s3 pathPrefix) s fileId = some body ↔
      ∃ key, normalizeObjectKey pathPrefix fileId = .ok key ∧ s.bucket.lookup key = some body := by
  unfold readFile
  rw [outcome_downloadFile_s3]
  cases normalizeObjectKey pathPrefix fileId with
  | error error => exact ⟨nofun, nofun⟩
  | ok key =>
    dsimp only
    constructor
    · intro h
      refine ⟨key, rfl, ?_⟩
      cases hlookup : s.bucket.lookup key with
      | none => rw [hlookup] at h; cases h
      | some stored => rw [hlookup] at h; exact h
    · rintro ⟨key', hkey, hlookup⟩
      cases hkey
      rw [hlookup]
      rfl

theorem downloadFile_s3_eq_ok {fileId : String} {body : Bytes} :
    outcome ((Provider.s3 pathPrefix).downloadFile fileId) s = (.ok body, s') ↔
      readFile (.s3 pathPrefix) s fileId = some body ∧ s' = s := by
  unfold readFile
  rw [outcome_downloadFile_s3]
  dsimp only
  rw [Prod.mk.injEq, Checked.toOption_eq_some, eq_comm (a := s)]

/-- The document of a file, as it is written into the directory. -/
def body (pathPrefix : String) (s : Storage) (file : ListedFile) : Bytes :=
  (readFile (.s3 pathPrefix) s file.id).getD []

theorem writeFile_eq_ok {documents documents' : Documents} {name : String} {bytes : Bytes}
    (h : writeFile env documents name bytes = .ok documents') :
    documents' = documents.insert name bytes := by
  unfold writeFile at h
  split_ifs at h
  exact (Except.ok.inj h).symm

/-- The files that one answer of a bucket lists. -/
def listed (pathPrefix : String) (s : Storage) : List ListedFile :=
  ((Provider.s3 pathPrefix).rootFiles s).take MAX_KEYS

theorem outcome_listFiles_s3 :
    outcome ((Provider.s3 pathPrefix).listFiles) s = (.ok (listed pathPrefix s), s) := by
  unfold Provider.listFiles
  dsimp only
  rw [normalizeObjectKey_empty]
  rfl

/-- The documents of the files of a bucket, each written over those of its name. -/
theorem writeDocuments_s3 {files : List ListedFile} {documents documents' : Documents}
    (h : outcome (writeDocuments env (.s3 pathPrefix) files documents) s = (.ok documents', s')) :
    s' = s ∧ (∀ file ∈ files, ∃ bytes, readFile (.s3 pathPrefix) s file.id = some bytes) ∧
      documents' = files.foldl (fun m file =>
        m.insert (documentName file) (body pathPrefix s file)) documents := by
  induction files generalizing documents with
  | nil =>
    cases h
    exact ⟨rfl, nofun, rfl⟩
  | cons file files ih =>
    obtain ⟨bytes, t, hdownload, hrest⟩ := bind_eq_ok.1 h
    obtain ⟨hread, ht⟩ := downloadFile_s3_eq_ok.1 hdownload
    obtain ⟨documents₁, t', hwrite, hloop⟩ := bind_eq_ok.1 hrest
    rw [outcome_lift, Prod.mk.injEq] at hwrite
    obtain ⟨hwritten, ht'⟩ := hwrite
    rw [← ht', ht] at hloop
    obtain ⟨hs, hfiles, hdocuments⟩ := ih hloop
    have hbody : body pathPrefix s file = bytes := by
      unfold body
      rw [hread]
      rfl
    refine ⟨hs, fun other hother => ?_, ?_⟩
    · rcases List.mem_cons.1 hother with rfl | hother
      · exact ⟨bytes, hread⟩
      · exact hfiles other hother
    · rw [hdocuments, List.foldl_cons, hbody, writeFile_eq_ok hwritten]

/-- An archive of a bucket lists the files of one answer, and the document of a name has the bytes of
the last one with that name. -/
theorem createBackupArchive_s3 {archive : Archive}
    (h : outcome (createBackupArchive env (.s3 pathPrefix)) s = (.ok archive, s')) :
    s' = s ∧ archive.metadata = some (listed pathPrefix s) ∧
      (∀ file ∈ listed pathPrefix s, ∃ bytes, readFile (.s3 pathPrefix) s file.id = some bytes) ∧
      ∀ name, archive.documents.lookup name =
        (last (fun file => documentName file = name) (listed pathPrefix s)).map
          (body pathPrefix s) := by
  unfold createBackupArchive at h
  obtain ⟨files, t, hfiles, hrest⟩ := bind_eq_ok.1 h
  rw [outcome_listFiles_s3, Prod.mk.injEq] at hfiles
  obtain ⟨hlisted, rfl⟩ := hfiles
  cases hlisted
  obtain ⟨documents, t, hdocuments, hreturn⟩ := bind_eq_ok.1 hrest
  obtain ⟨rfl, hread, hwritten⟩ := writeDocuments_s3 hdocuments
  cases hreturn
  refine ⟨rfl, rfl, hread, fun name => ?_⟩
  show documents.lookup name = _
  rw [hwritten, lookup_foldl_insert, AList.lookup_empty, Option.or_none]

end bucket

end Docketra.StorageArchive
