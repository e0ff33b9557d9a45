import Docketra.DirectUpload
import Docketra.Lib.Checked
import Docketra.StorageProviders

/-!
# The attachment of an upload

`createIntent` of `services/directUpload.service.js` opens an upload session with the provider of the
firm, and `finalizeIntent` makes an attachment of the object that the provider has verified. The
attachment keeps the name of the provider, and its schema admits one name only. So the upload of a
firm becomes an attachment exactly when the firm is on its own Google Drive, and the request does not
name another file than the session (`attached_iff`). With a schema that admits the names of all
providers, it would whichever provider the firm is on (`attached_admitted_iff`).

One request finalizes the session, as `Docketra.DirectUpload` has it step by step.
-/

namespace Docketra.UploadedAttachments

open Base64 Checked StorageProviders
open DirectUpload (Body UploadError UploadSession areChecksumsComparable checkSession checkVerified
  normalizeChecksum)

/-! ## Providers -/

/-- An object of a bucket or a file of Google Drive, with its metadata. -/
structure StoredFile where
  size : ℕ
  mimeType : String
  parents : List String
  webViewLink : Option String
  md5 : Option String
  body : Bytes
  deriving DecidableEq

/-- What is stored at Google Drive and OneDrive, under their ids, and in the bucket of the firm. -/
structure Contents where
  drive : String → Option StoredFile
  /-- Google Drive gives ids without white space around them. -/
  drive_trimmed : ∀ {id file}, drive id = some file → id ≠ "" ∧ trim id = id
  bucket : String → Option StoredFile
  oneDrive : String → Option StoredFile

structure DirectSession where
  provider : String
  providerFileId : Option String
  objectKey : Option String
  deriving DecidableEq, Repr

/-- The answer of `verifyUploadedObject`. -/
structure Verified extends DirectUpload.Verified where
  provider : Option String
  webViewLink : Option String

def unsupported (p : Provider) (feature : String) : UploadError :=
  ⟨400, "UNSUPPORTED_STORAGE_PROVIDER_FEATURE", unsupportedFeature p.providerName feature⟩

def accessError (message : String) : UploadError := ⟨502, "STORAGE_ACCESS_ERROR", message⟩

def notFound : UploadError := ⟨404, "404", "File not found"⟩

/-- `createDirectUploadSession`, with the id that Google Drive gives to the new file. -/
def createDirectUploadSession (p : Provider) (createdFile : Except UploadError (Option String))
    (objectKey : String) : Except UploadError DirectSession :=
  match p with
  | .googleDrive _ | .docketraManaged _ => do
    let id ← createdFile
    return ⟨p.providerName, id, none⟩
  | .s3 pathPrefix => do
    let key ← (normalizeObjectKey pathPrefix objectKey).mapError accessError
    return ⟨"s3", none, some key⟩
  | .oneDrive => throw (unsupported p "createDirectUploadSession")

/-- The checksum that is made of an MD5 hash. -/
def md5Checksum (md5 : Option String) : Option String :=
  (md5.filter (· ≠ "")).map fun value => "md5:" ++ toLowerCase value

/-- The file of Google Drive that is asked for, with its id, or the reason why none is. -/
def findDriveFile (contents : Contents) (fileId objectKey : Option String) :
    Except UploadError (Except String (String × StoredFile)) :=
  match (orElse fileId objectKey).filter (· ≠ "") with
  | none => .ok (.error "missing_file_id")
  | some id => (contents.drive id).elim (.error notFound) fun file => .ok (.ok (id, file))

/-- The object of the bucket that is asked for, with its key, or the reason why there is none. -/
def findBucketObject (contents : Contents) (pathPrefix : String) (objectKey : Option String) :
    Except UploadError (Except String (String × StoredFile)) :=
  match objectKey.filter (· ≠ "") with
  | none => .ok (.error "missing_object_key")
  | some objectKey =>
    match normalizeObjectKey pathPrefix objectKey with
    | .error message => .error (accessError message)
    | .ok key =>
      .ok ((contents.bucket key).elim (.error "NotFound") fun file => .ok (key, file))

/-- What `verifyUploadedObject` looks at. -/
def findObject (p : Provider) (contents : Contents) (fileId objectKey : Option String) :
    Except UploadError (Except String (String × StoredFile)) :=
  match p with
  | .googleDrive _ | .docketraManaged _ => findDriveFile contents fileId objectKey
  | .s3 pathPrefix => findBucketObject contents pathPrefix objectKey
  | .oneDrive => .error (unsupported p "verifyUploadedObject")

/-- The metadata are those that are expected. -/
def metadataMatch (p : Provider) (file : StoredFile) (folderId : Option String) (size : ℕ)
    (mimeType : String) : Bool :=
  match p with
  | .s3 _ =>
    file.size == size && (mimeType == "" || toLowerCase file.mimeType == toLowerCase mimeType)
  | _ =>
    (!truthy folderId || folderId.any file.parents.contains) && file.size == size &&
      (mimeType == "" || file.mimeType == mimeType)

def refused (reason : String) : Verified where
  ok := false
  reason := some reason
  checksum := none
  fileId := none
  provider := none
  webViewLink := none

/-- `verifyUploadedObject`. -/
def verifyUploadedObject (p : Provider) (contents : Contents)
    (fileId objectKey folderId : Option String) (size : ℕ) (mimeType : String) :
    Except UploadError Verified := do
  match ← findObject p contents fileId objectKey with
  | .error reason => return refused reason
  | .ok (id, file) =>
    if metadataMatch p file folderId size mimeType then
      return {
        ok := true
        reason := none
        checksum := md5Checksum file.md5
        fileId := some id
        provider := some p.providerName
        webViewLink := match p with
          | .s3 _ => none
          | _ => file.webViewLink }
    else return refused "metadata_mismatch"

/-- `downloadFile`. -/
def downloadFile (p : Provider) (contents : Contents) (fileId : String) :
    Except UploadError Bytes :=
  match p with
  | .googleDrive _ | .docketraManaged _ =>
    ((contents.drive fileId).map StoredFile.body).elim (.error notFound) .ok
  | .s3 pathPrefix => do
    let key ← (normalizeObjectKey pathPrefix fileId).mapError accessError
    ((contents.bucket key).map StoredFile.body).elim (.error notFound) .ok
  | .oneDrive => ((contents.oneDrive fileId).map StoredFile.body).elim (.error notFound) .ok

/-! ## Sessions -/

/-- What an upload is for, with the id in the path of the request. -/
inductive Context where
  | docket (caseId : String) (notEmpty : caseId ≠ "")
  | client (clientId : String) (notEmpty : clientId ≠ "")

inductive Source where
  | upload | client_cfs
  deriving DecidableEq, Repr

def Context.source : Context → Source
  | .docket .. => .upload
  | .client .. => .client_cfs

def Context.caseId : Context → Option String
  | .docket caseId _ => some caseId
  | .client .. => none

def Context.clientId : Context → Option String
  | .docket .. => none
  | .client clientId _ => some clientId

/-- A request for an upload, with a file name as the routes ask for it. -/
structure IntentRequest where
  context : Context
  fileName : String
  fileName_ne : fileName ≠ ""
  mimeType : String
  size : ℕ
  description : Option String
  checksum : Option String

/-- A user. The schema trims the email, and asks for one. -/
structure User where
  email : String
  xID : String
  name : String
  email_ne : trim (toLowerCase email) ≠ ""

/-- What `createIntent` is answered by its surroundings. -/
structure Surroundings where
  allowedMimeTypes : List String
  maxUploadSizeBytes : ℕ
  writableStorage : Except UploadError Unit
  /-- The folder that the docket or the client has with its provider. -/
  folder : Option String
  /-- The folder that is found or created with Google Drive. -/
  createdFolder : Except UploadError String
  createdFile : Except UploadError (Option String)
  uploadId : String
  expiresAt : ℕ

/-- An upload session. -/
structure Session extends UploadSession where
  caseId : Option String
  clientId : Option String
  originalName : String
  mimeType : String
  size : ℕ
  description : String
  source : Source
  targetFolderId : Option String
  provider : String

/-- `/[a-zA-Z0-9._-]/`. -/
def isSafe (c : Char) : Bool :=
  c.isAlphanum || c == '.' || c == '_' || c == '-'

/-- `buildObjectKey`. -/
def buildObjectKey (context : Context) (fileName uploadId : String) : String :=
  let safeFileName := String.ofList (fileName.toList.map fun c => if isSafe c then c else '_')
  match context with
  | .client clientId _ => "client-cfs/" ++ clientId ++ "/" ++ uploadId ++ "/" ++ safeFileName
  | .docket caseId _ => "dockets/" ++ caseId ++ "/" ++ uploadId ++ "/" ++ safeFileName

/-- The folder of an upload. -/
def resolveFolder (p : Provider) (context : Context) (s : Surroundings) :
    Except UploadError (Option String) :=
  match p, context, s.folder with
  -- Managed storage has folders of its own, which no docket or client knows of.
  | .docketraManaged _, _, _ => some <$> s.createdFolder
  | _, _, some folder => .ok (some folder)
  | _, .docket .., none => .error ⟨400, "", "Case storage folder not initialized"⟩
  | .googleDrive _, .client .., none => some <$> s.createdFolder
  | p, .client .., none =>
    .error ⟨400, "", "Failed to create Client CFS folder structure: " ++
      unsupportedFeature p.providerName "getOrCreateFolder"⟩

/-- `createIntent`: the session that it stores. -/
def createIntent (p : Provider) (s : Surroundings) (request : IntentRequest) :
    Except UploadError Session := do
  s.writableStorage
  throwIf (toLowerCase request.mimeType ∉ s.allowedMimeTypes)
    ⟨400, "INVALID_FILE_TYPE", "Invalid file MIME type"⟩
  throwIf (request.size = 0 ∨ s.maxUploadSizeBytes < request.size)
    ⟨400, "INVALID_FILE_SIZE", "Invalid file size"⟩
  let folderId ← resolveFolder p request.context s
  let directSession ← createDirectUploadSession p s.createdFile
    (buildObjectKey request.context request.fileName s.uploadId)
  return {
    uploadStatus := .initiated
    attachmentId := none
    expiresAt := some s.expiresAt
    checksum := (normalizeChecksum request.checksum).map DirectUpload.Checksum.raw
    providerFileId := directSession.providerFileId.filter (· ≠ "")
    providerObjectKey := directSession.objectKey.filter (· ≠ "")
    storageFileId := none
    errorMessage := none
    caseId := request.context.caseId
    clientId := request.context.clientId
    originalName := request.fileName
    mimeType := request.mimeType
    size := request.size
    description := trim ((orElse request.description (some "Attachment upload")).getD "")
    source := request.context.source
    targetFolderId := folderId
    provider := directSession.provider }

/-! ## Attachments -/

/-- An attachment, by its values as the schema casts them. -/
structure Attachment where
  _id : ℕ
  caseId : Option String
  clientId : Option String
  firmId : String
  fileName : String
  mimeType : String
  size : ℕ
  storageFileId : Option String
  storageProvider : Option String
  driveFileId : Option String
  createdBy : String
  createdByXID : String
  createdByName : String
  description : String
  webViewLink : Option String
  version : ℕ
  source : Source
  checksum : Option String
  deriving DecidableEq, Repr

/-- The names of `storageProvider` that the schema admits. -/
def STORAGE_PROVIDERS : List String := ["google-drive"]

/-- What the validators and the hook of the schema say, for the names of `storageProvider` that it
admits. -/
def refusals (admitted : List String) (attachment : Attachment) : List String :=
  (if attachment.firmId = "" then ["firmId: Firm ID is required"] else []) ++
    (if attachment.fileName = "" then ["fileName: File name is required"] else []) ++
    (if attachment.version < 1 then ["version: must not be less than the minimum of 1"] else []) ++
    (if truthy attachment.storageProvider = false ∧ truthy attachment.storageFileId then
      ["storageProvider: required"] else []) ++
    (if attachment.storageProvider.any fun name => name ∉ admitted then
      ["storageProvider: not a valid enum value"] else []) ++
    (if attachment.storageProvider = some "google-drive" ∧ truthy attachment.storageFileId = false
      then ["storageFileId: required"] else []) ++
    (if attachment.description = "" then ["description: Description is required"] else []) ++
    (if attachment.createdBy = "" then ["createdBy: Creator email is required"] else []) ++
    (if attachment.source = .client_cfs ∧ truthy attachment.clientId = false then
      ["Client CFS attachments must have a clientId"] else []) ++
    (if truthy attachment.clientId = false ∧ truthy attachment.caseId = false then
      ["Attachment must belong to either a client or a case"] else []) ++
    (if truthy attachment.storageFileId = false ∧ truthy attachment.driveFileId = false then
      ["Invalid attachment: no storage reference"] else [])

/-! ## The finalization -/

/-- A request that finalizes a session, with the last version of its file. -/
structure FinalizeRequest where
  now : ℕ
  firmId : String
  firmId_ne : firmId ≠ ""
  user : User
  body : Body
  attachmentId : ℕ
  latestVersion : ℕ

section finalize

variable (p : Provider) (contents : Contents) (request : FinalizeRequest) (session : Session)

/-- The answer of the provider to a request. -/
def verification : Except UploadError Verified :=
  verifyUploadedObject p contents
    (orElse session.providerFileId request.body.providerFileId)
    (orElse session.providerObjectKey request.body.objectKey)
    session.targetFolderId session.size session.mimeType

/-- The attachment of a verified object. -/
def attachmentOf (verified : Verified) (final : DirectUpload.Final) : Attachment where
  _id := request.attachmentId
  caseId := session.caseId
  clientId := session.clientId
  firmId := request.firmId
  fileName := session.originalName
  mimeType := trim session.mimeType
  size := session.size
  storageFileId := final.storageFileId.map trim
  storageProvider := (orElse verified.provider (some session.provider)).map trim
  driveFileId :=
    if orElse verified.provider (some session.provider) = some "google-drive" then
      final.storageFileId.map trim
    else none
  createdBy := trim (toLowerCase request.user.email)
  createdByXID := castXID request.user.xID
  createdByName := trim request.user.name
  description := (orElse (some session.description) (some "Attachment upload")).getD ""
  webViewLink := verified.webViewLink.map trim
  version := request.latestVersion + 1
  source := session.source
  checksum := final.clientChecksum

/-- What a request fails with. -/
def failureOf : DirectUpload.Phase → UploadError
  | .threw error | .savingTerminal _ _ error => error
  | _ => DirectUpload.inProgress

/-- `finalizeIntent` on a session that no other request finalizes: the attachment, and the session
as it is stored. -/
def finalizeIntent (admitted : List String) : Except UploadError (Attachment × Session) :=
  match checkSession request.now request.body session.toUploadSession with
  | .locking uploadRecord body => do
    let taken := { uploadRecord with uploadStatus := .uploaded }
    let verified ← verification p contents request session
    match checkVerified taken body verified.toVerified with
    | .creating _ final =>
      let attachment := attachmentOf request session verified final
      throwIf (refusals admitted attachment ≠ [])
        ⟨400, "UPLOAD_FINALIZE_FAILED", "Attachment validation failed"⟩
      return (attachment,
        { session with toUploadSession := taken.saveVerified final request.attachmentId taken })
    | phase => .error (failureOf phase)
  | phase => .error (failureOf phase)

end finalize

/-! ## What is asked -/

section property

variable (p : Provider) (contents : Contents) (request : FinalizeRequest) (session : Session)

/-- The request names no other file than the session. -/
def Matches : Prop :=
  DirectUpload.differs request.body.providerFileId session.providerFileId = false ∧
    DirectUpload.differs request.body.objectKey session.providerObjectKey = false

/-- The checksums of the session and of the request are the same, where both are given, and that of
the provider has their value, where they can be compared. -/
structure ChecksumsAgree (verified : Verified) : Prop where
  client : ∀ left right, normalizeChecksum session.checksum = some left →
    normalizeChecksum request.body.checksum = some right → left.raw = right.raw
  provider : ∀ left right, normalizeChecksum verified.checksum = some left →
    (normalizeChecksum request.body.checksum).or (normalizeChecksum session.checksum) =
      some right → areChecksumsComparable left right = true → left.value = right.value

/-- The object that the provider looks at. -/
def IsUploaded (file : StoredFile) : Prop :=
  ∃ id, findObject p contents (orElse session.providerFileId request.body.providerFileId)
    (orElse session.providerObjectKey request.body.objectKey) = .ok (.ok (id, file))

/-- An attachment is returned that its schema takes, by which the provider downloads the object, and
the session is verified and linked to it. -/
def Attached (admitted : List String) : Prop :=
  ∃ attachment after, finalizeIntent p contents request session admitted = .ok (attachment, after) ∧
    refusals admitted attachment = [] ∧
    (∃ id file, attachment.storageFileId = some id ∧ IsUploaded p contents request session file ∧
      downloadFile p contents id = .ok file.body) ∧
    after.uploadStatus = .verified ∧ after.attachmentId = some attachment._id

end property

/-! ## What a session and a verification are -/

section steps

variable {p : Provider} {contents : Contents} {request : FinalizeRequest} {session : Session}
  {s : Surroundings} {intent : IntentRequest} {verified : Verified} {admitted : List String}

/-- What `createIntent` leaves. -/
structure Opened (p : Provider) (session : Session) : Prop where
  initiated : session.uploadStatus = .initiated
  named : session.originalName ≠ ""
  owned : session.source = .client_cfs ∧ truthy session.clientId = true ∨
    session.source = .upload ∧ truthy session.caseId = true
  key : ∀ pathPrefix, p = .s3 pathPrefix → ∃ objectKey key, key ≠ "" ∧
    session.providerObjectKey = some key ∧ normalizeObjectKey pathPrefix objectKey = .ok key

theorem head_buildObjectKey (context : Context) (fileName uploadId : String) :
    ∃ c, (buildObjectKey context fileName uploadId).toList.head? = some c ∧ c ≠ '/' := by
  cases context with
  | docket caseId =>
    unfold buildObjectKey
    simp only [String.toList_append, List.append_assoc]
    exact ⟨'d', rfl, by decide⟩
  | client clientId =>
    unfold buildObjectKey
    simp only [String.toList_append, List.append_assoc]
    exact ⟨'c', rfl, by decide⟩

/-- The key of an upload is not lost under the prefix. -/
theorem normalized_ne {pathPrefix key fileName uploadId : String} {context : Context}
    (h : normalizeObjectKey pathPrefix (buildObjectKey context fileName uploadId) = .ok key) :
    key ≠ "" := by
  rintro rfl
  obtain ⟨-, hkey⟩ := normalizeObjectKey_eq_ok.mp h
  obtain ⟨c, hhead, hc⟩ := head_buildObjectKey context fileName uploadId
  have hstrip := strip_of_head (fun hslash => hc (Option.some.inj (hhead.symm.trans hslash)))
  have hne : (buildObjectKey context fileName uploadId).toList ≠ [] := by
    intro hnil
    rw [hnil] at hhead
    exact absurd hhead.symm (Option.some_ne_none c)
  rw [hstrip, under] at hkey
  split_ifs at hkey
  · exact hne hkey.symm
  · exact List.append_ne_nil_of_right_ne_nil _ hne hkey.symm

theorem opened_of_createIntent (h : createIntent p s intent = .ok session) :
    Opened p session := by
  obtain ⟨-, -, h⟩ := bind_eq_ok.mp h
  obtain ⟨-, -, h⟩ := bind_eq_ok.mp h
  obtain ⟨-, -, h⟩ := bind_eq_ok.mp h
  obtain ⟨folderId, -, h⟩ := bind_eq_ok.mp h
  obtain ⟨directSession, hdirect, h⟩ := bind_eq_ok.mp h
  obtain rfl := Except.ok.inj h
  refine ⟨rfl, intent.fileName_ne, ?_, ?_⟩
  · cases hcontext : intent.context with
    | docket caseId hne => exact Or.inr ⟨rfl, (truthy_some caseId).mpr hne⟩
    | client clientId hne => exact Or.inl ⟨rfl, (truthy_some clientId).mpr hne⟩
  · rintro pathPrefix rfl
    obtain ⟨key, hkey, hdirect⟩ := bind_eq_ok.mp hdirect
    obtain rfl := Except.ok.inj hdirect
    have hnormal := mapError_eq_ok.mp hkey
    have hne := normalized_ne hnormal
    have hfilter : (some key).filter (· ≠ "") = some key :=
      Option.filter_eq_some_iff.mpr ⟨rfl, decide_eq_true hne⟩
    exact ⟨_, key, hne, hfilter, hnormal⟩

/-- A session that is initiated, has not expired, and is named by the request is taken, and only
such a one. -/
theorem checkSession_of_initiated (hinitiated : session.uploadStatus = .initiated)
    (hfresh : session.expiresAt.any (· < request.now) = false)
    (hagree : ChecksumsAgree request session verified) :
    (Matches request session ∧ checkSession request.now request.body session.toUploadSession =
      .locking session.toUploadSession request.body) ∨
    (¬Matches request session ∧ ∃ error,
      checkSession request.now request.body session.toUploadSession = .threw error) := by
  unfold checkSession Matches
  simp only [hinitiated, hfresh, Bool.false_eq_true, if_false, ne_eq, not_true_eq_false, false_and]
  by_cases hfile : DirectUpload.differs request.body.providerFileId session.providerFileId = true
  · exact Or.inr ⟨fun h => by rw [h.1] at hfile; exact absurd hfile (by decide), _, if_pos hfile⟩
  · rw [if_neg hfile]
    by_cases hkey : DirectUpload.differs request.body.objectKey session.providerObjectKey = true
    · exact Or.inr ⟨fun h => by rw [h.2] at hkey; exact absurd hkey (by decide), _, if_pos hkey⟩
    · rw [if_neg hkey]
      refine Or.inl ⟨⟨Bool.eq_false_iff.mpr hfile, Bool.eq_false_iff.mpr hkey⟩, ?_⟩
      cases hleft : normalizeChecksum session.checksum with
      | none => rfl
      | some left =>
        cases hright : normalizeChecksum request.body.checksum with
        | none => rfl
        | some right => exact if_neg (fun hne => hne (hagree.client left right hleft hright))

/-- What a provider that verifies an object has found, and what it answers. -/
theorem verification_eq_ok (h : verification p contents request session = .ok verified)
    (hok : verified.ok = true) :
    ∃ id file, findObject p contents (orElse session.providerFileId request.body.providerFileId)
        (orElse session.providerObjectKey request.body.objectKey) = .ok (.ok (id, file)) ∧
      verified.fileId = some id ∧ verified.provider = some p.providerName := by
  obtain ⟨found, hfound, h⟩ := bind_eq_ok.mp h
  cases found with
  | error reason =>
    obtain rfl := Except.ok.inj h
    exact absurd hok (by decide : false ≠ true)
  | ok found =>
    obtain ⟨id, file⟩ := found
    dsimp only at h
    split_ifs at h
    · obtain rfl := Except.ok.inj h
      exact ⟨id, file, hfound, rfl, rfl⟩
    · obtain rfl := Except.ok.inj h
      exact absurd hok (by decide : false ≠ true)

/-- A verified object whose checksum agrees is to become an attachment. -/
theorem checkVerified_of_ok (uploadRecord : UploadSession) {id : String}
    (hchecksum : uploadRecord.checksum = session.checksum)
    (hok : verified.ok = true) (hid : verified.fileId = some id) (hne : id ≠ "")
    (hagree : ChecksumsAgree request session verified) :
    ∃ final, checkVerified uploadRecord request.body verified.toVerified =
      .creating uploadRecord final ∧ final.storageFileId = some id := by
  have hstored (rest : Option String) : orElse verified.fileId rest = some id := by
    rw [hid]
    exact if_pos ((truthy_some id).mpr hne)
  have hprovider := hagree.provider
  rw [← hchecksum] at hprovider
  unfold checkVerified
  dsimp only
  rw [if_neg (by rw [hok]; decide)]
  cases hleft : normalizeChecksum verified.checksum with
  | none => exact ⟨_, rfl, hstored _⟩
  | some left =>
    cases hright : (normalizeChecksum request.body.checksum).or
        (normalizeChecksum uploadRecord.checksum) with
    | none => exact ⟨_, rfl, hstored _⟩
    | some right =>
      have hvalue := hprovider left right hleft hright
      exact ⟨_, if_neg fun hbad => hbad.2 (hvalue hbad.1), hstored _⟩

theorem trim_providerName (p : Provider) : trim p.providerName = p.providerName := by
  cases p with
  | s3 => exact (by decide : trim "s3" = "s3")
  | googleDrive => exact (by decide : trim "google-drive" = "google-drive")
  | docketraManaged => exact (by decide : trim "docketra_managed" = "docketra_managed")
  | oneDrive => exact (by decide : trim "onedrive" = "onedrive")

theorem providerName_ne (p : Provider) : p.providerName ≠ "" := by
  cases p with
  | s3 => exact (by decide : "s3" ≠ "")
  | googleDrive => exact (by decide : "google-drive" ≠ "")
  | docketraManaged => exact (by decide : "docketra_managed" ≠ "")
  | oneDrive => exact (by decide : "onedrive" ≠ "")

/-- The names of the attachment are those of the provider that has verified the object. -/
theorem storageProvider_attachmentOf (final : DirectUpload.Final)
    (hprovider : verified.provider = some p.providerName) :
    (attachmentOf request session verified final).storageProvider = some p.providerName := by
  have hname : orElse verified.provider (some session.provider) = some p.providerName := by
    rw [hprovider]
    exact if_pos ((truthy_some _).mpr (providerName_ne p))
  dsimp only [attachmentOf]
  rw [hname, Option.map_some, trim_providerName]

/-- A schema that does not admit the name of the provider refuses the attachment. -/
theorem refusals_of_unlisted {final : DirectUpload.Final} (hname : p.providerName ∉ admitted)
    (hprovider : verified.provider = some p.providerName) :
    refusals admitted (attachmentOf request session verified final) ≠ [] := by
  have hany : (attachmentOf request session verified final).storageProvider.any
      (fun name => name ∉ admitted) = true := by
    rw [storageProvider_attachmentOf final hprovider]
    exact decide_eq_true hname
  intro hnil
  unfold refusals at hnil
  rw [if_pos hany] at hnil
  simp only [List.append_eq_nil_iff, List.cons_ne_nil, and_false, false_and] at hnil

/-- A session without a description has the one for all attachments. -/
theorem description_attachmentOf_ne (final : DirectUpload.Final) :
    (attachmentOf request session verified final).description ≠ "" := by
  have hfallback : (attachmentOf request session verified final).description =
      (orElse (some session.description) (some "Attachment upload")).getD "" := rfl
  rw [hfallback, orElse]
  split_ifs with htruthy
  · exact (truthy_some _).mp htruthy
  · exact (by decide : "Attachment upload" ≠ "")

/-- An attachment is of a docket, or of a client for the files of clients. -/
theorem Opened.owner_attachmentOf (hopened : Opened p session) (final : DirectUpload.Final) :
    ¬((attachmentOf request session verified final).source = .client_cfs ∧
        truthy (attachmentOf request session verified final).clientId = false) ∧
      ¬(truthy (attachmentOf request session verified final).clientId = false ∧
        truthy (attachmentOf request session verified final).caseId = false) := by
  constructor
  · rintro ⟨hsource, hclient⟩
    obtain ⟨-, htruthy⟩ | ⟨hupload, -⟩ := hopened.owned
    · exact absurd (hclient.symm.trans htruthy) (by decide)
    · exact absurd (hsource.symm.trans hupload) (by decide)
  · rintro ⟨hclient, hcase⟩
    obtain ⟨-, htruthy⟩ | ⟨-, htruthy⟩ := hopened.owned
    · exact absurd (hclient.symm.trans htruthy) (by decide)
    · exact absurd (hcase.symm.trans htruthy) (by decide)

/-- And one that admits it takes the attachment of a session. -/
theorem refusals_of_listed {final : DirectUpload.Final} {id : String} (hopened : Opened p session)
    (hname : p.providerName ∈ admitted) (hprovider : verified.provider = some p.providerName)
    (hid : final.storageFileId = some id) (hne : trim id ≠ "") :
    refusals admitted (attachmentOf request session verified final) = [] := by
  set attachment := attachmentOf request session verified final with hattachment
  have hstorageProvider : attachment.storageProvider = some p.providerName :=
    storageProvider_attachmentOf final hprovider
  have hstored : truthy attachment.storageFileId = true := by
    have hstorageFileId : attachment.storageFileId = some (trim id) := congrArg (Option.map trim) hid
    rw [hstorageFileId]
    exact (truthy_some _).mpr hne
  have hlisted : attachment.storageProvider.any (fun name => name ∉ admitted) = false := by
    rw [hstorageProvider]
    exact decide_eq_false (not_not_intro hname)
  have hgiven : truthy attachment.storageProvider = true := by
    rw [hstorageProvider]
    exact (truthy_some _).mpr (providerName_ne p)
  have hdescription : attachment.description ≠ "" := description_attachmentOf_ne final
  have hfirm : attachment.firmId ≠ "" := request.firmId_ne
  have hfile : attachment.fileName ≠ "" := hopened.named
  have hcreator : attachment.createdBy ≠ "" := request.user.email_ne
  have hversion : ¬attachment.version < 1 := Nat.not_lt.mpr (Nat.le_add_left 1 _)
  obtain ⟨hclient, howner⟩ : ¬(attachment.source = .client_cfs ∧
      truthy attachment.clientId = false) ∧
        ¬(truthy attachment.clientId = false ∧ truthy attachment.caseId = false) :=
    hopened.owner_attachmentOf final
  unfold refusals
  rw [if_neg hfirm, if_neg hfile, if_neg hversion, if_neg hdescription, if_neg hcreator,
    if_neg hclient, if_neg howner]
  simp only [hstored, hgiven, hlisted, Bool.true_eq_false, Bool.false_eq_true, false_and, and_false,
    if_false, List.append_nil]

theorem findDriveFile_eq_ok {fileId objectKey : Option String} {id : String} {file : StoredFile}
    (h : findDriveFile contents fileId objectKey = .ok (.ok (id, file))) :
    contents.drive id = some file := by
  unfold findDriveFile at h
  split at h
  · cases h
  · next asked _ =>
    cases hdrive : contents.drive asked with
    | none =>
      rw [hdrive] at h
      cases h
    | some found =>
      rw [hdrive] at h
      obtain ⟨rfl, rfl⟩ := Prod.ext_iff.mp (Except.ok.inj (Except.ok.inj h))
      exact hdrive

theorem findBucketObject_eq_ok {pathPrefix key id : String} {file : StoredFile} (hne : key ≠ "")
    (h : findBucketObject contents pathPrefix (some key) = .ok (.ok (id, file))) :
    normalizeObjectKey pathPrefix key = .ok id ∧ contents.bucket id = some file := by
  have hfilter : (some key).filter (· ≠ "") = some key :=
    Option.filter_eq_some_iff.mpr ⟨rfl, decide_eq_true hne⟩
  unfold findBucketObject at h
  rw [hfilter] at h
  dsimp only at h
  split at h
  · cases h
  · next normalized hnormalized =>
    have h := Except.ok.inj h
    cases hbucket : contents.bucket normalized with
    | none =>
      rw [hbucket] at h
      cases h
    | some found =>
      rw [hbucket] at h
      obtain ⟨rfl, rfl⟩ := Prod.ext_iff.mp (Except.ok.inj h)
      exact ⟨hnormalized, hbucket⟩

/-- What is downloaded by the id of a verified object is the object. -/
theorem downloadFile_of_found {id : String} {file : StoredFile} (hopened : Opened p session)
    (hfound : findObject p contents (orElse session.providerFileId request.body.providerFileId)
      (orElse session.providerObjectKey request.body.objectKey) = .ok (.ok (id, file))) :
    downloadFile p contents id = .ok file.body := by
  cases p with
  | oneDrive => cases hfound
  | s3 pathPrefix =>
    obtain ⟨objectKey, key, hne, hkey, hnormal⟩ := hopened.key pathPrefix rfl
    have hgiven : orElse session.providerObjectKey request.body.objectKey = some key := by
      rw [hkey]
      exact if_pos ((truthy_some key).mpr hne)
    rw [hgiven, findObject] at hfound
    obtain ⟨hnormalized, hbucket⟩ := findBucketObject_eq_ok hne hfound
    -- The key of the session is under the prefix already, and is normalized to itself from there.
    have hscoped : startsWith key (keyPrefix pathPrefix) = true := by
      obtain ⟨-, hunder⟩ := normalizeObjectKey_eq_ok.mp hnormal
      rw [startsWith_iff, hunder]
      exact start_under _ _
    have hagain := normalizeObjectKey_idem (hasDots_keyPrefix hscoped hnormalized) hnormalized
    unfold downloadFile
    simp only [hagain, Except.mapError, ok_bind, hbucket]
    rfl
  | googleDrive root =>
    have hdrive := findDriveFile_eq_ok hfound
    unfold downloadFile
    rw [hdrive]
    rfl
  | docketraManaged root =>
    have hdrive := findDriveFile_eq_ok hfound
    unfold downloadFile
    rw [hdrive]
    rfl

/-! ## The attachments -/

/-- With the name of the provider admitted, an upload becomes an attachment, if the request names no
other file, and the schema leaves the id of the object as it is. -/
theorem attached_of_listed (hopened : Opened p session)
    (hfresh : session.expiresAt.any (· < request.now) = false)
    (hverified : verification p contents request session = .ok verified)
    (hok : verified.ok = true) (hagree : ChecksumsAgree request session verified)
    (hname : p.providerName ∈ admitted)
    (hid : ∀ id, verified.fileId = some id → id ≠ "" ∧ trim id = id)
    (hmatches : Matches request session) : Attached p contents request session admitted := by
  obtain ⟨id, file, hfound, hfileId, hprovider⟩ := verification_eq_ok hverified hok
  obtain ⟨hne, htrim⟩ := hid id hfileId
  obtain ⟨-, hlocking⟩ | ⟨hno, -⟩ := checkSession_of_initiated hopened.initiated hfresh hagree
  · set taken : UploadSession := { session.toUploadSession with uploadStatus := .uploaded }
      with htaken
    obtain ⟨final, hcreating, hstored⟩ := checkVerified_of_ok taken rfl hok hfileId hne hagree
    have hrefusals : refusals admitted (attachmentOf request session verified final) = [] :=
      refusals_of_listed hopened hname hprovider hstored (by rwa [htrim])
    refine ⟨attachmentOf request session verified final,
      { session with toUploadSession := taken.saveVerified final request.attachmentId taken }, ?_,
      hrefusals, ⟨id, file, ?_, ⟨id, hfound⟩, downloadFile_of_found hopened hfound⟩, rfl, rfl⟩
    · unfold finalizeIntent
      rw [hlocking]
      dsimp only
      rw [hverified, ok_bind, ← htaken, hcreating]
      dsimp only
      rw [throwIf_neg (not_not_intro hrefusals), ok_bind]
      rfl
    · dsimp only [attachmentOf]
      rw [hstored, Option.map_some, htrim]
  · exact absurd hmatches hno

/-- An attachment that is returned is named by an admitted provider, and is of a request that names
no other file. -/
theorem listed_of_attached (hopened : Opened p session)
    (hfresh : session.expiresAt.any (· < request.now) = false)
    (hverified : verification p contents request session = .ok verified)
    (hok : verified.ok = true) (hagree : ChecksumsAgree request session verified)
    (h : Attached p contents request session admitted) :
    p.providerName ∈ admitted ∧ Matches request session := by
  obtain ⟨attachment, after, hreturned, -⟩ := h
  obtain ⟨id, file, hfound, hfileId, hprovider⟩ := verification_eq_ok hverified hok
  unfold finalizeIntent at hreturned
  obtain ⟨hmatches, hlocking⟩ | ⟨-, error, hthrew⟩ :=
    checkSession_of_initiated hopened.initiated hfresh hagree
  · refine ⟨?_, hmatches⟩
    by_contra hname
    rw [hlocking] at hreturned
    dsimp only at hreturned
    rw [hverified, ok_bind] at hreturned
    split at hreturned
    · obtain ⟨⟨⟩, hthrow, -⟩ := bind_eq_ok.mp hreturned
      exact throwIf_eq_ok.mp hthrow (refusals_of_unlisted hname hprovider)
    · cases hreturned
  · rw [hthrew] at hreturned
    cases hreturned

end steps

/-- With the name of the provider admitted, an upload becomes an attachment on every provider, as
soon as the request names no other file than the session. -/
theorem attached_admitted_iff {p : Provider} {contents : Contents} {request : FinalizeRequest}
    {session : Session} {s : Surroundings} {intent : IntentRequest} {verified : Verified}
    {admitted : List String} (hintent : createIntent p s intent = .ok session)
    (hfresh : session.expiresAt.any (· < request.now) = false)
    (hverified : verification p contents request session = .ok verified)
    (hok : verified.ok = true) (hagree : ChecksumsAgree request session verified)
    (hname : p.providerName ∈ admitted)
    (hid : ∀ id, verified.fileId = some id → id ≠ "" ∧ trim id = id) :
    Attached p contents request session admitted ↔ Matches request session := by
  have hopened := opened_of_createIntent hintent
  exact ⟨fun h => (listed_of_attached hopened hfresh hverified hok hagree h).2,
    attached_of_listed hopened hfresh hverified hok hagree hname hid⟩

/-- The upload of a session becomes an attachment exactly when the firm is on its own Google Drive,
and the request names no other file than the session. -/
theorem attached_iff {p : Provider} {contents : Contents} {request : FinalizeRequest}
    {session : Session} {s : Surroundings} {intent : IntentRequest} {verified : Verified}
    (hintent : createIntent p s intent = .ok session)
    (hfresh : session.expiresAt.any (· < request.now) = false)
    (hverified : verification p contents request session = .ok verified)
    (hok : verified.ok = true) (hagree : ChecksumsAgree request session verified) :
    Attached p contents request session STORAGE_PROVIDERS ↔
      (∃ rootFolderId, p = .googleDrive rootFolderId) ∧ Matches request session := by
  have hopened := opened_of_createIntent hintent
  constructor
  · intro h
    obtain ⟨hname, hmatches⟩ := listed_of_attached hopened hfresh hverified hok hagree h
    refine ⟨?_, hmatches⟩
    cases p with
    | googleDrive rootFolderId => exact ⟨rootFolderId, rfl⟩
    | s3 => exact absurd hname (by decide : "s3" ∉ STORAGE_PROVIDERS)
    | docketraManaged => exact absurd hname (by decide : "docketra_managed" ∉ STORAGE_PROVIDERS)
    | oneDrive => exact absurd hname (by decide : "onedrive" ∉ STORAGE_PROVIDERS)
  · rintro ⟨⟨rootFolderId, rfl⟩, hmatches⟩
    have hname : "google-drive" ∈ STORAGE_PROVIDERS := by decide
    refine attached_of_listed hopened hfresh hverified hok hagree hname (fun id hid => ?_) hmatches
    obtain ⟨found, file, hfound, hfileId, -⟩ := verification_eq_ok hverified hok
    obtain rfl : found = id := Option.some.inj (hfileId.symm.trans hid)
    exact contents.drive_trimmed (findDriveFile_eq_ok hfound)

/-! ## A scan -/

def scan : StoredFile where
  size := 3
  mimeType := "application/pdf"
  parents := ["folder1"]
  webViewLink := none
  md5 := none
  body := [37, 80, 68]

/-- Google Drive, once the scan is uploaded. -/
def uploadedScan : Contents where
  drive id := if id = "file1" then some scan else none
  drive_trimmed := by
    have hfile : "file1" ≠ "" ∧ trim "file1" = "file1" := by decide
    intro id file h
    split_ifs at h with hid
    rw [hid]
    exact hfile
  bucket _ := none
  oneDrive _ := none

/-- The request for the upload, for a docket. -/
def scanIntent : IntentRequest where
  context := .docket "DCK-0001" (by decide)
  fileName := "scan.pdf"
  fileName_ne := by decide
  mimeType := "application/pdf"
  size := 3
  description := some "Signed return"
  checksum := none

def driveSurroundings : Surroundings where
  allowedMimeTypes := ["application/pdf"]
  maxUploadSizeBytes := 1000
  writableStorage := .ok ()
  folder := some "folder1"
  createdFolder := .ok "folder1"
  createdFile := .ok (some "file1")
  uploadId := "u1"
  expiresAt := 900000

/-- The session that is opened with a provider. -/
def scanSession (provider : String) : Session where
  uploadStatus := .initiated
  attachmentId := none
  expiresAt := some 900000
  checksum := none
  providerFileId := some "file1"
  providerObjectKey := none
  storageFileId := none
  errorMessage := none
  caseId := some "DCK-0001"
  clientId := none
  originalName := "scan.pdf"
  mimeType := "application/pdf"
  size := 3
  description := "Signed return"
  source := .upload
  targetFolderId := some "folder1"
  provider := provider

/-- What the provider answers about the scan. -/
def scanVerified (provider : String) : Verified where
  ok := true
  reason := none
  checksum := none
  fileId := some "file1"
  provider := some provider
  webViewLink := none

def scanFinalize : FinalizeRequest where
  now := 1000
  firmId := "f1"
  firmId_ne := by decide
  user := ⟨"asha@firm.in", "X000001", "Asha", by decide⟩
  body := ⟨none, none, none⟩
  attachmentId := 1
  latestVersion := 0

theorem checksumsAgree_scan (provider : String) :
    ChecksumsAgree scanFinalize (scanSession provider) (scanVerified provider) where
  client _ _ h := absurd h.symm (Option.some_ne_none _)
  provider _ _ h := absurd h.symm (Option.some_ne_none _)

/-- On the Google Drive of the firm, the scan becomes an attachment. -/
theorem attached_scan :
    Attached (.googleDrive none) uploadedScan scanFinalize (scanSession "google-drive")
      STORAGE_PROVIDERS := by
  have hintent : createIntent (.googleDrive none) driveSurroundings scanIntent =
      .ok (scanSession "google-drive") := rfl
  have hverified : verification (.googleDrive none) uploadedScan scanFinalize
      (scanSession "google-drive") = .ok (scanVerified "google-drive") := rfl
  exact (attached_iff hintent (by decide) hverified rfl (checksumsAgree_scan _)).mpr
    ⟨⟨none, rfl⟩, by decide, by decide⟩

/-- On managed storage, it does not. -/
theorem attached_fails :
    createIntent (.docketraManaged "root") driveSurroundings scanIntent =
        .ok (scanSession "docketra_managed") ∧
      verification (.docketraManaged "root") uploadedScan scanFinalize
        (scanSession "docketra_managed") = .ok (scanVerified "docketra_managed") ∧
      ChecksumsAgree scanFinalize (scanSession "docketra_managed")
        (scanVerified "docketra_managed") ∧
      ¬Attached (.docketraManaged "root") uploadedScan scanFinalize
        (scanSession "docketra_managed") STORAGE_PROVIDERS := by
  have hintent : createIntent (.docketraManaged "root") driveSurroundings scanIntent =
      .ok (scanSession "docketra_managed") := rfl
  have hverified : verification (.docketraManaged "root") uploadedScan scanFinalize
      (scanSession "docketra_managed") = .ok (scanVerified "docketra_managed") := rfl
  refine ⟨hintent, hverified, checksumsAgree_scan _, fun h => ?_⟩
  obtain ⟨hname, -⟩ := listed_of_attached (opened_of_createIntent hintent) (by decide) hverified rfl
    (checksumsAgree_scan _) h
  exact absurd hname (by decide : "docketra_managed" ∉ STORAGE_PROVIDERS)

end Docketra.UploadedAttachments
