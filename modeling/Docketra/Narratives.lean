import Docketra.FirmStorage
import Docketra.Lib.Checked
import Docketra.StorageProviders
import Mathlib.Data.List.Infix
import Mathlib.Logic.Function.Basic

/-!
# Narratives outside the database

The texts of tasks, dockets, comments, history entries, and client profiles are stored as JSON with
the provider of the firm, or else on managed storage, and the database keeps a reference. The five
services decide twice where a text is: at the upload, by the backend that could be had, and at the
read, by the names in the reference. The docket service reads a reference to managed Drive by its
file id. The others look for it in the managed bucket, where it is not, although the factory itself
returns managed Drive for every firm that has not connected its own (`narratives_read_back_iff`).
-/

namespace Docketra.Narratives

open Checked FirmStorage StorageProviders

/-! ## Services outside the repository -/

/-- `error.status || error.code || error.response.status`. -/
inductive ErrorStatus where
  | number (n : ℕ)
  | code (s : String)
  deriving DecidableEq

structure ServiceError where
  message : String
  status : Option ErrorStatus := none

/-- `JSON.stringify` and `JSON.parse` on the values that JSON has a text for. -/
structure Codec where
  Payload : Type
  null : Payload
  stringify : Payload → String
  parse : String → Except ServiceError Payload
  parse_stringify : ∀ payload, parse (stringify payload) = .ok payload

/-- An id that Google Drive gives to a file or a folder. -/
structure DriveId where
  value : String
  notEmpty : value ≠ ""
  trimmed : trim value = value

/-- The process: its environment, with that of managed S3, and what it computes with. -/
structure Process extends Env where
  s3Bucket : Option String
  s3Region : Option String
  s3Credentials : Option Value
  s3Prefix : Option String
  codec : Codec
  sha256 : String → String

/-- The client of managed S3. -/
structure S3Backend where
  bucket : String
  region : String
  pathPrefix : String
  deriving DecidableEq

/-- What the services answer to the requests of an upload. -/
structure Answers where
  getOrCreateFolder : BuiltProvider → Option Value → String → Except ServiceError DriveId
  uploadFile : BuiltProvider → Option Value → String → String → Except ServiceError DriveId
  putObject : S3Backend → String → Except ServiceError Unit
  /-- `client.save()`. -/
  save : Except ServiceError Unit

/-- The texts that Google Drive stores under ids, and S3 under buckets and keys. -/
structure Contents where
  files : String → Option String
  objects : String × String → Option String

def Contents.putFile (contents : Contents) (fileId body : String) : Contents :=
  { contents with files := Function.update contents.files fileId (some body) }

def Contents.putObject (contents : Contents) (object : String × String) (body : String) : Contents :=
  { contents with objects := Function.update contents.objects object (some body) }

/-! ## Backends -/

/-- A firm document, with the setting that keeps its data on its own storage. -/
structure FirmDoc extends Firm where
  strictFirmOwnedStorage : Bool := false

/-- A firm, by its id and the documents that are found by it: as `_id`, and as `firmId`. -/
structure Tenant where
  firmId : FirmId
  byId : Option FirmDoc
  byFirmId : Option FirmDoc

inductive Backend where
  | firmConnected (provider : BuiltProvider)
  | managedS3 (backend : S3Backend)

/-- The docket service has one backend more. -/
inductive DocketBackend where
  | shared (backend : Backend)
  | managedDrive (provider : BuiltProvider)

inductive Mode where
  | firm_connected | managed_fallback
  deriving DecidableEq

structure Ref where
  provider : String
  mode : Mode
  fileId : Option String
  objectKey : String
  checksum : String

section backends

variable (process : Process) (tenant : Tenant)

/-- `requireWritableBusinessStorage`. -/
def requireWritableBusinessStorage : Except ServiceError Unit :=
  match tenant.byId.or tenant.byFirmId with
  | none => .ok ()
  | some firm =>
    let state := resolveFirmStorageState process.toEnv firm.toFirm
    let byosWritable := state.isFirmConnected && state.connectionStatus = .ACTIVE_BYOS
    if firm.strictFirmOwnedStorage && !byosWritable then
      .error ⟨"Firm-owned storage is required for this workspace.", some (.number 503)⟩
    else .ok ()

/-- `StorageProviderFactory.getProvider`. -/
def getProvider : Except StorageError BuiltProvider :=
  getProviderForTenant process.toEnv tenant.firmId (tenant.byId.map FirmDoc.toFirm)

def buildManagedFallbackClient : Except ServiceError (Option S3Backend) :=
  if truthy process.s3Bucket && truthy process.s3Region then
    match process.s3Client (process.s3Region.map Value.text) process.s3Credentials with
    | .ok () => .ok (some
        { bucket := process.s3Bucket.getD ""
          region := process.s3Region.getD ""
          pathPrefix := withoutOuterSlashes
            ((orElse process.s3Prefix (some "docketra-managed")).getD "") })
    | .error message => .error ⟨message, none⟩
  else .ok none

def buildManagedDriveFallbackProvider : Option BuiltProvider :=
  (docketraManagedProvider process.toEnv tenant.firmId.value).toOption

/-- `resolveStorageBackend` of the services for tasks, comments, and client profiles. -/
def resolveStorageBackend (noBackend : String) : Except ServiceError Backend :=
  match getProvider process tenant with
  | .ok provider => .ok (.firmConnected provider)
  | .error _ => do
    match ← buildManagedFallbackClient process with
    | some backend => .ok (.managedS3 backend)
    | none => .error ⟨noBackend, some (.code "STORAGE_NOT_CONNECTED")⟩

/-- `resolveStorageBackend` of the service for dockets. -/
def resolveDocketBackend : Except ServiceError DocketBackend :=
  match getProvider process tenant with
  | .ok provider => .ok (.shared (.firmConnected provider))
  | .error _ => do
    match ← buildManagedFallbackClient process with
    | some backend => .ok (.shared (.managedS3 backend))
    | none =>
      match buildManagedDriveFallbackProvider process tenant with
      | some provider => .ok (.managedDrive provider)
      | none => .error ⟨"No active storage backend available for docket narratives",
          some (.code "STORAGE_NOT_CONNECTED")⟩

end backends

/-! ## Uploads -/

/-- `provider.providerName`. -/
def providerName : BuiltProvider → String
  | .googleDrive .. => "google-drive"
  | .docketraManaged .. => "docketra_managed"
  | .oneDrive .. => "onedrive"
  | .s3 .. => "s3"

/-- `provider.rootFolderId || null`. -/
def rootFolderId : BuiltProvider → Option Value
  | .googleDrive _ _ rootFolderId => rootFolderId
  | .docketraManaged rootFolderId _ _ _ => some (.text rootFolderId)
  | .oneDrive .. | .s3 .. => none

/-- Where a narrative is put: in which folders, under which name, and under which key. -/
structure Place where
  folders : List String
  fileName : String
  objectKey : String

section uploads

variable (process : Process) (answers : Answers) (place : Place) (body : String)
  (contents : Contents)

def getOrCreateFolder (provider : BuiltProvider) (parentFolderId : Option Value)
    (folderName : String) : Except ServiceError DriveId :=
  match provider with
  | .googleDrive .. => answers.getOrCreateFolder provider parentFolderId folderName
  | .docketraManaged root _ _ _ =>
    answers.getOrCreateFolder provider (either parentFolderId (some (.text root))) folderName
  | .oneDrive .. | .s3 .. =>
    .error ⟨unsupportedFeature (providerName provider) "getOrCreateFolder",
      some (.code "UNSUPPORTED_STORAGE_PROVIDER_FEATURE")⟩

/-- The folder at the end of a path, with the folders on the way. -/
def folderAt (provider : BuiltProvider) (parent : Option Value) :
    List String → Except ServiceError (Option Value)
  | [] => .ok parent
  | folderName :: folderNames => do
    let folderId ← getOrCreateFolder answers provider parent folderName
    folderAt provider (some (.text folderId.value)) folderNames

/-- A text is uploaded as a file, and referred to under a name and a mode. -/
def uploadToDrive (provider : BuiltProvider) (root : Option Value) (name : String) (mode : Mode) :
    Except ServiceError (Ref × Contents) := do
  let folder ← folderAt answers provider root place.folders
  let uploaded ← answers.uploadFile provider folder place.fileName body
  return (⟨name, mode, some uploaded.value, place.objectKey, process.sha256 body⟩,
    contents.putFile uploaded.value body)

def uploadToProvider (provider : BuiltProvider) : Except ServiceError (Ref × Contents) :=
  uploadToDrive process answers place body contents provider (rootFolderId provider)
    (providerName provider) .firm_connected

def uploadToManagedDrive (provider : BuiltProvider) : Except ServiceError (Ref × Contents) :=
  uploadToDrive process answers place body contents provider none "docketra_managed"
    .managed_fallback

def managedKey (backend : S3Backend) : String := backend.pathPrefix ++ "/" ++ place.objectKey

def uploadToManagedS3 (backend : S3Backend) : Except ServiceError (Ref × Contents) := do
  let objectKey := managedKey place backend
  answers.putObject backend objectKey
  return (⟨"docketra_managed", .managed_fallback, none, objectKey, process.sha256 body⟩,
    contents.putObject (backend.bucket, objectKey) body)

/-- What the services for tasks, comments, and client profiles have in common. -/
def upload (tenant : Tenant) (noBackend : String) (payload : process.codec.Payload) :
    Except ServiceError (Ref × Contents) := do
  requireWritableBusinessStorage process tenant
  let body := process.codec.stringify payload
  match ← resolveStorageBackend process tenant noBackend with
  | .firmConnected provider => uploadToProvider process answers place body contents provider
  | .managedS3 backend => uploadToManagedS3 process answers place body contents backend

end uploads

/-! ## Reads -/

section reads

variable (process : Process) (tenant : Tenant) (contents : Contents) (ref : Ref)

/-- `JSON.parse` of what is stored, of which the service says when there is nothing. -/
def parseStored (stored : Option String) (missing : String) :
    Except ServiceError process.codec.Payload :=
  match stored with
  | some text => process.codec.parse text
  | none => .error ⟨missing, some (.number 404)⟩

/-- `provider.downloadFile`, and the JSON in it. -/
def downloadFile (fileId : Option String) : Except ServiceError process.codec.Payload :=
  parseStored process (fileId.bind contents.files) "File not found"

def getObject (backend : S3Backend) (objectKey : String) :
    Except ServiceError process.codec.Payload :=
  parseStored process (contents.objects (backend.bucket, objectKey))
    "The specified key does not exist."

/-- The reference is to managed storage. -/
def Ref.isManaged : Bool := ref.mode = .managed_fallback || ref.provider = "docketra_managed"

/-- What the services for tasks and comments have in common. -/
def read (noBackend : String) : Except ServiceError (Option process.codec.Payload) := do
  if ref.provider = "" then return none
  -- The name of the provider alone sends a read to the bucket, also when there is a file id.
  if ref.isManaged then
    match ← buildManagedFallbackClient process with
    | none => throw ⟨"Managed fallback unavailable", none⟩
    | some backend => some <$> getObject process contents backend ref.objectKey
  else
    match ← resolveStorageBackend process tenant noBackend with
    | .firmConnected _ => some <$> downloadFile process contents ref.fileId
    | .managedS3 _ => throw ⟨"Firm storage unavailable", none⟩

end reads

/-! ## Tasks -/

namespace Task

def noBackend : String := "No active storage backend available for task narratives"

def place (firmId taskId : String) : Place where
  folders := ["firms", firmId, "tasks", taskId]
  fileName := "task.json"
  objectKey := "firms/" ++ firmId ++ "/tasks/" ++ taskId ++ "/task.json"

def uploadNarrative (process : Process) (answers : Answers) (contents : Contents) (tenant : Tenant)
    (taskId : String) (payload : process.codec.Payload) : Except ServiceError (Ref × Contents) :=
  upload process answers (place tenant.firmId.value taskId) contents tenant noBackend payload

def readNarrative (process : Process) (tenant : Tenant) (contents : Contents) (taskRef : Ref) :
    Except ServiceError (Option process.codec.Payload) :=
  read process tenant contents taskRef noBackend

end Task

/-! ## Comments and history -/

namespace CommentHistory

def noBackend : String := "No active storage backend available for comments/history"

/-- The place of a file, whose path gives the folders. -/
def place (objectPath fileName : String) : Place where
  folders := (((segments objectPath).filter (· ≠ [])).dropLast).map String.ofList
  fileName := fileName
  objectKey := objectPath

def uploadComment (process : Process) (answers : Answers) (contents : Contents) (tenant : Tenant)
    (docketId commentId : String) (payload : process.codec.Payload) :
    Except ServiceError (Ref × Contents) :=
  let objectPath := "firms/" ++ tenant.firmId.value ++ "/dockets/" ++ docketId ++ "/comments/" ++
    commentId ++ ".json"
  upload process answers (place objectPath (commentId ++ ".json")) contents tenant noBackend payload

def uploadHistory (process : Process) (answers : Answers) (contents : Contents) (tenant : Tenant)
    (docketId historyId : String) (payload : process.codec.Payload) :
    Except ServiceError (Ref × Contents) :=
  let objectPath := "firms/" ++ tenant.firmId.value ++ "/dockets/" ++ docketId ++ "/history/" ++
    historyId ++ ".json"
  upload process answers (place objectPath (historyId ++ ".json")) contents tenant noBackend payload

def readJsonByRef (process : Process) (tenant : Tenant) (contents : Contents) (ref : Ref) :
    Except ServiceError (Option process.codec.Payload) :=
  read process tenant contents ref noBackend

end CommentHistory

/-! ## Client profiles -/

namespace ClientProfile

def noBackend : String := "No active storage backend available for client profiles"

def place (firmId clientId : String) : Place where
  folders := ["firms", firmId, "clients", clientId]
  fileName := "profile.json"
  objectKey := "firms/" ++ firmId ++ "/clients/" ++ clientId ++ "/profile.json"

/-- `client.profileRef = ref`: the schema trims the texts. -/
def castRef (ref : Ref) : Ref where
  provider := trim ref.provider
  mode := ref.mode
  fileId := ref.fileId.map trim
  objectKey := trim ref.objectKey
  checksum := trim ref.checksum

/-- The reference that the client document has after `createClientProfile`. -/
def createClientProfile (process : Process) (answers : Answers) (contents : Contents)
    (tenant : Tenant) (clientId : String) (payload : process.codec.Payload) :
    Except ServiceError (Ref × Contents) := do
  let (ref, stored) ← upload process answers (place tenant.firmId.value clientId) contents tenant
    noBackend payload
  -- Where the document cannot be saved, the text stays without a reference.
  answers.save
  return (castRef ref, stored)

def getClientProfile (process : Process) (tenant : Tenant) (contents : Contents)
    (profileRef : Ref) : Except ServiceError (Option process.codec.Payload) := do
  if profileRef.provider = "" then return none
  if profileRef.isManaged then
    match ← buildManagedFallbackClient process with
    | none => return none
    | some backend => some <$> getObject process contents backend profileRef.objectKey
  else
    match ← resolveStorageBackend process tenant noBackend with
    | .firmConnected _ => some <$> downloadFile process contents profileRef.fileId
    | .managedS3 _ => return none

end ClientProfile

/-! ## Dockets -/

namespace Docket

def place (firmId docketId : String) : Place where
  folders := ["firms", firmId, "dockets", docketId]
  fileName := "docket.json"
  objectKey := "firms/" ++ firmId ++ "/dockets/" ++ docketId ++ "/docket.json"

/-- `msg.includes(part)`. -/
def mentions (msg part : String) : Bool := part.toList <:+: msg.toList

def isDriveTokenError (casing : Casing) (error : ServiceError) : Bool :=
  let msg := casing.apply error.message
  mentions msg "invalid_grant" || mentions msg "token has been expired" ||
    mentions msg "revoked" || mentions msg "invalid credentials" ||
    error.status = some (.number 401)

/-- The managed backend that is taken when the token of the firm is expired: Drive before S3. The
mark that the firm is disconnected changes nothing about a reference to managed storage, and is left
out. -/
def uploadAfterTokenError (process : Process) (answers : Answers) (place : Place) (body : String)
    (contents : Contents) (tenant : Tenant) : Except ServiceError (Ref × Contents) := do
  match buildManagedDriveFallbackProvider process tenant with
  | some provider => uploadToManagedDrive process answers place body contents provider
  | none =>
    match ← buildManagedFallbackClient process with
    | some backend => uploadToManagedS3 process answers place body contents backend
    | none => throw ⟨"Cloud storage connection has expired. Please reconnect Google Drive in " ++
        "Storage Settings and try again.", some (.number 503)⟩

def uploadNarrative (process : Process) (answers : Answers) (contents : Contents) (tenant : Tenant)
    (docketId : String) (payload : process.codec.Payload) :
    Except ServiceError (Ref × Contents) := do
  requireWritableBusinessStorage process tenant
  let body := process.codec.stringify payload
  let place := place tenant.firmId.value docketId
  match ← resolveDocketBackend process tenant with
  | .shared (.firmConnected provider) =>
    match uploadToProvider process answers place body contents provider with
    | .ok uploaded => return uploaded
    | .error driveError =>
      -- Only an expired token leads to another backend; every other error is the caller's.
      if isDriveTokenError process.casing driveError then
        uploadAfterTokenError process answers place body contents tenant
      else throw driveError
  | .managedDrive provider => uploadToManagedDrive process answers place body contents provider
  | .shared (.managedS3 backend) =>
    uploadToManagedS3 process answers place body contents backend

/-- A read from managed S3. -/
def readManagedS3 (process : Process) (contents : Contents) (objectKey : String) :
    Except ServiceError (Option process.codec.Payload) := do
  match ← buildManagedFallbackClient process with
  | none => throw ⟨"Managed fallback unavailable", none⟩
  | some backend => some <$> getObject process contents backend objectKey

def readNarrative (process : Process) (tenant : Tenant) (contents : Contents) (docketRef : Ref) :
    Except ServiceError (Option process.codec.Payload) := do
  if docketRef.provider = "" then return none
  if docketRef.isManaged then
    match docketRef.fileId.filter (· ≠ ""), buildManagedDriveFallbackProvider process tenant with
    | some fileId, some _ =>
      -- A file that cannot be downloaded is looked for in the bucket, under its key.
      match downloadFile process contents (some fileId) with
      | .ok payload => return some payload
      | .error _ => readManagedS3 process contents docketRef.objectKey
    | _, _ => readManagedS3 process contents docketRef.objectKey
  else
    match ← resolveDocketBackend process tenant with
    | .shared (.firmConnected _) => some <$> downloadFile process contents docketRef.fileId
    | _ => throw ⟨"Firm storage unavailable", none⟩

end Docket

/-! ## Reading back -/

/-- A text that is stored outside the database. -/
inductive Narrative where
  | task (taskId : String)
  | docket (docketId : String)
  | comment (docketId commentId : String)
  | history (docketId historyId : String)
  | clientProfile (clientId : String)

/-- The upload of a narrative. -/
def Narrative.upload (process : Process) (answers : Answers) (contents : Contents)
    (tenant : Tenant) (payload : process.codec.Payload) :
    Narrative → Except ServiceError (Ref × Contents)
  | task taskId => Task.uploadNarrative process answers contents tenant taskId payload
  | docket docketId => Docket.uploadNarrative process answers contents tenant docketId payload
  | comment docketId commentId =>
    CommentHistory.uploadComment process answers contents tenant docketId commentId payload
  | history docketId historyId =>
    CommentHistory.uploadHistory process answers contents tenant docketId historyId payload
  | clientProfile clientId =>
    ClientProfile.createClientProfile process answers contents tenant clientId payload

/-- The read of a narrative by its reference. -/
def Narrative.read (process : Process) (tenant : Tenant) (contents : Contents) (ref : Ref) :
    Narrative → Except ServiceError (Option process.codec.Payload)
  | task _ => Task.readNarrative process tenant contents ref
  | docket _ => Docket.readNarrative process tenant contents ref
  | comment .. | history .. => CommentHistory.readJsonByRef process tenant contents ref
  | clientProfile _ => ClientProfile.getClientProfile process tenant contents ref

section property

variable (process : Process) (tenant : Tenant) (narrative : Narrative)

/-- Whatever the services answer and have stored, a narrative that was uploaded is read back by its
reference. -/
def ReadBack : Prop :=
  ∀ (answers : Answers) (contents : Contents) (payload : process.codec.Payload) (ref : Ref)
    (stored : Contents),
    narrative.upload process answers contents tenant payload = .ok (ref, stored) →
    narrative.read process tenant stored ref = .ok (some payload)

/-- The factory itself gives the firm managed Drive. -/
def OnManagedDrive : Prop :=
  ∃ root firmId clientEmail privateKey,
    getProvider process tenant = .ok (.docketraManaged root firmId clientEmail privateKey)

/-- The firm has no provider, and the key of its client profiles on managed S3 is changed by the
schema. -/
def KeyTrimmed (clientId : String) : Prop :=
  (∃ error, getProvider process tenant = .error error) ∧
    ∃ backend, buildManagedFallbackClient process = .ok (some backend) ∧
      trim (managedKey (ClientProfile.place tenant.firmId.value clientId) backend) ≠
        managedKey (ClientProfile.place tenant.firmId.value clientId) backend

/-- What is uploaded is looked for where it is. -/
def Locatable : Prop :=
  match narrative with
  | .docket _ => True
  | .clientProfile clientId => ¬ OnManagedDrive process tenant ∧ ¬ KeyTrimmed process tenant clientId
  | _ => ¬ OnManagedDrive process tenant

end property

/-! ## What an upload leaves behind -/

section uploads

variable {process : Process} {tenant : Tenant} {answers : Answers} {place : Place} {body : String}
  {contents stored : Contents} {ref : Ref}

theorem uploadToDrive_ok {provider : BuiltProvider} {root : Option Value} {name : String}
    {mode : Mode} (h : uploadToDrive process answers place body contents provider root name mode =
      .ok (ref, stored)) :
    ∃ fileId : DriveId,
      ref = ⟨name, mode, some fileId.value, place.objectKey, process.sha256 body⟩ ∧
        stored.files fileId.value = some body := by
  unfold uploadToDrive at h
  obtain ⟨folder, -, h⟩ := bind_eq_ok.mp h
  obtain ⟨fileId, -, h⟩ := bind_eq_ok.mp h
  cases h
  exact ⟨fileId, rfl, Function.update_self ..⟩

theorem uploadToManagedS3_ok {backend : S3Backend}
    (h : uploadToManagedS3 process answers place body contents backend = .ok (ref, stored)) :
    ref = ⟨"docketra_managed", .managed_fallback, none, managedKey place backend,
        process.sha256 body⟩ ∧
      stored.objects (backend.bucket, managedKey place backend) = some body := by
  unfold uploadToManagedS3 at h
  obtain ⟨-, -, h⟩ := bind_eq_ok.mp h
  cases h
  exact ⟨rfl, Function.update_self ..⟩

/-- The common backend is the provider of the firm, or else managed S3. -/
theorem resolveStorageBackend_ok {noBackend : String} {backend : Backend}
    (h : resolveStorageBackend process tenant noBackend = .ok backend) :
    (∃ provider, getProvider process tenant = .ok provider ∧ backend = .firmConnected provider) ∨
      ∃ error s3, getProvider process tenant = .error error ∧
        buildManagedFallbackClient process = .ok (some s3) ∧ backend = .managedS3 s3 := by
  unfold resolveStorageBackend at h
  rcases hprovider : getProvider process tenant with error | provider
  · right
    rw [hprovider] at h
    obtain ⟨s3, hs3, h⟩ := bind_eq_ok.mp h
    cases s3 with
    | none => cases h
    | some s3 =>
      cases h
      exact ⟨error, s3, rfl, hs3, rfl⟩
  · left
    rw [hprovider] at h
    cases h
    exact ⟨provider, rfl, rfl⟩

theorem resolveStorageBackend_connected {noBackend : String} {provider : BuiltProvider}
    (h : getProvider process tenant = .ok provider) :
    resolveStorageBackend process tenant noBackend = .ok (.firmConnected provider) := by
  unfold resolveStorageBackend
  rw [h]

/-- A text that was uploaded is with the provider of the firm, under a file id, or on managed S3,
under its key. -/
theorem upload_ok {noBackend : String} {payload : process.codec.Payload}
    (h : upload process answers place contents tenant noBackend payload = .ok (ref, stored)) :
    (∃ provider, ∃ fileId : DriveId, getProvider process tenant = .ok provider ∧
        ref = ⟨providerName provider, .firm_connected, some fileId.value, place.objectKey,
          process.sha256 (process.codec.stringify payload)⟩ ∧
        stored.files fileId.value = some (process.codec.stringify payload)) ∨
      ∃ error s3, getProvider process tenant = .error error ∧
        buildManagedFallbackClient process = .ok (some s3) ∧
        ref = ⟨"docketra_managed", .managed_fallback, none, managedKey place s3,
          process.sha256 (process.codec.stringify payload)⟩ ∧
        stored.objects (s3.bucket, managedKey place s3) =
          some (process.codec.stringify payload) := by
  unfold upload at h
  obtain ⟨-, -, h⟩ := bind_eq_ok.mp h
  obtain ⟨backend, hbackend, h⟩ := bind_eq_ok.mp h
  obtain ⟨provider, hprovider, rfl⟩ | ⟨error, s3, herror, hs3, rfl⟩ :=
    resolveStorageBackend_ok hbackend
  · left
    -- The name is the provider's own, which for managed Drive is `docketra_managed`.
    obtain ⟨fileId, href, hfile⟩ := uploadToDrive_ok h
    exact ⟨provider, fileId, hprovider, href, hfile⟩
  · right
    obtain ⟨href, hobject⟩ := uploadToManagedS3_ok h
    exact ⟨error, s3, herror, hs3, href, hobject⟩

end uploads

/-! ## What a read finds -/

section reads

variable {process : Process} {tenant : Tenant} {stored : Contents} {ref : Ref}
  {payload : process.codec.Payload}

theorem downloadFile_of_stored {fileId : String}
    (h : stored.files fileId = some (process.codec.stringify payload)) :
    downloadFile process stored (some fileId) = .ok payload := by
  unfold downloadFile parseStored
  rw [Option.bind_some, h]
  exact process.codec.parse_stringify payload

theorem getObject_of_stored {backend : S3Backend} {objectKey : String}
    (h : stored.objects (backend.bucket, objectKey) = some (process.codec.stringify payload)) :
    getObject process stored backend objectKey = .ok payload := by
  unfold getObject parseStored
  rw [h]
  exact process.codec.parse_stringify payload

/-- A provider of a firm that is not on managed Drive does not have its name. -/
theorem providerName_of_connected {provider : BuiltProvider}
    (hprovider : getProvider process tenant = .ok provider)
    (hdrive : ¬ OnManagedDrive process tenant) :
    providerName provider ≠ "docketra_managed" ∧ providerName provider ≠ "" ∧
      trim (providerName provider) = providerName provider := by
  cases provider with
  -- Managed Drive is the only provider with the name.
  | docketraManaged root firmId clientEmail privateKey =>
    exact absurd ⟨root, firmId, clientEmail, privateKey, hprovider⟩ hdrive
  | googleDrive =>
    simp only [providerName]
    decide
  | oneDrive =>
    simp only [providerName]
    decide
  | s3 =>
    simp only [providerName]
    decide

theorem not_isManaged (hmode : ref.mode = .firm_connected)
    (hname : ref.provider ≠ "docketra_managed") : ref.isManaged = false := by
  simp [Ref.isManaged, hmode, hname]

theorem read_connected {noBackend : String} {provider : BuiltProvider} {fileId : String}
    (hprovider : getProvider process tenant = .ok provider) (hnamed : ref.provider ≠ "")
    (hmanaged : ref.isManaged = false) (hfileId : ref.fileId = some fileId)
    (hfile : stored.files fileId = some (process.codec.stringify payload)) :
    read process tenant stored ref noBackend = .ok (some payload) := by
  unfold read
  simp only [hnamed, hmanaged, if_false, Bool.false_eq_true,
    resolveStorageBackend_connected hprovider, ok_bind, hfileId, downloadFile_of_stored hfile]
  rfl

theorem read_managedS3 {noBackend : String} {backend : S3Backend}
    (hbackend : buildManagedFallbackClient process = .ok (some backend))
    (hnamed : ref.provider ≠ "") (hmanaged : ref.isManaged = true)
    (hobject : stored.objects (backend.bucket, ref.objectKey) =
      some (process.codec.stringify payload)) :
    read process tenant stored ref noBackend = .ok (some payload) := by
  unfold read
  simp only [hnamed, hmanaged, if_false, if_true, hbackend, ok_bind, getObject_of_stored hobject]
  rfl

/-- The services for tasks and comments read back what they uploaded, when the firm is not on
managed Drive. -/
theorem read_of_upload {answers : Answers} {place : Place} {contents : Contents}
    {noBackend : String} (hdrive : ¬ OnManagedDrive process tenant)
    (h : upload process answers place contents tenant noBackend payload = .ok (ref, stored)) :
    read process tenant stored ref noBackend = .ok (some payload) := by
  obtain ⟨provider, fileId, hprovider, rfl, hfile⟩ | ⟨error, s3, -, hs3, rfl, hobject⟩ := upload_ok h
  · obtain ⟨hname, hnamed, -⟩ := providerName_of_connected hprovider hdrive
    exact read_connected hprovider hnamed (not_isManaged rfl hname) rfl hfile
  · exact read_managedS3 hs3 (by decide : "docketra_managed" ≠ "") rfl hobject

/-! ## Client profiles and dockets -/

theorem createClientProfile_ok {answers : Answers} {contents : Contents} {clientId : String}
    (h : ClientProfile.createClientProfile process answers contents tenant clientId payload =
      .ok (ref, stored)) :
    ∃ uploaded, upload process answers (ClientProfile.place tenant.firmId.value clientId) contents
        tenant ClientProfile.noBackend payload = .ok (uploaded, stored) ∧
      ref = ClientProfile.castRef uploaded := by
  unfold ClientProfile.createClientProfile at h
  obtain ⟨⟨uploaded, after⟩, hupload, h⟩ := bind_eq_ok.mp h
  obtain ⟨-, -, h⟩ := bind_eq_ok.mp h
  cases h
  exact ⟨uploaded, hupload, rfl⟩

theorem getClientProfile_connected {provider : BuiltProvider} {fileId : String}
    (hprovider : getProvider process tenant = .ok provider) (hnamed : ref.provider ≠ "")
    (hmanaged : ref.isManaged = false) (hfileId : ref.fileId = some fileId)
    (hfile : stored.files fileId = some (process.codec.stringify payload)) :
    ClientProfile.getClientProfile process tenant stored ref = .ok (some payload) := by
  unfold ClientProfile.getClientProfile
  simp only [hnamed, hmanaged, if_false, Bool.false_eq_true,
    resolveStorageBackend_connected hprovider, ok_bind, hfileId, downloadFile_of_stored hfile]
  rfl

theorem getClientProfile_managedS3 {backend : S3Backend}
    (hbackend : buildManagedFallbackClient process = .ok (some backend))
    (hnamed : ref.provider ≠ "") (hmanaged : ref.isManaged = true)
    (hobject : stored.objects (backend.bucket, ref.objectKey) =
      some (process.codec.stringify payload)) :
    ClientProfile.getClientProfile process tenant stored ref = .ok (some payload) := by
  unfold ClientProfile.getClientProfile
  simp only [hnamed, hmanaged, if_false, if_true, hbackend, ok_bind, getObject_of_stored hobject]
  rfl

/-- A client profile is read back when the firm is not on managed Drive, and the schema leaves the
key as it is. -/
theorem getClientProfile_of_created {answers : Answers} {contents : Contents} {clientId : String}
    (hdrive : ¬ OnManagedDrive process tenant) (hkey : ¬ KeyTrimmed process tenant clientId)
    (h : ClientProfile.createClientProfile process answers contents tenant clientId payload =
      .ok (ref, stored)) :
    ClientProfile.getClientProfile process tenant stored ref = .ok (some payload) := by
  obtain ⟨uploaded, hupload, rfl⟩ := createClientProfile_ok h
  obtain ⟨provider, fileId, hprovider, rfl, hfile⟩ | ⟨error, s3, herror, hs3, rfl, hobject⟩ :=
    upload_ok hupload
  · obtain ⟨hname, hnamed, htrim⟩ := providerName_of_connected hprovider hdrive
    have hprovided : ∀ id key checksum, (ClientProfile.castRef
        ⟨providerName provider, .firm_connected, id, key, checksum⟩).provider =
        providerName provider := fun _ _ _ => htrim
    have hfileId : ∀ key checksum, (ClientProfile.castRef
        ⟨providerName provider, .firm_connected, some fileId.value, key, checksum⟩).fileId =
        some fileId.value := fun _ _ => congrArg some fileId.trimmed
    exact getClientProfile_connected hprovider (by rw [hprovided]; exact hnamed)
      (not_isManaged rfl (by rw [hprovided]; exact hname)) (hfileId _ _) hfile
  · -- The schema has trimmed the key, which changes nothing here.
    have hsame : trim (managedKey (ClientProfile.place tenant.firmId.value clientId) s3) =
        managedKey (ClientProfile.place tenant.firmId.value clientId) s3 := by
      by_contra hne
      exact hkey ⟨⟨error, herror⟩, s3, hs3, hne⟩
    have hnamed : trim "docketra_managed" ≠ "" := by decide
    have hread := hobject
    rw [← hsame] at hread
    exact getClientProfile_managedS3 hs3 hnamed rfl hread

theorem resolveDocketBackend_connected {provider : BuiltProvider}
    (h : getProvider process tenant = .ok provider) :
    resolveDocketBackend process tenant = .ok (.shared (.firmConnected provider)) := by
  unfold resolveDocketBackend
  rw [h]

/-- The provider that the factory gives to a firm on managed Drive is the managed one. -/
theorem managedDrive_of_onManagedDrive (h : OnManagedDrive process tenant) :
    ∃ provider, buildManagedDriveFallbackProvider process tenant = some provider := by
  obtain ⟨root, firmId, clientEmail, privateKey, hprovider⟩ := h
  refine ⟨.docketraManaged root firmId clientEmail privateKey, ?_⟩
  unfold buildManagedDriveFallbackProvider
  rw [docketraManaged_of_getProvider hprovider]
  rfl

theorem uploadToManagedDrive_ok {provider : BuiltProvider}
    (h : uploadToManagedDrive process answers place body contents provider = .ok (ref, stored)) :
    ref.provider = "docketra_managed" ∧ ∃ fileId : DriveId, ref.fileId = some fileId.value ∧
      stored.files fileId.value = some body := by
  obtain ⟨fileId, rfl, hfile⟩ := uploadToDrive_ok h
  exact ⟨rfl, fileId, rfl, hfile⟩

theorem uploadToManagedS3_spec {backend : S3Backend}
    (h : uploadToManagedS3 process answers place body contents backend = .ok (ref, stored)) :
    ref.provider = "docketra_managed" ∧ ref.fileId = none ∧
      stored.objects (backend.bucket, ref.objectKey) = some body := by
  obtain ⟨rfl, hobject⟩ := uploadToManagedS3_ok h
  exact ⟨rfl, rfl, hobject⟩

/-- With an expired token the docket service takes managed Drive, and then managed S3. -/
theorem uploadAfterTokenError_ok
    (h : Docket.uploadAfterTokenError process answers place body contents tenant =
      .ok (ref, stored)) :
    (∃ drive, buildManagedDriveFallbackProvider process tenant = some drive ∧
        ref.provider = "docketra_managed" ∧
        ∃ fileId : DriveId, ref.fileId = some fileId.value ∧
          stored.files fileId.value = some body) ∨
      ∃ s3, buildManagedFallbackClient process = .ok (some s3) ∧
        ref.provider = "docketra_managed" ∧ ref.fileId = none ∧
        stored.objects (s3.bucket, ref.objectKey) = some body := by
  unfold Docket.uploadAfterTokenError at h
  split at h
  · next drive hdrive => exact .inl ⟨drive, hdrive, uploadToManagedDrive_ok h⟩
  · obtain ⟨s3, hs3, h⟩ := bind_eq_ok.mp h
    cases s3 with
    | none => cases h
    | some s3 => exact .inr ⟨s3, hs3, uploadToManagedS3_spec h⟩

/-- The docket service has one place more for a text: managed Drive, under a file id. -/
theorem docket_upload_ok {answers : Answers} {contents : Contents} {docketId : String}
    (h : Docket.uploadNarrative process answers contents tenant docketId payload =
      .ok (ref, stored)) :
    (∃ provider, getProvider process tenant = .ok provider ∧
        ref.provider = providerName provider ∧ ref.mode = .firm_connected ∧
        ∃ fileId : DriveId, ref.fileId = some fileId.value ∧
          stored.files fileId.value = some (process.codec.stringify payload)) ∨
      (∃ drive, buildManagedDriveFallbackProvider process tenant = some drive ∧
        ref.provider = "docketra_managed" ∧
        ∃ fileId : DriveId, ref.fileId = some fileId.value ∧
          stored.files fileId.value = some (process.codec.stringify payload)) ∨
      ∃ s3, buildManagedFallbackClient process = .ok (some s3) ∧
        ref.provider = "docketra_managed" ∧ ref.fileId = none ∧
        stored.objects (s3.bucket, ref.objectKey) = some (process.codec.stringify payload) := by
  unfold Docket.uploadNarrative at h
  obtain ⟨-, -, h⟩ := bind_eq_ok.mp h
  obtain ⟨backend, hbackend, h⟩ := bind_eq_ok.mp h
  unfold resolveDocketBackend at hbackend
  rcases hprovider : getProvider process tenant with error | provider
  · -- No provider: managed S3, and then managed Drive.
    rw [hprovider] at hbackend
    obtain ⟨s3, hs3, hbackend⟩ := bind_eq_ok.mp hbackend
    cases s3 with
    | some s3 =>
      cases hbackend
      exact .inr (.inr ⟨s3, hs3, uploadToManagedS3_spec h⟩)
    | none =>
      cases hdrive : buildManagedDriveFallbackProvider process tenant with
      | none =>
        simp only [hdrive] at hbackend
        cases hbackend
      | some drive =>
        simp only [hdrive] at hbackend
        cases hbackend
        exact .inr (.inl ⟨drive, rfl, uploadToManagedDrive_ok h⟩)
  · rw [hprovider] at hbackend
    cases hbackend
    dsimp only at h
    split at h
    · next hupload =>
      cases h
      obtain ⟨fileId, rfl, hfile⟩ := uploadToDrive_ok hupload
      exact .inl ⟨provider, rfl, rfl, rfl, fileId, rfl, hfile⟩
    · split_ifs at h
      exact .inr (uploadAfterTokenError_ok h)

/-- The docket service reads a file from managed Drive by its id. -/
theorem docket_read_managedDrive {drive : BuiltProvider} {fileId : DriveId}
    (hdrive : buildManagedDriveFallbackProvider process tenant = some drive)
    (hname : ref.provider = "docketra_managed") (hfileId : ref.fileId = some fileId.value)
    (hfile : stored.files fileId.value = some (process.codec.stringify payload)) :
    Docket.readNarrative process tenant stored ref = .ok (some payload) := by
  have hnamed : ("docketra_managed" : String) ≠ "" := by decide
  have hmanaged : ref.isManaged = true := by simp [Ref.isManaged, hname]
  have hid : ref.fileId.filter (· ≠ "") = some fileId.value := by
    simp [hfileId, Option.filter, fileId.notEmpty]
  unfold Docket.readNarrative
  simp only [hname, hnamed, hmanaged, if_false, if_true, hid, hdrive, downloadFile_of_stored hfile]
  rfl

/-- The docket service reads back what it uploaded. -/
theorem docket_read_of_upload {answers : Answers} {contents : Contents} {docketId : String}
    (h : Docket.uploadNarrative process answers contents tenant docketId payload =
      .ok (ref, stored)) :
    Docket.readNarrative process tenant stored ref = .ok (some payload) := by
  obtain ⟨provider, hprovider, hname, hmode, fileId, hfileId, hfile⟩ |
    ⟨drive, hdrive, hname, fileId, hfileId, hfile⟩ | ⟨s3, hs3, hname, hfileId, hobject⟩ :=
    docket_upload_ok h
  · by_cases hmanaged : OnManagedDrive process tenant
    · -- The reference has the name of managed Drive, and its file is there.
      obtain ⟨drive, hdrive⟩ := managedDrive_of_onManagedDrive hmanaged
      obtain ⟨root, firmId, clientEmail, privateKey, hbuilt⟩ := hmanaged
      rw [hbuilt] at hprovider
      cases hprovider
      exact docket_read_managedDrive hdrive hname hfileId hfile
    · obtain ⟨hother, hnonempty, -⟩ := providerName_of_connected hprovider hmanaged
      rw [← hname] at hother hnonempty
      unfold Docket.readNarrative
      simp only [hnonempty, not_isManaged hmode hother, if_false, Bool.false_eq_true,
        resolveDocketBackend_connected hprovider, ok_bind, hfileId, downloadFile_of_stored hfile]
      rfl
  · exact docket_read_managedDrive hdrive hname hfileId hfile
  · -- There is no file id, so the read goes to the bucket.
    have hnamed : ("docketra_managed" : String) ≠ "" := by decide
    have hmanaged : ref.isManaged = true := by simp [Ref.isManaged, hname]
    unfold Docket.readNarrative Docket.readManagedS3
    simp only [hname, hnamed, hmanaged, if_false, if_true, hfileId, Option.filter_none, hs3,
      ok_bind, getObject_of_stored hobject]
    rfl

end reads

/-! ## Uploads that are not read back -/

/-- Services that answer every request. -/
def obliging : Answers where
  getOrCreateFolder _ _ _ := .ok ⟨"folder", by decide, by decide⟩
  uploadFile _ _ _ _ := .ok ⟨"file", by decide, by decide⟩
  putObject _ _ := .ok ()
  save := .ok ()

/-- Services that store nothing. -/
def nothing : Contents where
  files _ := none
  objects _ := none

section failures

variable {process : Process} {tenant : Tenant} {place : Place} {noBackend : String}
  {payload : process.codec.Payload}

theorem folderAt_obliging {root firmId clientEmail privateKey : String} (parent : Option Value)
    (folders : List String) :
    ∃ folder, folderAt obliging (.docketraManaged root firmId clientEmail privateKey) parent
      folders = .ok folder := by
  induction folders generalizing parent with
  | nil => exact ⟨parent, rfl⟩
  | cons folderName folders ih => exact ih (some (.text "folder"))

/-- On managed Drive, the text goes to a file and not to the bucket. -/
theorem upload_onManagedDrive (hwritable : requireWritableBusinessStorage process tenant = .ok ())
    (h : OnManagedDrive process tenant) :
    ∃ ref stored, upload process obliging place nothing tenant noBackend payload =
        .ok (ref, stored) ∧ ref.provider = "docketra_managed" ∧ ref.mode = .firm_connected ∧
      ∀ object, stored.objects object = none := by
  obtain ⟨root, firmId, clientEmail, privateKey, hprovider⟩ := h
  obtain ⟨folder, hfolder⟩ := @folderAt_obliging root firmId clientEmail privateKey
    (some (.text root)) place.folders
  refine ⟨⟨"docketra_managed", .firm_connected, some "file", place.objectKey,
    process.sha256 (process.codec.stringify payload)⟩,
    nothing.putFile "file" (process.codec.stringify payload), ?_, rfl, rfl, fun _ => rfl⟩
  unfold upload
  simp only [hwritable, ok_bind, resolveStorageBackend_connected hprovider, uploadToProvider,
    uploadToDrive, rootFolderId, hfolder]
  rfl

theorem getObject_of_empty {stored : Contents} (h : ∀ object, stored.objects object = none)
    (backend : S3Backend) (objectKey : String) :
    getObject process stored backend objectKey =
      .error ⟨"The specified key does not exist.", some (.number 404)⟩ := by
  unfold getObject parseStored
  rw [h]

/-- A reference with the name of managed storage is looked for in the bucket. -/
theorem read_ne_of_empty {ref : Ref} {stored : Contents} (hname : ref.provider = "docketra_managed")
    (h : ∀ object, stored.objects object = none) :
    read process tenant stored ref noBackend ≠ .ok (some payload) := by
  have hmanaged : ref.isManaged = true := by simp [Ref.isManaged, hname]
  have hnamed : ("docketra_managed" : String) ≠ "" := by decide
  unfold read
  simp only [hname, hnamed, hmanaged, if_false, if_true]
  rcases buildManagedFallbackClient process with error | _ | backend
  · exact fun heq => nomatch heq
  · exact fun heq => nomatch heq
  · simp only [ok_bind, getObject_of_empty h]
    exact fun heq => nomatch heq

theorem getClientProfile_ne_of_empty {ref : Ref} {stored : Contents}
    (hname : ref.provider = "docketra_managed")
    (h : ∀ bucket, stored.objects (bucket, ref.objectKey) = none) :
    ClientProfile.getClientProfile process tenant stored ref ≠ .ok (some payload) := by
  have hmanaged : ref.isManaged = true := by simp [Ref.isManaged, hname]
  have hnamed : ("docketra_managed" : String) ≠ "" := by decide
  unfold ClientProfile.getClientProfile
  simp only [hname, hnamed, hmanaged, if_false, if_true]
  rcases buildManagedFallbackClient process with error | _ | backend
  · exact fun heq => nomatch heq
  · exact fun heq => nomatch heq
  · simp only [ok_bind, getObject, parseStored, h]
    exact fun heq => nomatch heq

/-- With no provider, the text goes to managed S3. -/
theorem upload_onManagedS3 (hwritable : requireWritableBusinessStorage process tenant = .ok ())
    {error : StorageError} (herror : getProvider process tenant = .error error) {s3 : S3Backend}
    (hs3 : buildManagedFallbackClient process = .ok (some s3)) :
    upload process obliging place nothing tenant noBackend payload =
      .ok (⟨"docketra_managed", .managed_fallback, none, managedKey place s3,
          process.sha256 (process.codec.stringify payload)⟩,
        nothing.putObject (s3.bucket, managedKey place s3) (process.codec.stringify payload)) := by
  unfold upload resolveStorageBackend
  simp only [hwritable, ok_bind, herror, hs3, uploadToManagedS3, obliging]
  rfl

end failures

section failures

variable {process : Process} {tenant : Tenant}

/-- On managed Drive, the first text that is uploaded is not read back. -/
theorem not_readBack_upload {noBackend : String} {place : Place}
    (hwritable : requireWritableBusinessStorage process tenant = .ok ())
    (hdrive : OnManagedDrive process tenant)
    (h : ∀ ref stored, upload process obliging place nothing tenant noBackend process.codec.null =
        .ok (ref, stored) →
      read process tenant stored ref noBackend = .ok (some process.codec.null)) : False := by
  obtain ⟨ref, stored, hupload, hname, -, hempty⟩ := upload_onManagedDrive hwritable hdrive
  exact read_ne_of_empty hname hempty (h ref stored hupload)

/-- The client profiles that are not read back. -/
theorem not_readBack_clientProfile {clientId : String}
    (hwritable : requireWritableBusinessStorage process tenant = .ok ())
    (hlost : OnManagedDrive process tenant ∨ KeyTrimmed process tenant clientId) :
    ¬ ReadBack process tenant (.clientProfile clientId) := by
  intro h
  have hcreated : ∀ ref stored, upload process obliging
        (ClientProfile.place tenant.firmId.value clientId) nothing tenant ClientProfile.noBackend
        process.codec.null = .ok (ref, stored) →
      ClientProfile.getClientProfile process tenant stored (ClientProfile.castRef ref) =
        .ok (some process.codec.null) := by
    intro ref stored hupload
    refine h obliging nothing process.codec.null _ stored ?_
    simp only [Narrative.upload, ClientProfile.createClientProfile, hupload, ok_bind]
    rfl
  have hname : trim "docketra_managed" = "docketra_managed" := by decide
  obtain hdrive | ⟨⟨error, herror⟩, s3, hs3, hkey⟩ := hlost
  · obtain ⟨ref, stored, hupload, hprovider, -, hempty⟩ := upload_onManagedDrive hwritable hdrive
    refine getClientProfile_ne_of_empty ?_ (fun _ => hempty _) (hcreated ref stored hupload)
    exact (congrArg trim hprovider).trans hname
  · -- Only the untrimmed key has an object.
    refine getClientProfile_ne_of_empty hname (fun bucket => ?_)
      (hcreated _ _ (upload_onManagedS3 hwritable herror hs3))
    exact Function.update_of_ne (fun heq => hkey (Prod.mk.inj heq).2) _ _

end failures

/-- **The narratives of a firm whose storage may be written are all read back exactly for dockets,
and for firms that the factory does not give managed Drive; of client profiles the key on managed
S3 must also be one that the schema leaves as it is.** -/
theorem narratives_read_back_iff (process : Process) (tenant : Tenant) (narrative : Narrative) :
    ReadBack process tenant narrative ↔
      (requireWritableBusinessStorage process tenant = .ok () →
        Locatable process tenant narrative) := by
  constructor
  · intro h hwritable
    cases narrative with
    | docket docketId => trivial
    | task taskId =>
      exact fun hdrive => not_readBack_upload hwritable hdrive (h obliging nothing _)
    | comment docketId commentId =>
      exact fun hdrive => not_readBack_upload hwritable hdrive (h obliging nothing _)
    | history docketId historyId =>
      exact fun hdrive => not_readBack_upload hwritable hdrive (h obliging nothing _)
    | clientProfile clientId =>
      exact ⟨fun hdrive => not_readBack_clientProfile hwritable (.inl hdrive) h,
        fun hkey => not_readBack_clientProfile hwritable (.inr hkey) h⟩
  · intro h answers contents payload ref stored hupload
    have hwritable : ∀ {noBackend : String} {place : Place} {ref : Ref} {stored : Contents},
        upload process answers place contents tenant noBackend payload = .ok (ref, stored) →
        requireWritableBusinessStorage process tenant = .ok () := by
      intro noBackend place ref stored hok
      obtain ⟨⟨⟩, hok, -⟩ := bind_eq_ok.mp hok
      exact hok
    cases narrative with
    | docket docketId => exact docket_read_of_upload hupload
    | task taskId => exact read_of_upload (h (hwritable hupload)) hupload
    | comment docketId commentId => exact read_of_upload (h (hwritable hupload)) hupload
    | history docketId historyId => exact read_of_upload (h (hwritable hupload)) hupload
    | clientProfile clientId =>
      obtain ⟨uploaded, hfirst, -⟩ := createClientProfile_ok hupload
      obtain ⟨hdrive, hkey⟩ := h (hwritable hfirst)
      exact getClientProfile_of_created hdrive hkey hupload

/-! ## A firm on managed Drive -/

/-- The JSON of truth values. -/
def truthValues : Codec where
  Payload := Bool
  null := false
  stringify b := if b then "true" else "false"
  parse text :=
    if text = "true" then .ok true
    else if text = "false" then .ok false
    else .error ⟨"Unexpected token", none⟩
  parse_stringify b := by cases b <;> rfl

/-- A process with managed Drive, and no managed S3. -/
def driveProcess : Process where
  toEnv := managedEnv
  s3Bucket := none
  s3Region := none
  s3Credentials := none
  s3Prefix := none
  codec := truthValues
  sha256 _ := ""

/-- A firm that has connected no storage of its own. -/
def managedTenant : Tenant where
  firmId := firm1
  byId := some {}
  byFirmId := none

theorem managedTenant_provider :
    getProvider driveProcess managedTenant =
      .ok (.docketraManaged "root" "firm" "storage@docketra.in" "key") := by
  rfl

/-- The narrative of a task is uploaded to managed Drive, and looked for in a bucket that is not
there. -/
theorem narratives_read_back_fails :
    ∃ ref stored, (Narrative.task "T1").upload driveProcess obliging nothing managedTenant true =
        .ok (ref, stored) ∧
      (Narrative.task "T1").read driveProcess managedTenant stored ref =
        .error ⟨"Managed fallback unavailable", none⟩ ∧
      ¬ ReadBack driveProcess managedTenant (.task "T1") := by
  obtain ⟨ref, stored, hupload, hname, hmode, -⟩ := @upload_onManagedDrive driveProcess
    managedTenant (Task.place "firm" "T1") Task.noBackend true rfl
    ⟨_, _, _, _, managedTenant_provider⟩
  have hread : (Narrative.task "T1").read driveProcess managedTenant stored ref =
      .error ⟨"Managed fallback unavailable", none⟩ := by
    have hmanaged : ref.isManaged = true := by simp [Ref.isManaged, hname]
    have hnamed : ("docketra_managed" : String) ≠ "" := by decide
    simp only [Narrative.read, Task.readNarrative, read, hname, hnamed, hmanaged, if_false, if_true]
    rfl
  refine ⟨ref, stored, hupload, hread, fun h => ?_⟩
  have hback := h obliging nothing true ref stored hupload
  rw [hread] at hback
  cases hback

end Docketra.Narratives
