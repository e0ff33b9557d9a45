import Docketra.ClientDuplicates
import Docketra.Identifiers

/-!
# The storage state of a firm and its provider

`services/storage/resolveFirmStorageState.js` judges whether the storage of a firm can be used, and
`services/storage/StorageProviderFactory.js` constructs the provider. The first accepts a legacy
token of Google Drive and rejects credentials whose status is an error. The second takes the token
of the credentials only, and no notice of the status, of the root folder, or of the bucket. They
agree exactly where `Agreeing` says so (`state_usable_iff`).
-/

namespace Docketra.FirmStorage

open FieldEncryption Identifiers

/-- Lower and upper case of the platform. -/
structure Casing extends LowerCase where
  apply_ascii : ∀ s, isAscii s = true → apply s = Docketra.toLowerCase s
  upperCase : String → String

/-- A value in the credentials: a text, or another value, as `String` shows it and as a condition
takes it. -/
inductive Value where
  | text (s : String)
  | other (shown : String) (isTruthy : Bool)
  deriving DecidableEq

def Value.isTruthy : Value → Bool
  | .text s => s != ""
  | .other _ isTruthy => isTruthy

def Value.shown : Value → String
  | .text s => s
  | .other shown _ => shown

/-- `if (x)`, of a field of the credentials. -/
def holds (x : Option Value) : Bool := x.any Value.isTruthy

/-- `x || y`. -/
def either (x y : Option Value) : Option Value := if holds x then x else y

/-- `x || null`. -/
def orNull (x : Option Value) : Option Value := x.filter Value.isTruthy

/-- The credentials, as far as they are read. -/
structure Credentials where
  status : Option Value := none
  refreshToken : Option Value := none
  googleRefreshToken : Option Value := none
  rootFolderId : Option Value := none
  driveId : Option Value := none
  bucket : Option Value := none
  region : Option Value := none
  pathPrefix : Option Value := none
  credentials : Option Value := none
  connectedEmail : Option Value := none
  lastError : Option Value := none
  lastCheckedAt : Option Value := none
  deriving DecidableEq

/-- `storage.google` of a firm. -/
structure GoogleStorage where
  encryptedRefreshToken : Option String := none
  rootFolderId : Option String := none

/-- The storage of a firm document: `storage`, then `storageConfig`. -/
structure Firm where
  mode : Option String := none
  provider : Option String := none
  google : GoogleStorage := {}
  configProvider : Option String := none
  configCredentials : Option String := none

/-- The environment of the process. -/
structure Env where
  casing : Casing
  /-- `JSON.parse(decrypt(encryptedBlob))`, which throws, or gives a value, with fields or none. -/
  decode : String → Except String (Option Credentials)
  /-- `new S3Client({ region, credentials })`, which may throw. -/
  s3Client : Option Value → Option Value → Except String Unit
  managedStorageProvider : Option String
  driveRootFolderId : Option String
  managedGoogleClientEmail : Option String
  managedGooglePrivateKey : Option String

/-! ## The state -/

def MANAGED_MODE : String := "docketra_managed"

/-- The names of a provider, each with the one that stands for it. -/
def aliases : List (String × String) :=
  [("google-drive", "google_drive"), ("google_drive", "google_drive"),
    ("docketra_drive", "docketra_managed"), ("docketra_managed", "docketra_managed")]

def normalizeProvider (casing : Casing) (raw : Option String) : Option String :=
  let value := casing.apply (trim (raw.getD ""))
  if value = "" then none
  else some ((aliases.lookup value).getD value)

def decodeCredentials (env : Env) (encryptedBlob : Option String) :
    Except String (Option Credentials) :=
  match encryptedBlob.filter (· ≠ "") with
  | none => .ok none
  | some blob => env.decode blob

/-- The credentials that could be read, and none otherwise. -/
def readable (decoded : Except String (Option Credentials)) : Credentials :=
  match decoded with
  | .ok (some credentials) => credentials
  | _ => {}

inductive ConnectionStatus where
  | ACTIVE_MANAGED | ACTIVE_BYOS | ERROR | DISCONNECTED
  deriving DecidableEq

structure StorageState where
  mode : String
  canonicalProvider : Option String
  isManaged : Bool
  isFirmConnected : Bool
  connectionStatus : ConnectionStatus
  hasStorageConfig : Bool
  hasCredentials : Bool
  rootFolderId : Option Value
  driveId : Option Value
  connectedEmail : Option Value
  lastError : Option Value
  lastCheckedAt : Option Value
  source : String
  warnings : List String
  credentials : Option Credentials

def modeOf (firm : Firm) : String := (orElse firm.mode (some MANAGED_MODE)).getD MANAGED_MODE

def canonicalProvider (casing : Casing) (firm : Firm) : Option String :=
  ((normalizeProvider casing firm.configProvider).or (normalizeProvider casing firm.provider)).or
    (if modeOf firm = MANAGED_MODE then some "docketra_managed" else none)

/-- The text of the status, in capitals. -/
def credsStatus (casing : Casing) (credentials : Credentials) : String :=
  casing.upperCase (((orNull credentials.status).map Value.shown).getD "")

/-- A root folder of the firm document, as a value. -/
def legacyRoot (firm : Firm) : Option Value := firm.google.rootFolderId.map Value.text

def hasLegacyRefreshToken (firm : Firm) : Bool := truthy firm.google.encryptedRefreshToken

def hasLegacyGoogleUsable (firm : Firm) (credentials : Credentials) : Bool :=
  hasLegacyRefreshToken firm && holds (either (legacyRoot firm) credentials.rootFolderId)

/-- The token that a provider of Google Drive is constructed with. -/
def googleToken (credentials : Credentials) : Option Value :=
  either credentials.refreshToken credentials.googleRefreshToken

def hasUsableCredentialsByProvider (firm : Firm) (credentials : Credentials) : Option String → Bool
  | some "google_drive" =>
    -- The token of the legacy fields counts, which the factory never reads.
    holds (googleToken credentials) && holds credentials.rootFolderId ||
      hasLegacyGoogleUsable firm credentials
  | some "onedrive" => holds credentials.refreshToken
  | some "s3" => holds credentials.bucket && holds credentials.region
  | _ => false

def connectionStatus (env : Env) (firm : Firm) : ConnectionStatus :=
  let provider := canonicalProvider env.casing firm
  let decoded := decodeCredentials env firm.configCredentials
  let credentials := readable decoded
  let status := credsStatus env.casing credentials
  -- Whether managed storage is configured is not asked.
  if provider = some "docketra_managed" then .ACTIVE_MANAGED
  else if !decoded.isOk || status = "ERROR" then .ERROR
  else if status = "DISCONNECTED" then .DISCONNECTED
  else if hasUsableCredentialsByProvider firm credentials provider then .ACTIVE_BYOS
  else .DISCONNECTED

def warnings (env : Env) (firm : Firm) : List String :=
  let configProvider := normalizeProvider env.casing firm.configProvider
  let legacyProvider := normalizeProvider env.casing firm.provider
  (if configProvider = none ∧ legacyProvider ≠ none then
    ["storage.provider is set without storageConfig.provider; using legacy compatibility fallback"]
  else []) ++
  (if firm.provider = some "google-drive" then
    ["legacy google-drive provider normalized to google_drive"]
  else []) ++
  (if firm.provider = some "docketra_drive" ∨ firm.configProvider = some "docketra_drive" then
    ["legacy docketra_drive alias normalized to docketra_managed"]
  else []) ++
  (if modeOf firm = "firm_connected" ∧ configProvider = none ∧ legacyProvider = none then
    ["firm is marked firm_connected but no usable provider is configured"]
  else []) ++
  (if !(decodeCredentials env firm.configCredentials).isOk then
    ["failed to decode storageConfig.credentials"]
  else [])

def resolveFirmStorageState (env : Env) (firm : Firm) : StorageState :=
  let provider := canonicalProvider env.casing firm
  let decoded := decodeCredentials env firm.configCredentials
  let credentials := readable decoded
  let configProvider := normalizeProvider env.casing firm.configProvider
  { mode := modeOf firm
    canonicalProvider := provider
    isManaged := provider = some "docketra_managed"
    isFirmConnected := provider.isSome && provider ≠ some "docketra_managed"
    connectionStatus := connectionStatus env firm
    hasStorageConfig := configProvider.isSome
    hasCredentials := hasUsableCredentialsByProvider firm credentials provider ||
      hasLegacyRefreshToken firm || truthy firm.configCredentials
    rootFolderId := orNull (either credentials.rootFolderId (legacyRoot firm))
    driveId := orNull credentials.driveId
    connectedEmail := orNull credentials.connectedEmail
    lastError := orNull credentials.lastError
    lastCheckedAt := orNull credentials.lastCheckedAt
    source :=
      if configProvider.isSome then "storageConfig.provider"
      else if (normalizeProvider env.casing firm.provider).isSome then "storage.provider"
      else "storage.mode"
    warnings := warnings env firm
    credentials := decoded.toOption.join }

/-! ## The provider -/

/-- The errors of `errors.js`, and what another constructor throws. -/
inductive StorageError where
  | configMissing (tenantId : String)
  | access (message tenantId : String)
  | unsupportedProvider (provider tenantId : String)
  | managedNotConfigured (firmId : String)
  | thrown (message : String)
  deriving DecidableEq

def StorageError.message : StorageError → String
  | .configMissing tenantId => "Active storage configuration not found for tenant " ++ tenantId
  | .access message _ => message
  | .unsupportedProvider provider _ => "Unsupported storage provider: " ++ provider
  | .managedNotConfigured _ => "Managed storage backend is not configured"
  | .thrown message => message

/-- A provider, by what it is constructed with. -/
inductive BuiltProvider where
  | googleDrive (refreshToken : Option Value) (driveId rootFolderId : Option Value)
  | docketraManaged (rootFolderId firmId clientEmail privateKey : String)
  | oneDrive (refreshToken driveId : Option Value)
  | s3 (tenantId : String) (bucket region pathPrefix credentials : Option Value)
  deriving DecidableEq

/-- The id of a firm, as the database prints it. -/
structure FirmId where
  value : String
  notBlank : trim value ≠ ""

structure FirmStorageConfig where
  provider : String
  credentials : Credentials
  source : String
  connectionStatus : ConnectionStatus

def getFirmStorageConfig (env : Env) (firmId : FirmId) (firm : Option Firm) :
    Except StorageError FirmStorageConfig :=
  match firm with
  | none => .error (.configMissing firmId.value)
  | some firm =>
    let state := resolveFirmStorageState env firm
    match state.canonicalProvider with
    | none =>
      if state.mode = "firm_connected" then
        .error (.access "Firm is marked firm_connected but no usable provider is configured"
          firmId.value)
      else .error (.configMissing firmId.value)
    | some provider =>
      -- The status is handed on, and the factory does not look at it.
      .ok ⟨provider, state.credentials.getD {}, state.source, state.connectionStatus⟩

/-- `.replace(/\\n/g, '\n')`. -/
def unescapeNewlines : List Char → List Char
  | '\\' :: 'n' :: rest => '\n' :: unescapeNewlines rest
  | c :: rest => c :: unescapeNewlines rest
  | [] => []

/-- `String(process.env.X || '').trim()`. -/
def setting (value : Option String) : String := trim (value.getD "")

def managedPrivateKey (env : Env) : String :=
  trim (String.ofList (unescapeNewlines (env.managedGooglePrivateKey.getD "").toList))

/-- What the constructor of `DocketraManagedStorageProvider` asks of the environment. -/
def managedConfigured (env : Env) : Bool :=
  env.casing.apply (setting env.managedStorageProvider) = "google_drive" &&
    setting env.driveRootFolderId ≠ "" && setting env.managedGoogleClientEmail ≠ "" &&
    managedPrivateKey env ≠ ""

def docketraManagedProvider (env : Env) (firmId : String) : Except StorageError BuiltProvider :=
  let normalizedFirmId := trim firmId
  if normalizedFirmId = "" then .error (.managedNotConfigured "unknown")
  else if managedConfigured env then
    .ok (.docketraManaged (setting env.driveRootFolderId) normalizedFirmId
      (setting env.managedGoogleClientEmail) (managedPrivateKey env))
  else .error (.managedNotConfigured normalizedFirmId)

def googleDriveProvider (firmId : String) (credentials : Credentials) :
    Except StorageError BuiltProvider :=
  if holds (googleToken credentials) then
    .ok (.googleDrive (googleToken credentials) (orNull credentials.driveId)
      (orNull credentials.rootFolderId))
  else .error (.access "Missing Google Drive refresh token" firmId)

def oneDriveProvider (credentials : Credentials) : Except StorageError BuiltProvider :=
  if holds credentials.refreshToken then
    .ok (.oneDrive credentials.refreshToken (orNull credentials.driveId))
  else .error (.access "[OneDriveProvider] refreshToken is required" "unknown")

def s3Provider (env : Env) (firmId : String) (credentials : Credentials) :
    Except StorageError BuiltProvider :=
  match env.s3Client credentials.region credentials.credentials with
  | .ok () =>
    .ok (.s3 firmId credentials.bucket credentials.region (orNull credentials.pathPrefix)
      credentials.credentials)
  | .error message => .error (.thrown message)

/-- The `switch` of `getProviderForTenant`. -/
def constructProvider (env : Env) (firmId : FirmId) (credentials : Credentials) :
    String → Except StorageError BuiltProvider
  | "google_drive" => googleDriveProvider firmId.value credentials
  -- A normalized name is never `docketra_drive`.
  | "docketra_drive" => docketraManagedProvider env firmId.value
  | "docketra_managed" => docketraManagedProvider env firmId.value
  | "onedrive" => oneDriveProvider credentials
  | "s3" => s3Provider env firmId.value credentials
  | provider => .error (.unsupportedProvider provider firmId.value)

/-- `getProviderForTenant`, with the firm document that is found by the id. -/
def getProviderForTenant (env : Env) (firmId : FirmId) (firm : Option Firm) :
    Except StorageError BuiltProvider :=
  match getFirmStorageConfig env firmId firm with
  | .error (.configMissing _) => .error (.access "Cloud storage must be connected" firmId.value)
  | .error error => .error error
  | .ok config =>
    let provider := env.casing.apply config.provider
    if provider = "" then .error (.thrown ("Invalid storage provider for firm " ++ firmId.value))
    else constructProvider env firmId config.credentials provider

/-! ## The reported state and the usable one -/

/-- What the storage of a firm is judged by, or a provider is constructed with: a token, or a
bucket, and a root folder. -/
inductive Evidence where
  | googleDrive (refreshToken rootFolderId : Option Value)
  | legacyGoogle (encryptedRefreshToken : Option String) (rootFolderId : Option Value)
  | oneDrive (refreshToken : Option Value)
  | s3 (bucket region : Option Value)
  deriving DecidableEq

/-- What makes the credentials of a firm usable. -/
def judgedBy (firm : Firm) (credentials : Credentials) : Option String → Option Evidence
  | some "google_drive" =>
    if holds (googleToken credentials) && holds credentials.rootFolderId then
      some (.googleDrive (googleToken credentials) credentials.rootFolderId)
    else if hasLegacyGoogleUsable firm credentials then
      some (.legacyGoogle firm.google.encryptedRefreshToken
        (either (legacyRoot firm) credentials.rootFolderId))
    else none
  | some "onedrive" =>
    if holds credentials.refreshToken then some (.oneDrive credentials.refreshToken) else none
  | some "s3" =>
    if holds credentials.bucket && holds credentials.region then
      some (.s3 credentials.bucket credentials.region)
    else none
  | _ => none

/-- What a provider that a firm connected is constructed with. -/
def builtFrom : BuiltProvider → Option Evidence
  | .googleDrive refreshToken _ rootFolderId => some (.googleDrive refreshToken rootFolderId)
  | .docketraManaged .. => none
  | .oneDrive refreshToken _ => some (.oneDrive refreshToken)
  | .s3 _ bucket region _ _ => some (.s3 bucket region)

section agreement

variable (env : Env) (firmId : FirmId) (firm : Firm)

/-- The credentials of a firm that could be read. -/
def credentialsOf : Credentials := readable (decodeCredentials env firm.configCredentials)

/-- The state that is reported for a firm is the one in which its storage can be used. -/
structure StateUsable : Prop where
  active_iff :
    (resolveFirmStorageState env firm).connectionStatus = .ACTIVE_MANAGED ∨
        (resolveFirmStorageState env firm).connectionStatus = .ACTIVE_BYOS ↔
      ∃ p, getProviderForTenant env firmId (some firm) = .ok p
  judged : (resolveFirmStorageState env firm).connectionStatus = .ACTIVE_BYOS →
    ∀ p, getProviderForTenant env firmId (some firm) = .ok p →
      builtFrom p = judgedBy firm (credentialsOf env firm) (canonicalProvider env.casing firm)

/-- The credentials could be read or there are none, and their status is no error and no
disconnection. -/
def Judgeable : Prop :=
  (decodeCredentials env firm.configCredentials).isOk = true ∧
    credsStatus env.casing (credentialsOf env firm) ≠ "ERROR" ∧
    credsStatus env.casing (credentialsOf env firm) ≠ "DISCONNECTED"

/-- The two functions agree. -/
def Agreeing : Prop :=
  match canonicalProvider env.casing firm with
  | some "docketra_managed" => managedConfigured env = true
  | some "google_drive" =>
    if holds (googleToken (credentialsOf env firm)) then
      holds (credentialsOf env firm).rootFolderId = true ∧ Judgeable env firm
    else ¬ (hasLegacyGoogleUsable firm (credentialsOf env firm) = true ∧ Judgeable env firm)
  | some "onedrive" => holds (credentialsOf env firm).refreshToken = true → Judgeable env firm
  | some "s3" =>
    env.s3Client (credentialsOf env firm).region (credentialsOf env firm).credentials = .ok () ↔
      (holds (credentialsOf env firm).bucket = true ∧
        holds (credentialsOf env firm).region = true) ∧ Judgeable env firm
  | _ => True

end agreement

/-! ## Names of providers -/

/-- A normalized name is in lower case, and not the alias of another. -/
theorem normalizeProvider_some {casing : Casing} {raw : Option String} {name : String}
    (h : normalizeProvider casing raw = some name) :
    casing.apply name = name ∧ name ≠ "" ∧ name ≠ "docketra_drive" := by
  unfold normalizeProvider at h
  generalize hvalue : casing.apply (trim (raw.getD "")) = value at h
  have hlower : casing.apply value = value := by rw [← hvalue, casing.apply_apply]
  dsimp only at h
  split_ifs at h with hempty
  rw [Option.some_inj] at h
  subst h
  have hgoogle : casing.apply "google_drive" = "google_drive" :=
    (casing.apply_ascii _ (by decide)).trans (by decide)
  have hmanaged : casing.apply "docketra_managed" = "docketra_managed" :=
    (casing.apply_ascii _ (by decide)).trans (by decide)
  cases hlookup : aliases.lookup value with
  | none =>
    -- `docketra_drive` is an alias itself, and would have been replaced.
    refine ⟨hlower, hempty, ?_⟩
    rintro rfl
    exact absurd hlookup (by decide)
  | some name =>
    have hname : name = "google_drive" ∨ name = "docketra_managed" := by
      obtain ⟨_, _, hmem, -⟩ := List.lookup_eq_some_iff.mp hlookup
      have : (value, name) ∈ aliases := by rw [hmem]; simp
      simp only [aliases, List.mem_cons, List.not_mem_nil, or_false, Prod.mk.injEq] at this
      grind
    rw [Option.getD_some]
    obtain rfl | rfl := hname
    · exact ⟨hgoogle, by decide, by decide⟩
    · exact ⟨hmanaged, by decide, by decide⟩

theorem canonicalProvider_some {casing : Casing} {firm : Firm} {name : String}
    (h : canonicalProvider casing firm = some name) :
    casing.apply name = name ∧ name ≠ "" ∧ name ≠ "docketra_drive" := by
  unfold canonicalProvider at h
  rw [Option.or_eq_some_iff, Option.or_eq_some_iff] at h
  obtain (h | ⟨-, h⟩) | ⟨-, h⟩ := h
  · exact normalizeProvider_some h
  · exact normalizeProvider_some h
  · split_ifs at h
    rw [Option.some_inj] at h
    subst h
    exact ⟨(casing.apply_ascii _ (by decide)).trans (by decide), by decide, by decide⟩

/-! ## The two functions on a firm -/

section agreement

variable {env : Env} {firmId : FirmId} {firm : Firm} {name : String}

theorem orNull_of_holds {x : Option Value} (h : holds x = true) : orNull x = x := by
  cases x with
  | none => rfl
  | some v => exact Option.filter_eq_some_iff.mpr ⟨rfl, h⟩

theorem not_holds_orNull {x : Option Value} (h : holds x = false) : orNull x = none := by
  cases x with
  | none => rfl
  | some v =>
    have hv : v.isTruthy = false := h
    simp [orNull, Option.filter, hv]

/-- The provider of a firm is constructed from the credentials that could be read. -/
theorem getProviderForTenant_of_name (h : canonicalProvider env.casing firm = some name) :
    getProviderForTenant env firmId (some firm) =
      constructProvider env firmId (credentialsOf env firm) name := by
  obtain ⟨hlower, hname, -⟩ := canonicalProvider_some h
  have hcredentials : ((decodeCredentials env firm.configCredentials).toOption.join).getD {} =
      credentialsOf env firm := by
    unfold credentialsOf readable
    rcases decodeCredentials env firm.configCredentials with error | _ | credentials
    · rfl
    · rfl
    · rfl
  have hconfig : getFirmStorageConfig env firmId (some firm) =
      .ok ⟨name, credentialsOf env firm, (resolveFirmStorageState env firm).source,
        (resolveFirmStorageState env firm).connectionStatus⟩ := by
    have hprovider : (resolveFirmStorageState env firm).canonicalProvider = some name := h
    unfold getFirmStorageConfig
    dsimp only
    rw [hprovider, ← hcredentials]
    rfl
  unfold getProviderForTenant
  rw [hconfig]
  dsimp only
  rw [hlower, if_neg hname]

theorem getProviderForTenant_of_none (h : canonicalProvider env.casing firm = none)
    (p : BuiltProvider) : getProviderForTenant env firmId (some firm) ≠ .ok p := by
  have hprovider : (resolveFirmStorageState env firm).canonicalProvider = none := h
  unfold getProviderForTenant getFirmStorageConfig
  dsimp only
  rw [hprovider]
  dsimp only
  by_cases hmode : (resolveFirmStorageState env firm).mode = "firm_connected"
  · rw [if_pos hmode]
    exact fun heq => nomatch heq
  · rw [if_neg hmode]
    exact fun heq => nomatch heq

/-- Managed storage is constructed in one way only. -/
theorem docketraManaged_of_getProvider {firm : Option Firm}
    {root id clientEmail privateKey : String}
    (h : getProviderForTenant env firmId firm =
      .ok (.docketraManaged root id clientEmail privateKey)) :
    docketraManagedProvider env firmId.value =
      .ok (.docketraManaged root id clientEmail privateKey) := by
  unfold getProviderForTenant at h
  split at h
  · cases h
  · cases h
  · dsimp only at h
    split_ifs at h
    unfold constructProvider at h
    -- Every other constructor gives another provider.
    split at h
    · unfold googleDriveProvider at h
      split_ifs at h
      cases h
    · exact h
    · exact h
    · unfold oneDriveProvider at h
      split_ifs at h
      cases h
    · unfold s3Provider at h
      split at h
      · cases h
      · cases h
    · cases h

theorem connectionStatus_managed (h : canonicalProvider env.casing firm = some "docketra_managed") :
    connectionStatus env firm = .ACTIVE_MANAGED := by
  unfold connectionStatus
  exact if_pos h

/-- A firm that is not on managed storage is reported as active when its credentials are usable. -/
theorem connectionStatus_active_iff
    (h : canonicalProvider env.casing firm ≠ some "docketra_managed") :
    connectionStatus env firm = .ACTIVE_BYOS ↔
      hasUsableCredentialsByProvider firm (credentialsOf env firm)
        (canonicalProvider env.casing firm) = true ∧ Judgeable env firm := by
  have hcredentials : credentialsOf env firm =
      readable (decodeCredentials env firm.configCredentials) := rfl
  unfold connectionStatus Judgeable
  dsimp only
  rw [if_neg h, ← hcredentials]
  split_ifs with herror hdisconnected husable
  · grind
  · grind
  · grind
  · grind

theorem connectionStatus_not_managed
    (h : canonicalProvider env.casing firm ≠ some "docketra_managed") :
    connectionStatus env firm ≠ .ACTIVE_MANAGED := by
  unfold connectionStatus
  dsimp only
  rw [if_neg h]
  split_ifs <;> decide

/-- For a firm that connected its own storage, the two functions agree when the credentials are
usable exactly when a provider is constructed of them, and it is constructed of what was judged. -/
theorem stateUsable_connected_iff
    (h : canonicalProvider env.casing firm ≠ some "docketra_managed") :
    StateUsable env firmId firm ↔
      ((hasUsableCredentialsByProvider firm (credentialsOf env firm)
          (canonicalProvider env.casing firm) = true ∧ Judgeable env firm) ↔
        ∃ p, getProviderForTenant env firmId (some firm) = .ok p) ∧
      ∀ p, getProviderForTenant env firmId (some firm) = .ok p →
        builtFrom p = judgedBy firm (credentialsOf env firm)
          (canonicalProvider env.casing firm) := by
  have hstatus : (resolveFirmStorageState env firm).connectionStatus =
    connectionStatus env firm := rfl
  have hactive := connectionStatus_active_iff h
  constructor
  · rintro ⟨hiff, hjudged⟩
    rw [hstatus, or_iff_right (connectionStatus_not_managed h)] at hiff
    rw [hstatus] at hjudged
    rw [← hactive]
    exact ⟨hiff, fun p hp => hjudged (hiff.mpr ⟨p, hp⟩) p hp⟩
  · rintro ⟨hiff, hjudged⟩
    constructor
    · rw [hstatus, or_iff_right (connectionStatus_not_managed h), hactive]
      exact hiff
    · exact fun _ p hp => hjudged p hp

theorem stateUsable_managed_iff (h : canonicalProvider env.casing firm = some "docketra_managed") :
    StateUsable env firmId firm ↔ managedConfigured env = true := by
  have hstatus : (resolveFirmStorageState env firm).connectionStatus = .ACTIVE_MANAGED :=
    connectionStatus_managed h
  have hprovider : getProviderForTenant env firmId (some firm) =
      docketraManagedProvider env firmId.value := getProviderForTenant_of_name h
  have hreturns : (∃ p, getProviderForTenant env firmId (some firm) = .ok p) ↔
      managedConfigured env = true := by
    rw [hprovider]
    unfold docketraManagedProvider
    dsimp only
    rw [if_neg firmId.notBlank]
    by_cases hconfigured : managedConfigured env = true
    · rw [if_pos hconfigured]
      exact ⟨fun _ => hconfigured, fun _ => ⟨_, rfl⟩⟩
    · rw [if_neg hconfigured]
      exact ⟨fun ⟨_, hp⟩ => (nomatch hp), fun hyes => absurd hyes hconfigured⟩
  constructor
  · rintro ⟨hiff, -⟩
    exact hreturns.mp (hiff.mp (.inl hstatus))
  · intro hconfigured
    constructor
    · exact ⟨fun _ => hreturns.mpr hconfigured, fun _ => .inl hstatus⟩
    · intro hbyos
      rw [hstatus] at hbyos
      cases hbyos

theorem stateUsable_google_iff (h : canonicalProvider env.casing firm = some "google_drive") :
    StateUsable env firmId firm ↔
      if holds (googleToken (credentialsOf env firm)) then
        holds (credentialsOf env firm).rootFolderId = true ∧ Judgeable env firm
      else ¬ (hasLegacyGoogleUsable firm (credentialsOf env firm) = true ∧ Judgeable env firm) := by
  have hprovider : getProviderForTenant env firmId (some firm) =
      googleDriveProvider firmId.value (credentialsOf env firm) := getProviderForTenant_of_name h
  rw [stateUsable_connected_iff (by rw [h]; decide), hprovider, h]
  unfold googleDriveProvider
  simp only [hasUsableCredentialsByProvider, judgedBy]
  by_cases htoken : holds (googleToken (credentialsOf env firm)) = true
  · simp only [htoken, if_true, Bool.true_and, Except.ok.injEq, exists_eq', iff_true,
      forall_eq', builtFrom]
    by_cases hroot : holds (credentialsOf env firm).rootFolderId = true
    · simp [hroot, orNull_of_holds hroot]
    · -- The provider gets no root folder, whatever the state was judged by.
      have hnone := not_holds_orNull (Bool.not_eq_true _ ▸ hroot)
      rw [Bool.not_eq_true] at hroot
      simp only [hroot, Bool.false_or, Bool.false_eq_true, if_false, false_and, iff_false,
        hnone]
      rintro ⟨⟨hlegacy, -⟩, hbuilt⟩
      rw [if_pos hlegacy] at hbuilt
      cases hbuilt
  · -- No provider is constructed, so the state has to be inactive.
    rw [Bool.not_eq_true] at htoken
    simp [htoken]

theorem stateUsable_oneDrive_iff (h : canonicalProvider env.casing firm = some "onedrive") :
    StateUsable env firmId firm ↔
      (holds (credentialsOf env firm).refreshToken = true → Judgeable env firm) := by
  have hprovider : getProviderForTenant env firmId (some firm) =
      oneDriveProvider (credentialsOf env firm) := getProviderForTenant_of_name h
  rw [stateUsable_connected_iff (by rw [h]; decide), hprovider, h]
  unfold oneDriveProvider
  simp only [hasUsableCredentialsByProvider, judgedBy]
  by_cases htoken : holds (credentialsOf env firm).refreshToken = true
  · simp [htoken, builtFrom]
  · simp [htoken]

theorem stateUsable_s3_iff (h : canonicalProvider env.casing firm = some "s3") :
    StateUsable env firmId firm ↔
      (env.s3Client (credentialsOf env firm).region (credentialsOf env firm).credentials = .ok () ↔
        (holds (credentialsOf env firm).bucket = true ∧
          holds (credentialsOf env firm).region = true) ∧ Judgeable env firm) := by
  have hprovider : getProviderForTenant env firmId (some firm) =
      s3Provider env firmId.value (credentialsOf env firm) := getProviderForTenant_of_name h
  rw [stateUsable_connected_iff (by rw [h]; decide), hprovider, h]
  unfold s3Provider
  simp only [hasUsableCredentialsByProvider, judgedBy, Bool.and_eq_true]
  rcases env.s3Client (credentialsOf env firm).region (credentialsOf env firm).credentials
    with message | ⟨⟩
  · simp
  · -- The client is constructed, so bucket and region have to be there for the state as well.
    simp only [exists_eq', iff_true, forall_eq', Except.ok.injEq, builtFrom, true_iff,
      and_iff_left_iff_imp]
    rintro ⟨husable, -⟩
    rw [if_pos husable]

/-- A firm with no provider, or one that the factory does not know, is reported inactive and gets
none. -/
theorem stateUsable_unknown
    (h : ∀ name, canonicalProvider env.casing firm = some name →
      name ∉ ["docketra_managed", "google_drive", "onedrive", "s3"]) :
    StateUsable env firmId firm := by
  have hmanaged : canonicalProvider env.casing firm ≠ some "docketra_managed" :=
    fun heq => absurd (h _ heq) (by decide)
  have hnone : ∀ p, getProviderForTenant env firmId (some firm) ≠ .ok p := by
    intro p
    cases hname : canonicalProvider env.casing firm with
    | none => exact getProviderForTenant_of_none hname p
    | some name =>
      obtain ⟨-, -, hdrive⟩ := canonicalProvider_some hname
      rw [getProviderForTenant_of_name hname]
      have hother := h name hname
      unfold constructProvider
      split
      · exact absurd hother (by decide)
      · exact absurd rfl hdrive
      · exact absurd hother (by decide)
      · exact absurd hother (by decide)
      · exact absurd hother (by decide)
      · exact fun heq => nomatch heq
  have husable : hasUsableCredentialsByProvider firm (credentialsOf env firm)
      (canonicalProvider env.casing firm) = false := by
    unfold hasUsableCredentialsByProvider
    split
    · next heq => exact absurd (h _ heq) (by decide)
    · next heq => exact absurd (h _ heq) (by decide)
    · next heq => exact absurd (h _ heq) (by decide)
    · rfl
  rw [stateUsable_connected_iff hmanaged, husable]
  exact ⟨⟨fun hfalse => (nomatch hfalse.1), fun ⟨p, hp⟩ => absurd hp (hnone p)⟩,
    fun p hp => absurd hp (hnone p)⟩

end agreement

/-- **The reported state is the usable one exactly for these firms: on managed storage, those whose
process is configured for it; with Google Drive, those whose credentials hold a token and a root
folder, and no error, and those with no token there that the legacy fields do not make usable
either; with OneDrive, those whose credentials hold no token, or no error; with S3, those whose
client is constructed just when the bucket and the region are there, and no error.** -/
theorem state_usable_iff (env : Env) (firmId : FirmId) (firm : Firm) :
    StateUsable env firmId firm ↔ Agreeing env firm := by
  unfold Agreeing
  split
  · next hname => exact stateUsable_managed_iff hname
  · next hname => exact stateUsable_google_iff hname
  · next hname => exact stateUsable_oneDrive_iff hname
  · next hname => exact stateUsable_s3_iff hname
  · next hmanaged hgoogle honeDrive hs3 =>
    refine iff_of_true (stateUsable_unknown ?_) trivial
    intro name hname hmem
    simp only [List.mem_cons, List.not_mem_nil, or_false] at hmem
    obtain rfl | rfl | rfl | rfl := hmem
    · exact hmanaged hname
    · exact hgoogle hname
    · exact honeDrive hname
    · exact hs3 hname

/-! ## A firm with a token in its legacy fields -/

def asciiCasing : Casing where
  toLowerCase := ClientDuplicates.asciiLowerCase
  apply_ascii _ _ := rfl
  upperCase := toUpperCase

/-- A process that is configured for managed storage, and reads no credentials. -/
def managedEnv : Env where
  casing := asciiCasing
  decode _ := .error "Invalid encrypted text format"
  s3Client _ _ := .ok ()
  managedStorageProvider := some "google_drive"
  driveRootFolderId := some "root"
  managedGoogleClientEmail := some "storage@docketra.in"
  managedGooglePrivateKey := some "key"

def firm1 : FirmId := ⟨"firm", by decide⟩

def legacyFirm : Firm where
  mode := some "firm_connected"
  provider := some "google_drive"
  google := ⟨some "legacy", some "folder"⟩

/-- The firm is reported as active, and no provider is constructed for it. -/
theorem state_usable_fails :
    (resolveFirmStorageState managedEnv legacyFirm).connectionStatus = .ACTIVE_BYOS ∧
      getProviderForTenant managedEnv firm1 (some legacyFirm) =
        .error (.access "Missing Google Drive refresh token" "firm") ∧
      ¬ StateUsable managedEnv firm1 legacyFirm := by
  have hactive : (resolveFirmStorageState managedEnv legacyFirm).connectionStatus =
      .ACTIVE_BYOS := by decide
  have hprovider : getProviderForTenant managedEnv firm1 (some legacyFirm) =
      .error (.access "Missing Google Drive refresh token" "firm") := by rfl
  refine ⟨hactive, hprovider, fun husable => ?_⟩
  obtain ⟨p, hp⟩ := husable.active_iff.mp (.inr hactive)
  rw [hprovider] at hp
  cases hp

end Docketra.FirmStorage
