import Docketra.Lib.Interleaving
import Docketra.Text

/-!
# Direct uploads

`finalizeIntent` of `services/directUpload.service.js` reads an upload session, takes it with a
conditional update, verifies the uploaded object, creates the attachment, and saves the session as
verified. A request that has read the session as uploaded goes on without the update, and a session
is saved as failed or abandoned because of what was read. So a session is finalized once in the runs
in which no request goes on so while another one is finalizing it, or after it is verified, and none
saves it as failed or abandoned when it is verified (`finalized_once`).

A step is one call of the database or of the provider, with what follows up to the next one. Every
call of the database succeeds. The session is as `createIntent` leaves it, and its attachments are
numbered.
-/

namespace Docketra.DirectUpload

open Interleaving Runs

inductive UploadStatus where
  | pending | initiated | uploaded | verified | error | failed | abandoned
  deriving DecidableEq, Repr

/-- What `finalizeIntent` reads and writes of an upload session. -/
structure UploadSession where
  uploadStatus : UploadStatus
  attachmentId : Option ℕ
  expiresAt : Option ℕ
  checksum : Option String
  providerFileId : Option String
  providerObjectKey : Option String
  storageFileId : Option String
  errorMessage : Option String
  deriving DecidableEq, Repr

structure Attachment where
  _id : ℕ
  storageFileId : Option String
  checksum : Option String
  deriving DecidableEq, Repr

/-- `completion` and `checksum` of a request. -/
structure Body where
  providerFileId : Option String
  objectKey : Option String
  checksum : Option String

/-- The answer of `provider.verifyUploadedObject`. -/
structure Verified where
  ok : Bool
  reason : Option String
  checksum : Option String
  fileId : Option String

structure UploadError where
  status : ℕ
  code : String
  message : String
  deriving DecidableEq, Repr

/-- The session, and the attachments that were created for it. -/
structure Store where
  now : ℕ
  session : UploadSession
  attachments : List Attachment

/-- What a request that has verified the object saves. -/
structure Final where
  clientChecksum : Option String
  storageFileId : Option String
  providerFileId : Option String
  providerObjectKey : Option String
  checksum : Option String

/-- The await that a request has come to. -/
inductive Phase where
  | received
  | findingAttachment (attachmentId : ℕ)
  | savingTerminal (status : UploadStatus) (errorMessage : Option String) (error : UploadError)
  | locking (uploadRecord : UploadSession) (body : Body)
  | findingLatest
  | findingLatestAttachment (attachmentId : ℕ)
  | verifying (uploadRecord : UploadSession) (body : Body)
  | creating (uploadRecord : UploadSession) (final : Final)
  | logging (uploadRecord : UploadSession) (final : Final) (attachmentId : ℕ)
  | savingVerified (uploadRecord : UploadSession) (final : Final) (attachmentId : ℕ)
  | returned (attachmentId : ℕ)
  | threw (error : UploadError)

/-- The steps of a request. -/
inductive Action where
  | findSession (body : Body)
  | findAttachment
  | saveTerminal
  | lock
  | findLatest
  | findLatestAttachment
  | verifyUploadedObject (verified : Verified)
  | providerError (error : UploadError)
  | createAttachment
  | logCaseHistory
  | saveVerified

inductive Other where
  | wait (milliseconds : ℕ)

/-! ## The checks -/

structure Checksum where
  raw : String
  algorithm : Option String
  value : String
  deriving DecidableEq, Repr

def normalizeChecksum (checksum : Option String) : Option Checksum :=
  match checksum with
  | none => none
  | some checksum =>
    let raw := toLowerCase (trim checksum)
    if raw = "" then none
    else
      match (raw.toList.splitOn ':').map String.ofList with
      | [algorithm, value] =>
        if algorithm ≠ "" ∧ value ≠ "" then some ⟨raw, some algorithm, value⟩
        else some ⟨raw, none, raw⟩
      | _ => some ⟨raw, none, raw⟩

def areChecksumsComparable (left right : Checksum) : Bool :=
  left.algorithm.isNone || right.algorithm.isNone || left.algorithm == right.algorithm

def corrupt (message : String) : UploadError := ⟨409, "UPLOAD_SESSION_CORRUPT", message⟩

def terminal : UploadError :=
  ⟨409, "UPLOAD_SESSION_TERMINAL", "Upload session is not in initiated state"⟩

def expired : UploadError := ⟨410, "UPLOAD_SESSION_EXPIRED", "Upload session expired"⟩

def invalidState : UploadError :=
  ⟨409, "UPLOAD_SESSION_INVALID_STATE", "Upload session is not in an actionable state"⟩

def inProgress : UploadError :=
  ⟨409, "UPLOAD_SESSION_IN_PROGRESS", "Upload session is already being finalized"⟩

def identifierMismatch (message : String) : UploadError :=
  ⟨400, "UPLOAD_IDENTIFIER_MISMATCH", message⟩

def verificationFailed : UploadError :=
  ⟨400, "UPLOAD_VERIFICATION_FAILED", "Uploaded object verification failed"⟩

/-- `throwChecksumMismatchError`, up to its save. -/
def checksumMismatch : Phase :=
  .savingTerminal .failed (some "UPLOAD_CHECKSUM_MISMATCH")
    ⟨400, "UPLOAD_CHECKSUM_MISMATCH", "Upload checksum mismatch"⟩

/-- Both are given, and differ. -/
def differs (provided expected : Option String) : Bool :=
  truthy provided && truthy expected && provided != expected

/-- The checks of the session that was found, up to the next await. -/
def checkSession (now : ℕ) (body : Body) (uploadRecord : UploadSession) : Phase :=
  match uploadRecord.uploadStatus with
  | .verified =>
    match uploadRecord.attachmentId with
    | none => .threw (corrupt "Upload session is verified but missing attachment linkage")
    | some attachmentId => .findingAttachment attachmentId
  | .failed | .abandoned => .threw terminal
  | status =>
    if uploadRecord.expiresAt.any (· < now) then .savingTerminal .abandoned none expired
    else if status ≠ .initiated ∧ status ≠ .uploaded then .threw invalidState
    else if differs body.providerFileId uploadRecord.providerFileId then
      .threw (identifierMismatch "Provider file identifier mismatch")
    else if differs body.objectKey uploadRecord.providerObjectKey then
      .threw (identifierMismatch "Provider object key mismatch")
    else
      match normalizeChecksum uploadRecord.checksum, normalizeChecksum body.checksum with
      | some sessionChecksum, some providedChecksum =>
        if sessionChecksum.raw ≠ providedChecksum.raw then checksumMismatch
        else .locking uploadRecord body
      | _, _ => .locking uploadRecord body

/-- What follows the answer of the provider. -/
def checkVerified (uploadRecord : UploadSession) (body : Body) (verified : Verified) : Phase :=
  let verifyFileId := orElse uploadRecord.providerFileId body.providerFileId
  let verifyObjectKey := orElse uploadRecord.providerObjectKey body.objectKey
  if verified.ok = false then
    .savingTerminal .failed (orElse verified.reason (some "UPLOAD_VERIFICATION_FAILED"))
      verificationFailed
  else
    let clientChecksum :=
      (normalizeChecksum body.checksum).or (normalizeChecksum uploadRecord.checksum)
    let final : Final :=
      { clientChecksum := clientChecksum.map Checksum.raw
        storageFileId := orElse verified.fileId (orElse verifyFileId verifyObjectKey)
        providerFileId := orElse verified.fileId uploadRecord.providerFileId
        providerObjectKey := orElse verifyObjectKey uploadRecord.providerObjectKey
        checksum := (clientChecksum.map Checksum.raw).or uploadRecord.checksum }
    match normalizeChecksum verified.checksum, clientChecksum with
    | some providerChecksum, some checksum =>
      if areChecksumsComparable providerChecksum checksum ∧ providerChecksum.value ≠ checksum.value
      then checksumMismatch
      else .creating uploadRecord final
    | _, _ => .creating uploadRecord final

/-! ## The steps -/

/-- The value of a path after a save: what is assigned, unless it is what was read. -/
def modified {α : Type} [DecidableEq α] (read assigned stored : α) : α :=
  if assigned = read then stored else assigned

/-- The save of `markUploadSessionStatus` for a session that is verified. -/
def UploadSession.saveVerified (uploadRecord : UploadSession) (final : Final) (attachmentId : ℕ)
    (stored : UploadSession) : UploadSession :=
  { stored with
    uploadStatus := .verified
    storageFileId := modified uploadRecord.storageFileId final.storageFileId stored.storageFileId
    providerFileId :=
      modified uploadRecord.providerFileId final.providerFileId stored.providerFileId
    providerObjectKey :=
      modified uploadRecord.providerObjectKey final.providerObjectKey stored.providerObjectKey
    checksum := modified uploadRecord.checksum final.checksum stored.checksum
    attachmentId := some attachmentId
    errorMessage := modified uploadRecord.errorMessage none stored.errorMessage }

/-- `Attachment.findOne`. -/
def Store.hasAttachment (s : Store) (attachmentId : ℕ) : Bool :=
  s.attachments.any fun a => a._id = attachmentId

/-- The steps of `finalizeIntent`. -/
def act (_ : ℕ) : Action → Store → Phase → Option (Store × Phase)
  | .findSession body, s, .received => some (s, checkSession s.now body s.session)
  | .findAttachment, s, .findingAttachment attachmentId =>
    if s.hasAttachment attachmentId then some (s, .returned attachmentId)
    else some (s, .threw (corrupt "Upload session attachment linkage not found"))
  | .saveTerminal, s, .savingTerminal status errorMessage error =>
    some ({ s with
      session := { s.session with
        uploadStatus := status
        errorMessage := errorMessage.or s.session.errorMessage } }, .threw error)
  | .lock, s, .locking uploadRecord body =>
    if s.session.uploadStatus = .initiated then
      some ({ s with session := { s.session with uploadStatus := .uploaded } },
        .verifying uploadRecord body)
    -- The session was not taken. A request that has read it as uploaded goes on all the same.
    else if uploadRecord.uploadStatus = .uploaded then some (s, .verifying uploadRecord body)
    else some (s, .findingLatest)
  | .findLatest, s, .findingLatest =>
    match s.session.uploadStatus, s.session.attachmentId with
    | .verified, some attachmentId => some (s, .findingLatestAttachment attachmentId)
    | _, _ => some (s, .threw inProgress)
  | .findLatestAttachment, s, .findingLatestAttachment attachmentId =>
    if s.hasAttachment attachmentId then some (s, .returned attachmentId)
    else some (s, .threw inProgress)
  | .verifyUploadedObject verified, s, .verifying uploadRecord body =>
    some (s, checkVerified uploadRecord body verified)
  | .providerError error, s, .verifying _ _ => some (s, .threw error)
  | .createAttachment, s, .creating uploadRecord final =>
    let attachment : Attachment := ⟨s.attachments.length, final.storageFileId, final.clientChecksum⟩
    some ({ s with attachments := s.attachments ++ [attachment] },
      .logging uploadRecord final attachment._id)
  | .logCaseHistory, s, .logging uploadRecord final attachmentId =>
    some (s, .savingVerified uploadRecord final attachmentId)
  | .saveVerified, s, .savingVerified uploadRecord final attachmentId =>
    some ({ s with session := uploadRecord.saveVerified final attachmentId s.session },
      .returned attachmentId)
  | _, _, _ => none

def other : Other → Store → Store
  | .wait milliseconds, s => { s with now := s.now + milliseconds }

def program : Program Store Phase Action Other where
  act := act
  other := other

/-- A session that `createIntent` has left. -/
structure Intent where
  session : UploadSession
  initiated : session.uploadStatus = .initiated
  unlinked : session.attachmentId = none

/-- Before any request. -/
def initial (intent : Intent) : System Store Phase where
  stored := ⟨0, intent.session, []⟩
  phase _ := .received

/-! ## What is asked -/

/-- A request is between taking the session and its last save. -/
def Phase.isFinalizing : Phase → Bool
  | .verifying _ _ | .creating _ _ | .logging _ _ _ | .savingVerified _ _ _ => true
  | _ => false

/-- In a run, one attachment is created at most, it is what requests return, and a session that is
verified stays so. -/
structure FinalizedOnce (intent : Intent) (events : List (Event Action Other)) : Prop where
  once : (run (step program) events (initial intent)).stored.attachments.length ≤ 1
  returns : ∀ r attachmentId,
    (run (step program) events (initial intent)).phase r = .returned attachmentId →
    (run (step program) events (initial intent)).stored.attachments.map Attachment._id =
      [attachmentId]
  stays : ∀ before between after, events = before ++ between ++ after →
    (run (step program) before (initial intent)).stored.session.uploadStatus = .verified →
    (run (step program) (before ++ between) (initial intent)).stored.session.uploadStatus ∉
      [.failed, .abandoned]

/-- A request that has read the session as uploaded goes on only when the session is not verified
and no other request is finalizing it, and none saves a session that is verified as failed or
abandoned. -/
def Undisturbed : Event Action Other → System Store Phase → Prop
  | .act r .lock, s =>
    ∀ uploadRecord body, s.phase r = .locking uploadRecord body →
      uploadRecord.uploadStatus = .uploaded → s.stored.session.uploadStatus ≠ .verified ∧
        ∀ r', (s.phase r').isFinalizing = false
  | .act r .saveTerminal, s =>
    ∀ status errorMessage error, s.phase r = .savingTerminal status errorMessage error →
      s.stored.session.uploadStatus ≠ .verified
  | _, _ => True

/-! ## The invariant -/

/-- A request has created the attachment, and is not done with the session. -/
def Phase.isFinishing : Phase → Bool
  | .logging _ _ _ | .savingVerified _ _ _ => true
  | _ => false

/-- The attachment, once it is created. -/
def Created (s : Store) (attachmentId : ℕ) : Prop :=
  s.attachments.map Attachment._id = [attachmentId]

def PhaseInv (s : Store) : Phase → Prop
  | .verifying _ _ | .creating _ _ => s.attachments = [] ∧ s.session.uploadStatus ≠ .initiated
  | .logging _ _ attachmentId | .savingVerified _ _ attachmentId =>
    Created s attachmentId ∧ s.session.uploadStatus ≠ .initiated
  | .findingAttachment attachmentId | .findingLatestAttachment attachmentId
  | .returned attachmentId => Created s attachmentId
  | .savingTerminal status _ _ => status = .failed ∨ status = .abandoned
  | _ => True

structure StoreInv (s : Store) : Prop where
  once : s.attachments = [] ∨ ∃ attachmentId, Created s attachmentId
  linked : ∀ attachmentId, s.session.attachmentId = some attachmentId → Created s attachmentId
  initiated : s.session.uploadStatus = .initiated → s.attachments = []

/-- One request at most is finalizing the session. -/
def assertions : Assertions Store Phase where
  store := StoreInv
  own _ := PhaseInv
  both p q := ¬(p.isFinalizing = true ∧ q.isFinalizing = true)

/-- The attachment is there only when the session is verified, or about to be. -/
def Announced (s : System Store Phase) : Prop :=
  s.stored.attachments ≠ [] →
    s.stored.session.uploadStatus = .verified ∨ ∃ r, (s.phase r).isFinishing = true

/-! ## What a step does -/

/-- A step changes nothing that is stored and leaves or keeps out of the finalization, goes on with
it, begins it with or without taking the session, or makes one of the three writes. -/
inductive Effect (s : Store) (p : Phase) : Action → Store → Phase → Prop where
  | reads {action : Action} {q : Phase} (hp : p.isFinishing = false) (hq : q.isFinalizing = false)
    (hphase : StoreInv s → PhaseInv s p → PhaseInv s q) : Effect s p action s q
  | goesOn {action : Action} {q : Phase} (hp : p.isFinalizing = true) (hq : q.isFinalizing = true)
    (hfinishing : p.isFinishing = true → q.isFinishing = true)
    (hphase : PhaseInv s p → PhaseInv s q) : Effect s p action s q
  | takes {uploadRecord : UploadSession} {body : Body} (hp : p = .locking uploadRecord body)
    (hinitiated : s.session.uploadStatus = .initiated) :
    Effect s p .lock { s with session := { s.session with uploadStatus := .uploaded } }
      (.verifying uploadRecord body)
  | passes {uploadRecord : UploadSession} {body : Body} (hp : p = .locking uploadRecord body)
    (hinitiated : s.session.uploadStatus ≠ .initiated)
    (huploaded : uploadRecord.uploadStatus = .uploaded) :
    Effect s p .lock s (.verifying uploadRecord body)
  | fails {status : UploadStatus} {errorMessage : Option String} {error : UploadError}
    (hp : p = .savingTerminal status errorMessage error) :
    Effect s p .saveTerminal
      { s with
        session := { s.session with
          uploadStatus := status
          errorMessage := errorMessage.or s.session.errorMessage } }
      (.threw error)
  | creates {uploadRecord : UploadSession} {final : Final} {attachment : Attachment}
    (hp : p = .creating uploadRecord final) :
    Effect s p .createAttachment { s with attachments := s.attachments ++ [attachment] }
      (.logging uploadRecord final attachment._id)
  | verifies {uploadRecord : UploadSession} {final : Final} {attachmentId : ℕ}
    (hp : p = .savingVerified uploadRecord final attachmentId) :
    Effect s p .saveVerified
      { s with session := uploadRecord.saveVerified final attachmentId s.session }
      (.returned attachmentId)

/-- The checks of a session lead to no finalization yet, and to its own attachment. -/
theorem checkSession_spec (s : Store) (body : Body) :
    (checkSession s.now body s.session).isFinalizing = false ∧
      (StoreInv s → PhaseInv s (checkSession s.now body s.session)) := by
  unfold checkSession
  split
  · split
    · exact ⟨rfl, fun _ => trivial⟩
    · rename_i attachmentId hlinked
      exact ⟨rfl, fun h => h.linked attachmentId hlinked⟩
  · exact ⟨rfl, fun _ => trivial⟩
  · exact ⟨rfl, fun _ => trivial⟩
  · split_ifs
    · exact ⟨rfl, fun _ => .inr rfl⟩
    · exact ⟨rfl, fun _ => trivial⟩
    · exact ⟨rfl, fun _ => trivial⟩
    · exact ⟨rfl, fun _ => trivial⟩
    · split
      · split_ifs
        · exact ⟨rfl, fun _ => .inl rfl⟩
        · exact ⟨rfl, fun _ => trivial⟩
      · exact ⟨rfl, fun _ => trivial⟩

/-- The object is refused, or the attachment is to be created. -/
theorem checkVerified_spec (uploadRecord : UploadSession) (body : Body) (verified : Verified) :
    (∃ errorMessage error, checkVerified uploadRecord body verified =
      .savingTerminal .failed errorMessage error) ∨
    ∃ final, checkVerified uploadRecord body verified = .creating uploadRecord final := by
  unfold checkVerified
  dsimp only
  split_ifs
  · exact .inl ⟨_, _, rfl⟩
  · split
    · split_ifs
      · exact .inl ⟨_, _, rfl⟩
      · exact .inr ⟨_, rfl⟩
    · exact .inr ⟨_, rfl⟩

/-- What the steps of a request do. -/
theorem act_effect (request : ℕ) {action : Action} {s s' : Store} {p p' : Phase}
    (h : act request action s p = some (s', p')) : Effect s p action s' p' := by
  unfold act at h
  split at h
  · cases h
    obtain ⟨hq, hphase⟩ := checkSession_spec s _
    exact .reads rfl hq fun hstore _ => hphase hstore
  · split_ifs at h <;> cases h
    · exact .reads rfl rfl fun _ hphase => hphase
    · exact .reads rfl rfl fun _ _ => trivial
  · cases h
    exact .fails rfl
  · split_ifs at h with hinitiated huploaded <;> cases h
    · exact .takes rfl hinitiated
    · exact .passes rfl hinitiated huploaded
    · exact .reads rfl rfl fun _ _ => trivial
  · split at h <;> cases h
    · rename_i attachmentId _ hlinked
      exact .reads rfl rfl fun hstore _ => hstore.linked attachmentId hlinked
    · exact .reads rfl rfl fun _ _ => trivial
  · split_ifs at h <;> cases h
    · exact .reads rfl rfl fun _ hphase => hphase
    · exact .reads rfl rfl fun _ _ => trivial
  · rename_i uploadRecord body
    cases h
    rcases checkVerified_spec uploadRecord body _ with ⟨errorMessage, error, hq⟩ | ⟨final, hq⟩
    · rw [hq]
      exact .reads rfl rfl fun _ _ => .inl rfl
    · rw [hq]
      exact .goesOn rfl rfl nofun id
  · cases h
    exact .reads rfl rfl fun _ _ => trivial
  · cases h
    exact .creates rfl
  · cases h
    exact .goesOn rfl rfl (fun _ => rfl) id
  · cases h
    exact .verifies rfl
  · cases h

/-! ## The invariant is kept -/

/-- Only the status of the session matters to a request, and only that it is not initiated. -/
theorem PhaseInv.imp {s s' : Store} {p : Phase} (h : PhaseInv s p)
    (hattachments : s'.attachments = s.attachments)
    (hinitiated : p.isFinalizing = true → s.session.uploadStatus ≠ .initiated →
      s'.session.uploadStatus ≠ .initiated) : PhaseInv s' p := by
  have hcreated : ∀ {attachmentId}, Created s attachmentId → Created s' attachmentId := by
    intro attachmentId hcreated
    unfold Created
    rw [hattachments]
    exact hcreated
  cases p with
  | verifying uploadRecord body => exact ⟨hattachments.trans h.1, hinitiated rfl h.2⟩
  | creating uploadRecord final => exact ⟨hattachments.trans h.1, hinitiated rfl h.2⟩
  | logging uploadRecord final attachmentId => exact ⟨hcreated h.1, hinitiated rfl h.2⟩
  | savingVerified uploadRecord final attachmentId => exact ⟨hcreated h.1, hinitiated rfl h.2⟩
  | findingAttachment attachmentId => exact hcreated h
  | findingLatestAttachment attachmentId => exact hcreated h
  | returned attachmentId => exact hcreated h
  | savingTerminal status errorMessage error => exact h
  | _ => trivial

theorem PhaseInv.not_initiated {s : Store} {p : Phase} (h : PhaseInv s p)
    (hp : p.isFinalizing = true) : s.session.uploadStatus ≠ .initiated := by
  cases p <;> first | exact h.2 | cases hp

/-- While there is no attachment, a request knows nothing of one. -/
theorem PhaseInv.append {s : Store} {p : Phase} (h : PhaseInv s p) (hnone : s.attachments = [])
    (hp : p.isFinalizing = false) (attachment : Attachment) :
    PhaseInv { s with attachments := s.attachments ++ [attachment] } p := by
  have hnotCreated : ∀ {attachmentId}, ¬ Created s attachmentId := by
    intro attachmentId hcreated
    unfold Created at hcreated
    rw [hnone] at hcreated
    cases hcreated
  cases p with
  | findingAttachment attachmentId => exact absurd h hnotCreated
  | findingLatestAttachment attachmentId => exact absurd h hnotCreated
  | returned attachmentId => exact absurd h hnotCreated
  | savingTerminal status errorMessage error => exact h
  | received => trivial
  | locking uploadRecord body => trivial
  | findingLatest => trivial
  | threw error => trivial
  | _ => cases hp

theorem Announced.after {s : System Store Phase} (h : Announced s) {r : ℕ} {s' : Store} {q : Phase}
    (hattachments : s'.attachments = s.stored.attachments)
    (hverified : s.stored.session.uploadStatus = .verified → s'.session.uploadStatus = .verified)
    (hfinishing : (s.phase r).isFinishing = true →
      q.isFinishing = true ∨ s'.session.uploadStatus = .verified) :
    Announced (s.after r (s', q)) := by
  intro hne
  have hself : (s.after r (s', q)).phase r = q := after_phase_self s r (s', q)
  rcases h (fun hnil => hne (hattachments.trans hnil)) with hstatus | ⟨r', hr'⟩
  · exact .inl (hverified hstatus)
  · by_cases hr : r' = r
    · rw [hr] at hr'
      rcases hfinishing hr' with hq | hstatus
      · exact .inr ⟨r, by rw [hself]; exact hq⟩
      · exact .inl hstatus
    · refine .inr ⟨r', ?_⟩
      rw [after_phase_of_ne s hr]
      exact hr'

theorem isFinalizing_of_isFinishing {p : Phase} (h : p.isFinishing = true) :
    p.isFinalizing = true := by
  cases p <;> first | rfl | cases h

section kept

variable {s : System Store Phase} {r : ℕ}

theorem both_of_leaves {q : Phase} (hq : q.isFinalizing = false) (r' : ℕ) :
    assertions.both q (s.phase r') ∧ assertions.both (s.phase r') q :=
  ⟨fun hb => Bool.false_ne_true (hq.symm.trans hb.1),
    fun hb => Bool.false_ne_true (hq.symm.trans hb.2)⟩

theorem both_of_alone {r' : ℕ} (halone : (s.phase r').isFinalizing ≠ true) (q : Phase) :
    assertions.both q (s.phase r') ∧ assertions.both (s.phase r') q :=
  ⟨fun hb => halone hb.2, fun hb => halone hb.1⟩

/-- While the session is initiated, nobody is finalizing it. -/
theorem keeps_take (h : Holds assertions s)
    (hinitiated : s.stored.session.uploadStatus = .initiated) (uploadRecord : UploadSession)
    (body : Body) :
    Keeps assertions s r ({ s.stored with session := { s.stored.session with
      uploadStatus := .uploaded } }, .verifying uploadRecord body) where
  store := ⟨h.store.once, h.store.linked, nofun⟩
  own := ⟨h.store.initiated hinitiated, nofun⟩
  others r' _ := (h.own r').imp rfl fun _ _ => nofun
  both r' _ := both_of_alone (fun hr' => (h.own r').not_initiated hr' hinitiated) _

/-- A request that is let through although it has not taken the session. -/
theorem keeps_pass (h : Holds assertions s) (hidle : ∀ r', (s.phase r').isFinalizing = false)
    (hinitiated : s.stored.session.uploadStatus ≠ .initiated) (hnone : s.stored.attachments = [])
    (uploadRecord : UploadSession) (body : Body) :
    Keeps assertions s r (s.stored, .verifying uploadRecord body) where
  store := h.store
  own := ⟨hnone, hinitiated⟩
  others r' _ := h.own r'
  both r' _ := both_of_alone (Bool.eq_false_iff.1 (hidle r')) _

theorem keeps_fail (h : Holds assertions s) {status : UploadStatus}
    {errorMessage : Option String} {error : UploadError}
    (hp : s.phase r = .savingTerminal status errorMessage error) (message : Option String) :
    Keeps assertions s r ({ s.stored with session := { s.stored.session with
      uploadStatus := status, errorMessage := message } }, .threw error) := by
  have hphase := h.own r
  rw [hp] at hphase
  have hne : status ≠ .initiated := by
    rcases hphase with rfl | rfl
    · exact nofun
    · exact nofun
  exact ⟨⟨h.store.once, h.store.linked, fun hi => absurd hi hne⟩, trivial,
    fun r' _ => (h.own r').imp rfl fun _ _ => hne, fun r' _ => both_of_leaves rfl r'⟩

/-- The request that creates the attachment is the only one that is finalizing the session. -/
theorem keeps_create (h : Holds assertions s) {uploadRecord : UploadSession} {final : Final}
    (attachment : Attachment)
    (hp : s.phase r = .creating uploadRecord final) :
    Keeps assertions s r ({ s.stored with attachments := s.stored.attachments ++ [attachment] },
      .logging uploadRecord final attachment._id) := by
  have hphase := h.own r
  rw [hp] at hphase
  obtain ⟨hnone, hinitiated⟩ := hphase
  have hfinalizing : (s.phase r).isFinalizing = true := by rw [hp]; rfl
  have halone : ∀ r', r' ≠ r → (s.phase r').isFinalizing ≠ true :=
    fun r' hr' hb => h.both r r' (Ne.symm hr') ⟨hfinalizing, hb⟩
  have hcreated : Created { s.stored with
      attachments := s.stored.attachments ++ [attachment] } attachment._id := by
    show (s.stored.attachments ++ [attachment]).map Attachment._id = _
    rw [hnone]
    rfl
  have hunlinked : ∀ attachmentId, s.stored.session.attachmentId ≠ some attachmentId := by
    intro attachmentId hlinked
    have hbefore := h.store.linked attachmentId hlinked
    unfold Created at hbefore
    rw [hnone] at hbefore
    cases hbefore
  exact ⟨⟨.inr ⟨_, hcreated⟩, fun attachmentId hlinked => absurd hlinked (hunlinked attachmentId),
    fun hi => absurd hi hinitiated⟩, ⟨hcreated, hinitiated⟩,
    fun r' hr' => (h.own r').append hnone (Bool.eq_false_iff.mpr (halone r' hr')) attachment,
    fun r' hr' => both_of_alone (halone r' hr') _⟩

theorem keeps_verify (h : Holds assertions s) {uploadRecord : UploadSession} {final : Final}
    {attachmentId : ℕ}
    (hp : s.phase r = .savingVerified uploadRecord final attachmentId) :
    Keeps assertions s r ({ s.stored with
      session := uploadRecord.saveVerified final attachmentId s.stored.session },
      .returned attachmentId) := by
  have hphase := h.own r
  rw [hp] at hphase
  refine ⟨⟨h.store.once, fun attachmentId' hlinked => ?_, nofun⟩, hphase.1,
    fun r' _ => (h.own r').imp rfl fun _ _ => nofun, fun r' _ => both_of_leaves rfl r'⟩
  rw [← Option.some.inj hlinked]
  exact hphase.1

end kept

/-- A step keeps what is known, when it is undisturbed. -/
theorem inv_step (event : Event Action Other) (s : System Store Phase)
    (hinv : Holds assertions s ∧ Announced s) (hok : Undisturbed event s) :
    Holds assertions (step program event s) ∧ Announced (step program event s) := by
  obtain ⟨h, hannounced⟩ := hinv
  cases event with
  | other event =>
    cases event with
    | wait milliseconds =>
      exact ⟨h.other ⟨h.store.once, h.store.linked, h.store.initiated⟩ fun r =>
        (h.own r).imp rfl fun _ hne => hne, hannounced⟩
  | act r action =>
    cases hresult : program.act r action s.stored (s.phase r) with
    | none =>
      rw [step_act_none hresult]
      exact ⟨h, hannounced⟩
    | some result =>
      obtain ⟨s', p'⟩ := result
      rw [step_act hresult]
      have hphase := h.own r
      cases act_effect r hresult with
      | reads hp hq hnext =>
        refine ⟨h.after ⟨h.store, hnext h.store hphase, fun r' _ => h.own r',
          fun r' _ => both_of_leaves hq r'⟩, hannounced.after rfl id fun hfinishing => ?_⟩
        rw [hp] at hfinishing
        cases hfinishing
      | goesOn hp hq hfinishing hnext =>
        refine ⟨h.after ⟨h.store, hnext hphase, fun r' _ => h.own r', fun r' hr' =>
          ⟨fun hb => h.both r r' (Ne.symm hr') ⟨hp, hb.2⟩,
            fun hb => h.both r' r hr' ⟨hb.1, hp⟩⟩⟩, hannounced.after rfl id fun hf => ?_⟩
        exact .inl (hfinishing hf)
      | takes hp hinitiated =>
        exact ⟨h.after (keeps_take h hinitiated _ _),
          fun hne => absurd (h.store.initiated hinitiated) hne⟩
      | passes hp hinitiated huploaded =>
        obtain ⟨hstatus, hidle⟩ := hok _ _ hp huploaded
        -- an attachment would have been announced by the status, or by a request
        have hnone : s.stored.attachments = [] := by
          by_contra hne
          rcases hannounced hne with hverified | ⟨r', hr'⟩
          · exact hstatus hverified
          · exact Bool.eq_false_iff.1 (hidle r') (isFinalizing_of_isFinishing hr')
        exact ⟨h.after (keeps_pass h hidle hinitiated hnone _ _), fun hne => absurd hnone hne⟩
      | fails hp =>
        refine ⟨h.after (keeps_fail h hp _), hannounced.after rfl
          (fun hverified => absurd hverified (hok _ _ _ hp)) fun hfinishing => ?_⟩
        rw [hp] at hfinishing
        cases hfinishing
      | creates hp =>
        refine ⟨h.after (keeps_create h _ hp), fun _ => .inr ⟨r, ?_⟩⟩
        rw [after_phase_self]
        rfl
      | verifies hp => exact ⟨h.after (keeps_verify h hp), fun _ => .inl rfl⟩

theorem inv_initial (intent : Intent) :
    Holds assertions (initial intent) ∧ Announced (initial intent) := by
  refine ⟨⟨⟨.inl rfl, fun attachmentId hlinked => ?_, fun _ => rfl⟩, fun _ => trivial,
    fun _ _ _ hb => nomatch hb.1⟩, fun hne => absurd rfl hne⟩
  exact nomatch intent.unlinked.symm.trans hlinked

/-- A session that is verified stays so, when the step is undisturbed. -/
theorem verified_step (event : Event Action Other) (s : System Store Phase)
    (h : s.stored.session.uploadStatus = .verified) (hok : Undisturbed event s) :
    (step program event s).stored.session.uploadStatus = .verified := by
  cases event with
  | other event =>
    cases event
    exact h
  | act r action =>
    cases hresult : program.act r action s.stored (s.phase r) with
    | none =>
      rw [step_act_none hresult]
      exact h
    | some result =>
      obtain ⟨s', p'⟩ := result
      rw [step_act hresult]
      cases act_effect r hresult with
      | reads => exact h
      | goesOn => exact h
      | takes hp hinitiated =>
        rw [h] at hinitiated
        cases hinitiated
      | passes => exact h
      | fails hp => exact absurd h (hok _ _ _ hp)
      | creates => exact h
      | verifies => rfl

/-- A session without checksum, for an object with a key. -/
def keyed : Intent where
  session := ⟨.initiated, none, none, none, none, some "firm/object", none, none⟩
  initiated := rfl
  unlinked := rfl

def noBody : Body := ⟨none, none, none⟩

def takes (request : ℕ) : List (Event Action Other) :=
  [.findSession noBody, .lock].map (Event.act request)

/-- The rest of a request, when the object is there. -/
def completes (request : ℕ) : List (Event Action Other) :=
  [.verifyUploadedObject ⟨true, none, none, none⟩, .createAttachment, .logCaseHistory,
    .saveVerified].map (Event.act request)

/-- The rest of a request, when the object is not found. -/
def refuses (request : ℕ) : List (Event Action Other) :=
  [.verifyUploadedObject ⟨false, none, none, none⟩, .saveTerminal].map (Event.act request)

def reads (request : ℕ) : List (Event Action Other) :=
  [.findSession noBody, .findAttachment].map (Event.act request)

/-- A request that has read the session as initiated takes it, or stops. -/
theorem undisturbed_of_initiated {s : System Store Phase} {r : ℕ} {uploadRecord : UploadSession}
    {body : Body} (hphase : s.phase r = .locking uploadRecord body)
    (hinitiated : uploadRecord.uploadStatus = .initiated) : Undisturbed (.act r .lock) s := by
  intro uploadRecord' body' hphase' huploaded
  rw [hphase] at hphase'
  cases hphase'
  rw [hinitiated] at huploaded
  cases huploaded

end Docketra.DirectUpload
